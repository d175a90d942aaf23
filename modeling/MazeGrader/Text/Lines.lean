/-! Lines of a text. A line feed ends a line, and one carriage return just before it
belongs to that ending; what follows the last line feed is a line if it is not empty. -/
namespace MazeGrader.Text

/-- The line whose characters were met in the reverse of this order. -/
def closeLine : List Char → List Char
  | '\r' :: met => met.reverse
  | met => met.reverse

/-- The lines of a text of which the characters in `met` were read already. -/
def linesAfter (met : List Char) : List Char → List (List Char)
  | [] => if met.isEmpty then [] else [met.reverse]
  | c :: rest =>
    if c = '\n' then closeLine met :: linesAfter [] rest else linesAfter (c :: met) rest

def lines (text : List Char) : List (List Char) := linesAfter [] text

@[simp] theorem lines_nil : lines [] = [] := rfl

/-- A piece without a line feed, up to the line feed after it, is one line. -/
theorem linesAfter_append (met piece rest : List Char) (h : '\n' ∉ piece) :
    linesAfter met (piece ++ '\n' :: rest) =
      closeLine (piece.reverse ++ met) :: linesAfter [] rest := by
  induction piece generalizing met with
  | nil => simp [linesAfter]
  | cons c piece ih =>
    have apart : c ≠ '\n' := fun same => h (by simp [same])
    simp [linesAfter, apart, ih (c :: met) fun member => h (by simp [member])]

/-- Every line but an unfinished last one is followed by a line feed. -/
theorem lines_append (piece rest : List Char) (h : '\n' ∉ piece) :
    lines (piece ++ '\n' :: rest) = closeLine piece.reverse :: lines rest := by
  simp [lines, linesAfter_append [] piece rest h]

/-- What follows the last line feed is a line just if it is not empty. -/
theorem lines_of_not_mem {piece : List Char} (h : '\n' ∉ piece) :
    lines piece = if piece.isEmpty then [] else [piece] := by
  suffices ∀ met, linesAfter met piece =
      if (met.reverse ++ piece).isEmpty then [] else [met.reverse ++ piece] by
    simpa [lines] using this []
  induction piece with
  | nil => simp [linesAfter]
  | cons c piece ih =>
    intro met
    have apart : c ≠ '\n' := fun same => h (by simp [same])
    simp [linesAfter, apart, ih (fun member => h (by simp [member])) (c :: met)]

theorem closeLine_reverse {line : List Char} (unended : '\r' ∉ line) :
    closeLine line.reverse = line := by
  unfold closeLine
  split
  · next met same =>
    exact absurd (List.mem_reverse.1 (same ▸ List.mem_cons_self)) unended
  · rw [List.reverse_reverse]

/-- A line that holds nothing of an ending is found again before either of the two. -/
theorem lines_append_ended {line ending : List Char} (plain : '\n' ∉ line ∧ '\r' ∉ line)
    (ends : ending = ['\n'] ∨ ending = ['\r', '\n']) (rest : List Char) :
    lines (line ++ ending ++ rest) = line :: lines rest := by
  rcases ends with rfl | rfl
  · have found := lines_append line rest plain.1
    rw [closeLine_reverse plain.2] at found
    simpa using found
  · have found := lines_append (line ++ ['\r']) rest (by simp [plain.1])
    simpa [closeLine] using found

theorem lines_flatMap {several : List (List Char)} {ending : List Char}
    (plain : ∀ line ∈ several, '\n' ∉ line ∧ '\r' ∉ line)
    (ends : ending = ['\n'] ∨ ending = ['\r', '\n']) :
    lines (several.flatMap (· ++ ending)) = several := by
  induction several with
  | nil => rfl
  | cons line several ih =>
    obtain ⟨first, others⟩ := List.forall_mem_cons.1 plain
    rw [List.flatMap_cons, lines_append_ended first ends, ih others]

end MazeGrader.Text
