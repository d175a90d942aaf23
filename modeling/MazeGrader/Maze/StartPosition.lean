import MazeGrader.Rules.RuleLine

/-! Start positions in free text, such as `(12, 12)` or `start at [3, 4]`: the leftmost pair
of numbers with a comma between them. A number that is too big may lose digits at its left
until it fits. -/
namespace MazeGrader.StartPosition

/-- The pair in front of a text. -/
def pairAt? (source : List Char) : Option (Nat × Nat) := do
  let (row, source) ← Numeral.readBelow Numeral.bound64 source
  match skipGap source with
  | ',' :: source =>
    let (col, _) ← Numeral.readBelow Numeral.bound64 (skipGap source)
    return (row, col)
  | _ => none

def find? : List Char → Option (Nat × Nat)
  | [] => none
  | c :: rest => (pairAt? (c :: rest)).or (find? rest)

def ofText? (text : String) : Option (Nat × Nat) := find? text.toList

def text (position : Nat × Nat) : String :=
  "(" ++ toString position.1 ++ ", " ++ toString position.2 ++ ")"

theorem pairAt?_lt {source : List Char} {row col : Nat} (h : pairAt? source = some (row, col)) :
    row < Numeral.bound64 ∧ col < Numeral.bound64 := by
  simp only [pairAt?, Option.bind_eq_bind, Option.bind_eq_some_iff] at h
  obtain ⟨⟨first, behind⟩, readRow, h⟩ := h
  split at h
  · obtain ⟨⟨second, last⟩, readCol, same⟩ := Option.bind_eq_some_iff.1 h
    cases same
    exact ⟨Numeral.readBelow_lt readRow, Numeral.readBelow_lt readCol⟩
  · cases h

theorem find?_lt {source : List Char} {row col : Nat} (h : find? source = some (row, col)) :
    row < Numeral.bound64 ∧ col < Numeral.bound64 := by
  induction source with
  | nil => cases h
  | cons c rest ih =>
    rcases Option.or_eq_some_iff.1 h with here | ⟨-, later⟩
    · exact pairAt?_lt here
    · exact ih later

/-- A start is found again in its own text. -/
theorem ofText?_text {row col : Nat} (rowFits : row < Numeral.bound64)
    (colFits : col < Numeral.bound64) : ofText? (text (row, col)) = some (row, col) := by
  have source : (text (row, col)).toList =
      '(' :: (Numeral.text row ++ ',' :: ' ' :: (Numeral.text col ++ [')'])) := by
    simp only [text, String.toList_append, Numeral.toList_toString]
    simp
  have bracket : pairAt? (text (row, col)).toList = none := by
    rw [source]
    rfl
  have pair : pairAt? (Numeral.text row ++ ',' :: ' ' :: (Numeral.text col ++ [')'])) =
      some (row, col) := by
    have comma : skipGap (',' :: ' ' :: (Numeral.text col ++ [')'])) =
        ',' :: ' ' :: (Numeral.text col ++ [')']) := rfl
    have gap : skipGap (' ' :: (Numeral.text col ++ [')'])) = Numeral.text col ++ [')'] :=
      skipGap_text_append col _
    unfold pairAt?
    rw [Numeral.readBelow_text_append rowFits (by simp [Char.isDigit])]
    simp only [Option.bind_eq_bind, Option.bind_some, comma, gap]
    rw [Numeral.readBelow_text_append colFits (by simp [Char.isDigit])]
    rfl
  unfold ofText?
  rw [source] at bracket ⊢
  rw [find?, bracket, Option.none_or]
  cases digits : Numeral.text row with
  | nil => exact absurd digits (Numeral.text_ne_nil row)
  | cons c others =>
    rw [digits] at pair
    rw [List.cons_append, find?, ← List.cons_append, pair, Option.some_or]

example : ofText? "row 2 col 9, 10" = some (9, 10) := by decide +kernel

end MazeGrader.StartPosition
