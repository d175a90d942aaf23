import MazeGrader.Text.Span
import MazeGrader.Text.Split

/-! Paths of files. Parts are divided by bars; empty parts and single dots mean nothing. -/
namespace MazeGrader.Path

def parts (path : String) : List (List Char) :=
  (Text.splitOn '/' path.toList).filter fun part => part ≠ [] ∧ part ≠ ['.']

/-- The last part, unless there is none or it leads back to the parent. -/
def fileName? (path : String) : Option (List Char) :=
  match (parts path).getLast? with
  | some name => if name = ['.', '.'] then none else some name
  | none => none

/-- What follows the last dot of the file name, if something precedes that dot. -/
def extension? (path : String) : Option (List Char) := do
  let name ← fileName? path
  let after := name.reverse.takeWhile (· != '.')
  match name.reverse.dropWhile (· != '.') with
  | [] => none
  | [_] => none
  | _ :: _ :: _ => some after.reverse

/-- The path of a name in a directory; a name that starts at the root stands for itself. -/
def join (directory name : String) : String :=
  if name.toList.head? = some '/' then name
  else match directory.toList.getLast? with
    | none => name
    | some '/' => directory ++ name
    | some _ => directory ++ "/" ++ name

theorem mem_parts {path : String} {part : List Char} (member : part ∈ parts path) :
    '/' ∉ part ∧ part ≠ [] ∧ part ≠ ['.'] := by
  obtain ⟨piece, meant⟩ := List.mem_filter.1 member
  exact ⟨Text.not_mem_of_mem_splitOn piece, of_decide_eq_true meant⟩

theorem fileName?_eq_some_iff {path : String} {name : List Char} :
    fileName? path = some name ↔ (parts path).getLast? = some name ∧ name ≠ ['.', '.'] := by
  unfold fileName?
  split
  · next last found =>
    rw [found, Option.some.injEq]
    split
    · next parent =>
      simp only [reduceCtorEq, false_iff]
      rintro ⟨rfl, below⟩
      exact below parent
    · next below =>
      rw [Option.some.injEq]
      constructor
      · rintro rfl
        exact ⟨rfl, below⟩
      · exact And.left
  · next unnamed => simp [unnamed]

/-- The name of a file as a path of its own leads to a file of this name. -/
theorem fileName?_ofList {path : String} {name : List Char} (named : fileName? path = some name) :
    fileName? (String.ofList name) = some name := by
  obtain ⟨last, below⟩ := fileName?_eq_some_iff.1 named
  obtain ⟨whole, meant⟩ := mem_parts (List.mem_of_getLast? last)
  have alone : parts (String.ofList name) = [name] := by
    rw [parts, String.toList_ofList, Text.splitOn_of_not_mem whole]
    exact List.filter_cons_of_pos (decide_eq_true meant)
  exact fileName?_eq_some_iff.2 ⟨by rw [alone]; rfl, below⟩

/-- Read from its end, a name begins with all that follows its last dot. -/
theorem span_reverse_iff {name stem extension : List Char} :
    Text.Span (· != '.') name.reverse extension.reverse ('.' :: stem.reverse) ↔
      name = stem ++ '.' :: extension ∧ '.' ∉ extension := by
  constructor
  · rintro ⟨split, all, -⟩
    have turned := congrArg List.reverse split
    refine ⟨by simpa using turned, fun inside => ?_⟩
    simpa using all _ (List.mem_reverse.2 inside)
  · rintro ⟨rfl, plain⟩
    refine ⟨by simp, fun c inside => ?_, fun c first => ?_⟩
    · have apart : c ≠ '.' := fun same => plain (List.mem_reverse.1 (same ▸ inside))
      simpa using apart
    · cases first
      rfl

theorem extension?_eq_some_iff {path : String} {extension : List Char} :
    extension? path = some extension ↔
      ∃ stem, fileName? path = some (stem ++ '.' :: extension) ∧ stem ≠ [] ∧ '.' ∉ extension := by
  unfold extension?
  cases fileName? path with
  | none => simp
  | some name =>
    simp only [Option.bind_eq_bind, Option.bind_some, Option.some.injEq]
    constructor
    · intro found
      have span : Text.Span (· != '.') name.reverse _ _ := Text.span_iff.2 ⟨rfl, rfl⟩
      split at found
      · cases found
      · cases found
      · next dot last front rest =>
        cases found
        rw [rest] at span
        obtain rfl : dot = '.' := by simpa using span.stops dot rfl
        rw [← List.reverse_reverse (last :: front),
          ← List.reverse_reverse (name.reverse.takeWhile _), span_reverse_iff] at span
        exact ⟨(last :: front).reverse, span.1, by simp, span.2⟩
    · rintro ⟨stem, named, filled, plain⟩
      obtain ⟨after, before⟩ := Text.span_iff.1 (span_reverse_iff.2 ⟨named, plain⟩)
      obtain ⟨last, front, turned⟩ :=
        List.exists_cons_of_ne_nil (mt List.reverse_eq_nil_iff.1 filled)
      rw [after, before, turned, List.reverse_reverse]

example : fileName? "a/./b.txt/" = some "b.txt".toList ∧ fileName? "a/.." = none := by decide
example : extension? "..txt" = some "txt".toList ∧ extension? ".txt" = none := by decide

end MazeGrader.Path
