import MazeGrader.Rules.Rule
import MazeGrader.Text.Numeral

/-! The text of a rule: a state, four slots, an arrow, a direction and the next state, such
as `0 x*** -> N 0`. Only spaces and tabs stand between the parts. A run of digits is read to
its end, and whatever follows the next state is a remark. -/
namespace MazeGrader

def isGap (c : Char) : Bool := c = ' ' || c = '\t'

def skipGap (source : List Char) : List Char := source.dropWhile isGap

@[simp] theorem isGap_iff {c : Char} : isGap c = true ↔ c = ' ' ∨ c = '\t' := by
  simp [isGap]

theorem isGap_eq_false_of_isDigit {c : Char} (digit : c.isDigit = true) : isGap c = false := by
  rw [← Bool.not_eq_true, isGap_iff]
  rintro (rfl | rfl) <;> cases digit

/-- What is skipped is the span of spaces and tabs. -/
theorem skipGap_eq_iff {source rest : List Char} :
    skipGap source = rest ↔ ∃ gap, Text.Span isGap source gap rest := by
  simp [skipGap, Text.span_iff]

/-- A numeral is not skipped. -/
theorem skipGap_text_append (n : Nat) (rest : List Char) :
    skipGap (Numeral.text n ++ rest) = Numeral.text n ++ rest := by
  obtain ⟨c, others, digits⟩ := List.exists_cons_of_ne_nil (Numeral.text_ne_nil n)
  refine skipGap_eq_iff.2 ⟨[], rfl, by simp, fun d first => ?_⟩
  rw [digits] at first
  cases first
  exact isGap_eq_false_of_isDigit (Numeral.isDigit_of_mem_text (digits ▸ List.mem_cons_self))

/-- Skips a gap that may not be empty. -/
def skipSomeGap : List Char → Option (List Char)
  | c :: rest => if isGap c then some (skipGap rest) else none
  | [] => none

theorem skipSomeGap_eq_some_iff {source rest : List Char} :
    skipSomeGap source = some rest ↔ ∃ gap, Text.Span isGap source gap rest ∧ gap ≠ [] := by
  simp only [Text.span_iff]
  cases source with
  | nil => simp [skipSomeGap]
  | cons c source =>
    cases blank : isGap c with
    | false => simp [skipSomeGap, blank]
    | true =>
      simp only [skipSomeGap, skipGap, blank, if_true, Option.some.injEq, List.takeWhile_cons,
        List.dropWhile_cons]
      constructor
      · exact fun rest => ⟨_, ⟨rfl, rest⟩, List.cons_ne_nil _ _⟩
      · exact fun ⟨_, ⟨_, rest⟩, _⟩ => rest

/-- One slot: `*`, `x` in either case, or the compass letter in either case for a wall. -/
def Slot.ofLetter? (compass c : Char) : Option Slot :=
  if c = '*' then some .any
  else if c.toLower = 'x' then some .clear
  else if c.toLower = compass then some .wall
  else none

def Rule.readState (source : List Char) : Option (State × List Char) :=
  (Numeral.readBelow Numeral.bound32 source).map fun read => (UInt32.ofNat read.1, read.2)

def Pattern.read : List Char → Option (Pattern × List Char)
  | n :: e :: w :: s :: rest => do
    let north ← Slot.ofLetter? 'n' n
    let east ← Slot.ofLetter? 'e' e
    let west ← Slot.ofLetter? 'w' w
    let south ← Slot.ofLetter? 's' s
    return (⟨north, east, west, south⟩, rest)
  | _ => none

def skipArrow : List Char → Option (List Char)
  | '-' :: '>' :: rest => some rest
  | _ => none

def Direction.read : List Char → Option (Direction × List Char)
  | c :: rest => (Direction.ofLetter? c).map fun direction => (direction, rest)
  | [] => none

def Rule.read? (line : List Char) : Option Rule := do
  let (state, source) ← Rule.readState (skipGap line)
  let source ← skipSomeGap source
  let (pattern, source) ← Pattern.read source
  let source ← skipArrow (skipGap source)
  let (direction, source) ← Direction.read (skipGap source)
  let source ← skipSomeGap source
  let (next, _) ← Rule.readState source
  return ⟨state, pattern, ⟨direction, next⟩⟩

example : Rule.read? "0 xE** -> N 12 # north".toList =
    some ⟨0, ⟨.clear, .wall, .any, .any⟩, ⟨.north, 12⟩⟩ := by decide +kernel

end MazeGrader
