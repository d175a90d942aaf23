import MazeGrader.Text.Span

/-! Decimal numerals made of ASCII digits. A reader takes the whole run of digits it
meets, so a run whose value is too big is refused and never cut short. -/
namespace MazeGrader.Numeral

/-- Numbers of 32 bits are below this. -/
def bound32 : Nat := 4294967296

/-- Numbers of 64 bits are below this. -/
def bound64 : Nat := 18446744073709551616

/-- The number written as a one and so many zeros. -/
def tenTo (places : Nat) : Nat := Nat.pow 10 places

def value (digits : List Char) : Nat := Nat.ofDigitChars 10 digits 0

def text (n : Nat) : List Char := Nat.toDigits 10 n

theorem value_text (n : Nat) : value (text n) = n :=
  Nat.ofDigitChars_toDigits (by decide) (by decide)

theorem toList_toString (n : Nat) : (toString n).toList = text n := Nat.toList_repr

theorem text_ne_nil (n : Nat) : text n ≠ [] := Nat.toDigits_ne_nil

theorem isDigit_of_mem_text {n : Nat} {c : Char} (h : c ∈ text n) : c.isDigit = true :=
  Nat.isDigit_of_mem_toDigits (by decide) (by decide) h

/-- A numeral holds no character that is not a digit. -/
theorem not_mem_text {n : Nat} {c : Char} (h : c.isDigit = false) : c ∉ text n := by
  intro member
  rw [isDigit_of_mem_text member] at h
  cases h

/-- The value of the run of digits in front, if there is one and it is below `bound`, and
what follows the run. -/
def readBelow (bound : Nat) (source : List Char) : Option (Nat × List Char) :=
  let digits := source.takeWhile Char.isDigit
  if digits.isEmpty || bound ≤ value digits then none
  else some (value digits, source.dropWhile Char.isDigit)

/-- What is read is the span of digits in front of the source. -/
theorem readBelow_eq_some_iff {bound n : Nat} {source rest : List Char} :
    readBelow bound source = some (n, rest) ↔
      ∃ digits, Text.Span Char.isDigit source digits rest ∧ digits ≠ [] ∧
        value digits = n ∧ n < bound := by
  simp only [readBelow, Text.span_iff]
  split
  · next refused =>
    simp only [Bool.or_eq_true, List.isEmpty_iff, decide_eq_true_eq] at refused
    constructor
    · intro read
      cases read
    · rintro ⟨_, ⟨rfl, -⟩, filled, rfl, inside⟩
      rcases refused with empty | beyond
      · exact absurd empty filled
      · exact absurd inside (Nat.not_lt.2 beyond)
  · next accepted =>
    simp only [Bool.or_eq_true, List.isEmpty_iff, decide_eq_true_eq, not_or, Nat.not_le] at accepted
    constructor
    · intro read
      cases read
      exact ⟨_, ⟨rfl, rfl⟩, accepted.1, rfl, accepted.2⟩
    · rintro ⟨_, ⟨rfl, rfl⟩, -, rfl, -⟩
      rfl

theorem readBelow_lt {bound n : Nat} {source rest : List Char}
    (h : readBelow bound source = some (n, rest)) : n < bound := by
  obtain ⟨_, _, _, _, inside⟩ := readBelow_eq_some_iff.1 h
  exact inside

/-- A numeral is read as a whole where no digit follows it. -/
theorem readBelow_text_append {bound n : Nat} {rest : List Char} (inside : n < bound)
    (ends : ∀ c ∈ rest.head?, c.isDigit = false) :
    readBelow bound (text n ++ rest) = some (n, rest) :=
  readBelow_eq_some_iff.2 ⟨text n, ⟨rfl, fun _ => isDigit_of_mem_text, ends⟩, text_ne_nil n,
    value_text n, inside⟩

/-- Why a text is no numeral of 64 bits. -/
inductive Fault
  | empty
  | notDigit
  | tooLarge
  deriving DecidableEq, Repr

def Fault.message : Fault → String
  | .empty => "cannot parse integer from empty string"
  | .notDigit => "invalid digit found in string"
  | .tooLarge => "number too large to fit in target type"

/-- The text without a plus sign in front of it. -/
def unsign : List Char → List Char
  | '+' :: rest => rest
  | source => source

theorem eq_or_eq_unsign (source : List Char) :
    source = unsign source ∨ source = '+' :: unsign source := by
  unfold unsign
  split
  · exact .inr rfl
  · exact .inl rfl

/-- Reads a whole text as a number of 64 bits; a plus sign may precede the digits. It is read from
the front, so digits that come to too much are refused before what may stand behind them. -/
def read64 (source : List Char) : Except Fault Nat :=
  if source.isEmpty then .error .empty
  else if (unsign source).isEmpty then .error .notDigit
  else if bound64 ≤ value ((unsign source).takeWhile Char.isDigit) then .error .tooLarge
  else if !(unsign source).all Char.isDigit then .error .notDigit
  else .ok (value (unsign source))

theorem unsign_of_digits {digits : List Char} (plain : digits.all Char.isDigit = true) :
    unsign digits = digits := by
  rcases eq_or_eq_unsign digits with unsigned | signed
  · exact unsigned.symm
  · have sign : '+' ∈ digits := signed ▸ List.mem_cons_self
    cases List.all_eq_true.1 plain '+' sign

theorem takeWhile_isDigit {digits : List Char} (plain : digits.all Char.isDigit = true) :
    digits.takeWhile Char.isDigit = digits := by
  have span : Text.Span Char.isDigit digits digits [] :=
    ⟨(List.append_nil digits).symm, List.all_eq_true.1 plain, by simp⟩
  exact (Text.span_iff.1 span).1

/-- Digits without a sign are refused just if they are worth too much. -/
theorem read64_of_digits {digits : List Char} (filled : digits ≠ [])
    (plain : digits.all Char.isDigit = true) :
    read64 digits = if bound64 ≤ value digits then .error .tooLarge else .ok (value digits) := by
  rw [read64, unsign_of_digits plain, takeWhile_isDigit plain]
  simp [filled, plain]

example : read64 (List.replicate 20 '9') = .error .tooLarge ∧
    read64 (List.replicate 20 '9' ++ ['x']) = .error .tooLarge ∧
    read64 (List.replicate 19 '9' ++ ['x']) = .error .notDigit := ⟨rfl, rfl, rfl⟩

theorem read64_text {n : Nat} (inside : n < bound64) : read64 (text n) = .ok n := by
  have plain : (text n).all Char.isDigit = true :=
    List.all_eq_true.2 fun _ => isDigit_of_mem_text
  rw [read64_of_digits (text_ne_nil n) plain, value_text, if_neg (Nat.not_le.2 inside)]

/-- What is read is all of the text but its sign. -/
theorem of_read64 {source : List Char} {n : Nat} (read : read64 source = .ok n) :
    unsign source ≠ [] ∧ (unsign source).all Char.isDigit = true ∧
      value (unsign source) = n ∧ n < bound64 := by
  unfold read64 at read
  split at read
  · cases read
  split at read
  · cases read
  next filled =>
    split at read
    · cases read
    next fits =>
      split at read
      · cases read
      next plain =>
        cases read
        rw [Bool.not_eq_true', Bool.not_eq_false] at plain
        rw [takeWhile_isDigit plain] at fits
        exact ⟨by simpa using filled, plain, rfl, Nat.not_le.1 fits⟩

theorem read64_lt {source : List Char} {n : Nat} (h : read64 source = .ok n) : n < bound64 := by
  obtain ⟨-, -, -, inside⟩ := of_read64 h
  exact inside

end MazeGrader.Numeral
