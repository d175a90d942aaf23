import MazeGrader.Text.Blank
import MazeGrader.Text.Numeral

/-! Ratios as criteria write them: `3/4`, `1` or `0.75`. A ratio is exact and in lowest
terms, and its two numbers fit in 64 bits. -/
namespace MazeGrader

/-- A ratio of numbers of 64 bits. -/
def Fits64 (q : Rat) : Prop :=
  0 ≤ q.num ∧ q.num < Numeral.bound64 ∧ q.den < Numeral.bound64

abbrev Ratio := { q : Rat // Fits64 q }

namespace Ratio

/-- `n / d` in lowest terms. -/
def ofParts (n d : Nat) (pos : d ≠ 0) (hn : n < Numeral.bound64)
    (hd : d < Numeral.bound64) : Ratio :=
  ⟨mkRat n d, by
    have num : (mkRat n d).num = ((n / d.gcd n : Nat) : Int) := by
      simp [Rat.num_mkRat, pos]
    have den : (mkRat n d).den = d / d.gcd n := by
      simp [Rat.den_mkRat, pos]
    refine ⟨?_, ?_, ?_⟩
    · rw [num]; exact Int.natCast_nonneg _
    · rw [num]
      have := Nat.div_le_self n (d.gcd n)
      omega
    · rw [den]
      have := Nat.div_le_self d (d.gcd n)
      omega⟩

def ofParts? (n d : Nat) : Option Ratio :=
  if h : d ≠ 0 ∧ n < Numeral.bound64 ∧ d < Numeral.bound64 then
    some (ofParts n d h.1 h.2.1 h.2.2)
  else none

/-- The numerator, and the denominator unless it is one. -/
def text (q : Rat) : String :=
  if q.den = 1 then toString q.num else toString q.num ++ "/" ++ toString q.den

/-- Why a text, without the blanks around it, is no ratio. -/
inductive Fault where
  | notRatio (text : String)
  | notInteger (text : String)
  | zeroDenominator (text : String)
  | tooManyPlaces (text : String)
  | tooLarge (text : String)
  | numeral (fault : Numeral.Fault)
  deriving DecidableEq, Repr

def Fault.message : Fault → String
  | notRatio text => "`" ++ text ++ "` is not a valid ratio"
  | notInteger text => "`" ++ text ++ "` is not a valid ratio: failed to parse integer"
  | zeroDenominator text => "`" ++ text ++ "` is not a valid ratio: zero value denominator"
  | tooManyPlaces text => "`" ++ text ++ "` has too many decimal places"
  | tooLarge text => "`" ++ text ++ "` is too large"
  | numeral fault => fault.message

/-- What stands before and after the first such character. -/
def splitFirst (mark : Char) (source : List Char) : Option (List Char × List Char) :=
  match source.dropWhile (· != mark) with
  | [] => none
  | _ :: after => some (source.takeWhile (· != mark), after)

theorem bne_of_not_mem {mark : Char} {source : List Char} (absent : mark ∉ source) :
    ∀ c ∈ source, (c != mark) = true := by
  intro c member
  exact bne_iff_ne.2 fun same => absent (same ▸ member)

theorem splitFirst_of_not_mem {mark : Char} {source : List Char} (absent : mark ∉ source) :
    splitFirst mark source = none := by
  have span : Text.Span (· != mark) source source [] :=
    ⟨(List.append_nil source).symm, bne_of_not_mem absent, by simp⟩
  rw [splitFirst, (Text.span_iff.1 span).2]

theorem splitFirst_append {mark : Char} {before : List Char} (absent : mark ∉ before)
    (after : List Char) : splitFirst mark (before ++ mark :: after) = some (before, after) := by
  have span : Text.Span (· != mark) (before ++ mark :: after) before (mark :: after) :=
    ⟨rfl, bne_of_not_mem absent, by simp⟩
  rw [splitFirst, (Text.span_iff.1 span).1, (Text.span_iff.1 span).2]

/-- Digits without a sign; none are zero. -/
def readDigits (digits : List Char) : Except Numeral.Fault Nat :=
  if digits.isEmpty then .ok 0 else Numeral.read64 digits

/-- `10 ^ places`, if it fits in 64 bits. The number of places is taken to 32 bits. -/
def power? (places : Nat) : Option Nat :=
  let places := places % Numeral.bound32
  if places ≤ 19 then some (Numeral.tenTo places) else none

theorem power?_bounds {places power : Nat} (h : power? places = some power) :
    power ≠ 0 ∧ power < Numeral.bound64 := by
  simp only [power?] at h
  split at h
  · next small =>
    cases h
    have least : 0 < Numeral.tenTo (places % Numeral.bound32) := Nat.pow_pos (by decide)
    have most : Numeral.tenTo (places % Numeral.bound32) ≤ Numeral.tenTo 19 :=
      Nat.pow_le_pow_right (by decide) small
    exact ⟨Nat.ne_of_gt least, Nat.lt_of_le_of_lt most (by decide)⟩
  · cases h

/-- A decimal with a point; one of its two parts may be empty. -/
def ofDecimal (text whole fraction : List Char) : Except Fault Ratio :=
  if (whole.isEmpty && fraction.isEmpty) || !(whole ++ fraction).all Char.isDigit then
    .error (.notRatio (String.ofList text))
  else match h : power? fraction.length with
    | none => .error (.tooManyPlaces (String.ofList text))
    | some power => do
      let whole ← (readDigits whole).mapError .numeral
      let fraction ← (readDigits fraction).mapError .numeral
      if hn : whole * power + fraction < Numeral.bound64 then
        return ofParts (whole * power + fraction) power (power?_bounds h).1 hn (power?_bounds h).2
      else throw (.tooLarge (String.ofList text))

/-- A whole number, or two of them with a bar between. -/
def ofFraction (text : List Char) : Except Fault Ratio :=
  let (top, bottom) := (splitFirst '/' text).getD (text, ['1'])
  match hn : Numeral.read64 top, hd : Numeral.read64 bottom with
  | .ok n, .ok d =>
    if pos : d ≠ 0 then
      .ok (ofParts n d pos (Numeral.read64_lt hn) (Numeral.read64_lt hd))
    else .error (.zeroDenominator (String.ofList text))
  | _, _ => .error (.notInteger (String.ofList text))

def parseChars (source : List Char) : Except Fault Ratio :=
  let text := Text.strip source
  match splitFirst '.' text with
  | some (whole, fraction) => ofDecimal text whole fraction
  | none => ofFraction text

def parse (source : String) : Except Fault Ratio := parseChars source.toList

end Ratio

end MazeGrader
