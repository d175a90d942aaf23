import MazeGrader.Decimal.Binary
import MazeGrader.Text.Numeral

/-! The shortest decimal that reads back to a given double, and of those the nearest to it.
The reals that round to the double form an interval around it. For each number of digits
the two decimals next to the double are tried, so the first hit has the fewest digits. -/
namespace MazeGrader.Decimal

/-- `digits * 10 ^ exponent`. -/
structure Scaled where
  digits : Nat
  exponent : Int
  deriving DecidableEq, Repr

/-- The number of decimal digits. -/
def width (n : Nat) : Nat := (Numeral.text n).length

/-- The exponent of the first digit of a positive fraction. -/
def leadingExponent (num den : Nat) : Int :=
  let estimate : Int := (width num : Int) - width den
  let reached := den * Numeral.tenTo estimate.toNat ≤ num * Numeral.tenTo (-estimate).toNat
  if reached then estimate else estimate - 1

/-- The decimal nearest to `significand * 2 ^ exponent` among its two neighbours that are
multiples of `10 ^ place`, if one of them reads back. Quarters of the distance to the next
double are the unit: the interval reaches two of them up, and two down but one down at a
power of two. Its ends belong to it when the significand is even. -/
def onGrid (significand : Nat) (exponent place : Int) (tie : Tie) : Option Nat :=
  let scale := twoTo (exponent - 2).toNat * Numeral.tenTo (-place).toNat
  let unit := twoTo (2 - exponent).toNat * Numeral.tenTo place.toNat
  let value := 4 * significand * scale
  let down := if significand = leastNormal && exponent ≠ -1074 then scale else 2 * scale
  let lower := value / unit
  let closed := significand % 2 = 0
  let below := value - lower * unit
  let above := (lower + 1) * unit - value
  let lowerFits := if closed then below ≤ down else below < down
  let upperFits := if closed then above ≤ 2 * scale else above < 2 * scale
  if lowerFits && upperFits then some (roundDiv value unit tie)
  else if lowerFits then some lower
  else if upperFits then some (lower + 1)
  else none

/-- Takes zeros off the end of the digits. -/
def Scaled.trim : Nat → Scaled → Scaled
  | 0, scaled => scaled
  | fuel + 1, scaled =>
    if scaled.digits ≠ 0 && scaled.digits % 10 = 0 then
      trim fuel ⟨scaled.digits / 10, scaled.exponent + 1⟩
    else scaled

/-- Seventeen digits tell any two doubles apart, so the search ends with a hit. -/
def shortest (significand : Nat) (exponent : Int) (tie : Tie) : Scaled :=
  let (num, den) := fraction significand exponent
  let lead := leadingExponent num den
  let hit := (List.range 17).findSome? fun (more : Nat) =>
    (onGrid significand exponent (lead - more) tie).map fun digits =>
      Scaled.mk digits (lead - more)
  (hit.getD ⟨significand, exponent⟩).trim 17

example : shortest 1 (-1074) .even = ⟨5, -324⟩ := by decide +kernel
example : shortest leastNormal (-52) .even = ⟨1, 0⟩ := by decide +kernel

end MazeGrader.Decimal
