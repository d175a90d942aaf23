/-! Doubles taken apart. A finite double is a sign and `significand * 2 ^ exponent`. -/
namespace MazeGrader.Decimal

inductive Magnitude
  | nan
  | infinite
  | finite (significand : Nat) (exponent : Int)
  deriving DecidableEq, Repr

structure Binary where
  negative : Bool
  magnitude : Magnitude
  deriving DecidableEq, Repr

/-- The number written in binary as a one and so many zeros. -/
def twoTo (places : Nat) : Nat := Nat.pow 2 places

/-- The least significand of a double that is not subnormal. -/
def leastNormal : Nat := twoTo 52

/-- Reads the 64 bits of a double: one for the sign, 11 for the exponent, 52 for the rest. -/
def Binary.ofBits (bits : Nat) : Binary :=
  let field : Nat := bits / leastNormal % twoTo 11
  let rest : Nat := bits % leastNormal
  let magnitude :=
    if field = 2047 then (if rest = 0 then .infinite else .nan)
    else if field = 0 then .finite rest (-1074)
    else .finite (leastNormal + rest) ((field : Int) - 1075)
  ⟨bits / twoTo 63 % 2 == 1, magnitude⟩

def Binary.ofFloat (x : Float) : Binary := .ofBits x.toBits.toNat

/-- A fraction equal to `significand * 2 ^ exponent`. -/
def fraction (significand : Nat) (exponent : Int) : Nat × Nat :=
  (significand * twoTo exponent.toNat, twoTo (-exponent).toNat)

/-- How a value half way between two neighbours is rounded. -/
inductive Tie
  | up
  | even
  deriving DecidableEq, Repr

def Tie.above (tie : Tie) (lower : Nat) : Bool :=
  match tie with
  | .up => true
  | .even => lower % 2 = 1

/-- The whole number nearest to a fraction. -/
def roundDiv (num den : Nat) (tie : Tie) : Nat :=
  let lower := num / den
  let twice := 2 * (num % den)
  if twice < den then lower
  else if den < twice then lower + 1
  else if tie.above lower then lower + 1 else lower

example : roundDiv 5 2 .even = 2 ∧ roundDiv 7 2 .even = 4 ∧ roundDiv 5 2 .up = 3 := by decide

end MazeGrader.Decimal
