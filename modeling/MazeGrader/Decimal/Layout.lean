import MazeGrader.Decimal.Shortest

/-! Decimal texts of doubles: shortest, in a given layout, or with a fixed number of places. -/
namespace MazeGrader.Decimal

/-- How the shortest digits are laid out. `positional first` says whether a number whose
first digit counts `10 ^ first` is written without an exponent. -/
structure Layout where
  tie : Tie
  positional : Int → Bool
  pointAlways : Bool

def zeros (n : Nat) : List Char := List.replicate n '0'

/-- The number with its point in place, or at the end of its whole part. -/
def placePoint (pointAlways : Bool) (scaled : Scaled) : List Char :=
  let digits := Numeral.text scaled.digits
  let whole : Int := digits.length + scaled.exponent
  if 0 ≤ scaled.exponent then
    digits ++ zeros scaled.exponent.toNat ++ (if pointAlways then ['.', '0'] else [])
  else if 0 < whole then
    digits.take whole.toNat ++ '.' :: digits.drop whole.toNat
  else '0' :: '.' :: zeros (-whole).toNat ++ digits

/-- One digit before the point, and the exponent with its sign. -/
def withExponent (scaled : Scaled) : List Char :=
  let digits := Numeral.text scaled.digits
  let first : Int := digits.length - 1 + scaled.exponent
  digits.take 1 ++ (if digits.length ≤ 1 then [] else '.' :: digits.drop 1) ++
    ['e', if first < 0 then '-' else '+'] ++ Numeral.text first.natAbs

def Layout.write (layout : Layout) (scaled : Scaled) : List Char :=
  if layout.positional (width scaled.digits - 1 + scaled.exponent) then
    placePoint layout.pointAlways scaled
  else withExponent scaled

def signed (negative : Bool) (text : List Char) : List Char :=
  if negative then '-' :: text else text

def Layout.text (layout : Layout) (x : Float) : List Char :=
  let binary := Binary.ofFloat x
  match binary.magnitude with
  | .nan => "NaN".toList
  | .infinite => signed binary.negative "inf".toList
  | .finite 0 _ => signed binary.negative (placePoint layout.pointAlways ⟨0, 0⟩)
  | .finite significand exponent =>
    signed binary.negative (layout.write (shortest significand exponent layout.tie))

/-- Never an exponent, and a point only before a fraction. -/
def plain : Layout := ⟨.up, fun _ => true, false⟩

/-- The exact value to so many places, a half going to the even neighbour. -/
def fixed (places : Nat) (x : Float) : List Char :=
  let binary := Binary.ofFloat x
  match binary.magnitude with
  | .nan => "NaN".toList
  | .infinite => signed binary.negative "inf".toList
  | .finite significand exponent =>
    let (num, den) := fraction significand exponent
    let digits := Numeral.text (roundDiv (num * Numeral.tenTo places) den .even)
    let digits := zeros (places + 1 - digits.length) ++ digits
    let whole := digits.length - places
    signed binary.negative (digits.take whole ++ '.' :: digits.drop whole)

def plainText (x : Float) : String := String.ofList (plain.text x)

def fixedText (places : Nat) (x : Float) : String := String.ofList (fixed places x)

example : placePoint false ⟨25, -1⟩ = "2.5".toList := by decide
example : placePoint true ⟨1, 3⟩ = "1000.0".toList := by decide
example : placePoint false ⟨7, -3⟩ = "0.007".toList := by decide
example : withExponent ⟨15, 16⟩ = "1.5e+17".toList := by decide

end MazeGrader.Decimal
