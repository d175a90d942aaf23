import MazeGrader.Json.Draft
import MazeGrader.Text.Numeral

/-! Numbers of a JSON text. Whole numbers of 64 bits are kept; any other number becomes a
double: as many digits as fit 64 bits are taken as a whole number, which is rounded and then
multiplied or divided by one power of ten. -/
namespace MazeGrader.Json

/-- The parts of a number as it is written. -/
structure Numerals where
  negative : Bool
  whole : List Char
  fraction : List Char
  exponent : Option Int

/-- A run of at least one digit. Where the text ends instead, the fault is `atEnd`. -/
def digitRun (atEnd : Fault) (source : List Char) : Except Fault (List Char × List Char) :=
  match source with
  | [] => .error atEnd
  | c :: _ =>
    if c.isDigit then .ok (source.takeWhile Char.isDigit, source.dropWhile Char.isDigit)
    else .error .malformed

/-- The whole part has no leading zero unless it is zero. -/
def wholePart (atEnd : Fault) (source : List Char) : Except Fault (List Char × List Char) := do
  let (digits, rest) ← digitRun atEnd source
  if digits.head? = some '0' && digits.length ≠ 1 then throw .malformed
  return (digits, rest)

def fractionPart (atEnd : Fault) : List Char → Except Fault (List Char × List Char)
  | '.' :: rest => digitRun atEnd rest
  | source => .ok ([], source)

def exponentDigits (atEnd : Fault) (negative : Bool) (source : List Char) :
    Except Fault (Option Int × List Char) := do
  let (digits, rest) ← digitRun atEnd source
  let size : Int := Numeral.value digits
  return (some (if negative then -size else size), rest)

def exponentPart (atEnd : Fault) : List Char → Except Fault (Option Int × List Char)
  | c :: rest =>
    if c = 'e' || c = 'E' then
      match rest with
      | '+' :: rest => exponentDigits atEnd false rest
      | '-' :: rest => exponentDigits atEnd true rest
      | _ => exponentDigits atEnd false rest
    else .ok (none, c :: rest)
  | [] => .ok (none, [])

def scanNumber (atEnd : Fault) (source : List Char) : Except Fault (Numerals × List Char) := do
  let (negative, source) := match source with
    | '-' :: rest => (true, rest)
    | _ => (false, source)
  let (whole, source) ← wholePart atEnd source
  let (fraction, source) ← fractionPart atEnd source
  let (exponent, source) ← exponentPart atEnd source
  return (⟨negative, whole, fraction, exponent⟩, source)

/-- Takes digits into a number as long as it fits in 64 bits, and leaves the others. -/
def absorb (sum : Nat) : List Char → Nat × List Char
  | [] => (sum, [])
  | c :: rest =>
    let next := 10 * sum + (c.toNat - '0'.toNat)
    if next < Numeral.bound64 then absorb next rest else (sum, c :: rest)

def powerOfTen (n : Nat) : Float := Float.ofScientific 1 false n

/-- `x * 10 ^ exponent`, or nothing if that is too big for a double. Three divisions bring
any number of 64 bits to zero. -/
def scale (fuel : Nat) (x : Float) (exponent : Int) : Option Float :=
  if exponent.natAbs ≤ 308 then
    if 0 ≤ exponent then
      let product := x * powerOfTen exponent.toNat
      if product.isInf then none else some product
    else some (x / powerOfTen exponent.natAbs)
  else if x == 0 then some x
  else if 0 ≤ exponent then none
  else match fuel with
    | 0 => some 0
    | fuel + 1 => scale fuel (x / powerOfTen 308) (exponent + 308)

def Numerals.real (numerals : Numerals) : Except Fault Number :=
  let (sum, wholeLeft) := absorb 0 numerals.whole
  let (sum, fractionLeft) := absorb sum numerals.fraction
  let taken : Int := numerals.fraction.length - fractionLeft.length
  let exponent : Int := wholeLeft.length - taken + numerals.exponent.getD 0
  match scale 4 (Float.ofNat sum) exponent with
  | some x => .ok (.real (if numerals.negative then -x else x))
  | none => .error .malformed

def Numerals.number (numerals : Numerals) : Except Fault Number :=
  let size := Numeral.value numerals.whole
  if !numerals.fraction.isEmpty || numerals.exponent.isSome || Numeral.bound64 ≤ size then
    numerals.real
  else if !numerals.negative then .ok (.int size)
  else if size = 0 || Numeral.bound64 < 2 * size then numerals.real
  else .ok (.int (-size))

/-- Nothing of a number that is passed over is too big, and a text may not end in it. -/
def draftNumber (source : List Char) : Draft × Option (List Char) :=
  let value := scanNumber .cut source
  let passed := scanNumber .malformed source
  let number := value.bind fun scanned => scanned.1.number
  match passed with
  | .ok (_, rest) => (.number number none, some rest)
  | .error fault => (.number number (some fault), none)

def Number.toFloat : Number → Float
  | .int value => Float.ofInt value
  | .real value => value

end MazeGrader.Json
