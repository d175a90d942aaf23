import MazeGrader.Decimal.Layout
import MazeGrader.Json.Value

/-! JSON texts of values, on one line or indented by two spaces a level. -/
namespace MazeGrader.Json

/-- Numbers have a point between `0.00001` and `10 ^ 16` and an exponent beyond. -/
def realLayout : Decimal.Layout := ⟨.even, fun first => -5 ≤ first && first < 16, true⟩

def Number.text : Number → List Char
  | .int value => (toString value).toList
  | .real value => realLayout.text value

/-- Two hexadecimal digits of a code below 256. -/
def hexPair (code : Nat) : List Char := [Nat.digitChar (code / 16), Nat.digitChar (code % 16)]

def escapeChar (c : Char) : List Char :=
  match c with
  | '"' => ['\\', '"']
  | '\\' => ['\\', '\\']
  | '\x08' => ['\\', 'b']
  | '\x0c' => ['\\', 'f']
  | '\n' => ['\\', 'n']
  | '\r' => ['\\', 'r']
  | '\t' => ['\\', 't']
  | _ => if c.toNat < 0x20 then ['\\', 'u', '0', '0'] ++ hexPair c.toNat else [c]

def quoted (text : String) : List Char := '"' :: text.toList.flatMap escapeChar ++ ['"']

mutual

def compact : Json → List Char
  | .null => "null".toList
  | .bool true => "true".toList
  | .bool false => "false".toList
  | .number value => value.text
  | .string value => quoted value
  | .array items => '[' :: compactItems items ++ [']']
  | .object members => '\x7b' :: compactMembers members ++ ['\x7d']

def compactItems : List Json → List Char
  | [] => []
  | [item] => compact item
  | item :: rest => compact item ++ ',' :: compactItems rest

def compactMembers : List (String × Json) → List Char
  | [] => []
  | [(key, value)] => quoted key ++ ':' :: compact value
  | (key, value) :: rest => quoted key ++ ':' :: compact value ++ ',' :: compactMembers rest

end

/-- A new line at a level of nesting. -/
def newLine (level : Nat) : List Char := '\n' :: List.replicate (2 * level) ' '

mutual

def indentedAt (level : Nat) : Json → List Char
  | .array [] => ['[', ']']
  | .array items =>
    '[' :: indentedItems (level + 1) items ++ newLine level ++ [']']
  | .object [] => ['\x7b', '\x7d']
  | .object members =>
    '\x7b' :: indentedMembers (level + 1) members ++ newLine level ++ ['\x7d']
  | .null => compact .null
  | .bool value => compact (.bool value)
  | .number value => compact (.number value)
  | .string value => compact (.string value)

def indentedItems (level : Nat) : List Json → List Char
  | [] => []
  | [item] => newLine level ++ indentedAt level item
  | item :: rest => newLine level ++ indentedAt level item ++ ',' :: indentedItems level rest

def indentedMembers (level : Nat) : List (String × Json) → List Char
  | [] => []
  | [(key, value)] => newLine level ++ quoted key ++ ':' :: ' ' :: indentedAt level value
  | (key, value) :: rest =>
    newLine level ++ quoted key ++ ':' :: ' ' :: indentedAt level value ++
      ',' :: indentedMembers level rest

end

def compactText (value : Json) : String := String.ofList (compact value)

def indentedText (value : Json) : String := String.ofList (indentedAt 0 value)

end MazeGrader.Json
