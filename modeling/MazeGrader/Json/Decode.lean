import MazeGrader.Json.Reader

/-! Reading drafts as typed values. Whatever is wrong first in the order of the text is
reported; fields that are missing from a record are reported at its end, in the order in
which the record declares them. -/
namespace MazeGrader.Json

def decodeString : Draft → Except Fault String
  | .string value => value.value
  | draft => draft.unexpected "a string"

def decodeFloat : Draft → Except Fault Float
  | .number value _ => value.map Number.toFloat
  | draft => draft.unexpected "f64"

def decodeItems (read : Draft → Except Fault α) : List Draft → Except Fault (List α)
  | [] => .ok []
  | item :: rest => do
    let item ← read item
    return item :: (← decodeItems read rest)

def decodeList (read : Draft → Except Fault α) : Draft → Except Fault (List α)
  | .array items _ ending => do
    let items ← decodeItems read items
    passOver ending
    return items
  | draft => draft.unexpected "a sequence"

def decodeMembers (read : Draft → Except Fault α) :
    List (Quoted × Draft) → Except Fault (List (String × α))
  | [] => .ok []
  | (key, value) :: rest => do
    let key ← key.value
    let value ← read value
    return (key, value) :: (← decodeMembers read rest)

/-- The entries of an object in ascending order of key. -/
def decodeMap (read : Draft → Except Fault α) : Draft → Except Fault (List (String × α))
  | .object members ending => do
    let members ← decodeMembers read members
    passOver ending
    return Entries.ofPairs members
  | draft => draft.unexpected "a map"

/-- A field of a record: how its draft changes a record that lacks it. -/
structure Field (σ : Type) where
  name : String
  optional : Bool
  set : Draft → σ → Except Fault σ

/-- A record is written as an object, or as an array of its fields in order. Fields that
may be absent have their value in `blank`. -/
structure Record (σ : Type) where
  name : String
  blank : σ
  fields : List (Field σ)

def Record.expected (record : Record σ) : String := "struct " ++ record.name

/-- Reads the members of an object into a record; `seen` names the fields read before. -/
def readFields (fields : List (Field σ)) (seen : List String) :
    List (Quoted × Draft) → σ → Except Fault (List String × σ)
  | [], partly => .ok (seen, partly)
  | (key, value) :: rest, partly => do
    let name ← key.value
    match fields.find? fun field => field.name == name with
    | none =>
      value.skip
      readFields fields seen rest partly
    | some field =>
      if seen.contains name then throw (.data ("duplicate field `" ++ name ++ "`"))
      readFields fields (name :: seen) rest (← field.set value partly)

def checkMissing (fields : List (Field σ)) (seen : List String) : Except Fault Unit :=
  match fields.find? fun field => !field.optional && !seen.contains field.name with
  | some field => .error (.data ("missing field `" ++ field.name ++ "`"))
  | none => .ok ()

def Record.shortFault (record : Record σ) (length : Nat) : Fault :=
  let count := record.fields.length
  let plural := if count = 1 then "" else "s"
  .data ("invalid length " ++ toString length ++ ", expected " ++ record.expected ++ " with " ++
    toString count ++ " element" ++ plural)

/-- Reads fields from the items of an array; `index` counts those read before. -/
def Record.readItems (record : Record σ) (surplus : Fault) (ending : Option Fault) :
    Nat → List (Field σ) → List Draft → σ → Except Fault σ
  | _, [], [], partly => do passOver ending; return partly
  | _, [], _ :: _, _ => .error surplus
  | index, field :: fields, item :: items, partly => do
    readItems record surplus ending (index + 1) fields items (← field.set item partly)
  | index, field :: fields, [], partly => do
    passOver ending
    if field.optional then readItems record surplus ending (index + 1) fields [] partly
    else throw (record.shortFault index)

def Record.decode (record : Record σ) : Draft → Except Fault σ
  | .object members ending => do
    let (seen, value) ← readFields record.fields [] members record.blank
    passOver ending
    checkMissing record.fields seen
    return value
  | .array items surplus ending =>
    record.readItems surplus ending 0 record.fields items record.blank
  | draft => draft.unexpected record.expected

end MazeGrader.Json
