import MazeGrader.Json.Writer
import MazeGrader.Text.Quoted

/-! A draft is what a JSON text says as far as it can be read, before it is known what the
text is meant to hold. Faults stand where they occur, so a reader of a draft meets the one
that comes first for what it reads: a number out of range or half a surrogate pair is a
fault of a value that is wanted and none of one that is passed over. -/
namespace MazeGrader

inductive Json.Fault where
  | malformed
  | cut
  | data (text : String)
  deriving DecidableEq, Repr

open Json (Fault Number)

/-- A string of a text, as one that is wanted and as one that is passed over. -/
structure Json.Quoted where
  value : Except Fault String
  skipped : Option Fault

/-- An array or object ends with its bracket, or with the fault met in its place. The
surplus fault of an array is that of an item which nobody asks for. -/
inductive Json.Draft where
  | broken (fault : Fault)
  | null
  | bool (value : Bool)
  | number (value : Except Fault Number) (skipped : Option Fault)
  | string (value : Json.Quoted)
  | array (items : List Json.Draft) (surplus : Fault) (ending : Option Fault)
  | object (members : List (Json.Quoted × Json.Draft)) (ending : Option Fault)

namespace Json

def passOver : Option Fault → Except Fault Unit
  | some fault => .error fault
  | none => .ok ()

mutual

/-- Passes over a draft. -/
def Draft.skip : Draft → Except Fault Unit
  | .broken fault => .error fault
  | .null => .ok ()
  | .bool _ => .ok ()
  | .number _ skipped => passOver skipped
  | .string value => passOver value.skipped
  | .array items _ ending => do skipItems items; passOver ending
  | .object members ending => do skipMembers members; passOver ending

def skipItems : List Draft → Except Fault Unit
  | [] => .ok ()
  | item :: rest => do item.skip; skipItems rest

def skipMembers : List (Quoted × Draft) → Except Fault Unit
  | [] => .ok ()
  | (key, value) :: rest => do passOver key.skipped; value.skip; skipMembers rest

end

mutual

/-- The value of a draft in which arrays and objects may nest `room` deep. -/
def Draft.toJson (room : Nat) : Draft → Except Fault Json
  | .broken fault => .error fault
  | .null => .ok .null
  | .bool value => .ok (.bool value)
  | .number value _ => return .number (← value)
  | .string value => return .string (← value.value)
  | .array items _ ending =>
    match room with
    | 0 => .error .malformed
    | room + 1 => do
      let items ← itemsToJson room items
      passOver ending
      return .array items
  | .object members ending =>
    match room with
    | 0 => .error .malformed
    | room + 1 => do
      let members ← membersToJson room members
      passOver ending
      return .ofMembers members

def itemsToJson (room : Nat) : List Draft → Except Fault (List Json)
  | [] => .ok []
  | item :: rest => do
    let item ← item.toJson room
    return item :: (← itemsToJson room rest)

def membersToJson (room : Nat) : List (Quoted × Draft) → Except Fault (List (String × Json))
  | [] => .ok []
  | (key, value) :: rest => do
    let key ← key.value
    let value ← value.toJson room
    return (key, value) :: (← membersToJson room rest)

end

def Quoted.ofString (text : String) : Quoted := ⟨.ok text, none⟩

mutual

/-- A value is a draft without faults. -/
def Draft.ofJson : Json → Draft
  | .null => .null
  | .bool value => .bool value
  | .number value => .number (.ok value) none
  | .string value => .string (.ofString value)
  | .array items =>
    let length := toString items.length
    .array (draftItems items)
      (.data ("invalid length " ++ length ++ ", expected fewer elements in array")) none
  | .object members => .object (draftMembers members) none

def draftItems : List Json → List Draft
  | [] => []
  | item :: rest => .ofJson item :: draftItems rest

def draftMembers : List (String × Json) → List (Quoted × Draft)
  | [] => []
  | (key, value) :: rest => (.ofString key, .ofJson value) :: draftMembers rest

end

/-- What a draft holds, as messages name it. -/
def Draft.kind : Draft → Except Fault String
  | .broken fault => .error fault
  | .null => .ok "null"
  | .bool true => .ok "boolean `true`"
  | .bool false => .ok "boolean `false`"
  | .number value _ => return match ← value with
    | .int value => "integer `" ++ toString value ++ "`"
    | .real value => "floating point `" ++ String.ofList (realLayout.text value) ++ "`"
  | .string value => return "string " ++ Text.quote (← value.value)
  | .array .. => .ok "sequence"
  | .object .. => .ok "map"

/-- The fault of a draft that should hold something else. -/
def Draft.unexpected (draft : Draft) (expected : String) : Except Fault α := do
  throw (.data ("invalid type: " ++ (← draft.kind) ++ ", expected " ++ expected))

/-- A whole text: its value, and what is wrong behind it. -/
structure Document where
  root : Draft
  trailing : Option Fault

def Document.decode (document : Document) (read : Draft → Except Fault α) : Except Fault α := do
  let value ← read document.root
  passOver document.trailing
  return value

/-- Arrays and objects of a text nest at most this deep. -/
def nesting : Nat := 127

def Document.toJson (document : Document) : Except Fault Json :=
  document.decode (Draft.toJson nesting)

end MazeGrader.Json
