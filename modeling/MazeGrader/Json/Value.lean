import MazeGrader.Ordered.Entries

/-! JSON values. Objects keep their members in ascending order of key when they are built
by `Json.ofMembers`; a record that is written in the order of its fields is built directly. -/
namespace MazeGrader

inductive Json.Number where
  | int (value : Int)
  | real (value : Float)

inductive Json where
  | null
  | bool (value : Bool)
  | number (value : Json.Number)
  | string (value : String)
  | array (items : List Json)
  | object (members : List (String × Json))

namespace Json

/-- A double as a value; an infinite one or one that is no number has no value of its own. -/
def ofFloat (x : Float) : Json :=
  if x.isFinite then .number (.real x) else .null

/-- The object with these members, of which the later wins under one key. -/
def ofMembers (members : List (String × Json)) : Json := .object (Entries.ofPairs members)

/-- The member of an object under a key. -/
def member? (json : Json) (key : String) : Option Json :=
  match json with
  | .object members => (members.find? fun entry => entry.1 == key).map (·.2)
  | _ => none

def string? : Json → Option String
  | .string value => some value
  | _ => none

/-- The object with one more member, in its place. -/
def insert (json : Json) (key : String) (value : Json) : Json :=
  match json with
  | .object members => .object (Entries.insert key value members)
  | other => other

end MazeGrader.Json
