import MazeGrader.Command.EnvLines
import MazeGrader.Text.Alphanumeric

/-! Environment files: lines of the form `NAME=value`. A value may be quoted, strongly or
weakly, and then run over several lines; `$NAME` and `$` before a name in braces stand for
the value of another variable, except in strong quotes. -/
namespace MazeGrader

abbrev Environment := List (String × String)

def Environment.get? (environment : Environment) (name : String) : Option String :=
  (environment.find? fun entry => entry.1 == name).map (·.2)

namespace EnvFile

def isNameStart (c : Char) : Bool := c.isAlpha || c = '_'

def isNamePart (c : Char) : Bool := c.isAlphanum || c = '_' || c = '.'

def skipBlanks (source : List Char) : List Char := source.dropWhile Text.isBlank

def readName : List Char → Option (List Char × List Char)
  | c :: rest =>
    if isNameStart c then some ((c :: rest).takeWhile isNamePart, (c :: rest).dropWhile isNamePart)
    else none
  | [] => none

def skipEqual : List Char → Option (List Char)
  | '=' :: rest => some rest
  | _ => none

inductive Substitution where
  | none
  | plain
  | braced
  deriving DecidableEq, Repr

/-- How far a value was read. The name and the value are in reverse. -/
structure Reading where
  strong : Bool
  weak : Bool
  escaped : Bool
  ended : Bool
  substitution : Substitution
  name : List Char
  value : List Char

def Reading.start : Reading := ⟨false, false, false, false, .none, [], []⟩

/-- Puts the value of the name that was read behind the value. -/
def Reading.substitute (lookup : String → String) (reading : Reading) : Reading :=
  { reading with
    name := []
    value := (lookup (String.ofList reading.name.reverse)).toList.reverse ++ reading.value }

def Reading.push (reading : Reading) (c : Char) : Reading :=
  { reading with value := c :: reading.value }

def escapedChar? (c : Char) : Option Char :=
  if c = '\\' || c = '\'' || c = '"' || c = '$' || c = ' ' then some c
  else if c = 'n' then some '\n'
  else none

def Reading.substituting (lookup : String → String) (reading : Reading) (c : Char) : Reading :=
  if Text.isAlphanumeric c then { reading with name := c :: reading.name }
  else match reading.substitution with
    | .braced =>
      if c = '\x7d' then { reading.substitute lookup with substitution := .none }
      else { reading with name := c :: reading.name }
    | _ =>
      if c = '\x7b' && reading.name.isEmpty then { reading with substitution := .braced }
      else
        let done := reading.substitute lookup
        if c = '$' then { done with substitution := .plain }
        else ({ done with substitution := .none }).push c

/-- One character outside of escapes, strong quotes and names. -/
def Reading.plainChar (reading : Reading) (c : Char) : Reading :=
  if c = '$' then { reading with substitution := .plain }
  else if c = '\\' then { reading with escaped := true }
  else if c = '"' then { reading with weak := !reading.weak }
  else if reading.weak then reading.push c
  else if c = '\'' then { reading with strong := true }
  else if c = ' ' || c = '\t' then { reading with ended := true }
  else reading.push c

/-- Reads a value. Behind a blank outside of quotes only a comment may follow. -/
def readValue (lookup : String → String) (reading : Reading) : List Char → Option (List Char)
  | [] =>
    if reading.substitution = .braced || reading.strong || reading.weak then none
    else some (reading.substitute lookup).value.reverse
  | c :: rest =>
    if reading.ended then
      if c = ' ' || c = '\t' then readValue lookup reading rest
      else if c = '#' then readValue lookup reading []
      else none
    else if reading.escaped then
      match escapedChar? c with
      | some c => readValue lookup ({ reading with escaped := false }.push c) rest
      | none => none
    else if reading.strong then
      if c = '\'' then readValue lookup { reading with strong := false } rest
      else readValue lookup (reading.push c) rest
    else if reading.substitution ≠ .none then
      readValue lookup (reading.substituting lookup c) rest
    else readValue lookup (reading.plainChar c) rest
termination_by source => source.length

/-- Reads a line: an assignment, or nothing if it is blank or a comment. -/
def readLine (lookup : String → String) (line : List Char) : Option (Option (String × String)) := do
  let source := Text.strip line
  if source.head?.all (· == '#') then return none
  let (name, source) ← readName source
  let source := skipBlanks source
  let (name, source) ← match skipEqual source with
    | some source => some (name, source)
    | none =>
      if name = "export".toList then do
        let (name, source) ← readName source
        let source ← skipEqual (skipBlanks source)
        some (name, source)
      else none
  let source := skipBlanks source
  if source.head?.all (· == '#') then return some (String.ofList name, "")
  let value ← readValue lookup .start source
  return some (String.ofList name, String.ofList value)

/-- Sets the variables that are not set yet, up to a line that cannot be read. `stored` has
the values of the file whether or not they were set. -/
def apply (environment stored : Environment) : List (Option (List Char)) → Environment
  | [] => environment
  | none :: _ => environment
  | some line :: rest =>
    let lookup := fun name => ((environment.get? name).or (stored.get? name)).getD ""
    match readLine lookup line with
    | none => environment
    | some none => apply environment stored rest
    | some (some (name, value)) =>
      let stored := (name, value) :: stored
      if (environment.get? name).isSome then apply environment stored rest
      else apply ((name, value) :: environment) stored rest

/-- The environment with the variables of a file. -/
def load (environment : Environment) (content : ByteArray) : Environment :=
  apply environment [] (joinLines [] .complete (readLines content))

end EnvFile

end MazeGrader
