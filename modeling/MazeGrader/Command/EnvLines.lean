import MazeGrader.Text.Blank

/-! Lines of an environment file. A value that is open at the end of a line, because of a
quote, a blank or a backslash, goes on in the next one. -/
namespace MazeGrader.EnvFile

/-- The lines of a file with the line feeds that end them. -/
def rawLines : List UInt8 → List (List UInt8)
  | [] => []
  | byte :: rest =>
    if byte = 0x0A then [byte] :: rawLines rest
    else match rawLines rest with
      | [] => [[byte]]
      | line :: lines => (byte :: line) :: lines

/-- The lines up to one that is not UTF-8. -/
def textLines : List (List UInt8) → List (List Char)
  | [] => []
  | line :: rest =>
    match String.fromUTF8? ⟨line.toArray⟩ with
    | some text => text.toList :: textLines rest
    | none => []

/-- The readable lines of a file; a byte order mark in front is skipped. -/
def readLines (content : ByteArray) : List (List Char) :=
  match textLines (rawLines content.data.toList) with
  | ('\uFEFF' :: first) :: rest => first :: rest
  | lines => lines

/-- Whether a value is complete at some point of a line. -/
inductive Completion where
  | complete
  | escape
  | blank
  | strong
  | strongEscape
  | weak
  | weakEscape
  | comment
  deriving DecidableEq, Repr

def Completion.outside (c : Char) : Completion :=
  if c = '\\' then .escape else if c = '"' then .weak else if c = '\'' then .strong else .complete

def Completion.next (completion : Completion) (c : Char) : Completion :=
  match completion with
  | .blank => if c = '#' then .comment else Completion.outside c
  | .escape => .complete
  | .complete =>
    if Text.isBlank c && c != '\n' && c != '\r' then .blank else Completion.outside c
  | .weak => if c = '\\' then .weakEscape else if c = '"' then .complete else .weak
  | .weakEscape => .weak
  | .strong => if c = '\\' then .strongEscape else if c = '\'' then .complete else .strong
  | .strongEscape => .strong
  | .comment => .comment

/-- Reads a line up to a comment in it. -/
def completeLine (completion : Completion) : List Char → List Char × Completion
  | [] => ([], completion)
  | c :: rest =>
    match completion.next c with
    | .comment => ([], .comment)
    | next => let (line, last) := completeLine next rest; (c :: line, last)

def dropEnding (line : List Char) : List Char :=
  match line.reverse with
  | '\n' :: '\r' :: rest => rest.reverse
  | '\n' :: rest => rest.reverse
  | _ => line

/-- Joins lines until values are complete. Nothing stands for a value that never is. -/
def joinLines (met : List Char) (completion : Completion) :
    List (List Char) → List (Option (List Char))
  | [] => if completion = .complete then [] else [none]
  | line :: rest =>
    if ((met ++ line).dropWhile Text.isBlank).head? = some '#' then
      some [] :: joinLines [] .complete rest
    else
      let (read, last) := completeLine completion line
      match last with
      | .complete => some (dropEnding (met ++ read)) :: joinLines [] .complete rest
      | .comment => some (met ++ read) :: joinLines [] .complete rest
      | last => joinLines (met ++ read) last rest

end MazeGrader.EnvFile
