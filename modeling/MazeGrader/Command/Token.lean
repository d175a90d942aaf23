/-! Arguments as tokens. An argument with a dash in front is a flag of one character, a run
of known flags, a named option, or an option with a value joined to it by an equals sign;
if it is none of these it is a word. Behind two dashes everything is an operand. -/
namespace MazeGrader

inductive Token where
  | short (flag : Char)
  | long (name : String)
  /-- The value that is joined to the option before it. -/
  | joined (value : String)
  | word (text : String)
  | operand (text : String)
  deriving DecidableEq, Repr

namespace Token

/-- The flags that can stand together behind one dash. -/
def knownFlags : List Char := ['q', 'h', 'V']

def isEqual (c : Char) : Bool := c == '='

/-- A named option: the argument without the two dashes in front. -/
def ofLong (chars : List Char) : List Token :=
  long (String.ofList (chars.takeWhile (!isEqual ·))) ::
    match chars.dropWhile (!isEqual ·) with
    | [] => []
    | _ :: value => [joined (String.ofList value)]

/-- A flag with the rest of its argument. With an equals sign in it the rest is a value, and
one such sign in front of the value is left out. -/
def ofShort (flag : Char) (rest : List Char) : Option (List Token) :=
  if rest.any isEqual then
    if flag.toNat < 0x80 then
      let value := if rest.head?.any isEqual then rest.drop 1 else rest
      some [short flag, joined (String.ofList value)]
    else none
  else if rest.isEmpty || (flag :: rest).all knownFlags.contains then
    some ((flag :: rest).map short)
  else none

def ofArgument (argument : String) : List Token :=
  match argument.toList with
  | '-' :: '-' :: chars => ofLong chars
  | '-' :: flag :: rest => (ofShort flag rest).getD [word argument]
  | _ => [word argument]

def ofArguments : List String → List Token
  | [] => []
  | argument :: rest =>
    if argument = "--" then rest.map operand else ofArgument argument ++ ofArguments rest

end Token

end MazeGrader
