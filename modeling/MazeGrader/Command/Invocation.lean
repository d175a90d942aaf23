import MazeGrader.Command.Token

/-! The command line. The flag for quiet may stand anywhere, and options of a command
anywhere behind it. -/
namespace MazeGrader

inductive Command where
  | grade (json : Bool) (criteria : String) (submissions : List String)
  | generate (solutions : List String)
  | simulate (rules map start : String)
  deriving DecidableEq, Repr

structure Invocation where
  quiet : Bool
  command : Command
  deriving DecidableEq, Repr

namespace Invocation

/-- The arguments of a command by their use. -/
structure Arguments where
  quiet : Nat
  json : Nat
  starts : List String
  operands : List String
  deriving DecidableEq, Repr

def isQuiet (token : Token) : Bool := token == .short 'q' || token == .long "quiet"

/-- Sorts arguments by their use; there is no unknown option, and no value for a flag. -/
def sort : List Token → Option Arguments
  | [] => some ⟨0, 0, [], []⟩
  | .long "start" :: .word value :: rest | .long "start" :: .joined value :: rest => do
    let arguments ← sort rest
    return { arguments with starts := value :: arguments.starts }
  | .word text :: rest | .operand text :: rest => do
    let arguments ← sort rest
    return { arguments with operands := text :: arguments.operands }
  | token :: rest => do
    let arguments ← sort rest
    if token = .long "json" then some { arguments with json := arguments.json + 1 }
    else if isQuiet token then some { arguments with quiet := arguments.quiet + 1 }
    else none

def command? (name : String) (arguments : Arguments) : Option Command :=
  match name, arguments.json, arguments.starts, arguments.operands with
  | "grade", json, [], criteria :: submissions =>
    if json ≤ 1 then some (.grade (json == 1) criteria submissions) else none
  | "generate", 0, [], solutions | "gen", 0, [], solutions => some (.generate solutions)
  | "simulate", 0, [start], [rules, map] => some (.simulate rules map start)
  | _, _, _, _ => none

/-- The command is the first word, and only a flag for quiet may stand in front of it. -/
def ofTokens? (quiet : Bool) : List Token → Option Invocation
  | .word name :: rest => do
    let arguments ← sort rest
    let command ← command? name arguments
    if arguments.quiet + quiet.toNat ≤ 1 then
      some ⟨quiet || arguments.quiet == 1, command⟩
    else none
  | _ => none

def parse? (arguments : List String) : Option Invocation :=
  match Token.ofArguments arguments with
  | token :: rest => if isQuiet token then ofTokens? true rest else ofTokens? false (token :: rest)
  | [] => none

end Invocation

end MazeGrader
