import MazeGrader.Rules.RuleLine
import MazeGrader.Rules.RuleTable
import MazeGrader.Text.Blank
import MazeGrader.Text.Lines

/-! Compiling a rule file. Blank lines and comments are skipped but counted, and the first
line that cannot be read or repeats an entry ends the work. -/
namespace MazeGrader

/-- A line without the blanks around it holds a rule unless nothing is left or it is a
comment. -/
def isRuleText : List Char → Bool
  | [] => false
  | c :: _ => c != '#'

namespace RuleTable

/-- Adds the rules of some lines, of which the first has the number `index`. -/
def addLines (table : RuleTable) (index : Nat) : List (List Char) → Except Fault RuleTable
  | [] => .ok table
  | line :: rest =>
    let body := Text.strip line
    if isRuleText body then
      match Rule.read? body with
      | none => .error (.unreadableLine index)
      | some rule =>
        match table.addRule rule with
        | (table, none) => addLines table (index + 1) rest
        | (_, some fault) => .error fault
    else addLines table (index + 1) rest

def compileLines (lines : List (List Char)) : Except Fault RuleTable := empty.addLines 0 lines

def compile (lines : List String) : Except Fault RuleTable :=
  compileLines (lines.map String.toList)

def compileSource (source : String) : Except Fault RuleTable :=
  compileLines (Text.lines source.toList)

end RuleTable

/-- Reads one line that was stripped and is no comment. -/
def Rule.parse (line : String) (index : Nat) : Except Fault Rule :=
  match Rule.read? line.toList with
  | some rule => .ok rule
  | none => .error (.unreadableLine index)

end MazeGrader
