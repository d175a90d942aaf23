import MazeGrader.Ordered.Entries
import MazeGrader.Rules.Fault

/-! Compiled rules: for each known state the transition in each of the sixteen surroundings,
where one was written. An entry is written once. -/
namespace MazeGrader

/-- The entries of one state by the index of the surroundings. -/
abbrev RuleRow := Vector (Option Transition) 16

def RuleRow.empty : RuleRow := Vector.replicate 16 none

structure RuleTable where
  rows : List (State × RuleRow)
  ascending : Entries.Ascending rows
  deriving DecidableEq

namespace RuleTable

def empty : RuleTable := ⟨[], Entries.ascending_nil⟩

def row? (table : RuleTable) (state : State) : Option RuleRow := Entries.find? state table.rows

def knows (table : RuleTable) (state : State) : Bool := (table.row? state).isSome

def lookup (table : RuleTable) (state : State) (s : Surroundings) : Option Transition :=
  (table.row? state).bind fun row => row[s.index]

/-- Changes the row of a state, which is empty if the state is new. -/
def modifyRow (table : RuleTable) (state : State) (change : RuleRow → RuleRow) : RuleTable :=
  ⟨Entries.update state (fun row => change (row.getD .empty)) table.rows,
    Entries.update_ascending table.ascending⟩

/-- Makes a state known. -/
def register (table : RuleTable) (state : State) : RuleTable := table.modifyRow state id

def insert (table : RuleTable) (state : State) (s : Surroundings) (t : Transition) :
    Except Fault RuleTable :=
  if (table.lookup state s).isSome then .error (.repeatedRule state s)
  else .ok (table.modifyRow state fun row => row.set s.index (some t))

/-- Inserts a transition under several surroundings of a state, up to the first one taken. -/
def insertAll (table : RuleTable) (state : State) (t : Transition) :
    List Surroundings → RuleTable × Option Fault
  | [] => (table, none)
  | s :: rest =>
    match table.insert state s t with
    | .ok table => insertAll table state t rest
    | .error fault => (table, some fault)

/-- Adds a rule and says what stopped it. The next state is known whether or not it stopped. -/
def addRule (table : RuleTable) (rule : Rule) : RuleTable × Option Fault :=
  (table.register rule.transition.next).insertAll rule.state rule.transition rule.pattern.matching

def states (table : RuleTable) : List State := table.rows.map (·.1)

def numStates (table : RuleTable) : Nat := table.rows.length

def numRules (table : RuleTable) : Nat :=
  (table.rows.flatMap fun row => row.2.toList).countP Option.isSome

def entryText (row : RuleRow) (s : Surroundings) : String :=
  match row[s.index] with
  | some t => s.text ++ " -> " ++ String.ofList [t.direction.letter] ++ " " ++ toString t.next
  | none => s.text ++ " -> (no mapping)"

def rowText (entry : State × RuleRow) : String :=
  "while in state " ++ toString entry.1 ++ ":\n" ++
    String.join (Surroundings.all.map fun s => entryText entry.2 s ++ "\n")

/-- A block of sixteen lines for each state, in ascending order. -/
def text (table : RuleTable) : String := String.join (table.rows.map rowText)

theorem row?_modifyRow (table : RuleTable) (state other : State) (change : RuleRow → RuleRow) :
    (table.modifyRow state change).row? other =
      if other = state then some (change ((table.row? state).getD .empty))
      else table.row? other :=
  Entries.find?_update table.ascending

theorem states_ascending (table : RuleTable) : table.states.Pairwise (· < ·) :=
  List.pairwise_map.2 table.ascending

end RuleTable

end MazeGrader
