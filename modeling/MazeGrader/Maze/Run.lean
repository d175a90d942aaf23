import MazeGrader.Maze.Grid
import MazeGrader.Rules.RuleTable

/-! Runs of an agent over a map. A run ends when no clear cell is left or a step fails;
after that a step changes nothing. -/
namespace MazeGrader

/-- The part of the clear cells that was visited. -/
abbrev Coverage := Rat

inductive Status where
  | running
  | completed
  | failed (fault : Fault)
  deriving DecidableEq, Repr

/-- `total` and `remaining` count the cells that were clear at the start and are clear now. -/
structure Run where
  grid : Grid
  state : State
  row : Nat
  col : Nat
  total : Nat
  remaining : Nat
  steps : Nat
  status : Status
  deriving DecidableEq

namespace Run

/-- Whether an agent can be on a cell. -/
def passable : Option Cell → Bool
  | some .clear | some .visited => true
  | some .wall | none => false

def statusAfter (remaining : Nat) : Status := if remaining = 0 then .completed else .running

/-- Places an agent in state zero and visits its cell. -/
def begin? (grid : Grid) (start : Nat × Nat) : Except Fault Run :=
  let (row, col) := start
  if passable (grid.at? row col) then
    let total := grid.numClear
    let (marked, first) := grid.visit row col
    let remaining := if first then total - 1 else total
    .ok ⟨marked, 0, row, col, total, remaining, 0, statusAfter remaining⟩
  else .error (.badStart row col)

def surroundings (run : Run) : Surroundings := run.grid.surroundings run.row run.col

def coverage (run : Run) : Coverage :=
  if run.total = 0 then 1 else mkRat (run.total - run.remaining : Nat) run.total

/-- Applies the rule for the present state and surroundings. -/
def move (rules : RuleTable) (run : Run) : Except Fault Run :=
  match rules.lookup run.state run.surroundings with
  | none => .error (.noRule run.state run.surroundings)
  | some transition =>
    let row := run.row + transition.direction.offset.1
    let col := run.col + transition.direction.offset.2
    if passable (run.grid.get? row col) then
      let (grid, first) := run.grid.visit row.toNat col.toNat
      .ok { run with
        grid, state := transition.next, row := row.toNat, col := col.toNat
        remaining := if first then run.remaining - 1 else run.remaining }
    else .error (.blocked row col)

def step (rules : RuleTable) (run : Run) : Run :=
  match run.status with
  | .running =>
    match run.move rules with
    | .ok next =>
      { next with steps := run.steps + 1, status := statusAfter next.remaining }
    | .error fault => { run with steps := run.steps + 1, status := .failed fault }
  | .completed | .failed _ => run

/-- At most so many steps, and none once the run has ended. -/
def advance (rules : RuleTable) : Nat → Run → Run
  | 0, run => run
  | more + 1, run =>
    match run.status with
    | .running => advance rules more (run.step rules)
    | .completed | .failed _ => run

end Run

/-- What a run without a failure comes to. -/
structure Outcome where
  coverage : Coverage
  steps : Nat
  hitCap : Bool
  position : Nat × Nat
  grid : Grid
  deriving DecidableEq

namespace Run

def outcome (run : Run) : Except Fault Outcome :=
  match run.status with
  | .failed fault => .error fault
  | .running => .ok ⟨run.coverage, run.steps, true, (run.row, run.col), run.grid⟩
  | .completed => .ok ⟨run.coverage, run.steps, false, (run.row, run.col), run.grid⟩

/-- Runs on until the run ends or `cap` steps were taken in all. -/
def finish (rules : RuleTable) (cap : Nat) (run : Run) : Except Fault Outcome :=
  (run.advance rules (cap - run.steps)).outcome

end Run

/-- Four times the number of cells, surroundings and states there are, in 64 bits. -/
def defaultCap (rules : RuleTable) (grid : Grid) : UInt64 :=
  UInt64.ofNat grid.numCells * 16 * UInt64.ofNat (max rules.numStates 1) * 4

def simulate (rules : RuleTable) (grid : Grid) (start : Nat × Nat) (cap : Option UInt64) :
    Except Fault Outcome := do
  let run ← Run.begin? grid start
  run.finish rules (cap.getD (defaultCap rules grid)).toNat

end MazeGrader
