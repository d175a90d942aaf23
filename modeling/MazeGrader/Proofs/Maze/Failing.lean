import MazeGrader.Proofs.Maze.Composition
import MazeGrader.Proofs.Maze.Perception

/-! Steps that fail. Such a step is counted and changes nothing else, its fault is true of the map
that the run began on, and no step and no cap after it comes to anything but that fault. -/
namespace MazeGrader

namespace Grid

/-- There is no way to a place: it is off the map, or a wall stands there. -/
def Blocks (grid : Grid) (row col : Int) : Prop :=
  grid.get? row col = none ∨ grid.get? row col = some .wall

theorem free_eq_false_iff {grid : Grid} {place : Int × Int} :
    grid.free place = false ↔ grid.Blocks place.1 place.2 := by
  unfold free Blocks
  rcases grid.get? place.1 place.2 with _ | _ | _ | _ <;> simp [Run.passable]

theorem perceived_eq_wall_iff {grid : Grid} {row col : Int} :
    grid.perceived row col = .wall ↔ grid.Blocks row col := by
  unfold perceived Blocks
  rcases grid.get? row col with _ | _ | _ | _ <;> simp [Cell.perceived]

/-- A visited cell was clear, so marks do not change where there is no way. -/
theorem MarkedAs.blocks_iff {grid marked : Grid} (sofar : grid.MarkedAs marked) (row col : Int) :
    marked.Blocks row col ↔ grid.Blocks row col := by
  unfold Blocks get?
  split
  · rcases sofar.cells row.toNat col.toNat with same | ⟨clear, visited⟩
    · rw [same]
    · simp [clear, visited]
  · rfl

/-- The surroundings of a place have their walls where the map blocks the way. -/
structure Surrounds (grid : Grid) (row col : Int) (s : Surroundings) : Prop where
  north : s.north = .wall ↔ grid.Blocks (row - 1) col
  east : s.east = .wall ↔ grid.Blocks row (col + 1)
  west : s.west = .wall ↔ grid.Blocks row (col - 1)
  south : s.south = .wall ↔ grid.Blocks (row + 1) col

theorem MarkedAs.surrounds {grid marked : Grid} (sofar : grid.MarkedAs marked) (row col : Int) :
    grid.Surrounds row col (marked.surroundings row col) := by
  constructor <;> exact perceived_eq_wall_iff.trans (sofar.blocks_iff ..)

end Grid

/-- The target is the place next to another one on that side; staying has no such target. -/
def Direction.LeadsTo (direction : Direction) (place target : Int × Int) : Prop :=
  match direction with
  | .north => target = (place.1 - 1, place.2)
  | .east => target = (place.1, place.2 + 1)
  | .west => target = (place.1, place.2 - 1)
  | .south => target = (place.1 + 1, place.2)
  | .stay => False

theorem Direction.leadsTo_target {direction : Direction} (moves : direction ≠ .stay)
    (place : Int × Int) : direction.LeadsTo place (direction.target place) := by
  cases direction with
  | stay => exact absurd rfl moves
  | _ => simp [LeadsTo, target, offset, Int.sub_eq_add_neg]

namespace Run

variable {rules : RuleTable} {grid : Grid} {run : Run} {fault : Fault}

/-- What a fault tells of the run that it ends holds on this map. -/
inductive Explains (rules : RuleTable) (grid : Grid) (run : Run) : Fault → Prop
  | noRule (s : Surroundings) (around : grid.Surrounds run.row run.col s)
      (missing : rules.lookup run.state s = none) : Explains rules grid run (.noRule run.state s)
  | blocked (s : Surroundings) (t : Transition) (row col : Int)
      (around : grid.Surrounds run.row run.col s) (found : rules.lookup run.state s = some t)
      (ahead : t.direction.LeadsTo run.place (row, col)) (blocks : grid.Blocks row col) :
      Explains rules grid run (.blocked row col)

theorem Consistent.surrounds (consistent : run.Consistent grid) :
    grid.Surrounds run.row run.col run.surroundings :=
  consistent.marked.surrounds run.row run.col

/-- Where a step is blocked the agent was sent to another place. -/
theorem Consistent.ne_stay_of_blocked (consistent : run.Consistent grid) {direction : Direction}
    (blocked : run.grid.free (direction.target run.place) = false) : direction ≠ .stay := by
  rintro rfl
  have wall := (consistent.target_not_free_iff .stay).1 blocked
  cases wall

theorem Consistent.step_failed (consistent : run.Consistent grid) (running : run.status = .running)
    (failed : (run.step rules).status = .failed fault) :
    run.step rules = run.failWith fault ∧ run.Explains rules grid fault := by
  rcases step_cases rules running with
    ⟨missing, stepped⟩ | ⟨t, found, ⟨blocked, stepped⟩ | ⟨row, col, -, -, stepped⟩⟩
  · rw [stepped] at failed
    cases failed
    exact ⟨stepped, .noRule _ consistent.surrounds missing⟩
  · rw [stepped] at failed
    cases failed
    have moves := consistent.ne_stay_of_blocked blocked
    have blocks := (consistent.marked.blocks_iff ..).1 (Grid.free_eq_false_iff.1 blocked)
    exact ⟨stepped, .blocked _ t _ _ consistent.surrounds found
      (Direction.leadsTo_target moves run.place) blocks⟩
  · rw [stepped] at failed
    exact (statusAfter_ne_failed _ _ failed).elim

theorem finish_of_failed (failed : run.status = .failed fault) (rules : RuleTable) (cap : Nat) :
    run.finish rules cap = .error fault := by
  have ended : run.status ≠ .running := by
    rw [failed]
    exact Status.noConfusion
  rw [finish_eq_iterate, iterate_of_ended rules ended]
  exact outcome_eq_error_iff.2 failed

/-- A step that fails adds one to the steps and leaves all else as it was, its fault is true of
the agent where it stands on the map that the run began on, and the run remains as it is then. -/
theorem failed_step {rules : RuleTable} {grid : Grid} {position : Nat × Nat} {begun now : Run}
    {fault : Fault} {n : Nat} (placed : begin? grid position = .ok begun)
    (reached : now = (step rules)^[n] begun) (running : now.status = .running)
    (failed : (now.step rules).status = .failed fault) :
    now.step rules = { now with steps := now.steps + 1, status := .failed fault } ∧
      (now.step rules).coverage = now.coverage ∧
      now.Explains rules grid fault ∧
      (∀ m, (step rules)^[m] (now.step rules) = now.step rules) ∧
      ∀ cap, (now.step rules).finish rules cap = .error fault := by
  have consistent : now.Consistent grid := reached ▸ (consistent_of_begin? placed).iterate rules n
  obtain ⟨stepped, explains⟩ := consistent.step_failed running failed
  have ended : (now.step rules).status ≠ .running := by
    rw [failed]
    exact Status.noConfusion
  refine ⟨stepped, ?_, explains, iterate_of_ended rules ended, finish_of_failed failed rules⟩
  rw [stepped]
  rfl

/-- To the north of the corridor there is no map. -/
theorem failed_step_corridor :
    ∃ begun, begin? .corridor (0, 0) = .ok begun ∧
      begun.status = .running ∧
      (begun.step .northward).status = .failed (.blocked (-1) 0) ∧
      begun.Explains .northward .corridor (.blocked (-1) 0) ∧
      ((step .northward)^[3] (begun.step .northward)).steps = 1 ∧
      (begun.step .northward).finish .northward 0 = .error (.blocked (-1) 0) := by
  have placed : passable (Grid.corridor.at? 0 0) = true := by decide
  have running : (origin .corridor (Walk.start (0, 0))).status = .running := by decide
  have failed : ((origin .corridor (Walk.start (0, 0))).step .northward).status =
      .failed (.blocked (-1) 0) := by decide +kernel
  have reached : origin .corridor (Walk.start (0, 0)) =
      (step .northward)^[0] (origin .corridor (Walk.start (0, 0))) := rfl
  obtain ⟨stepped, -, explains, stays, ends⟩ :=
    failed_step (begin?_eq placed) reached running failed
  refine ⟨_, begin?_eq placed, running, failed, explains, ?_, ends 0⟩
  rw [stays 3, stepped]
  rfl

end Run

end MazeGrader
