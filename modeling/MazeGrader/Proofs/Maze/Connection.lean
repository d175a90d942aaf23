import MazeGrader.Proofs.Maze.Composition
import MazeGrader.Proofs.Maze.Looping

/-! What a run visits hangs together. An agent only ever moves to a cell next to its own, so a
path of visited cells leads from the start to every visited cell, and there is at most one
such cell for each step. A map in two parts is never covered. -/
namespace MazeGrader

/-- Places next to each other in a row or in a column. -/
def Adjacent (place other : Int × Int) : Prop :=
  place.1 = other.1 ∧ (place.2 - other.2).natAbs = 1 ∨
    place.2 = other.2 ∧ (place.1 - other.1).natAbs = 1

theorem Direction.adjacent_target {direction : Direction} (moves : direction ≠ .stay)
    (place : Int × Int) : Adjacent place (direction.target place) := by
  cases direction with
  | stay => exact absurd rfl moves
  | _ => simp [Adjacent, target, offset]

theorem Direction.target_eq_self_or_adjacent (direction : Direction) (place : Int × Int) :
    direction.target place = place ∨ Adjacent place (direction.target place) := by
  by_cases moves : direction = .stay
  · subst moves
    simp [target, offset]
  · exact .inr (adjacent_target moves place)

/-- The places to which a path of adjacent places leads from a start, none of them outside
some area. -/
inductive Joined (area : Int × Int → Prop) (start : Int × Int) : Int × Int → Prop where
  | start : area start → Joined area start start
  | next {place other : Int × Int} :
      Joined area start place → Adjacent place other → area other → Joined area start other

theorem Joined.mono {area wider : Int × Int → Prop} {start place : Int × Int}
    (joined : Joined area start place) (within : ∀ place, area place → wider place) :
    Joined wider start place := by
  induction joined with
  | start inside => exact .start (within _ inside)
  | next _ adjacent inside ih => exact .next ih adjacent (within _ inside)

namespace Grid

def Visited (grid : Grid) (place : Int × Int) : Prop := grid.get? place.1 place.2 = some .visited

/-- The number of visited cells. -/
def numVisited (grid : Grid) : Nat := grid.rows.flatten.count .visited

@[simp] theorem visited_ofNat {grid : Grid} {row col : Nat} :
    grid.Visited ((row : Int), (col : Int)) ↔ grid.at? row col = some .visited := by
  simp [Visited]

variable {grid marked : Grid} {place : Int × Int} {row col : Nat}

theorem Visited.exists_cell (visited : grid.Visited place) :
    ∃ r c : Nat, place = ((r : Int), (c : Int)) ∧ grid.at? r c = some .visited := by
  obtain ⟨r, c, hr, hc, found⟩ := get?_eq_some visited
  exact ⟨r, c, Prod.ext hr hc, found⟩

theorem Clear.exists_cell (clear : grid.Clear place) :
    ∃ r c : Nat, place = ((r : Int), (c : Int)) ∧ grid.at? r c = some .clear := by
  obtain ⟨r, c, hr, hc, found⟩ := get?_eq_some clear
  exact ⟨r, c, Prod.ext hr hc, found⟩

theorem visited_mark (placed : Run.passable (grid.at? row col) = true) :
    (grid.mark row col).Visited place ↔
      place = ((row : Int), (col : Int)) ∨ grid.Visited place := by
  constructor
  · intro visited
    obtain ⟨r, c, rfl, found⟩ := visited.exists_cell
    rw [at?_mark] at found
    by_cases here : r = row ∧ c = col
    · obtain ⟨rfl, rfl⟩ := here
      exact .inl rfl
    · rw [if_neg here] at found
      exact .inr (visited_ofNat.2 found)
  · rintro (rfl | visited)
    · exact visited_ofNat.2 (at?_mark_self placed)
    · obtain ⟨r, c, rfl, found⟩ := visited.exists_cell
      apply visited_ofNat.2
      rw [at?_mark, found]
      split <;> rfl

/-! ### Counting visited cells -/

theorem Fresh.numVisited (fresh : grid.Fresh) : grid.numVisited = 0 := List.count_eq_zero.2 fresh

theorem Fresh.not_visited (fresh : grid.Fresh) : ¬grid.Visited place := by
  intro visited
  obtain ⟨r, c, -, found⟩ := visited.exists_cell
  obtain ⟨cells, atRow, atCol⟩ := Option.bind_eq_some_iff.1 found
  exact fresh (List.mem_flatten.2
    ⟨cells, List.mem_of_getElem? atRow, List.mem_of_getElem? atCol⟩)

theorem numVisited_pos (visited : grid.Visited place) : 0 < grid.numVisited :=
  List.count_pos_iff.2 (not_not.1 fun fresh => Fresh.not_visited fresh visited)

namespace MarkedAs

theorem map_perceived (sofar : grid.MarkedAs marked) :
    marked.rows.map (List.map Cell.perceived) = grid.rows.map (List.map Cell.perceived) := by
  apply List.ext_getElem (by simpa [Grid.height] using sofar.height)
  intro r inMarked inGrid
  rw [List.getElem_map, List.getElem_map]
  apply List.ext_getElem?
  intro c
  have cells := sofar.cells r c
  simp only [List.length_map] at inMarked inGrid
  simp only [at?, List.getElem?_eq_getElem inMarked, List.getElem?_eq_getElem inGrid,
    Option.bind_some] at cells
  rw [List.getElem?_map, List.getElem?_map]
  rcases cells with same | ⟨clear, visited⟩
  · rw [same]
  · simp [clear, visited, Cell.perceived]

theorem numClear_add_numVisited_eq (grid : Grid) :
    grid.numClear + grid.numVisited =
      (grid.rows.map (List.map Cell.perceived)).flatten.count .clear := by
  rw [← List.map_flatten]
  unfold numClear Grid.numVisited
  induction grid.rows.flatten with
  | nil => rfl
  | cons cell rest ih => cases cell <;> simp [Cell.perceived, ← ih] <;> omega

/-- Marks turn clear cells into visited ones and none of either kind is lost. -/
theorem numClear_add_numVisited (sofar : grid.MarkedAs marked) :
    marked.numClear + marked.numVisited = grid.numClear + grid.numVisited := by
  rw [numClear_add_numVisited_eq, numClear_add_numVisited_eq, sofar.map_perceived]

/-- On a map without marks all that was visited later was clear. -/
theorem clear_of_visited (sofar : grid.MarkedAs marked) (fresh : grid.Fresh)
    (visited : marked.Visited place) : grid.Clear place := by
  obtain ⟨r, c, rfl, found⟩ := visited.exists_cell
  rcases sofar.cells r c with same | ⟨clear, -⟩
  · exact absurd (visited_ofNat.2 (same.symm.trans found)) fresh.not_visited
  · simpa [Clear] using clear

theorem numClear_eq_zero_iff (sofar : grid.MarkedAs marked) :
    marked.numClear = 0 ↔ ∀ place, grid.Clear place → marked.Visited place := by
  rw [Grid.numClear_eq_zero_iff]
  constructor
  · intro absent place clear
    obtain ⟨r, c, rfl, found⟩ := clear.exists_cell
    apply visited_ofNat.2
    rcases sofar.cells r c with same | ⟨-, visited⟩
    · exact absurd (same.trans found) (absent r c)
    · exact visited
  · intro all r c left
    rcases sofar.cells r c with same | ⟨-, visited⟩
    · have visited := all ((r : Int), (c : Int)) (by simpa [Clear] using same.symm.trans left)
      rw [visited_ofNat, left] at visited
      cases visited
    · rw [visited] at left
      cases left

end MarkedAs

end Grid

namespace Run

variable {rules : RuleTable} {grid : Grid} {start : Int × Int} {run : Run}

/-! ### What a run has visited -/

/-- All visited cells are joined to the start, and they are not more than the steps allow. -/
structure Explored (start : Int × Int) (run : Run) : Prop where
  joined : ∀ place, run.grid.Visited place → Joined run.grid.Visited start place
  frugal : run.total ≤ run.remaining + run.steps + 1

theorem explored_origin {position : Nat × Nat} (fresh : grid.Fresh)
    (placed : passable (grid.at? position.1 position.2) = true) :
    (origin grid (Walk.start position)).Explored (position.1, position.2) := by
  constructor
  · intro place visited
    rw [grid_origin] at visited ⊢
    rcases (Grid.visited_mark placed).1 visited with rfl | earlier
    · exact .start visited
    · exact absurd earlier fresh.not_visited
  · have lost := grid.numClear_mark position.1 position.2
    rw [← grid_origin] at lost
    change grid.numClear ≤ (origin grid (Walk.start position)).grid.numClear + 0 + 1
    split at lost <;> omega

namespace Explored

theorem failWith (explored : run.Explored start) (fault : Fault) :
    (run.failWith fault).Explored start := by
  refine ⟨explored.joined, ?_⟩
  have frugal := explored.frugal
  simp only [Run.failWith]
  omega

theorem arrive (explored : run.Explored start) (occupied : run.grid.Visited run.place)
    {t : Transition} {row col : Nat}
    (ahead : t.direction.target run.place = ((row : Int), (col : Int)))
    (placed : passable (run.grid.at? row col) = true) :
    (run.arrive t.next row col).Explored start := by
  constructor
  · simp only [Run.arrive]
    have wider : ∀ place, run.grid.Visited place → (run.grid.mark row col).Visited place :=
      fun place visited => (Grid.visited_mark placed).2 (.inr visited)
    intro place visited
    rcases (Grid.visited_mark placed).1 visited with rfl | earlier
    · -- The new cell hangs on the one that the agent comes from.
      rw [← ahead] at visited ⊢
      rcases t.direction.target_eq_self_or_adjacent run.place with stays | adjacent
      · rw [stays]
        exact (explored.joined _ occupied).mono wider
      · exact .next ((explored.joined _ occupied).mono wider) adjacent visited
    · exact (explored.joined _ earlier).mono wider
  · have frugal := explored.frugal
    simp only [Run.arrive]
    split <;> omega

theorem step (explored : run.Explored start) (occupied : run.grid.Visited run.place)
    (rules : RuleTable) : (run.step rules).Explored start := by
  by_cases running : run.status = .running
  · rcases step_cases rules running with
      ⟨-, stepped⟩ | ⟨t, -, ⟨-, stepped⟩ | ⟨row, col, ahead, placed, stepped⟩⟩
    · rw [stepped]
      apply explored.failWith
    · rw [stepped]
      apply explored.failWith
    · rw [stepped]
      exact explored.arrive occupied ahead placed
  · rw [step_of_ended rules running]
    exact explored

theorem iterate (explored : run.Explored start) (consistent : run.Consistent grid)
    (rules : RuleTable) (n : Nat) : ((Run.step rules)^[n] run).Explored start := by
  induction n with
  | zero => exact explored
  | succ n ih =>
    rw [Function.iterate_succ_apply']
    have occupied := (consistent.iterate rules n).occupied
    exact ih.step (Grid.visited_ofNat.2 occupied) rules

end Explored

/-- Behind the outcome of a simulation stands a run whose books agree. -/
theorem exists_of_simulate {position : Nat × Nat} {cap : Option UInt64} {outcome : Outcome}
    (ends : simulate rules grid position cap = .ok outcome) :
    ∃ run : Run, run.outcome = .ok outcome ∧ run.Consistent grid ∧
      (grid.Fresh → run.Explored (position.1, position.2)) := by
  cases placed : passable (grid.at? position.1 position.2) with
  | false =>
    rw [simulate, begin?_eq_error placed] at ends
    cases ends
  | true =>
    rw [simulate_eq rules cap placed, finish_eq_iterate] at ends
    have consistent := consistent_of_begin? (begin?_eq placed)
    exact ⟨_, ends, consistent.iterate rules _,
      fun fresh => (explored_origin fresh placed).iterate consistent rules _⟩

/-- A run is cut short as long as clear cells are left. -/
theorem Consistent.hitCap_eq_false_iff (consistent : run.Consistent grid) {outcome : Outcome}
    (ends : run.outcome = .ok outcome) : outcome.hitCap = false ↔ run.grid.numClear = 0 := by
  rw [outcome_eq_ok ends, decide_eq_false_iff_not, ← consistent.remaining, ← consistent.ended]
  cases status : run.status with
  | running => simp
  | completed => simp
  | failed fault =>
    rw [outcome_eq_error_iff.2 status] at ends
    cases ends

theorem Consistent.coverage_eq_one_iff (consistent : run.Consistent grid)
    (nonzero : grid.numClear ≠ 0) : run.coverage = 1 ↔ run.grid.numClear = 0 := by
  have total : (grid.numClear : Rat) ≠ 0 := by exact_mod_cast nonzero
  rw [consistent.coverage, if_neg nonzero, div_eq_one_iff_eq total, sub_eq_self, Nat.cast_eq_zero]

end Run

/-- On a map without marks a simulation only visits cells to which a path of visited cells leads
from the start, no more of them than it takes steps and one, and its coverage counts just them.
So it is complete when all clear cells were visited, and a clear cell out of reach is in the way
of that under all rules. -/
theorem simulate_visits_joined {rules : RuleTable} {grid : Grid} {position : Nat × Nat}
    {cap : Option UInt64} {outcome : Outcome} (fresh : grid.Fresh)
    (ends : simulate rules grid position cap = .ok outcome) :
    (∀ place, outcome.grid.Visited place →
      Joined (fun place => grid.Clear place ∧ outcome.grid.Visited place)
        (position.1, position.2) place) ∧
    1 ≤ outcome.grid.numVisited ∧ outcome.grid.numVisited ≤ outcome.steps + 1 ∧
    outcome.coverage * grid.numClear = outcome.grid.numVisited ∧
    (outcome.coverage = 1 ↔ ∀ place, grid.Clear place → outcome.grid.Visited place) ∧
    (outcome.hitCap = false ↔ outcome.coverage = 1) ∧
    ∀ place, grid.Clear place → ¬Joined grid.Clear (position.1, position.2) place →
      outcome.coverage ≠ 1 := by
  obtain ⟨run, ends, consistent, explored⟩ := Run.exists_of_simulate ends
  obtain ⟨explored, frugal⟩ := explored fresh
  have balance := consistent.marked.numClear_add_numVisited
  rw [fresh.numVisited, Nat.add_zero] at balance
  have occupied : 1 ≤ run.grid.numVisited :=
    Grid.numVisited_pos (Grid.visited_ofNat.2 consistent.occupied)
  have nonzero : grid.numClear ≠ 0 := by omega
  have joined : ∀ place, run.grid.Visited place →
      Joined (fun place => grid.Clear place ∧ run.grid.Visited place) (position.1, position.2)
        place := by
    intro place visited
    apply (explored place visited).mono
    exact fun place visited => ⟨consistent.marked.clear_of_visited fresh visited, visited⟩
  have full := consistent.coverage_eq_one_iff nonzero
  have all := full.trans consistent.marked.numClear_eq_zero_iff
  have inTime := consistent.hitCap_eq_false_iff ends
  rw [Run.outcome_eq_ok ends] at inTime ⊢
  refine ⟨joined, occupied, ?_, ?_, all, inTime.trans full.symm, ?_⟩
  · rw [consistent.total, consistent.remaining] at frugal
    show run.grid.numVisited ≤ run.steps + 1
    omega
  · have total : (grid.numClear : Rat) ≠ 0 := by exact_mod_cast nonzero
    have counted := consistent.coverage
    rw [if_neg nonzero] at counted
    rw [counted, div_mul_cancel₀ _ total, ← balance, Nat.cast_add, add_sub_cancel_left]
  · intro place clear apart complete
    exact apart ((joined place (all.1 complete place clear)).mono fun place both => both.1)

/-- A map of two clear cells with a wall between. -/
def Grid.parted : Grid := ⟨[[.clear, .wall, .clear]]⟩

theorem not_joined_parted : ¬Joined Grid.parted.Clear (0, 0) (0, 2) := by
  suffices ∀ place, Joined Grid.parted.Clear (0, 0) place → place = (0, 0) from
    fun joined => absurd (this _ joined) (by decide)
  intro place joined
  induction joined with
  | start => rfl
  | next _ adjacent inside ih =>
    subst ih
    obtain ⟨r, c, rfl, found⟩ := inside.exists_cell
    obtain ⟨rfl, rfl⟩ | ⟨rfl, rfl⟩ : r = 0 ∧ c = 1 ∨ r = 1 ∧ c = 0 := by
      simp only [Adjacent] at adjacent
      omega
    · exact absurd found (by decide)
    · exact absurd found (by decide)

theorem simulate_visits_joined_parted :
    Grid.parted.Fresh ∧ ∃ outcome, simulate .standing .parted (0, 0) (some 3) = .ok outcome ∧
      outcome.grid.numVisited ≤ 4 ∧ outcome.coverage ≠ 1 := by
  have fresh : Grid.parted.Fresh := by decide
  have ends : simulate .standing .parted (0, 0) (some 3) =
      .ok ⟨1 / 2, 3, true, (0, 0), ⟨[[.visited, .wall, .clear]]⟩⟩ := by decide +kernel
  obtain ⟨-, -, frugal, -, -, -, parted⟩ := simulate_visits_joined fresh ends
  exact ⟨fresh, _, ends, frugal, parted (0, 2) (by decide) not_joined_parted⟩

end MazeGrader
