import MazeGrader.Proofs.Maze.Simulation
import Mathlib.Logic.Function.Iterate

/-! The books of a run. The marks on its map, its count of clear cells and its status are
brought up to date in different places, and they agree after any number of steps. -/
namespace MazeGrader

namespace Grid

/-! ### Coordinates of 64 bits -/

/-- No row and no column of the map has a number beyond the signed numbers of 64 bits. -/
def Addressable (grid : Grid) : Prop :=
  grid.height ≤ 2 ^ 63 ∧ ∀ cells ∈ grid.rows, cells.length ≤ 2 ^ 63

theorem at?_eq_none_of_height_le {grid : Grid} {row : Nat} (below : grid.height ≤ row)
    (col : Nat) : grid.at? row col = none := by
  have missing : grid.rows[row]? = none := List.getElem?_eq_none below
  simp [at?, missing]

theorem Addressable.at?_eq_none {grid : Grid} (addressable : grid.Addressable) {row col : Nat}
    (beyond : 2 ^ 63 ≤ row ∨ 2 ^ 63 ≤ col) : grid.at? row col = none := by
  rcases beyond with below | right
  · exact at?_eq_none_of_height_le (addressable.1.trans below) col
  · cases found : grid.rows[row]? with
    | none => simp [at?, found]
    | some cells =>
      have short := addressable.2 cells (List.mem_of_getElem? found)
      have missing : cells[col]? = none := List.getElem?_eq_none (short.trans right)
      simp [at?, found, missing]

/-- A coordinate of the upper half is negative when it is read as a signed number. -/
theorem toInt_toInt64 (n : UInt64) :
    n.toInt64.toInt = if n.toNat < 2 ^ 63 then (n.toNat : Int) else n.toNat - 2 ^ 64 := by
  have halves : n.toInt64.toInt =
      if 2 * n.toNat < 2 ^ 64 then (n.toNat : Int) else n.toNat - (2 ^ 64 : Nat) :=
    BitVec.toInt_eq_toNat_cond n.toBitVec
  rw [halves]
  split <;> split <;> omega

/-- Reading coordinates as signed numbers brings none of them back onto the map. -/
theorem Addressable.get?_toInt64 {grid : Grid} (addressable : grid.Addressable)
    (row col : UInt64) :
    grid.get? row.toInt64.toInt col.toInt64.toInt = grid.at? row.toNat col.toNat := by
  have rowBound := row.toNat_lt
  have colBound := col.toNat_lt
  rw [toInt_toInt64, toInt_toInt64]
  by_cases upper : row.toNat < 2 ^ 63 ∧ col.toNat < 2 ^ 63
  · rw [if_pos upper.1, if_pos upper.2, get?_ofNat]
  · have beyond : 2 ^ 63 ≤ row.toNat ∨ 2 ^ 63 ≤ col.toNat := by omega
    rw [addressable.at?_eq_none beyond]
    unfold get?
    refine if_neg ?_
    rcases beyond with below | right
    · rw [if_neg (Nat.not_lt.2 below)]
      omega
    · rw [if_neg (Nat.not_lt.2 right)]
      omega

end Grid

namespace Run

variable {rules : RuleTable} {grid : Grid} {run : Run}

/-! ### What a step can do -/

/-- The run after a step that failed. -/
def failWith (run : Run) (fault : Fault) : Run :=
  { run with steps := run.steps + 1, status := .failed fault }

/-- The run after a step to a cell. -/
def arrive (run : Run) (next : State) (row col : Nat) : Run where
  grid := run.grid.mark row col
  state := next
  row
  col
  total := run.total
  remaining := if run.grid.at? row col = some .clear then run.remaining - 1 else run.remaining
  steps := run.steps + 1
  status := statusAfter
    (if run.grid.at? row col = some .clear then run.remaining - 1 else run.remaining)

theorem step_of_missing (running : run.status = .running)
    (missing : rules.lookup run.state run.surroundings = none) :
    run.step rules = run.failWith (.noRule run.state run.surroundings) := by
  simp only [step, running, move_of_missing missing]
  rfl

theorem step_of_wall {t : Transition} (running : run.status = .running)
    (found : rules.lookup run.state run.surroundings = some t)
    (wall : run.grid.free (t.direction.target run.place) = false) :
    run.step rules = run.failWith
      (.blocked (t.direction.target run.place).1 (t.direction.target run.place).2) := by
  simp only [step, running, move_of_wall found wall]
  rfl

theorem step_of_free {t : Transition} (running : run.status = .running)
    (found : rules.lookup run.state run.surroundings = some t) {row col : Nat}
    (ahead : t.direction.target run.place = ((row : Int), (col : Int)))
    (free : run.grid.free (t.direction.target run.place) = true) :
    run.step rules = run.arrive t.next row col := by
  simp only [step, running, move_of_free found ahead free]
  rfl

/-- A step has no rule to follow, is blocked, or comes to a cell that is no wall. -/
theorem step_cases (rules : RuleTable) (running : run.status = .running) :
    (rules.lookup run.state run.surroundings = none ∧
      run.step rules = run.failWith (.noRule run.state run.surroundings)) ∨
    ∃ t, rules.lookup run.state run.surroundings = some t ∧
      (run.grid.free (t.direction.target run.place) = false ∧
        run.step rules = run.failWith
          (.blocked (t.direction.target run.place).1 (t.direction.target run.place).2) ∨
      ∃ row col : Nat, t.direction.target run.place = ((row : Int), (col : Int)) ∧
        passable (run.grid.at? row col) = true ∧ run.step rules = run.arrive t.next row col) := by
  cases found : rules.lookup run.state run.surroundings with
  | none => exact .inl ⟨rfl, step_of_missing running found⟩
  | some t =>
    refine .inr ⟨t, rfl, ?_⟩
    cases free : run.grid.free (t.direction.target run.place) with
    | false => exact .inl ⟨rfl, step_of_wall running found free⟩
    | true =>
      obtain ⟨row, col, ahead, placed⟩ := Grid.free_eq_true free
      exact .inr ⟨row, col, ahead, placed, step_of_free running found ahead free⟩

theorem step_of_ended (rules : RuleTable) (ended : run.status ≠ .running) :
    run.step rules = run := by
  unfold step
  split
  · next running => exact absurd running ended
  · rfl
  · rfl

/-- Once a run has ended it stays as it is. -/
theorem iterate_of_ended (rules : RuleTable) (ended : run.status ≠ .running) (n : Nat) :
    (step rules)^[n] run = run :=
  Function.iterate_fixed (step_of_ended rules ended) n

theorem iterate_of_le {m n : Nat} (le : m ≤ n) :
    (step rules)^[n] run = (step rules)^[n - m] ((step rules)^[m] run) := by
  rw [← Function.iterate_add_apply, Nat.sub_add_cancel le]

/-- A run that ended is the same under any number of steps more. -/
theorem iterate_of_ended_of_le {m n : Nat} (ended : ((step rules)^[m] run).status ≠ .running)
    (le : m ≤ n) : (step rules)^[n] run = (step rules)^[m] run := by
  rw [iterate_of_le le, iterate_of_ended rules ended]

theorem advance_eq_iterate (rules : RuleTable) (run : Run) (n : Nat) :
    run.advance rules n = (step rules)^[n] run := by
  induction n generalizing run with
  | zero => rfl
  | succ n ih =>
    by_cases running : run.status = .running
    · simp only [advance, running]
      rw [ih, Function.iterate_succ_apply]
    · rw [advance_of_ended rules running, iterate_of_ended rules running]

theorem outcome_eq_error_iff {fault : Fault} :
    run.outcome = .error fault ↔ run.status = .failed fault := by
  unfold outcome
  split
  · next stopped => simp [stopped]
  · next running => simp [running]
  · next completed => simp [completed]

/-! ### What every run keeps to -/

/-- The marks, the counts and the status of a run on a map agree. -/
structure Consistent (grid : Grid) (run : Run) : Prop where
  occupied : run.grid.at? run.row run.col = some .visited
  marked : grid.MarkedAs run.grid
  total : run.total = grid.numClear
  remaining : run.remaining = run.grid.numClear
  bounded : run.remaining ≤ run.total
  ended : run.status = .completed ↔ run.remaining = 0

theorem statusAfter_eq_completed_iff {remaining : Nat} :
    statusAfter remaining = .completed ↔ remaining = 0 := by
  unfold statusAfter
  split
  · next finished => exact ⟨fun _ => finished, fun _ => rfl⟩
  · next left => exact ⟨fun running => (nomatch running), fun finished => absurd finished left⟩

theorem statusAfter_ne_failed (remaining : Nat) (fault : Fault) :
    statusAfter remaining ≠ .failed fault := by
  unfold statusAfter
  split <;> exact Status.noConfusion

theorem begin?_eq_error_iff {position : Nat × Nat} {fault : Fault} :
    begin? grid position = .error fault ↔ fault = .badStart position.1 position.2 ∧
      (grid.at? position.1 position.2 = none ∨ grid.at? position.1 position.2 = some .wall) := by
  have off : passable (grid.at? position.1 position.2) = false ↔
      (grid.at? position.1 position.2 = none ∨ grid.at? position.1 position.2 = some .wall) := by
    rcases grid.at? position.1 position.2 with _ | _ | _ | _ <;> simp [passable]
  rw [← off]
  cases placed : passable (grid.at? position.1 position.2) with
  | false =>
    rw [begin?_eq_error placed]
    simp [eq_comm]
  | true =>
    rw [begin?_eq placed]
    simp

theorem begin?_eq_ok {position : Nat × Nat} (begun : begin? grid position = .ok run) :
    passable (grid.at? position.1 position.2) = true ∧ run = origin grid (Walk.start position) := by
  cases placed : passable (grid.at? position.1 position.2) with
  | false =>
    rw [begin?_eq_error placed] at begun
    cases begun
  | true =>
    rw [begin?_eq placed] at begun
    cases begun
    exact ⟨rfl, rfl⟩

theorem grid_origin (grid : Grid) (position : Nat × Nat) :
    (origin grid (Walk.start position)).grid = grid.mark position.1 position.2 := by
  have first := Grid.markEach_insert grid ∅ position.1 position.2
  rwa [insert_empty_eq, Grid.markEach_empty] at first

theorem consistent_of_begin? {position : Nat × Nat} (begun : begin? grid position = .ok run) :
    run.Consistent grid := by
  obtain ⟨placed, rfl⟩ := begin?_eq_ok begun
  have lost := grid.numClear_markEach {(Walk.start position).place}
  refine ⟨?_, ?_, rfl, rfl, Nat.le.intro lost, statusAfter_eq_completed_iff⟩
  · rw [grid_origin]
    exact Grid.at?_mark_self placed
  · rw [grid_origin]
    exact (Grid.MarkedAs.refl grid).mark position.1 position.2

namespace Consistent

theorem remaining_pos (consistent : run.Consistent grid) (going : run.status ≠ .completed) :
    0 < run.remaining :=
  Nat.pos_of_ne_zero fun finished => going (consistent.ended.2 finished)

theorem failWith (consistent : run.Consistent grid) (running : run.status = .running)
    (fault : Fault) : (run.failWith fault).Consistent grid := by
  have going : run.status ≠ .completed := by
    rw [running]
    exact Status.noConfusion
  have left := consistent.remaining_pos going
  refine { consistent with ended := ?_ }
  constructor
  · intro completed
    cases completed
  · intro finished
    exact absurd finished left.ne'

theorem arrive (consistent : run.Consistent grid) (next : State) {row col : Nat}
    (placed : passable (run.grid.at? row col) = true) :
    (run.arrive next row col).Consistent grid where
  occupied := Grid.at?_mark_self placed
  marked := consistent.marked.mark row col
  total := consistent.total
  remaining := by
    unfold Run.arrive
    rw [consistent.remaining, Grid.numClear_mark_eq]
  bounded := by
    have bounded := consistent.bounded
    unfold Run.arrive
    dsimp only
    split <;> omega
  ended := statusAfter_eq_completed_iff

theorem step (consistent : run.Consistent grid) (rules : RuleTable) :
    (run.step rules).Consistent grid := by
  by_cases running : run.status = .running
  · -- Marks and counts only change in the last case, where the agent moves.
    rcases step_cases rules running with ⟨-, stepped⟩ | ⟨t, -, ⟨-, stepped⟩ | arrives⟩
    · rw [stepped]
      exact consistent.failWith running _
    · rw [stepped]
      exact consistent.failWith running _
    · obtain ⟨row, col, -, placed, stepped⟩ := arrives
      rw [stepped]
      exact consistent.arrive t.next placed
  · rw [step_of_ended rules running]
    exact consistent

theorem iterate (consistent : run.Consistent grid) (rules : RuleTable) (n : Nat) :
    ((Run.step rules)^[n] run).Consistent grid := by
  induction n with
  | zero => exact consistent
  | succ n ih =>
    rw [Function.iterate_succ_apply']
    exact ih.step rules

theorem coverage (consistent : run.Consistent grid) :
    run.coverage = if grid.numClear = 0 then 1
      else ((grid.numClear : Rat) - run.grid.numClear) / grid.numClear := by
  have bounded := consistent.bounded
  rw [consistent.total, consistent.remaining] at bounded
  split
  · next empty =>
    rw [← consistent.total] at empty
    simp [Run.coverage, empty]
  · next nonzero =>
    rw [← consistent.total] at nonzero
    rw [coverage_eq nonzero, consistent.total, consistent.remaining, Nat.cast_sub bounded]

end Consistent

/-- No failure is forgotten. -/
theorem status_iterate_of_failed {fault : Fault} {m n : Nat} (le : m ≤ n)
    (failed : ((step rules)^[m] run).status = .failed fault) :
    ((step rules)^[n] run).status = .failed fault := by
  have ended : ((step rules)^[m] run).status ≠ .running := by
    rw [failed]
    exact Status.noConfusion
  rw [iterate_of_ended_of_le ended le, failed]

/-- A run begins on every cell that is no wall, also where the map has marks already, and
after any number of steps its map, its counts and its status agree. -/
theorem records_agree (rules : RuleTable) (grid : Grid) (row col : UInt64) :
    (∀ fault, begin? grid (row.toNat, col.toNat) = .error fault ↔
      fault = .badStart row.toNat col.toNat ∧
        (grid.at? row.toNat col.toNat = none ∨ grid.at? row.toNat col.toNat = some .wall)) ∧
    (grid.Addressable →
      grid.get? row.toInt64.toInt col.toInt64.toInt = grid.at? row.toNat col.toNat ∧
      (2 ^ 63 ≤ row.toNat ∨ 2 ^ 63 ≤ col.toNat →
        begin? grid (row.toNat, col.toNat) = .error (.badStart row.toNat col.toNat))) ∧
    (∀ r c, (grid.visit r c).2 = true → 0 < grid.numClear) ∧
    ∀ run, begin? grid (row.toNat, col.toNat) = .ok run →
      ∀ n now, now = (step rules)^[n] run →
        now.grid.at? now.row now.col = some .visited ∧
        (∀ r c, now.grid.at? r c = some .wall ↔ grid.at? r c = some .wall) ∧
        now.grid.height = grid.height ∧ now.grid.widths = grid.widths ∧
        now.remaining = now.grid.numClear ∧ now.remaining ≤ now.total ∧
        now.total = grid.numClear ∧
        (∀ r c, (now.grid.visit r c).2 = true → 0 < now.remaining) ∧
        (∀ r c, now.grid.at? r c ≠ grid.at? r c →
          grid.at? r c = some .clear ∧ now.grid.at? r c = some .visited) ∧
        (now.status = .completed ↔
          now.remaining = 0 ∧ ∀ m ≤ n, ∀ fault, ((step rules)^[m] run).status ≠ .failed fault) ∧
        (∀ fault, now.status = .failed fault → 0 < now.remaining) ∧
        now.coverage = if grid.numClear = 0 then 1
          else ((grid.numClear : Rat) - now.grid.numClear) / grid.numClear := by
  refine ⟨fun fault => begin?_eq_error_iff, fun addressable => ⟨?_, fun beyond => ?_⟩, ?_, ?_⟩
  · exact addressable.get?_toInt64 row col
  · exact begin?_eq_error_iff.2 ⟨rfl, .inl (addressable.at?_eq_none beyond)⟩
  · intro r c first
    exact Grid.numClear_pos_of_visit first
  · rintro run begun n now rfl
    have consistent := (consistent_of_begin? begun).iterate rules n
    refine ⟨consistent.occupied, consistent.marked.wall_iff, consistent.marked.height,
      consistent.marked.widths, consistent.remaining, consistent.bounded, consistent.total,
      ?_, fun r c => consistent.marked.of_ne, ⟨?_, ?_⟩, ?_, consistent.coverage⟩
    · intro r c first
      rw [consistent.remaining]
      exact Grid.numClear_pos_of_visit first
    · intro completed
      refine ⟨consistent.ended.1 completed, fun m le fault failed => ?_⟩
      rw [status_iterate_of_failed le failed] at completed
      cases completed
    · exact fun finished => consistent.ended.2 finished.1
    · intro fault failed
      have going : ((step rules)^[n] run).status ≠ .completed := by
        rw [failed]
        exact Status.noConfusion
      exact consistent.remaining_pos going

end Run

/-- A map of two rows of which one cell was visited before. -/
def Grid.resumed : Grid := ⟨[[.visited, .clear], [.wall]]⟩

/-- A run on it before its first step. -/
def Run.resumed : Run := ⟨.resumed, 0, 0, 0, 1, 1, 0, .running⟩

theorem Run.records_agree_resumed :
    Grid.resumed.Addressable ∧ 2 ^ 63 ≤ (9223372036854775808 : UInt64).toNat ∧
    begin? .resumed (9223372036854775808, 0) = .error (.badStart 9223372036854775808 0) ∧
    begin? .resumed (0, 0) = .ok resumed ∧
    ((step .eastward)^[2] resumed).status = .completed ∧
    ((step .eastward)^[2] resumed).coverage = 1 := by
  have small : Grid.resumed.Addressable := ⟨by decide, by decide⟩
  have beyond : 2 ^ 63 ≤ (9223372036854775808 : UInt64).toNat := by decide
  obtain ⟨-, outside, -⟩ := records_agree .eastward .resumed 9223372036854775808 0
  have begun : begin? .resumed (0, 0) = .ok resumed := by decide
  have completed : ((step .eastward)^[2] resumed).status = .completed := by decide +kernel
  obtain ⟨-, -, -, -, counted, -, -, -, -, ends, -, coverage⟩ :=
    (records_agree .eastward .resumed 0 0).2.2.2 resumed begun 2 _ rfl
  have total : Grid.resumed.numClear = 1 := by decide
  refine ⟨small, beyond, (outside small).2 (.inl beyond), begun, completed, ?_⟩
  rw [coverage, ← counted, (ends.1 completed).1, total]
  simp

end MazeGrader
