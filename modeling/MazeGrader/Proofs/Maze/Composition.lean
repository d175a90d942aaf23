import MazeGrader.Proofs.Maze.Bookkeeping
import Mathlib.Algebra.Order.Field.Basic
import Mathlib.Algebra.Order.Ring.Rat

/-! Runs in parts and runs under several caps. A cap counts all the steps of a run, also those
that were taken before it was set, and a run that has ended is past the reach of any cap. So
a run can be stopped and taken up again, and a larger cap only ever adds to what was visited. -/
namespace MazeGrader

theorem Grid.MarkedAs.trans {grid marked later : Grid} (first : grid.MarkedAs marked)
    (second : marked.MarkedAs later) : grid.MarkedAs later := by
  refine ⟨second.widths.trans first.widths, fun r c => ?_⟩
  rcases second.cells r c with same | ⟨clear, visited⟩
  · rw [same]
    exact first.cells r c
  · rcases first.cells r c with same | ⟨-, already⟩
    · exact .inr ⟨same.symm.trans clear, visited⟩
    · rw [already] at clear
      cases clear

theorem Grid.MarkedAs.visited {grid marked : Grid} (sofar : grid.MarkedAs marked) {r c : Nat}
    (visited : grid.at? r c = some .visited) : marked.at? r c = some .visited := by
  rcases sofar.cells r c with same | ⟨-, marked⟩
  · exact same.trans visited
  · exact marked

namespace Run

variable {rules : RuleTable} {run later : Run} {m n : Nat}

/-! ### Earlier and later stages of a run -/

/-- The other run has visited at least as much of the same map. -/
structure Precedes (run later : Run) : Prop where
  marked : run.grid.MarkedAs later.grid
  total : later.total = run.total
  remaining : later.remaining ≤ run.remaining

namespace Precedes

theorem refl (run : Run) : run.Precedes run := ⟨.refl _, rfl, le_rfl⟩

theorem trans {last : Run} (first : run.Precedes later) (second : later.Precedes last) :
    run.Precedes last :=
  ⟨first.marked.trans second.marked, second.total.trans first.total,
    second.remaining.trans first.remaining⟩

theorem coverage_le (precedes : run.Precedes later) : run.coverage ≤ later.coverage := by
  by_cases empty : run.total = 0
  · simp [coverage, precedes.total, empty]
  · have nonzero : later.total ≠ 0 := by rwa [precedes.total]
    have visited : run.total - run.remaining ≤ run.total - later.remaining :=
      Nat.sub_le_sub_left precedes.remaining _
    rw [coverage_eq empty, coverage_eq nonzero, precedes.total]
    exact div_le_div_of_nonneg_right (by exact_mod_cast visited) (Nat.cast_nonneg _)

end Precedes

theorem precedes_failWith (run : Run) (fault : Fault) : run.Precedes (run.failWith fault) :=
  ⟨.refl _, rfl, le_rfl⟩

theorem precedes_arrive (run : Run) (next : State) (row col : Nat) :
    run.Precedes (run.arrive next row col) := by
  refine ⟨(Grid.MarkedAs.refl _).mark row col, rfl, ?_⟩
  simp only [arrive]
  split <;> omega

theorem precedes_step (rules : RuleTable) (run : Run) : run.Precedes (run.step rules) := by
  by_cases running : run.status = .running
  · rcases step_cases rules running with
      ⟨-, stepped⟩ | ⟨t, -, ⟨-, stepped⟩ | ⟨row, col, -, -, stepped⟩⟩
    · rw [stepped]
      apply precedes_failWith
    · rw [stepped]
      apply precedes_failWith
    · rw [stepped]
      apply precedes_arrive
  · rw [step_of_ended rules running]
    exact .refl run

theorem precedes_iterate (rules : RuleTable) (run : Run) (n : Nat) :
    run.Precedes ((step rules)^[n] run) := by
  induction n with
  | zero => exact .refl run
  | succ n ih =>
    rw [Function.iterate_succ_apply']
    exact ih.trans (precedes_step rules _)

/-! ### The number of steps -/

/-- A step that leaves a run going was taken and counted. -/
theorem steps_step (running : (run.step rules).status = .running) :
    run.status = .running ∧ (run.step rules).steps = run.steps + 1 := by
  by_cases going : run.status = .running
  · refine ⟨going, ?_⟩
    rcases step_cases rules going with
      ⟨-, stepped⟩ | ⟨t, -, ⟨-, stepped⟩ | ⟨row, col, -, -, stepped⟩⟩
    all_goals rw [stepped]; rfl
  · rw [step_of_ended rules going] at running
    exact absurd running going

theorem steps_iterate (running : ((step rules)^[n] run).status = .running) :
    ((step rules)^[n] run).steps = run.steps + n := by
  induction n with
  | zero => rfl
  | succ n ih =>
    rw [Function.iterate_succ_apply'] at running ⊢
    obtain ⟨going, counted⟩ := steps_step running
    rw [counted, ih going, Nat.add_assoc]

/-! ### Caps -/

theorem finish_eq_iterate (rules : RuleTable) (cap : Nat) (run : Run) :
    run.finish rules cap = ((step rules)^[cap - run.steps] run).outcome := by
  rw [finish, advance_eq_iterate]

/-- A run that was stopped after some steps ends as if it had not been stopped. -/
theorem finish_iterate (fresh : run.steps = 0) (taken cap : Nat) :
    ((step rules)^[taken] run).finish rules cap = run.finish rules (max taken cap) := by
  rw [finish_eq_iterate, finish_eq_iterate, fresh, Nat.sub_zero]
  by_cases running : ((step rules)^[taken] run).status = .running
  · have rest : cap - taken = max taken cap - taken := by omega
    rw [steps_iterate running, fresh, Nat.zero_add, rest, ← iterate_of_le (Nat.le_max_left _ _)]
  · rw [iterate_of_ended rules running, iterate_of_ended_of_le running (Nat.le_max_left _ _)]

theorem outcome_eq_ok {outcome : Outcome} (ends : run.outcome = .ok outcome) :
    outcome = ⟨run.coverage, run.steps, decide (run.status = .running), (run.row, run.col),
      run.grid⟩ := by
  unfold Run.outcome at ends
  split at ends
  · cases ends
  · next running => simp [← Except.ok.inj ends, running]
  · next completed => simp [← Except.ok.inj ends, completed]

/-- A run can be taken up again after any number of steps, and under a larger cap it ends in
the same way or, where it was cut short, has visited no less. -/
theorem finish_composes (rules : RuleTable) (grid : Grid) (position : Nat × Nat)
    (placed : passable (grid.at? position.1 position.2) = true) :
    ∃ run, begin? grid position = .ok run ∧
      (∀ taken cap, ((step rules)^[taken] run).finish rules cap =
        run.finish rules (max taken cap)) ∧
      ∀ m n, m ≤ n →
        (∀ fault, run.finish rules m = .error fault → run.finish rules n = .error fault) ∧
        ∀ short, run.finish rules m = .ok short →
          (short.hitCap = false → run.finish rules n = .ok short) ∧
          (short.hitCap = true → short.steps = m ∧ ∀ long, run.finish rules n = .ok long →
            (∀ r c, short.grid.at? r c = some .visited → long.grid.at? r c = some .visited) ∧
            short.coverage ≤ long.coverage) := by
  refine ⟨_, begin?_eq placed, finish_iterate rfl, fun m n le => ?_⟩
  set run := origin grid (Walk.start position) with begun
  have fresh : run.steps = 0 := rfl
  simp only [finish_eq_iterate, fresh, Nat.sub_zero]
  refine ⟨fun fault failed => ?_, fun short ends => ⟨fun inTime => ?_, fun cut => ?_⟩⟩
  · have ended : ((step rules)^[m] run).status ≠ .running := by
      simp [outcome_eq_error_iff.1 failed]
    rw [iterate_of_ended_of_le ended le, failed]
  · have ended : ((step rules)^[m] run).status ≠ .running := by
      simpa [outcome_eq_ok ends] using inTime
    rw [iterate_of_ended_of_le ended le, ends]
  · have running : ((step rules)^[m] run).status = .running := by
      simpa [outcome_eq_ok ends] using cut
    have counted := steps_iterate running
    have precedes : ((step rules)^[m] run).Precedes ((step rules)^[n] run) := by
      rw [iterate_of_le le]
      apply precedes_iterate
    rw [outcome_eq_ok ends]
    refine ⟨by simpa [fresh] using counted, fun long later => ?_⟩
    rw [outcome_eq_ok later]
    exact ⟨fun r c => precedes.marked.visited, precedes.coverage_le⟩

theorem finish_composes_corridor :
    passable (Grid.corridor.at? 0 0) = true ∧
    ∃ run, begin? .corridor (0, 0) = .ok run ∧
      ((step .eastward)^[3] run).finish .eastward 0 = run.finish .eastward 3 ∧
      ∃ short long, run.finish .eastward 0 = .ok short ∧ short.hitCap = true ∧
        run.finish .eastward 1 = .ok long ∧ long.hitCap = false ∧
        short.steps = 0 ∧ short.coverage ≤ long.coverage ∧ run.finish .eastward 3 = .ok long := by
  have placed : passable (Grid.corridor.at? 0 0) = true := by decide
  obtain ⟨run, begun, resumed, capped⟩ := finish_composes .eastward .corridor (0, 0) placed
  obtain ⟨-, rfl⟩ := begin?_eq_ok begun
  have short : (origin .corridor (Walk.start (0, 0))).finish .eastward 0 =
      .ok ⟨1 / 2, 0, true, (0, 0), ⟨[[.visited, .clear]]⟩⟩ := by decide +kernel
  have long : (origin .corridor (Walk.start (0, 0))).finish .eastward 1 =
      .ok ⟨1, 1, false, (0, 1), ⟨[[.visited, .visited]]⟩⟩ := by decide +kernel
  obtain ⟨counted, more⟩ := ((capped 0 1 (by omega)).2 _ short).2 rfl
  exact ⟨placed, _, begun, resumed 3 0, _, _, short, rfl, long, rfl, counted, (more _ long).2,
    ((capped 1 3 (by omega)).2 _ long).1 rfl⟩

end Run

end MazeGrader
