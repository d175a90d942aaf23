import MazeGrader.Proofs.Assignment.Verdict
import MazeGrader.Proofs.Maze.Bookkeeping
import MazeGrader.Proofs.Rules.Extension

/-! Rules that a run never uses. A run that finds a rule at each of its steps takes the same
steps under a table that says more. Such a table may allow more steps than before, but a run
that would take them goes in circles, and they change nothing that is graded. -/
namespace MazeGrader

namespace Run

variable {few many : RuleTable} {run : Run}

/-- A step for which a rule is found is the same under a table that says more. -/
theorem step_extends (extension : many.Extends few)
    (supplied : ∀ state s, (run.step few).status ≠ .failed (.noRule state s)) :
    run.step many = run.step few := by
  by_cases running : run.status = .running
  · cases found : few.lookup run.state run.surroundings with
    | none =>
      refine absurd ?_ (supplied run.state run.surroundings)
      simp only [step, running, move_of_missing found]
    | some t =>
      have same : run.move many = run.move few := by
        unfold move
        rw [found, extension.lookup _ _ _ found]
      simp only [step, running, same]
  · rw [step_of_ended many running, step_of_ended few running]

/-- A run for which rules are found is the same under a table that says more. -/
theorem advance_extends (extension : many.Extends few) {n : Nat}
    (supplied : ∀ state s, (run.advance few n).status ≠ .failed (.noRule state s)) :
    run.advance many n = run.advance few n := by
  induction n generalizing run with
  | zero => rfl
  | succ n ih =>
    by_cases running : run.status = .running
    · simp only [advance, running] at supplied ⊢
      -- What fails in the first step would stay that way.
      have now : ∀ state s, (run.step few).status ≠ .failed (.noRule state s) := by
        intro state s failed
        have ended : (run.step few).status ≠ .running := by
          rw [failed]
          exact Status.noConfusion
        apply supplied state s
        rw [advance_of_ended few ended, failed]
      rw [step_extends extension now]
      exact ih supplied
    · rw [advance_of_ended many running, advance_of_ended few running]

end Run

theorem simulate_extends {few many : RuleTable} {grid : Grid} {position : Nat × Nat} {cap : UInt64}
    (extension : many.Extends few)
    (supplied : ∀ state s, simulate few grid position (some cap) ≠ .error (.noRule state s)) :
    simulate many grid position (some cap) = simulate few grid position (some cap) := by
  unfold simulate at supplied ⊢
  cases begun : Run.begin? grid position with
  | error fault => rfl
  | ok run =>
    rw [begun] at supplied
    have found : ∀ state s,
        (run.advance few (cap.toNat - run.steps)).status ≠ .failed (.noRule state s) := by
      intro state s failed
      exact supplied state s (Run.outcome_eq_error_iff.2 failed)
    have same := Run.advance_extends extension found
    exact congrArg Run.outcome same

/-! ### More states, more steps -/

namespace SameEnd

variable {left right : Except Fault Outcome}

theorem map_coverage (same : SameEnd left right) :
    left.map Outcome.coverage = right.map Outcome.coverage := by
  rcases same with ⟨fault, rfl, rfl⟩ | ⟨outcome, -, rfl, rfl⟩ | ⟨a, b, rfl, rfl, -, -, equal, -⟩
  · rfl
  · rfl
  · exact congrArg Except.ok equal

theorem eq_error {fault : Fault} (same : SameEnd left right) (failed : left = .error fault) :
    right = .error fault := by
  rcases same with ⟨other, rfl, rfl⟩ | ⟨outcome, -, rfl, rfl⟩ | ⟨a, b, rfl, rfl, -⟩
  · exact failed
  · cases failed
  · cases failed

end SameEnd

theorem defaultCap_of_standard (rules : RuleTable) {grid : Grid} (standard : grid.numCells = 625) :
    (defaultCap rules grid).toNat = 40000 * max rules.numStates 1 := by
  have bounded := rules.numStates_le
  have fits : grid.numCells * 16 * max rules.numStates 1 * 4 < 2 ^ 64 := by
    rw [standard]
    omega
  rw [toNat_defaultCap fits, standard]
  omega

/-- The default cap of a table with more states makes no difference that is graded. -/
theorem sameEnd_of_numStates_le {few many : RuleTable} {grid : Grid} {position : Nat × Nat}
    (standard : grid.numCells = 625)
    (placed : Run.passable (grid.at? position.1 position.2) = true)
    (le : few.numStates ≤ many.numStates) :
    SameEnd (simulate few grid position (some (defaultCap many grid)))
      (simulate few grid position none) := by
  rw [simulate_eq few _ placed, simulate_eq few _ placed]
  have capFew := defaultCap_of_standard few standard
  have capMany := defaultCap_of_standard many standard
  refine sameEnd_of_long (free_start placed) ?_ ?_
  · rw [Option.getD_none, standard, capFew]
    omega
  · rw [Option.getD_none, Option.getD_some, capFew, capMany]
    omega

theorem Grid.parse_of_load {files : FileSystem} {path : String} {grid : Grid}
    (loaded : load files path = .ok grid) : ∃ source, parse .standard source = .ok grid := by
  unfold load at loaded
  cases read : inContext ("Could not read Picobot map " ++ path)
      (giveUp .file (files.read path)) with
  | error failure =>
    rw [read] at loaded
    cases loaded
  | ok source =>
    rw [read] at loaded
    exact ⟨source, giveUp_eq_ok.1 (inContext_eq_ok.1 loaded)⟩

namespace MapTest

variable {descriptor : MapTestDescriptor} {setting : TestSetting} {test : MapTest}

/-- All that is graded is the coverage or the fault. -/
theorem evaluate_congr {source other : String}
    (same : (test.trial source).map Outcome.coverage = (test.trial other).map Outcome.coverage) :
    test.evaluate source = test.evaluate other := by
  unfold evaluate grade
  rw [same]

/-- A run that always finds a rule is graded the same with more rules. -/
theorem coverage_of_extends (loaded : load descriptor setting = .ok test) {few many : RuleTable}
    (extension : many.Extends few)
    (supplied : ∀ state s,
      simulate few test.grid test.start test.stepCap ≠ .error (.noRule state s)) :
    (simulate many test.grid test.start test.stepCap).map Outcome.coverage =
      (simulate few test.grid test.start test.stepCap).map Outcome.coverage := by
  cases cap : test.stepCap with
  | some cap =>
    rw [cap] at supplied
    rw [simulate_extends extension supplied]
  | none =>
    rw [cap] at supplied
    obtain ⟨-, -, map, -⟩ := load_eq_ok_iff.1 loaded
    obtain ⟨source, parsed⟩ := Grid.parse_of_load map
    have same := sameEnd_of_numStates_le (numCells_of_parse parsed) test.placed
      extension.numStates_le
    have longer : ∀ state s, simulate few test.grid test.start
        (some (defaultCap many test.grid)) ≠ .error (.noRule state s) := by
      intro state s failed
      exact supplied state s (same.eq_error failed)
    calc (simulate many test.grid test.start none).map Outcome.coverage
        = (simulate many test.grid test.start (some (defaultCap many test.grid))).map
            Outcome.coverage := rfl
      _ = (simulate few test.grid test.start (some (defaultCap many test.grid))).map
            Outcome.coverage := by rw [simulate_extends extension longer]
      _ = (simulate few test.grid test.start none).map Outcome.coverage := same.map_coverage

/-- Rules behind others that a run never lacks change no verdict, though they may add states
and with them steps. -/
theorem evaluate_join (loaded : load descriptor setting = .ok test) {front back : String}
    {many : RuleTable} (compiled : RuleTable.compileSource (front ++ "\n" ++ back) = .ok many) :
    ∃ few, RuleTable.compileSource front = .ok few ∧
      ((∀ state s, simulate few test.grid test.start test.stepCap ≠ .error (.noRule state s)) →
        test.evaluate (front ++ "\n" ++ back) = test.evaluate front) := by
  obtain ⟨few, compiledFew, extension⟩ := RuleTable.compileSource_of_join compiled
  refine ⟨few, compiledFew, fun supplied => evaluate_congr ?_⟩
  rw [trial_of_rules compiled, trial_of_rules compiledFew]
  exact coverage_of_extends loaded extension supplied

theorem evaluate_join_plain :
    load plainDescriptor plainSetting = .ok plainTest ∧
    plainTest.trial "0 **** -> N 0" = .error (.blocked (-1) 1) ∧
    plainTest.evaluate ("0 **** -> N 0" ++ "\n" ++ "5 x*** -> X 6") =
      plainTest.evaluate "0 **** -> N 0" := by
  have ends : plainTest.trial "0 **** -> N 0" = .error (.blocked (-1) 1) := by decide +kernel
  have compiles :
      (RuleTable.compileSource ("0 **** -> N 0" ++ "\n" ++ "5 x*** -> X 6")).isOk = true := by
    decide +kernel
  cases compiled : RuleTable.compileSource ("0 **** -> N 0" ++ "\n" ++ "5 x*** -> X 6") with
  | error fault =>
    rw [compiled] at compiles
    cases compiles
  | ok many =>
    obtain ⟨few, compiledFew, same⟩ := evaluate_join load_plain compiled
    refine ⟨load_plain, ends, same fun state s failed => ?_⟩
    rw [trial_of_rules compiledFew, failed] at ends
    cases ends

end MapTest

end MazeGrader
