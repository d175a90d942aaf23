import MazeGrader.Assignment.MapTest
import MazeGrader.Proofs.Maze.Looping
import MazeGrader.Proofs.Rules.Compiled
import Mathlib.Algebra.Order.Field.Basic
import Mathlib.Algebra.Order.Ring.Rat

/-! What a map test makes of submitted rules. A test that was loaded has a start where a run
can begin, so whatever is wrong with a trial is the fault of the rules and costs points. -/
namespace MazeGrader

/-- A text is a number, or two with a bar between that have no divisor in common. -/
def Ratio.Prints (q : Rat) (text : String) : Prop :=
  ∃ n d : Nat, d ≠ 0 ∧ n.Coprime d ∧ q = (n : Rat) / d ∧
    text = if d = 1 then toString n else toString n ++ "/" ++ toString d

theorem Ratio.prints_text {q : Rat} (h : 0 ≤ q) : Prints q (text q) := by
  have num : ((q.num.toNat : Nat) : Int) = q.num := Int.toNat_of_nonneg (Rat.num_nonneg.2 h)
  refine ⟨q.num.toNat, q.den, q.den_nz, ?_, ?_, ?_⟩
  · have reduced := q.reduced
    rwa [← num, Int.natAbs_natCast] at reduced
  · have parts := (Rat.num_div_den q).symm
    rwa [← num] at parts
  · unfold text
    rw [← num]
    rfl

theorem head?_append {front : String} {c : Char} (h : front.toList.head? = some c)
    (back : String) : (front ++ back).toList.head? = some c := by
  rw [String.toList_append, List.head?_append, h]
  rfl

namespace Fault

theorem OfSource.ofRules {fault : Fault} (h : fault.OfSource) : fault.OfRules := by
  cases fault <;> trivial

theorem OfRun.ofRules {fault : Fault} (h : fault.OfRun) : fault.OfRules := by
  cases fault <;> trivial

theorem head?_message {fault : Fault} (h : fault.OfRules) :
    ∃ c ≠ 'P', fault.message.toList.head? = some c := by
  cases fault with
  | unreadableLine line => exact ⟨'s', by decide, head?_append rfl _⟩
  | repeatedRule state s =>
    exact ⟨'r', by decide, head?_append (head?_append (head?_append rfl _) _) _⟩
  | noRule state s =>
    exact ⟨'n', by decide, head?_append (head?_append (head?_append (head?_append rfl _) _) _) _⟩
  | blocked row col =>
    exact ⟨'c', by decide, head?_append (head?_append (head?_append rfl _) _) _⟩
  | misshapenMap => exact h.elim
  | badStart => exact h.elim

/-- No fault of the rules reads like a coverage. -/
theorem message_ne_coverage {fault : Fault} (h : fault.OfRules) (text : String) :
    fault.message ≠ "Picobot coverage: " ++ text := by
  obtain ⟨c, apart, head⟩ := head?_message h
  intro same
  rw [same, head?_append (c := 'P') rfl] at head
  exact apart (Option.some.inj head).symm

end Fault

theorem Grid.load_eq_ok {files : FileSystem} {path source : String} {grid : Grid}
    (read : files.read path = .ok source) (parsed : parse .standard source = .ok grid) :
    load files path = .ok grid := by
  rw [load, read]
  simp only [inContext, giveUp, Except.mapError, bind, Except.bind, parsed]

namespace MapTest

variable {descriptor : MapTestDescriptor} {setting : TestSetting} {test : MapTest}
  {source : String} {rules : RuleTable}

/-- A test is loaded if it has deductions, its map is a file that can be read, and its start is
a clear cell of that map. -/
theorem load_eq_ok_iff : load descriptor setting = .ok test ↔
    descriptor.deductions.isEmpty = false ∧
    setting.files.isFile (Path.join setting.mapDirectory descriptor.map) = true ∧
    Grid.load setting.files (Path.join setting.mapDirectory descriptor.map) = .ok test.grid ∧
    StartPosition.read descriptor.start = .ok test.start ∧
    test.grader = ⟨descriptor.description, descriptor.deductions, descriptor.errorDeduction⟩ ∧
    test.map = descriptor.map ∧ test.stepCap = setting.stepCap := by
  unfold load
  simp only [bind, Except.bind, pure, Except.pure, throw, throwThe, MonadExceptOf.throw]
  cases empty : descriptor.deductions.isEmpty with
  | true => simp
  | false =>
  cases isFile : setting.files.isFile (Path.join setting.mapDirectory descriptor.map) with
  | false => simp
  | true =>
  cases map : Grid.load setting.files (Path.join setting.mapDirectory descriptor.map) with
  | error failure => simp
  | ok grid =>
  cases start : StartPosition.read descriptor.start with
  | error failure => simp
  | ok position =>
  obtain ⟨grader, name, grid', position', cap, startClear⟩ := test
  simp only [Bool.false_eq_true, if_false, Bool.not_true, true_and, Except.ok.injEq]
  by_cases clear : grid.at? position.1 position.2 = some .clear
  · rw [dif_pos clear]
    simp only [Except.ok.injEq, mk.injEq]
    constructor
    · rintro ⟨rfl, rfl, rfl, rfl, rfl⟩
      exact ⟨rfl, rfl, rfl, rfl, rfl⟩
    · rintro ⟨rfl, rfl, rfl, rfl, rfl⟩
      exact ⟨rfl, rfl, rfl, rfl, rfl⟩
  · rw [dif_neg clear]
    simp only [reduceCtorEq, false_iff]
    rintro ⟨rfl, rfl, -⟩
    exact clear startClear

theorem placed (test : MapTest) :
    Run.passable (test.grid.at? test.start.1 test.start.2) = true := by
  rw [test.startClear]
  rfl

theorem trial_of_fault {fault : Fault} (failed : RuleTable.compileSource source = .error fault) :
    test.trial source = .error fault := by
  unfold trial
  rw [failed]
  rfl

theorem trial_of_rules (compiled : RuleTable.compileSource source = .ok rules) :
    test.trial source = simulate rules test.grid test.start test.stepCap := by
  unfold trial
  rw [compiled]
  rfl

theorem evaluate_of_fault {fault : Fault} (failed : test.trial source = .error fault)
    (ofRules : fault.OfRules) :
    test.evaluate source = .ok (some (test.grader.gradeFault fault)) := by
  unfold evaluate
  rw [failed]
  exact if_pos ofRules

/-- What a fault of the rules costs. -/
def penalty (descriptor : MapTestDescriptor) (fault : Fault) : Deduction :=
  ⟨descriptor.errorDeduction, descriptor.description, [fault.message]⟩

theorem evaluate_eq_penalty (loaded : load descriptor setting = .ok test) {fault : Fault}
    (failed : test.trial source = .error fault) (ofRules : fault.OfRules) :
    test.evaluate source = .ok (some (penalty descriptor fault)) := by
  obtain ⟨-, -, -, -, grader, -, -⟩ := load_eq_ok_iff.1 loaded
  rw [evaluate_of_fault failed ofRules, grader]
  rfl

theorem evaluate_of_source (loaded : load descriptor setting = .ok test) {fault : Fault}
    (failed : RuleTable.compileSource source = .error fault) :
    fault.OfSource ∧ test.evaluate source = .ok (some (penalty descriptor fault)) := by
  have kind : fault.OfSource := RuleTable.addLines_fault failed
  exact ⟨kind, evaluate_eq_penalty loaded (trial_of_fault failed) kind.ofRules⟩

theorem evaluate_of_run (loaded : load descriptor setting = .ok test) {fault : Fault}
    (compiled : RuleTable.compileSource source = .ok rules)
    (failed : simulate rules test.grid test.start test.stepCap = .error fault) :
    fault.OfRun ∧ test.evaluate source = .ok (some (penalty descriptor fault)) := by
  have kind : fault.OfRun := simulate_fault test.placed failed
  exact ⟨kind, evaluate_eq_penalty loaded ((trial_of_rules compiled).trans failed) kind.ofRules⟩

/-- What a coverage costs, if it costs anything. -/
def judgement (descriptor : MapTestDescriptor) (coverage : Rat) (text : String) :
    Option Deduction :=
  (descriptor.deductions.deductionFor coverage).map fun points =>
    ⟨points, descriptor.description, ["Picobot coverage: " ++ text]⟩

theorem evaluate_of_outcome (loaded : load descriptor setting = .ok test) {outcome : Outcome}
    (compiled : RuleTable.compileSource source = .ok rules)
    (succeeded : simulate rules test.grid test.start test.stepCap = .ok outcome) :
    test.evaluate source =
      .ok (judgement descriptor outcome.coverage (Ratio.text outcome.coverage)) := by
  obtain ⟨-, -, -, -, grader, -, -⟩ := load_eq_ok_iff.1 loaded
  unfold evaluate
  rw [(trial_of_rules compiled).trans succeeded]
  simp only [grade, grader]
  rfl

/-- A penalty is told from a judgement by its note. -/
theorem judgement_ne_penalty {fault : Fault} (ofRules : fault.OfRules) (coverage : Rat)
    (text : String) : judgement descriptor coverage text ≠ some (penalty descriptor fault) := by
  intro same
  obtain ⟨points, -, same⟩ := Option.map_eq_some_iff.1 same
  have notes := congrArg Deduction.notes same
  exact Fault.message_ne_coverage ofRules text (List.cons.inj notes).1.symm

/-- Whatever the source, a test that was loaded comes to a verdict. A fault of the source or of
the run is one of the rules, and all else is left to the coverage. -/
theorem evaluate_never_aborts (loaded : load descriptor setting = .ok test) (source : String) :
    (∃ verdict, test.evaluate source = .ok verdict) ∧
    ((∃ fault : Fault, fault.OfRules ∧
        test.evaluate source = .ok (some (penalty descriptor fault))) ↔
      (∃ fault, RuleTable.compileSource source = .error fault) ∨
      ∃ rules fault, RuleTable.compileSource source = .ok rules ∧
        simulate rules test.grid test.start test.stepCap = .error fault) ∧
    (∀ fault, RuleTable.compileSource source = .error fault →
      fault.OfSource ∧ test.evaluate source = .ok (some (penalty descriptor fault))) ∧
    ∀ rules, RuleTable.compileSource source = .ok rules →
      (∀ fault, simulate rules test.grid test.start test.stepCap = .error fault →
        fault.OfRun ∧ test.evaluate source = .ok (some (penalty descriptor fault))) ∧
      ∀ outcome, simulate rules test.grid test.start test.stepCap = .ok outcome →
        outcome.coverage = ((test.grid.numClear - outcome.grid.numClear : Nat) : Rat) /
          test.grid.numClear ∧
        ∃ text, Ratio.Prints outcome.coverage text ∧
          test.evaluate source = .ok (judgement descriptor outcome.coverage text) := by
  refine ⟨?_, ⟨?_, ?_⟩, fun fault => evaluate_of_source loaded, fun rules compiled =>
    ⟨fun fault => evaluate_of_run loaded compiled, fun outcome succeeded => ?_⟩⟩
  · cases compiled : RuleTable.compileSource source with
    | error fault => exact ⟨_, (evaluate_of_source loaded compiled).2⟩
    | ok rules =>
      cases ran : simulate rules test.grid test.start test.stepCap with
      | error fault => exact ⟨_, (evaluate_of_run loaded compiled ran).2⟩
      | ok outcome => exact ⟨_, evaluate_of_outcome loaded compiled ran⟩
  · rintro ⟨fault, ofRules, verdict⟩
    cases compiled : RuleTable.compileSource source with
    | error other => exact .inl ⟨other, rfl⟩
    | ok rules =>
      cases ran : simulate rules test.grid test.start test.stepCap with
      | error other => exact .inr ⟨rules, other, rfl, ran⟩
      | ok outcome =>
        rw [evaluate_of_outcome loaded compiled ran] at verdict
        exact absurd (Except.ok.inj verdict) (judgement_ne_penalty ofRules _ _)
  · rintro (⟨fault, failed⟩ | ⟨rules, fault, compiled, failed⟩)
    · obtain ⟨kind, verdict⟩ := evaluate_of_source loaded failed
      exact ⟨fault, kind.ofRules, verdict⟩
    · obtain ⟨kind, verdict⟩ := evaluate_of_run loaded compiled failed
      exact ⟨fault, kind.ofRules, verdict⟩
  · have counted := coverage_of_simulate test.startClear succeeded
    have nonneg : 0 ≤ outcome.coverage := by
      rw [counted]
      exact div_nonneg (Nat.cast_nonneg _) (Nat.cast_nonneg _)
    exact ⟨counted, _, Ratio.prints_text nonneg, evaluate_of_outcome loaded compiled succeeded⟩

/-- A setting in which every map is plain. -/
def plainSetting : TestSetting :=
  ⟨⟨fun _ => .ok Grid.plain.toByteArray, fun _ => true⟩, "maps", none⟩

def plainDescriptor : MapTestDescriptor where
  description := "walk"
  deductions := CoverageTable.empty.insert ⟨1, by decide, by decide, by decide⟩ 0
  errorDeduction := 10
  map := "plain.txt"
  start := "(1, 1)"

def plainTest : MapTest where
  grader :=
    ⟨plainDescriptor.description, plainDescriptor.deductions, plainDescriptor.errorDeduction⟩
  map := plainDescriptor.map
  grid := ⟨List.replicate 25 (List.replicate 25 .clear)⟩
  start := (1, 1)
  stepCap := none
  startClear := by decide

theorem load_plain : load plainDescriptor plainSetting = .ok plainTest := by
  have start : StartPosition.ofText? plainDescriptor.start = some (1, 1) := by decide +kernel
  refine load_eq_ok_iff.2 ⟨rfl, rfl, ?_, ?_, rfl, rfl, rfl⟩
  · exact Grid.load_eq_ok (FileSystem.read_of_content rfl) Grid.parse_plain
  · unfold StartPosition.read
    rw [start]
    rfl

theorem evaluate_never_aborts_plain :
    load plainDescriptor plainSetting = .ok plainTest ∧
    RuleTable.compileSource "0 *" = .error (.unreadableLine 0) ∧
    plainTest.evaluate "0 *" = .ok (some (penalty plainDescriptor (.unreadableLine 0))) := by
  have failed : RuleTable.compileSource "0 *" = .error (.unreadableLine 0) := by decide +kernel
  exact ⟨load_plain, failed, ((evaluate_never_aborts load_plain "0 *").2.2.1 _ failed).2⟩

end MapTest

end MazeGrader
