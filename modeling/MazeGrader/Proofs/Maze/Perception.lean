import MazeGrader.Proofs.Maze.Bookkeeping
import MazeGrader.Proofs.Rules.Compiled

/-! What an agent perceives is what stops it. A step is blocked just if the neighbour that the
agent moves to was perceived as a wall, so rules that provide for all surroundings and send the
agent only where it is clear never fail. -/
namespace MazeGrader

/-- The neighbour that a direction points to; staying points to none. -/
def Surroundings.ahead? (s : Surroundings) : Direction → Option Neighbour
  | .north => some s.north
  | .east => some s.east
  | .west => some s.west
  | .south => some s.south
  | .stay => none

theorem Direction.target_stay (place : Int × Int) : Direction.stay.target place = place := by
  simp [target, offset]

/-- A neighbour is a wall just where there is no way. -/
theorem Walk.ahead?_eq_wall_iff {free : Int × Int → Bool} {place : Int × Int}
    {direction : Direction} :
    (Walk.surroundings free place).ahead? direction = some .wall ↔
      direction ≠ .stay ∧ free (direction.target place) = false := by
  have wall_iff : ∀ d : Direction,
      some (Walk.neighbour free place d) = some .wall ↔ free (d.target place) = false := by
    intro d
    unfold Walk.neighbour
    cases free (d.target place) <;> simp
  cases direction with
  | north => simpa [Surroundings.ahead?, Walk.surroundings] using wall_iff .north
  | east => simpa [Surroundings.ahead?, Walk.surroundings] using wall_iff .east
  | west => simpa [Surroundings.ahead?, Walk.surroundings] using wall_iff .west
  | south => simpa [Surroundings.ahead?, Walk.surroundings] using wall_iff .south
  | stay => simp [Surroundings.ahead?]

namespace Run

variable {rules : RuleTable} {grid : Grid} {run : Run} {t : Transition}

/-- An agent is where it can be, so staying is never blocked. -/
theorem Consistent.free_place (consistent : run.Consistent grid) :
    run.grid.free run.place = true := by
  unfold place
  rw [Grid.free_ofNat, consistent.occupied]
  rfl

/-- There is no way to the target of a step just if it is perceived as a wall. -/
theorem Consistent.target_not_free_iff (consistent : run.Consistent grid) (direction : Direction) :
    run.grid.free (direction.target run.place) = false ↔
      run.surroundings.ahead? direction = some .wall := by
  rw [surroundings_eq, Walk.ahead?_eq_wall_iff]
  constructor
  · intro blocked
    refine ⟨?_, blocked⟩
    rintro rfl
    rw [Direction.target_stay, consistent.free_place] at blocked
    cases blocked
  · exact fun ahead => ahead.2

/-- A step with a rule to follow is blocked just by a wall that is perceived ahead. -/
theorem Consistent.step_blocked_iff (consistent : run.Consistent grid)
    (running : run.status = .running)
    (found : rules.lookup run.state run.surroundings = some t) :
    (∃ row col, (run.step rules).status = .failed (.blocked row col)) ↔
      run.surroundings.ahead? t.direction = some .wall := by
  rw [← consistent.target_not_free_iff]
  rcases step_cases rules running with ⟨missing, -⟩ | ⟨other, again, steps⟩
  · cases missing.symm.trans found
  · obtain rfl : other = t := Option.some.inj (again.symm.trans found)
    rcases steps with ⟨blocked, stepped⟩ | ⟨row, col, ahead, placed, stepped⟩
    · refine ⟨fun _ => blocked, fun _ => ?_⟩
      rw [stepped]
      exact ⟨_, _, rfl⟩
    · constructor
      · rintro ⟨_, _, failed⟩
        rw [stepped] at failed
        exact (statusAfter_ne_failed _ _ failed).elim
      · intro blocked
        rw [ahead, Grid.free_ofNat, placed] at blocked
        cases blocked

end Run

/-! ### Rules that never fail -/

/-- A table provides for its first state, for all surroundings of each state it knows, and sends
the agent nowhere but where it is clear. -/
structure RuleTable.WellFormed (table : RuleTable) : Prop where
  starts : table.knows 0 = true
  provides : ∀ state, table.knows state = true → ∀ s, (table.lookup state s).isSome = true
  clear : ∀ state s t, table.lookup state s = some t →
    t.direction = .stay ∨ s.ahead? t.direction = some .clear

theorem RuleTable.WellFormed.ahead?_ne_wall {table : RuleTable} (wellFormed : table.WellFormed)
    {state : State} {s : Surroundings} {t : Transition} (found : table.lookup state s = some t) :
    s.ahead? t.direction ≠ some .wall := by
  rcases wellFormed.clear state s t found with stay | clear
  · rw [stay]
    intro wall
    cases wall
  · rw [clear]
    decide

/-- The states that recorded rules lead to are known. -/
theorem Records.knows_next {rules : List Rule} {table : RuleTable} (records : Records rules table)
    {state : State} {s : Surroundings} {t : Transition} (found : table.lookup state s = some t) :
    table.knows t.next = true := by
  obtain ⟨rule, member, -, -, rfl⟩ := (records.lookup state s t).1 found
  exact (records.knows _).2 ⟨rule, member, .inr rfl⟩

namespace Run

/-- The state of a run is known to its rules, and no step has failed. -/
structure Provided (rules : RuleTable) (grid : Grid) (run : Run) : Prop where
  consistent : run.Consistent grid
  known : rules.knows run.state = true
  unfailed : ∀ fault, run.status ≠ .failed fault

namespace Provided

variable {rules : RuleTable} {grid : Grid} {run : Run}

theorem of_begin? {position : Nat × Nat} (starts : rules.knows 0 = true)
    (begun : begin? grid position = .ok run) : run.Provided rules grid := by
  have consistent := consistent_of_begin? begun
  obtain ⟨-, rfl⟩ := begin?_eq_ok begun
  exact ⟨consistent, starts, statusAfter_ne_failed _⟩

/-- Well-formed rules whose next states are known provide for the next step. -/
theorem step (wellFormed : rules.WellFormed)
    (closed : ∀ state s t, rules.lookup state s = some t → rules.knows t.next = true)
    (provided : run.Provided rules grid) : (run.step rules).Provided rules grid := by
  have consistent := provided.consistent.step rules
  by_cases running : run.status = .running
  · rcases step_cases rules running with ⟨missing, -⟩ | ⟨t, found, steps⟩
    · have entry := wellFormed.provides run.state provided.known run.surroundings
      rw [missing] at entry
      cases entry
    · rcases steps with ⟨blocked, -⟩ | ⟨row, col, -, -, stepped⟩
      · have ahead := (provided.consistent.target_not_free_iff t.direction).1 blocked
        exact absurd ahead (wellFormed.ahead?_ne_wall found)
      · rw [stepped] at consistent ⊢
        exact ⟨consistent, closed _ _ _ found, statusAfter_ne_failed _⟩
  · rw [step_of_ended rules running]
    exact provided

theorem iterate (wellFormed : rules.WellFormed)
    (closed : ∀ state s t, rules.lookup state s = some t → rules.knows t.next = true)
    (provided : run.Provided rules grid) (n : Nat) :
    ((Run.step rules)^[n] run).Provided rules grid := by
  induction n with
  | zero => exact provided
  | succ n ih =>
    rw [Function.iterate_succ_apply']
    exact ih.step wellFormed closed

end Provided

end Run

theorem RuleTable.WellFormed.simulate {rules : RuleTable} (wellFormed : rules.WellFormed)
    (closed : ∀ state s t, rules.lookup state s = some t → rules.knows t.next = true)
    {grid : Grid} {position : Nat × Nat}
    (placed : Run.passable (grid.at? position.1 position.2) = true) (cap : Option UInt64) :
    ∃ outcome, MazeGrader.simulate rules grid position cap = .ok outcome := by
  have begun := Run.begin?_eq placed
  have provided := (Run.Provided.of_begin? wellFormed.starts begun).iterate wellFormed closed
    (cap.getD (defaultCap rules grid)).toNat
  rw [simulate_eq rules cap placed, Run.finish_origin, Run.advance_eq_iterate]
  cases ends : ((Run.step rules)^[(cap.getD (defaultCap rules grid)).toNat]
      (Run.origin grid (Walk.start position))).outcome with
  | ok outcome => exact ⟨outcome, rfl⟩
  | error fault => exact absurd (Run.outcome_eq_error_iff.1 ends) (provided.unfailed fault)

/-- In a run a step with a rule to follow is blocked just by a wall that stands, where the agent
is sent, in the index of what it perceives, and well-formed rules that compile never fail. -/
theorem blocked_by_perceived_wall :
    (∀ (rules : RuleTable) (grid : Grid) (position : Nat × Nat) (begun : Run),
      Run.begin? grid position = .ok begun →
      ∀ n now t, now = (Run.step rules)^[n] begun → now.status = .running →
        rules.lookup now.state now.surroundings = some t →
        ((∃ row col, (now.step rules).status = .failed (.blocked row col)) ↔
          (Surroundings.ofIndex now.surroundings.index).ahead? t.direction = some .wall)) ∧
    ∀ (lines : List String) (table : RuleTable), RuleTable.compile lines = .ok table →
      table.WellFormed → ∀ (grid : Grid) (position : Nat × Nat) (cap : Option UInt64),
        Run.passable (grid.at? position.1 position.2) = true →
        ∃ outcome, simulate table grid position cap = .ok outcome := by
  constructor
  · rintro rules grid position begun placed n now t rfl running found
    have consistent := (Run.consistent_of_begin? placed).iterate rules n
    rw [Surroundings.ofIndex_index]
    exact consistent.step_blocked_iff running found
  · intro lines table compiled wellFormed grid position cap placed
    obtain ⟨-, -, records⟩ := Records.empty.of_addLines .nil compiled
    exact wellFormed.simulate (fun _ _ _ => records.knows_next) placed cap

/-- Rules that go east up to a wall and stay there. -/
def cautiousLines : List String := ["0 *x** -> E 0", "0 *E** -> X 0"]

theorem wellFormed_cautious {table : RuleTable}
    (compiled : RuleTable.compile cautiousLines = .ok table) : table.WellFormed := by
  have rules : readRules (cautiousLines.map String.toList) =
      [⟨0, ⟨.any, .clear, .any, .any⟩, ⟨.east, 0⟩⟩,
        ⟨0, ⟨.any, .wall, .any, .any⟩, ⟨.stay, 0⟩⟩] := by decide +kernel
  obtain ⟨-, -, records⟩ := Records.empty.of_addLines .nil compiled
  rw [List.nil_append, rules] at records
  refine ⟨(records.knows 0).2 (by simp), fun state known s => ?_, fun state s t found => ?_⟩
  · obtain ⟨rule, member, leads⟩ := (records.knows state).1 known
    obtain rfl : state = 0 := by
      rcases List.mem_pair.1 member with rfl | rfl <;> rcases leads with rfl | rfl <;> rfl
    have anything : ∀ n : Neighbour, n ∈ Slot.any.choices := fun n => by cases n <;> decide
    rw [Option.isSome_iff_exists]
    obtain ⟨north, east, west, south⟩ := s
    cases east with
    | clear =>
      exact ⟨⟨.east, 0⟩, (records.lookup ..).2 ⟨⟨0, ⟨.any, .clear, .any, .any⟩, ⟨.east, 0⟩⟩,
        by simp, rfl, ⟨anything north, List.mem_cons_self, anything west, anything south⟩, rfl⟩⟩
    | wall =>
      exact ⟨⟨.stay, 0⟩, (records.lookup ..).2 ⟨⟨0, ⟨.any, .wall, .any, .any⟩, ⟨.stay, 0⟩⟩,
        by simp, rfl, ⟨anything north, List.mem_cons_self, anything west, anything south⟩, rfl⟩⟩
  · obtain ⟨rule, member, rfl, matched, rfl⟩ := (records.lookup state s t).1 found
    rcases List.mem_pair.1 member with rfl | rfl
    · right
      have east := matched.2.1
      simpa [Surroundings.ahead?, Slot.choices] using east
    · exact .inl rfl

theorem blocked_by_perceived_wall_corridor :
    ((∃ row col, ((Run.origin .corridor (Walk.start (0, 0))).step .northward).status =
        .failed (.blocked row col)) ∧
      (Run.origin .corridor (Walk.start (0, 0))).surroundings.ahead? .north = some .wall) ∧
    ∃ table, RuleTable.compile cautiousLines = .ok table ∧ table.WellFormed ∧
      Run.passable (Grid.corridor.at? 0 0) = true ∧
      ∃ outcome, simulate table .corridor (0, 0) none = .ok outcome := by
  have placed : Run.passable (Grid.corridor.at? 0 0) = true := by decide
  have perceived : (Run.origin .corridor (Walk.start (0, 0))).surroundings.ahead? .north =
      some .wall := by decide
  have running : (Run.origin .corridor (Walk.start (0, 0))).status = .running := by decide
  have found : RuleTable.northward.lookup (Run.origin .corridor (Walk.start (0, 0))).state
      (Run.origin .corridor (Walk.start (0, 0))).surroundings = some ⟨.north, 0⟩ := by
    decide +kernel
  have blocked := (blocked_by_perceived_wall.1 .northward .corridor (0, 0) _ (Run.begin?_eq placed)
    0 _ _ rfl running found).2 perceived
  refine ⟨⟨blocked, perceived⟩, ?_⟩
  have compiles : (RuleTable.compile cautiousLines).isOk = true := by decide +kernel
  cases compiled : RuleTable.compile cautiousLines with
  | error fault =>
    rw [compiled] at compiles
    cases compiles
  | ok table =>
    have wellFormed := wellFormed_cautious compiled
    exact ⟨table, rfl, wellFormed, placed, blocked_by_perceived_wall.2 cautiousLines table compiled
      wellFormed .corridor (0, 0) none placed⟩

end MazeGrader
