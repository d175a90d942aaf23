import MazeGrader.Proofs.Maze.Refinement

/-! What a simulation comes to, told from the walk alone: it completes with the step that
covers the clear cells, fails with the step that fails, or stops at its cap. -/
namespace MazeGrader

open Walk (Config after trail Covers FailsAt)

theorem simulate_eq {grid : Grid} {position : Nat × Nat} (rules : RuleTable) (cap : Option UInt64)
    (placed : Run.passable (grid.at? position.1 position.2) = true) :
    simulate rules grid position cap =
      (Run.origin grid (Walk.start position)).finish rules
        (cap.getD (defaultCap rules grid)).toNat := by
  rw [simulate, Run.begin?_eq placed]
  rfl

theorem free_start {grid : Grid} {position : Nat × Nat}
    (placed : Run.passable (grid.at? position.1 position.2) = true) :
    grid.free (Walk.start position).place = true := (grid.free_ofNat ..).trans placed

/-- A run has no rule to follow, or is blocked by a wall. -/
def Fault.OfRun : Fault → Prop
  | noRule _ _ | blocked _ _ => True
  | unreadableLine _ | repeatedRule _ _ | misshapenMap _ | badStart _ _ => False

/-- Once a run began, its start and its map are no fault. -/
theorem simulate_fault {rules : RuleTable} {grid : Grid} {position : Nat × Nat}
    {cap : Option UInt64} {fault : Fault}
    (placed : Run.passable (grid.at? position.1 position.2) = true)
    (h : simulate rules grid position cap = .error fault) : fault.OfRun := by
  rw [simulate_eq rules cap placed] at h
  rcases Run.finish_cases rules (cap.getD (defaultCap rules grid)).toNat (free_start placed) with
    ⟨k, d, -, -, ends⟩ | ⟨j, other, fails, ends⟩ | ⟨d, -, ends⟩
  · rw [ends] at h
    cases h
  · rw [ends] at h
    cases h
    obtain ⟨i, d, -, -, stops⟩ := fails
    rcases Walk.step_eq_error stops with ⟨rfl, -⟩ | ⟨t, -, -, rfl⟩ <;> trivial
  · rw [ends] at h
    cases h

/-- The coverage is the part of the clear cells that are clear no more. -/
theorem coverage_of_simulate {rules : RuleTable} {grid : Grid} {position : Nat × Nat}
    {cap : Option UInt64} {outcome : Outcome}
    (clear : grid.at? position.1 position.2 = some .clear)
    (h : simulate rules grid position cap = .ok outcome) :
    outcome.coverage = ((grid.numClear - outcome.grid.numClear : Nat) : Rat) / grid.numClear := by
  have placed : Run.passable (grid.at? position.1 position.2) = true := by rw [clear]; rfl
  have total : grid.numClear ≠ 0 := fun absent =>
    grid.numClear_eq_zero_iff.1 absent _ _ clear
  rw [simulate_eq rules cap placed] at h
  rcases Run.finish_cases rules (cap.getD (defaultCap rules grid)).toNat (free_start placed) with
    ⟨k, d, covers, reached, ends⟩ | ⟨j, other, -, ends⟩ | ⟨d, -, ends⟩
  · rw [ends] at h
    cases h
    have covered := (Run.covers_iff reached).1 covers
    simp only [Run.completed]
    rw [covered, Nat.sub_zero, div_self (by exact_mod_cast total)]
  · rw [ends] at h
    cases h
  · rw [ends] at h
    cases h
    have lost := grid.numClear_markEach
      (trail rules grid.free (Walk.start position) (cap.getD (defaultCap rules grid)).toNat)
    simp only [Run.cutShort]
    rw [← Nat.eq_sub_of_add_eq' lost]

namespace Grid

/-- Nothing on the map was visited. -/
def Fresh (grid : Grid) : Prop := Cell.visited ∉ grid.rows.flatten

instance (grid : Grid) : Decidable grid.Fresh := inferInstanceAs (Decidable (¬_))

theorem clear_of_free {grid : Grid} {place : Int × Int} (fresh : grid.Fresh)
    (free : grid.free place = true) : grid.Clear place := by
  obtain ⟨row, col, rfl, passable⟩ := free_eq_true free
  simp only [Clear, get?_ofNat]
  cases found : grid.at? row col with
  | none => simp [found, Run.passable] at passable
  | some cell =>
    cases cell with
    | clear => rfl
    | wall => simp [found, Run.passable] at passable
    | visited =>
      obtain ⟨cells, atRow, atCol⟩ := Option.bind_eq_some_iff.1 found
      exact absurd (List.mem_flatten.2
        ⟨cells, List.mem_of_getElem? atRow, List.mem_of_getElem? atCol⟩) fresh

end Grid

/-- The agent is where the walk is after so many steps, and just its trail was visited. -/
def Outcome.Follows (outcome : Outcome) (rules : RuleTable) (grid : Grid) (c : Config)
    (steps : Nat) : Prop :=
  (∃ d, after rules grid.free c steps = .ok d ∧
    ((outcome.position.1 : Int), (outcome.position.2 : Int)) = d.place) ∧
  outcome.grid = grid.markEach (trail rules grid.free c steps)

theorem toNat_place {grid : Grid} {place : Int × Int} (free : grid.free place = true) :
    ((place.1.toNat : Int), (place.2.toNat : Int)) = place := by
  obtain ⟨row, col, rfl, -⟩ := Grid.free_eq_true free
  rfl

/-- On a map without marks a simulation completes with the first step that covers the clear
cells, fails with the first step that fails, or takes all its steps. -/
theorem simulate_refines_walk (rules : RuleTable) (grid : Grid) (position : Nat × Nat)
    (cap : UInt64) (fresh : grid.Fresh)
    (placed : Run.passable (grid.at? position.1 position.2) = true) :
    (∀ k ≤ cap.toNat, IsLeast {i | Covers rules grid.free (Walk.start position) grid.Clear i} k →
      ∃ outcome, simulate rules grid position (some cap) = .ok outcome ∧
        outcome.steps = k ∧ outcome.coverage = 1 ∧ outcome.hitCap = false ∧
        outcome.Follows rules grid (Walk.start position) k) ∧
    ((∀ k ≤ cap.toNat,
        ¬IsLeast {i | Covers rules grid.free (Walk.start position) grid.Clear i} k) →
      (∀ j ≤ cap.toNat, ∀ fault, FailsAt rules grid.free (Walk.start position) j fault →
        simulate rules grid position (some cap) = .error fault) ∧
      ((∀ j ≤ cap.toNat, ∀ fault, ¬FailsAt rules grid.free (Walk.start position) j fault) →
        ∃ outcome, simulate rules grid position (some cap) = .ok outcome ∧
          outcome.steps = cap.toNat ∧ outcome.hitCap = true ∧
          outcome.coverage = ((trail rules grid.free (Walk.start position) cap.toNat).card : Rat) /
            grid.numClear ∧
          outcome.Follows rules grid (Walk.start position) cap.toNat)) := by
  have inside := free_start placed
  simp only [simulate_eq rules _ placed, Option.getD_some]
  refine ⟨fun k le least => ?_, fun never => ?_⟩
  · obtain ⟨⟨d, reached⟩, -⟩ := least.1
    exact ⟨_, Run.finish_of_covers inside least le reached, rfl, rfl, rfl,
      ⟨d, reached, toNat_place (Walk.free_after inside reached)⟩, rfl⟩
  have left : ∀ i ≤ cap.toNat, ¬Covers rules grid.free (Walk.start position) grid.Clear i := by
    rcases Walk.ends_within grid.Clear cap.toNat with ⟨k, le, least⟩ | ⟨left, -⟩
    · exact absurd least (never k le)
    · exact left
  refine ⟨fun j le fault fails => ?_, fun succeeds => ?_⟩
  · exact Run.finish_of_failsAt inside (fun i before => left i (before.le.trans le)) fails le
  · rcases Walk.ends_within grid.Clear cap.toNat with
      ⟨k, le, least⟩ | ⟨-, ⟨j, le, fault, fails⟩ | ⟨d, reached⟩⟩
    · exact absurd least (never k le)
    · exact absurd fails (succeeds j le fault)
    · have all : (trail rules grid.free (Walk.start position) cap.toNat).filter grid.Clear =
          trail rules grid.free (Walk.start position) cap.toNat :=
        Finset.filter_true_of_mem fun place member =>
          Grid.clear_of_free fresh (Walk.free_of_mem_trail inside member)
      refine ⟨_, Run.finish_of_left inside left reached, rfl, rfl, ?_,
        ⟨d, reached, toNat_place (Walk.free_after inside reached)⟩, rfl⟩
      simp only [Run.cutShort, all]

/-- A corridor of two clear cells. -/
def Grid.corridor : Grid := ⟨[[.clear, .clear]]⟩

/-- Rules that go east as long as nothing is in the way. -/
def RuleTable.eastward : RuleTable :=
  (RuleTable.empty.addRule ⟨0, ⟨.any, .clear, .any, .any⟩, ⟨.east, 0⟩⟩).1

/-- Rules that go north whatever is in the way. -/
def RuleTable.northward : RuleTable :=
  (RuleTable.empty.addRule ⟨0, ⟨.any, .any, .any, .any⟩, ⟨.north, 0⟩⟩).1

theorem simulate_follows_corridor :
    Grid.corridor.Fresh ∧ Run.passable (Grid.corridor.at? 0 0) = true ∧
    ∃ outcome, simulate .eastward .corridor (0, 0) (some 5) = .ok outcome ∧
      outcome.steps = 1 ∧ outcome.coverage = 1 ∧ outcome.hitCap = false ∧
      outcome.Follows .eastward .corridor (Walk.start (0, 0)) 1 := by
  have first : after .eastward Grid.corridor.free (Walk.start (0, 0)) 1 = .ok ⟨0, (0, 1)⟩ := by
    decide +kernel
  have least : IsLeast
      {i | Covers .eastward Grid.corridor.free (Walk.start (0, 0)) Grid.corridor.Clear i} 1 := by
    refine ⟨(Run.covers_iff first).2 (by decide +kernel), fun i covers => ?_⟩
    cases i with
    | zero => exact absurd ((Run.covers_iff rfl).1 covers) (by decide +kernel)
    | succ i => exact Nat.le_add_left 1 i
  exact ⟨by decide, by decide,
    (simulate_refines_walk .eastward .corridor (0, 0) 5 (by decide) (by decide)).1 1 (by decide)
      least⟩

end MazeGrader
