import MazeGrader.Maze.Drawing
import MazeGrader.Proofs.Maze.Simulation
import MazeGrader.Proofs.Rules.Entry
import Mathlib.Combinatorics.Pigeonhole

/-! The default cap is never too small. A walk has no more configurations with known states
than there are cells times states, so a run that takes more steps than that goes in circles:
it neither fails nor completes, and there is no cell that it is yet to visit. -/
namespace MazeGrader

open Walk (Config after trail Covers FailsAt)

/-- Two results agree up to how long a run was that was cut short by its cap. -/
def SameEnd (left right : Except Fault Outcome) : Prop :=
  (∃ fault, left = .error fault ∧ right = .error fault) ∨
  (∃ outcome, outcome.hitCap = false ∧ left = .ok outcome ∧ right = .ok outcome) ∨
  ∃ a b, left = .ok a ∧ right = .ok b ∧ a.hitCap = true ∧ b.hitCap = true ∧
    a.coverage = b.coverage ∧ a.grid = b.grid

namespace Walk

variable {rules : RuleTable} {grid : Grid} {c d : Config} {n : Nat}

/-- More steps than there are states at places lead to a configuration for the second time. -/
theorem exists_repeat (inside : grid.free c.place = true)
    (reached : after rules grid.free c n = .ok d)
    (long : grid.numCells * rules.numStates < n) :
    ∃ first second e, first < second ∧ second < n ∧
      after rules grid.free c first = .ok e ∧ after rules grid.free c second = .ok e := by
  -- Only configurations that a step leaves are counted: the last one may be in a state
  -- without rules, which is not among the states of the table.
  have seen : ∀ i : Fin n, ∃ e, after rules grid.free c i = .ok e ∧
      (e.state, e.place) ∈ rules.states.toFinset ×ˢ grid.places := by
    intro i
    obtain ⟨next, later⟩ := after_of_le reached i.isLt
    obtain ⟨e, early⟩ := after_of_le later (Nat.le_succ i)
    obtain ⟨t, found, -⟩ := step_eq_ok ((after_succ early).symm.trans later)
    obtain ⟨row, col, place, passable⟩ := Grid.free_eq_true (free_after inside early)
    refine ⟨e, early, Finset.mem_product.2 ⟨?_, ?_⟩⟩
    · exact List.mem_toFinset.2 (RuleTable.mem_states.2 (RuleTable.knows_of_lookup found))
    · rw [place]; exact Grid.mem_places passable
  choose e at_ member using seen
  have few : (rules.states.toFinset ×ˢ grid.places).card < (Finset.univ : Finset (Fin n)).card := by
    rw [Finset.card_product, Finset.card_univ, Fintype.card_fin]
    calc rules.states.toFinset.card * grid.places.card
        ≤ rules.numStates * grid.numCells := by
          refine Nat.mul_le_mul ?_ grid.card_places_le
          exact (List.toFinset_card_le _).trans_eq (List.length_map _)
      _ < n := by rwa [Nat.mul_comm]
  obtain ⟨i, -, j, -, apart, same⟩ :=
    Finset.exists_ne_map_eq_of_card_lt_of_maps_to few fun i _ => member i
  have equal : e i = e j := by
    cases hi : e i; cases hj : e j
    simp_all
  rcases Nat.lt_or_gt_of_ne (Fin.val_ne_of_ne apart) with before | before
  · exact ⟨i, j, e j, before, j.isLt, equal ▸ at_ i, at_ j⟩
  · exact ⟨j, i, e j, before, i.isLt, at_ j, equal ▸ at_ i⟩

end Walk

/-- Runs that are given more steps than there are states at places all end in one way. -/
theorem sameEnd_of_long {rules : RuleTable} {grid : Grid} {c : Config} {more enough : Nat}
    (inside : grid.free c.place = true) (long : grid.numCells * rules.numStates < enough)
    (le : enough ≤ more) :
    SameEnd ((Run.origin grid c).finish rules more) ((Run.origin grid c).finish rules enough) := by
  rcases Walk.ends_within grid.Clear enough with
    ⟨k, within, least⟩ | ⟨left, ⟨j, within, fault, fails⟩ | ⟨d, reached⟩⟩
  · obtain ⟨⟨d, reached⟩, -⟩ := least.1
    exact .inr (.inl ⟨_, rfl, Run.finish_of_covers inside least (within.trans le) reached,
      Run.finish_of_covers inside least within reached⟩)
  · have before : ∀ i < j, ¬Covers rules grid.free c grid.Clear i :=
      fun i before => left i (before.le.trans within)
    exact .inl ⟨fault, Run.finish_of_failsAt inside before fails (within.trans le),
      Run.finish_of_failsAt inside before fails within⟩
  · obtain ⟨first, second, e, earlier, early, once, again⟩ :=
      Walk.exists_repeat inside reached long
    -- The walk repeated itself before the smaller cap, so from then on nothing changes.
    have loops : ∀ n, enough ≤ n → (∃ e, after rules grid.free c n = .ok e) ∧
        trail rules grid.free c n = trail rules grid.free c enough := by
      intro n late
      have now := Walk.trail_of_repeat earlier once again early.le
      have eventually := Walk.trail_of_repeat earlier once again (early.le.trans late)
      exact ⟨eventually.1, eventually.2.trans now.2.symm⟩
    have never : ∀ i ≤ more, ¬Covers rules grid.free c grid.Clear i := by
      intro i _ covers
      rcases Nat.le_total i enough with soon | late
      · exact left i soon covers
      · refine left enough le_rfl ⟨⟨d, reached⟩, fun place clear => ?_⟩
        rw [← (loops i late).2]
        exact covers.2 place clear
    obtain ⟨⟨e, later⟩, same⟩ := loops more le
    refine .inr (.inr ⟨_, _, Run.finish_of_left inside never later,
      Run.finish_of_left inside left reached, rfl, rfl, ?_, ?_⟩)
    · simp only [Run.cutShort, same]
    · simp only [Run.cutShort, same]

/-! ### The default cap -/

theorem toNat_defaultCap {rules : RuleTable} {grid : Grid}
    (fits : grid.numCells * 16 * max rules.numStates 1 * 4 < 2 ^ 64) :
    (defaultCap rules grid).toNat = grid.numCells * 16 * max rules.numStates 1 * 4 := by
  simp only [defaultCap, UInt64.toNat_mul, UInt64.toNat_ofNat', UInt64.toNat_ofNat]
  conv_rhs => rw [← Nat.mod_eq_of_lt fits]
  simp [Nat.mod_mul_mod, Nat.mul_mod_mod]

theorem numCells_pos {grid : Grid} {place : Int × Int} (free : grid.free place = true) :
    0 < grid.numCells := by
  obtain ⟨row, col, rfl, passable⟩ := Grid.free_eq_true free
  exact (Finset.card_pos.2 ⟨_, Grid.mem_places passable⟩).trans_le grid.card_places_le

/-- Every row of a standard map has the standard width. -/
theorem numCells_of_parse {source : String} {grid : Grid}
    (h : Grid.parse .standard source = .ok grid) : grid.numCells = 625 := by
  obtain ⟨-, height, widths⟩ := Grid.checkShape_eq_ok_iff.1 h
  obtain rfl := (Grid.checkShape_eq_ok_iff.1 h).1
  have rows : (Grid.ofLines (Text.lines source.toList)).height = 25 := height
  have all : ∀ width ∈ (Grid.ofLines (Text.lines source.toList)).rows.map List.length,
      width = 25 := by
    intro width member
    obtain ⟨cells, inRows, rfl⟩ := List.mem_map.1 member
    exact widths (by omega) cells inRows
  rw [Grid.numCells, List.length_flatten, List.eq_replicate_of_mem all, List.length_map,
    List.sum_replicate]
  exact congrArg (· * 25) rows

/-- A cap above the default one makes no difference but in the number of steps, and a standard
map is never too large for a default cap. -/
theorem simulate_past_defaultCap :
    (∀ (rules : RuleTable) (grid : Grid) (position : Nat × Nat) (cap : UInt64),
      Run.passable (grid.at? position.1 position.2) = true →
      grid.numCells * 16 * max rules.numStates 1 * 4 < 2 ^ 64 →
      defaultCap rules grid ≤ cap →
      SameEnd (simulate rules grid position (some cap)) (simulate rules grid position none)) ∧
    ∀ (source : String) (grid : Grid), Grid.parse .standard source = .ok grid →
      ∀ rules : RuleTable, grid.numCells * 16 * max rules.numStates 1 * 4 < 2 ^ 64 := by
  constructor
  · intro rules grid position cap placed fits enough
    have inside := free_start placed
    rw [simulate_eq rules _ placed, simulate_eq rules _ placed]
    refine sameEnd_of_long inside ?_ (UInt64.le_iff_toNat_le.1 enough)
    have positive := Nat.mul_pos (numCells_pos inside)
      (Nat.one_pos.trans_le (Nat.le_max_right rules.numStates 1))
    have known := Nat.mul_le_mul_left grid.numCells (Nat.le_max_left rules.numStates 1)
    rw [Option.getD_none, toNat_defaultCap fits]
    calc grid.numCells * rules.numStates
        ≤ grid.numCells * max rules.numStates 1 := known
      _ < 64 * (grid.numCells * max rules.numStates 1) := by omega
      _ = grid.numCells * 16 * max rules.numStates 1 * 4 := by ring
  · intro source grid parsed rules
    have := rules.numStates_le
    rw [numCells_of_parse parsed]
    omega

/-- Rules that stay where they are. -/
def RuleTable.standing : RuleTable :=
  (RuleTable.empty.addRule ⟨0, ⟨.any, .any, .any, .any⟩, ⟨.stay, 0⟩⟩).1

/-- The drawing of a standard map without walls. -/
def Grid.plain : String :=
  String.ofList (List.replicate 25 (List.replicate 25 ' ' ++ ['\n'])).flatten

theorem Grid.parse_plain :
    Grid.parse .standard plain = .ok ⟨List.replicate 25 (List.replicate 25 .clear)⟩ := by
  unfold parse plain
  rw [String.toList_ofList]
  decide +kernel

theorem simulate_past_defaultCap_standing :
    Run.passable (Grid.corridor.at? 0 0) = true ∧
    Grid.corridor.numCells * 16 * max RuleTable.standing.numStates 1 * 4 < 2 ^ 64 ∧
    defaultCap .standing .corridor ≤ 1000 ∧
    SameEnd (simulate .standing .corridor (0, 0) (some 1000))
      (simulate .standing .corridor (0, 0) none) ∧
    ∃ grid, Grid.parse .standard Grid.plain = .ok grid ∧
      grid.numCells * 16 * max RuleTable.standing.numStates 1 * 4 < 2 ^ 64 := by
  have placed : Run.passable (Grid.corridor.at? 0 0) = true := by decide
  have fits : Grid.corridor.numCells * 16 * max RuleTable.standing.numStates 1 * 4 < 2 ^ 64 := by
    decide +kernel
  have enough : defaultCap .standing .corridor ≤ 1000 := by decide +kernel
  exact ⟨placed, fits, enough,
    simulate_past_defaultCap.1 .standing .corridor (0, 0) 1000 placed fits enough,
    _, Grid.parse_plain, simulate_past_defaultCap.2 _ _ Grid.parse_plain .standing⟩

end MazeGrader
