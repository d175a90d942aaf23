import MazeGrader.Proofs.Maze.Marking
import MazeGrader.Proofs.Maze.Walk
import Mathlib.Algebra.Field.Rat

/-! Runs follow walks. A run keeps a map with marks, a count of clear cells and a status
beside the configuration of its walk, and all three can be told from the trail of the walk. -/
namespace MazeGrader

open Walk (Config after trail Covers FailsAt)

namespace Run

/-- The run whose agent came to a configuration on a trail, in so many steps. -/
def ofWalk (grid : Grid) (c : Config) (trail : Finset (Int × Int)) (steps : Nat) : Run where
  grid := grid.markEach trail
  state := c.state
  row := c.place.1.toNat
  col := c.place.2.toNat
  total := grid.numClear
  remaining := (grid.markEach trail).numClear
  steps
  status := statusAfter (grid.markEach trail).numClear

/-- The run of a walk that takes no step yet. -/
def origin (grid : Grid) (c : Config) : Run := ofWalk grid c {c.place} 0

theorem statusAfter_running {remaining : Nat} (h : remaining ≠ 0) :
    statusAfter remaining = .running := if_neg h

theorem begin?_eq {grid : Grid} {position : Nat × Nat}
    (placed : passable (grid.at? position.1 position.2) = true) :
    begin? grid position = .ok (origin grid (Walk.start position)) := by
  obtain ⟨row, col⟩ := position
  have marked := Grid.markEach_insert grid ∅ row col
  have lost := Grid.numClear_mark grid row col
  simp only [insert_empty_eq, Grid.markEach_empty] at marked
  simp only [begin?, placed, if_true, Grid.visit_eq, origin, ofWalk, Walk.start, marked,
    Int.toNat_natCast]
  by_cases clear : grid.at? row col = some .clear
  · simp [clear, ← lost]
  · simp [clear, ← lost]

theorem begin?_eq_error {grid : Grid} {position : Nat × Nat}
    (placed : passable (grid.at? position.1 position.2) = false) :
    begin? grid position = .error (.badStart position.1 position.2) := by
  simp [begin?, placed]

/-! ### One step -/

def place (run : Run) : Int × Int := (run.row, run.col)

theorem perceived_eq (grid : Grid) (place : Int × Int) :
    grid.perceived place.1 place.2 = if grid.free place then .clear else .wall := by
  unfold Grid.perceived Grid.free
  rcases grid.get? place.1 place.2 with _ | _ | _ | _ <;> rfl

/-- An agent perceives what the walls around it are, and no marks. -/
theorem surroundings_eq (run : Run) :
    run.surroundings = Walk.surroundings run.grid.free run.place := by
  simp [surroundings, Grid.surroundings, Walk.surroundings, Walk.neighbour, Direction.target,
    Direction.offset, place, ← perceived_eq, Int.sub_eq_add_neg]

section Move

variable {rules : RuleTable} {run : Run} {t : Transition}

theorem move_of_missing (missing : rules.lookup run.state run.surroundings = none) :
    run.move rules = .error (.noRule run.state run.surroundings) := by
  simp [move, missing]

theorem move_of_wall (found : rules.lookup run.state run.surroundings = some t)
    (wall : run.grid.free (t.direction.target run.place) = false) :
    run.move rules = .error
      (.blocked (t.direction.target run.place).1 (t.direction.target run.place).2) := by
  unfold move
  rw [found]
  exact if_neg (Bool.not_eq_true _ ▸ wall)

theorem move_of_free (found : rules.lookup run.state run.surroundings = some t) {row col : Nat}
    (ahead : t.direction.target run.place = ((row : Int), (col : Int)))
    (free : run.grid.free (t.direction.target run.place) = true) :
    run.move rules = .ok { run with
      grid := run.grid.mark row col, state := t.next, row, col
      remaining := if run.grid.at? row col = some .clear then run.remaining - 1
        else run.remaining } := by
  unfold move
  rw [found]
  refine (if_pos free).trans ?_
  have toRow : (run.row + t.direction.offset.1).toNat = row := by
    rw [show run.row + t.direction.offset.1 = (row : Int) from congrArg Prod.fst ahead]
    rfl
  have toCol : (run.col + t.direction.offset.2).toNat = col := by
    rw [show run.col + t.direction.offset.2 = (col : Int) from congrArg Prod.snd ahead]
    rfl
  simp only [toRow, toCol, Grid.visit_eq, decide_eq_true_eq]

end Move

section Step

variable {rules : RuleTable} {grid : Grid} {c d : Config} {trail : Finset (Int × Int)} {n : Nat}

theorem place_ofWalk (inside : grid.free c.place = true) :
    (ofWalk grid c trail n).place = c.place := by
  obtain ⟨row, col, here, -⟩ := Grid.free_eq_true inside
  simp [place, ofWalk, here]

theorem free_ofWalk : (ofWalk grid c trail n).grid.free = grid.free := Grid.free_markEach ..

theorem surroundings_ofWalk (inside : grid.free c.place = true) :
    (ofWalk grid c trail n).surroundings = Walk.surroundings grid.free c.place := by
  rw [surroundings_eq, free_ofWalk, place_ofWalk inside]

theorem move_ofWalk (inside : grid.free c.place = true)
    (h : Walk.step rules grid.free c = .ok d) :
    (ofWalk grid c trail n).move rules =
      .ok { ofWalk grid d (insert d.place trail) n with
        status := (ofWalk grid c trail n).status } := by
  obtain ⟨t, found, target, rfl⟩ := Walk.step_eq_ok h
  obtain ⟨row, col, ahead, -⟩ := Grid.free_eq_true target
  have marked := Grid.markEach_insert grid trail row col
  have lost := Grid.numClear_mark (grid.markEach trail) row col
  rw [← surroundings_ofWalk inside] at found
  rw [move_of_free found (by rw [place_ofWalk inside, ahead])
    (by rw [free_ofWalk, place_ofWalk inside, target])]
  simp only [ofWalk, ahead, marked, Int.toNat_natCast, ← lost]
  by_cases clear : (grid.markEach trail).at? row col = some .clear <;> simp [clear]

theorem move_ofWalk_error {fault : Fault} (inside : grid.free c.place = true)
    (h : Walk.step rules grid.free c = .error fault) :
    (ofWalk grid c trail n).move rules = .error fault := by
  rcases Walk.step_eq_error h with ⟨rfl, missing⟩ | ⟨t, found, wall, rfl⟩
  · rw [← surroundings_ofWalk inside] at missing ⊢
    exact move_of_missing missing
  · rw [← surroundings_ofWalk inside] at found
    rw [move_of_wall found (by rw [free_ofWalk, place_ofWalk inside, wall]), place_ofWalk inside]

/-- A step of the walk is a step of the run. -/
theorem step_ofWalk (inside : grid.free c.place = true)
    (left : (grid.markEach trail).numClear ≠ 0) (h : Walk.step rules grid.free c = .ok d) :
    (ofWalk grid c trail n).step rules = ofWalk grid d (insert d.place trail) (n + 1) := by
  have running : (ofWalk grid c trail n).status = .running := statusAfter_running left
  simp only [step, running, move_ofWalk inside h]
  rfl

/-- What stops the walk stops the run, in one more step. -/
theorem step_ofWalk_error {fault : Fault} (inside : grid.free c.place = true)
    (left : (grid.markEach trail).numClear ≠ 0)
    (h : Walk.step rules grid.free c = .error fault) :
    (ofWalk grid c trail n).step rules =
      { ofWalk grid c trail n with steps := n + 1, status := .failed fault } := by
  have running : (ofWalk grid c trail n).status = .running := statusAfter_running left
  simp only [step, running, move_ofWalk_error inside h]
  rfl

end Step

/-! ### Many steps -/

theorem advance_of_ended (rules : RuleTable) {run : Run} (ended : run.status ≠ .running)
    (n : Nat) : run.advance rules n = run := by
  cases n with
  | zero => rfl
  | succ n =>
    unfold advance
    split
    · next running => exact absurd running ended
    · rfl
    · rfl

theorem advance_add (rules : RuleTable) (m n : Nat) (run : Run) :
    run.advance rules (m + n) = (run.advance rules m).advance rules n := by
  induction m generalizing run with
  | zero => simp [advance]
  | succ m ih =>
    by_cases running : run.status = .running
    · rw [Nat.add_right_comm]
      simp only [advance, running, ih]
    · rw [advance_of_ended rules running, advance_of_ended rules running,
        advance_of_ended rules running]

theorem advance_one {rules : RuleTable} {run : Run} (running : run.status = .running) :
    run.advance rules 1 = run.step rules := by
  simp [advance, running]

section Course

variable {rules : RuleTable} {grid : Grid} {c d : Config} {k n : Nat}

theorem covers_iff (reached : after rules grid.free c n = .ok d) :
    Covers rules grid.free c grid.Clear n ↔
      (grid.markEach (trail rules grid.free c n)).numClear = 0 := by
  rw [Grid.numClear_markEach_eq_zero_iff]
  exact ⟨fun covers => covers.2, fun all => ⟨⟨d, reached⟩, all⟩⟩

/-- As long as clear cells are left and no step fails, the run is where the walk is. -/
theorem advance_origin (inside : grid.free c.place = true)
    (left : ∀ i < n, ¬Covers rules grid.free c grid.Clear i)
    (reached : after rules grid.free c n = .ok d) :
    (origin grid c).advance rules n = ofWalk grid d (trail rules grid.free c n) n := by
  induction n generalizing d with
  | zero =>
    cases reached
    rw [Walk.trail_zero]
    rfl
  | succ n ih =>
    obtain ⟨e, early⟩ := Walk.after_of_le reached (Nat.le_succ n)
    have uncovered : (grid.markEach (trail rules grid.free c n)).numClear ≠ 0 :=
      mt (covers_iff early).2 (left n (Nat.lt_succ_self n))
    rw [advance_add, ih (fun i before => left i (before.trans (Nat.lt_succ_self n))) early,
      advance_one (statusAfter_running uncovered),
      step_ofWalk (Walk.free_after inside early) uncovered
        ((Walk.after_succ early).symm.trans reached),
      Walk.trail_succ reached]

theorem coverage_eq {run : Run} (nonzero : run.total ≠ 0) :
    run.coverage = ((run.total - run.remaining : Nat) : Rat) / run.total := by
  simp [coverage, nonzero, Rat.mkRat_eq_div]

theorem coverage_of_none_left {run : Run} (finished : run.remaining = 0) : run.coverage = 1 := by
  by_cases total : run.total = 0
  · simp [coverage, total]
  · rw [coverage_eq total, finished, Nat.sub_zero, div_self (by exact_mod_cast total)]

/-- What a run comes to that took so many steps, and whose walk covers the clear cells. -/
def completed (rules : RuleTable) (grid : Grid) (c d : Config) (n : Nat) : Outcome where
  coverage := 1
  steps := n
  hitCap := false
  position := (d.place.1.toNat, d.place.2.toNat)
  grid := grid.markEach (trail rules grid.free c n)

/-- What a run comes to that took so many steps and is cut short. -/
def cutShort (rules : RuleTable) (grid : Grid) (c d : Config) (n : Nat) : Outcome where
  coverage := ((trail rules grid.free c n).filter grid.Clear).card / grid.numClear
  steps := n
  hitCap := true
  position := (d.place.1.toNat, d.place.2.toNat)
  grid := grid.markEach (trail rules grid.free c n)

theorem outcome_of_covers (reached : after rules grid.free c n = .ok d)
    (covers : Covers rules grid.free c grid.Clear n) :
    (ofWalk grid d (trail rules grid.free c n) n).outcome = .ok (completed rules grid c d n) := by
  have covered := (covers_iff reached).1 covers
  have ended : (ofWalk grid d (trail rules grid.free c n) n).status = .completed :=
    if_pos covered
  have full : (ofWalk grid d (trail rules grid.free c n) n).coverage = 1 :=
    coverage_of_none_left covered
  simp only [outcome, ended, full]
  rfl

theorem outcome_of_left (reached : after rules grid.free c n = .ok d)
    (left : ¬Covers rules grid.free c grid.Clear n) :
    (ofWalk grid d (trail rules grid.free c n) n).outcome = .ok (cutShort rules grid c d n) := by
  have uncovered := mt (covers_iff reached).2 left
  have lost := grid.numClear_markEach (trail rules grid.free c n)
  have running : (ofWalk grid d (trail rules grid.free c n) n).status = .running :=
    statusAfter_running uncovered
  have part : (ofWalk grid d (trail rules grid.free c n) n).coverage =
      ((trail rules grid.free c n).filter grid.Clear).card / grid.numClear := by
    have total : grid.numClear ≠ 0 := by omega
    rw [coverage_eq total]
    congr 2
    simp only [ofWalk]
    omega
  simp only [outcome, running, part]
  rfl

/-! ### How a run ends -/

theorem finish_origin (rules : RuleTable) (grid : Grid) (c : Config) (cap : Nat) :
    (origin grid c).finish rules cap = ((origin grid c).advance rules cap).outcome := rfl

theorem finish_of_covers {cap : Nat} (inside : grid.free c.place = true)
    (least : IsLeast {i | Covers rules grid.free c grid.Clear i} k) (le : k ≤ cap)
    (reached : after rules grid.free c k = .ok d) :
    (origin grid c).finish rules cap = .ok (completed rules grid c d k) := by
  obtain ⟨more, rfl⟩ := Nat.exists_eq_add_of_le le
  have left : ∀ i < k, ¬Covers rules grid.free c grid.Clear i :=
    fun i before covers => absurd (least.2 covers) (Nat.not_le.2 before)
  have ended : (ofWalk grid d (trail rules grid.free c k) k).status ≠ .running := by
    simp [ofWalk, statusAfter, (covers_iff reached).1 least.1]
  rw [finish_origin, advance_add, advance_origin inside left reached, advance_of_ended rules ended,
    outcome_of_covers reached least.1]

theorem finish_of_failsAt {cap j : Nat} {fault : Fault} (inside : grid.free c.place = true)
    (left : ∀ i < j, ¬Covers rules grid.free c grid.Clear i)
    (fails : FailsAt rules grid.free c j fault) (le : j ≤ cap) :
    (origin grid c).finish rules cap = .error fault := by
  obtain ⟨i, d, rfl, reached, stops⟩ := fails
  obtain ⟨more, rfl⟩ := Nat.exists_eq_add_of_le le
  have uncovered := mt (covers_iff reached).2 (left i (Nat.lt_succ_self i))
  rw [finish_origin, advance_add, advance_add,
    advance_origin inside (fun k before => left k (before.trans (Nat.lt_succ_self i))) reached,
    advance_one (statusAfter_running uncovered),
    step_ofWalk_error (Walk.free_after inside reached) uncovered stops,
    advance_of_ended rules (by simp)]
  rfl

theorem finish_of_left {cap : Nat} (inside : grid.free c.place = true)
    (left : ∀ i ≤ cap, ¬Covers rules grid.free c grid.Clear i)
    (reached : after rules grid.free c cap = .ok d) :
    (origin grid c).finish rules cap = .ok (cutShort rules grid c d cap) := by
  rw [finish_origin, advance_origin inside (fun i before => left i before.le) reached,
    outcome_of_left reached (left cap le_rfl)]

/-- A run completes, fails or is cut short as its walk covers the clear cells, fails or
goes on. -/
theorem finish_cases (rules : RuleTable) (cap : Nat) (inside : grid.free c.place = true) :
    (∃ k d, Covers rules grid.free c grid.Clear k ∧ after rules grid.free c k = .ok d ∧
      (origin grid c).finish rules cap = .ok (completed rules grid c d k)) ∨
    (∃ j fault, FailsAt rules grid.free c j fault ∧
      (origin grid c).finish rules cap = .error fault) ∨
    ∃ d, after rules grid.free c cap = .ok d ∧
      (origin grid c).finish rules cap = .ok (cutShort rules grid c d cap) := by
  rcases Walk.ends_within grid.Clear cap with
    ⟨k, le, least⟩ | ⟨left, ⟨j, le, fault, fails⟩ | ⟨d, reached⟩⟩
  · obtain ⟨⟨d, reached⟩, -⟩ := least.1
    exact .inl ⟨k, d, least.1, reached, finish_of_covers inside least le reached⟩
  · exact .inr (.inl ⟨j, fault, fails,
      finish_of_failsAt inside (fun i before => left i (before.le.trans le)) fails le⟩)
  · exact .inr (.inr ⟨d, reached, finish_of_left inside left reached⟩)

end Course

end Run

end MazeGrader
