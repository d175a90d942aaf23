import MazeGrader.Rules.RuleTable
import Mathlib.Data.Finset.Insert
import Mathlib.Data.Finset.Dedup
import Mathlib.Data.Nat.Find
import Mathlib.Order.Bounds.Defs

/-! The walk that rules describe in the plane, of which some places are free. A walk knows
neither which places were visited nor how many are left, so it goes round in circles as soon
as it is in one state at one place for the second time. -/
namespace MazeGrader

/-- The place next to another one in some direction. -/
def Direction.target (direction : Direction) (place : Int × Int) : Int × Int :=
  (place.1 + direction.offset.1, place.2 + direction.offset.2)

namespace Walk

structure Config where
  state : State
  place : Int × Int
  deriving DecidableEq

/-- A walk begins in state zero. -/
def start (position : Nat × Nat) : Config := ⟨0, (position.1, position.2)⟩

def neighbour (free : Int × Int → Bool) (place : Int × Int) (direction : Direction) : Neighbour :=
  if free (direction.target place) then .clear else .wall

def surroundings (free : Int × Int → Bool) (place : Int × Int) : Surroundings :=
  ⟨neighbour free place .north, neighbour free place .east,
    neighbour free place .west, neighbour free place .south⟩

variable (rules : RuleTable) (free : Int × Int → Bool)

def step (c : Config) : Except Fault Config :=
  match rules.lookup c.state (surroundings free c.place) with
  | none => .error (.noRule c.state (surroundings free c.place))
  | some t =>
    let target := t.direction.target c.place
    if free target then .ok ⟨t.next, target⟩ else .error (.blocked target.1 target.2)

/-- Where a walk is after so many steps, or what the first step that failed came to. -/
def after (c : Config) : Nat → Except Fault Config
  | 0 => .ok c
  | n + 1 => after c n >>= step rules free

def placeAfter (c : Config) (n : Nat) : Option (Int × Int) :=
  (after rules free c n).toOption.map Config.place

/-- The places where a walk was in its first so many steps, the first place included. -/
def trail (c : Config) (n : Nat) : Finset (Int × Int) :=
  ((List.range (n + 1)).filterMap (placeAfter rules free c)).toFinset

/-- So many steps succeed, and all of some places are on the way. -/
def Covers (c : Config) (goal : Int × Int → Prop) (n : Nat) : Prop :=
  (∃ d, after rules free c n = .ok d) ∧ ∀ place, goal place → place ∈ trail rules free c n

/-- The step of this number, counted from one, is the first that fails. -/
def FailsAt (c : Config) (n : Nat) (fault : Fault) : Prop :=
  ∃ i d, n = i + 1 ∧ after rules free c i = .ok d ∧ step rules free d = .error fault

variable {rules free} {c d : Config} {m n : Nat}

/-! ### Steps and faults -/

theorem after_succ (h : after rules free c n = .ok d) :
    after rules free c (n + 1) = step rules free d := by
  rw [after, h]; rfl

theorem after_add : after rules free c (m + n) =
    after rules free c m >>= fun d => after rules free d n := by
  induction n with
  | zero => cases h : after rules free c m <;> simp [after, bind, Except.bind]
  | succ n ih => rw [← Nat.add_assoc, after, ih, bind_assoc]; rfl

theorem after_add_of_ok (h : after rules free c m = .ok d) :
    after rules free c (m + n) = after rules free d n := by
  rw [after_add, h]; rfl

/-- The steps before one that was reached succeed. -/
theorem after_of_le (h : after rules free c n = .ok d) (before : m ≤ n) :
    ∃ e, after rules free c m = .ok e := by
  obtain ⟨k, rfl⟩ := Nat.exists_eq_add_of_le before
  rw [after_add] at h
  cases early : after rules free c m with
  | ok e => exact ⟨e, rfl⟩
  | error fault => rw [early] at h; cases h

theorem failsAt_of_after {fault : Fault} (h : after rules free c n = .error fault) :
    ∃ j ≤ n, FailsAt rules free c j fault := by
  induction n with
  | zero => cases h
  | succ n ih =>
    cases early : after rules free c n with
    | ok d => exact ⟨n + 1, le_rfl, n, d, rfl, early, by rwa [after_succ early] at h⟩
    | error other =>
      obtain rfl : other = fault := by rw [after, early] at h; cases h; rfl
      obtain ⟨j, before, fails⟩ := ih early
      exact ⟨j, before.trans (Nat.le_succ n), fails⟩

theorem step_eq_ok (h : step rules free c = .ok d) :
    ∃ t, rules.lookup c.state (surroundings free c.place) = some t ∧
      free (t.direction.target c.place) = true ∧ d = ⟨t.next, t.direction.target c.place⟩ := by
  unfold step at h
  split at h
  · cases h
  · next t found =>
    dsimp only at h
    split at h
    · next inside => exact ⟨t, found, inside, (Except.ok.inj h).symm⟩
    · cases h

/-- A step fails for want of a rule or in front of a place that is not free. -/
theorem step_eq_error {fault : Fault} (h : step rules free c = .error fault) :
    (fault = .noRule c.state (surroundings free c.place) ∧
      rules.lookup c.state (surroundings free c.place) = none) ∨
    ∃ t, rules.lookup c.state (surroundings free c.place) = some t ∧
      free (t.direction.target c.place) = false ∧
      fault = .blocked (t.direction.target c.place).1 (t.direction.target c.place).2 := by
  unfold step at h
  split at h
  · next missing => exact .inl ⟨(Except.error.inj h).symm, missing⟩
  · next t found =>
    dsimp only at h
    split at h
    · cases h
    · next blocked => exact .inr ⟨t, found, by simpa using blocked, (Except.error.inj h).symm⟩

/-- A walk stays on free places. -/
theorem free_after (inside : free c.place = true) (h : after rules free c n = .ok d) :
    free d.place = true := by
  cases n with
  | zero => cases h; exact inside
  | succ n =>
    obtain ⟨e, early⟩ := after_of_le h (Nat.le_succ n)
    obtain ⟨t, -, target, rfl⟩ := step_eq_ok ((after_succ early).symm.trans h)
    exact target

/-! ### Trails -/

theorem mem_trail {place : Int × Int} : place ∈ trail rules free c n ↔
    ∃ i ≤ n, ∃ d, after rules free c i = .ok d ∧ d.place = place := by
  simp only [trail, List.mem_toFinset, List.mem_filterMap, List.mem_range, Nat.lt_succ_iff]
  refine exists_congr fun i => and_congr_right fun _ => ?_
  unfold placeAfter
  cases after rules free c i <;> simp [Except.toOption]

theorem trail_zero : trail rules free c 0 = {c.place} := by
  ext place
  simp only [mem_trail, Finset.mem_singleton, Nat.le_zero, exists_eq_left, after,
    Except.ok.injEq, exists_eq_left']
  exact eq_comm

theorem trail_succ (h : after rules free c (n + 1) = .ok d) :
    trail rules free c (n + 1) = insert d.place (trail rules free c n) := by
  ext place
  simp only [mem_trail, Finset.mem_insert]
  constructor
  · rintro ⟨i, le, e, at_i, rfl⟩
    rcases Nat.le_succ_iff.1 le with before | rfl
    · exact .inr ⟨i, before, e, at_i, rfl⟩
    · rw [h] at at_i; cases at_i; exact .inl rfl
  · rintro (rfl | ⟨i, le, e, at_i, rfl⟩)
    · exact ⟨n + 1, le_rfl, d, h, rfl⟩
    · exact ⟨i, le.trans (Nat.le_succ n), e, at_i, rfl⟩

theorem trail_mono (le : m ≤ n) : trail rules free c m ⊆ trail rules free c n := by
  intro place member
  obtain ⟨i, before, d, at_i, rfl⟩ := mem_trail.1 member
  exact mem_trail.2 ⟨i, before.trans le, d, at_i, rfl⟩

theorem free_of_mem_trail {place : Int × Int} (inside : free c.place = true)
    (member : place ∈ trail rules free c n) : free place = true := by
  obtain ⟨i, -, d, at_i, rfl⟩ := mem_trail.1 member
  exact free_after inside at_i

/-- Within any number of steps a walk covers its goal, fails, or takes them all. -/
theorem ends_within (goal : Int × Int → Prop) (cap : Nat) :
    (∃ k ≤ cap, IsLeast {i | Covers rules free c goal i} k) ∨
    (∀ i ≤ cap, ¬Covers rules free c goal i) ∧
      ((∃ j ≤ cap, ∃ fault, FailsAt rules free c j fault) ∨
        ∃ d, after rules free c cap = .ok d) := by
  classical
  by_cases covers : ∃ i ≤ cap, Covers rules free c goal i
  · obtain ⟨i, le, covers⟩ := covers
    have found : ∃ i, Covers rules free c goal i := ⟨i, covers⟩
    exact .inl ⟨Nat.find found, (Nat.find_min' found covers).trans le,
      Nat.find_spec found, fun k => Nat.find_min' found⟩
  · refine .inr ⟨fun i le h => covers ⟨i, le, h⟩, ?_⟩
    cases reached : after rules free c cap with
    | ok d => exact .inr ⟨d, rfl⟩
    | error fault =>
      obtain ⟨j, le, fails⟩ := failsAt_of_after reached
      exact .inl ⟨j, le, fault, fails⟩

/-! ### Walks that repeat themselves -/

/-- What follows a configuration that is met again was seen before it is met again. -/
theorem after_of_repeat {first second : Nat} (earlier : first < second)
    (once : after rules free c first = .ok d) (again : after rules free c second = .ok d)
    (n : Nat) : ∃ m < second, after rules free c n = after rules free c m := by
  -- A number past the second meeting is taken back by the time between the two.
  induction n using Nat.strong_induction_on with
  | _ n ih =>
    rcases Nat.lt_or_ge n second with before | past
    · exact ⟨n, before, rfl⟩
    · obtain ⟨k, rfl⟩ := Nat.exists_eq_add_of_le past
      obtain ⟨m, before, same⟩ := ih (first + k) (by omega)
      exact ⟨m, before, by rw [after_add_of_ok again, ← after_add_of_ok once, same]⟩

/-- A walk that repeats itself never fails and finds no new place. -/
theorem trail_of_repeat {first second : Nat} (earlier : first < second)
    (once : after rules free c first = .ok d) (again : after rules free c second = .ok d)
    (late : second ≤ n) :
    (∃ e, after rules free c n = .ok e) ∧
      trail rules free c n = trail rules free c second := by
  constructor
  · obtain ⟨m, before, same⟩ := after_of_repeat earlier once again n
    rw [same]
    exact after_of_le again before.le
  · apply Finset.Subset.antisymm _ (trail_mono late)
    intro place member
    obtain ⟨i, -, e, at_i, rfl⟩ := mem_trail.1 member
    obtain ⟨m, before, same⟩ := after_of_repeat earlier once again i
    exact mem_trail.2 ⟨m, before.le, e, same ▸ at_i, rfl⟩

end Walk

end MazeGrader
