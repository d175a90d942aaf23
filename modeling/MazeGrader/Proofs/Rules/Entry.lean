import MazeGrader.Rules.RuleTable
import Mathlib.Algebra.GroupWithZero.Nat
import Mathlib.Data.Finset.Card
import Mathlib.Data.Finset.Image
import Mathlib.Data.Finset.Range

/-! Entries of rule tables. What an operation on a table does is told by the entries, by the
known states and by the number of entries that are written. -/
namespace MazeGrader

/-- An update takes away the weight of the present value and brings that of the new one. -/
theorem Entries.sum_update {κ : Type u} {α : Type v} [LT κ] [DecidableLT κ] (weight : α → Nat)
    (key : κ) (change : Option α → α) (entries : List (κ × α)) :
    ((update key change entries).map fun entry => weight entry.2).sum +
        ((find? key entries).map weight).getD 0 =
      (entries.map fun entry => weight entry.2).sum + weight (change (find? key entries)) := by
  induction entries with
  | nil => simp [update, find?]
  | cons head rest ih =>
    obtain ⟨other, value⟩ := head
    by_cases below : key < other
    · simp [update, find?, below]
      omega
    · by_cases above : other < key
      · simp only [update, find?, below, above, if_false, if_true, List.map_cons, List.sum_cons]
        omega
      · simp [update, find?, below, above]
        omega

namespace RuleTable

/-! ### Known states -/

theorem knows_of_lookup {table : RuleTable} {state : State} {s : Surroundings} {t : Transition}
    (h : table.lookup state s = some t) : table.knows state = true := by
  obtain ⟨row, found, -⟩ := Option.bind_eq_some_iff.1 h
  simp [knows, found]

theorem mem_states {table : RuleTable} {state : State} :
    state ∈ table.states ↔ table.knows state = true := by
  simp only [states, knows, row?, List.mem_map, Option.isSome_iff_exists,
    Entries.find?_eq_some_iff table.ascending]
  constructor
  · rintro ⟨⟨state, row⟩, member, rfl⟩
    exact ⟨row, member⟩
  · rintro ⟨row, member⟩
    exact ⟨_, member, rfl⟩

/-- Tables are equal if they know the same states and have the same entries. -/
theorem ext_lookup {left right : RuleTable}
    (knows : ∀ state, left.knows state = right.knows state)
    (lookup : ∀ state s, left.lookup state s = right.lookup state s) : left = right := by
  have rows : left.rows = right.rows := by
    refine Entries.ascending_ext left.ascending right.ascending fun state => ?_
    have known := knows state
    have entries := lookup state
    unfold RuleTable.knows row? at known
    unfold RuleTable.lookup row? at entries
    cases inLeft : Entries.find? state left.rows with
    | none =>
      rw [inLeft] at known
      exact (Option.not_isSome_iff_eq_none.1 (by simp [← known])).symm
    | some row =>
      rw [inLeft] at known entries
      obtain ⟨other, inRight⟩ := Option.isSome_iff_exists.1 known.symm
      rw [inRight] at entries ⊢
      congr 1
      apply Vector.ext
      intro i inside
      have entry := entries (Surroundings.ofIndex ⟨i, inside⟩)
      simpa [Surroundings.index_ofIndex] using entry
  cases left
  cases right
  congr

/-- States are numbers of 32 bits, so there are not more of them than that. -/
theorem numStates_le (table : RuleTable) : table.numStates ≤ 2 ^ 32 := by
  have distinct : (table.states.map UInt32.toNat).Nodup := by
    refine List.pairwise_map.2 (table.states_ascending.imp fun less => ?_)
    exact Nat.ne_of_lt (UInt32.lt_iff_toNat_lt.1 less)
  have bounded : (table.states.map UInt32.toNat).toFinset ⊆ Finset.range (2 ^ 32) := by
    intro n member
    obtain ⟨state, -, rfl⟩ := List.mem_map.1 (List.mem_toFinset.1 member)
    exact Finset.mem_range.2 state.toNat_lt
  have few := Finset.card_le_card bounded
  rwa [List.toFinset_card_of_nodup distinct, Finset.card_range, List.length_map, states,
    List.length_map] at few

/-! ### One entry -/

def enter (row : RuleRow) (i : Fin 16) (t : Transition) : RuleRow := row.set i (some t)

/-- Writes an entry, also over one that is there. -/
def put (table : RuleTable) (state : State) (s : Surroundings) (t : Transition) : RuleTable :=
  table.modifyRow state fun row => enter row s.index t

variable {table after : RuleTable} {state other : State} {s q : Surroundings} {t : Transition}

theorem insert_of_free (free : table.lookup state s = none) :
    table.insert state s t = .ok (table.put state s t) := by
  simp [insert, free, put, enter]

theorem insert_of_taken (taken : (table.lookup state s).isSome = true) :
    table.insert state s t = .error (.repeatedRule state s) := by
  simp [insert, taken]

/-- An insertion succeeds in a free place, and there only. -/
theorem insert_eq_ok_iff :
    table.insert state s t = .ok after ↔
      table.lookup state s = none ∧ after = table.put state s t := by
  cases found : table.lookup state s with
  | none => simp [insert_of_free found, eq_comm]
  | some other => simp [insert, found]

theorem insert_eq_error_iff {fault : Fault} :
    table.insert state s t = .error fault ↔
      (table.lookup state s).isSome = true ∧ fault = .repeatedRule state s := by
  cases found : table.lookup state s with
  | none => simp [insert_of_free found]
  | some other => simp [insert, found, eq_comm]

@[simp] theorem lookup_empty : empty.lookup state s = none := rfl

@[simp] theorem knows_empty : empty.knows state = false := rfl

@[simp] theorem numRules_empty : empty.numRules = 0 := rfl

theorem getElem_empty (i : Fin 16) : RuleRow.empty[i] = none := by
  simp [RuleRow.empty]

theorem getElem_enter (row : RuleRow) (i j : Fin 16) (t : Transition) :
    (enter row i t)[j] = if j = i then some t else row[j] := by
  simp only [enter, Fin.getElem_fin, Vector.getElem_set, Fin.ext_iff, eq_comm]

theorem lookup_register : (table.register other).lookup state s = table.lookup state s := by
  unfold lookup register
  rw [row?_modifyRow]
  split
  · next same =>
    subst same
    cases table.row? state with
    | none => exact getElem_empty _
    | some row => rfl
  · rfl

theorem knows_register :
    (table.register other).knows state = (decide (state = other) || table.knows state) := by
  unfold knows register
  rw [row?_modifyRow]
  by_cases same : state = other <;> simp [same]

theorem register_of_knows (known : table.knows state = true) : table.register state = table := by
  refine ext_lookup (fun other => ?_) fun other s => lookup_register
  rw [knows_register]
  by_cases same : other = state <;> simp [same, known]

theorem lookup_put : (table.put other q t).lookup state s =
    if state = other ∧ s = q then some t else table.lookup state s := by
  unfold lookup put
  rw [row?_modifyRow]
  by_cases same : state = other
  · subst same
    have index : s.index = q.index ↔ s = q := ⟨Surroundings.index_injective, congrArg _⟩
    rw [if_pos rfl, Option.bind_some, getElem_enter]
    simp only [index, true_and]
    cases table.row? state with
    | none => rw [Option.getD_none, getElem_empty, Option.bind_none]
    | some row => rfl
  · simp [same]

theorem knows_put :
    (table.put other q t).knows state = (decide (state = other) || table.knows state) := by
  unfold knows put
  rw [row?_modifyRow]
  by_cases same : state = other <;> simp [same]

/-! ### The number of entries -/

def written (row : RuleRow) : Nat := row.toList.countP Option.isSome

theorem numRules_eq (table : RuleTable) :
    table.numRules = (table.rows.map fun row => written row.2).sum := by
  simp [numRules, List.countP_flatMap, Function.comp_def, written]

theorem written_empty : written .empty = 0 := by decide

theorem written_enter {row : RuleRow} {i : Fin 16} (free : row[i] = none) (t : Transition) :
    written (enter row i t) = written row + 1 := by
  have before : row[(i : Nat)] = none := free
  unfold written enter
  rw [Vector.toList_set, List.countP_set (by simp)]
  simp [before]

theorem numRules_modifyRow (table : RuleTable) (state : State) (change : RuleRow → RuleRow) :
    (table.modifyRow state change).numRules + written ((table.row? state).getD .empty) =
      table.numRules + written (change ((table.row? state).getD .empty)) := by
  have balance := Entries.sum_update written state (fun row => change (row.getD .empty)) table.rows
  rw [numRules_eq, numRules_eq]
  unfold row?
  cases found : Entries.find? state table.rows with
  | none => simpa [found, written_empty, modifyRow] using balance
  | some row => simpa [found, modifyRow] using balance

theorem numRules_register : (table.register state).numRules = table.numRules := by
  have balance := table.numRules_modifyRow state id
  simp only [id_eq] at balance
  unfold register
  omega

theorem numRules_put (free : table.lookup state s = none) :
    (table.put state s t).numRules = table.numRules + 1 := by
  have balance := table.numRules_modifyRow state fun row => enter row s.index t
  have here : ((table.row? state).getD .empty)[s.index] = none := by
    unfold lookup at free
    cases found : table.row? state with
    | none => exact getElem_empty _
    | some row => rw [found] at free; exact free
  rw [written_enter here] at balance
  unfold put
  omega

/-! ### Many entries of one state -/

def putAll (table : RuleTable) (state : State) (t : Transition) (several : List Surroundings) :
    RuleTable :=
  several.foldl (fun table s => table.put state s t) table

variable {several : List Surroundings}

theorem putAll_cons : table.putAll state t (q :: several) =
    (table.put state q t).putAll state t several := rfl

theorem lookup_putAll : (table.putAll other t several).lookup state s =
    if state = other ∧ s ∈ several then some t else table.lookup state s := by
  induction several generalizing table with
  | nil => simp [putAll]
  | cons q several ih =>
    rw [putAll_cons, ih, lookup_put]
    by_cases same : state = other <;> by_cases first : s = q <;> simp [same, first]

theorem knows_putAll (nonempty : several ≠ []) :
    (table.putAll other t several).knows state =
      (decide (state = other) || table.knows state) := by
  induction several generalizing table with
  | nil => exact absurd rfl nonempty
  | cons q several ih =>
    cases several with
    | nil => exact knows_put
    | cons next rest =>
      rw [putAll_cons, ih (List.cons_ne_nil _ _), knows_put, ← Bool.or_assoc, Bool.or_self]

/-- Entries of a known state make no state known. -/
theorem knows_putAll_of_known (known : table.knows other = true) :
    (table.putAll other t several).knows state = table.knows state := by
  cases several with
  | nil => rfl
  | cons s rest =>
    rw [knows_putAll (List.cons_ne_nil s rest)]
    by_cases same : state = other <;> simp [same, known]

theorem numRules_putAll (distinct : several.Nodup)
    (free : ∀ s ∈ several, table.lookup state s = none) :
    (table.putAll state t several).numRules = table.numRules + several.length := by
  induction several generalizing table with
  | nil => rfl
  | cons q several ih =>
    obtain ⟨absent, distinct⟩ := List.nodup_cons.1 distinct
    have still : ∀ s ∈ several, (table.put state q t).lookup state s = none := by
      intro s member
      have apart : s ≠ q := fun same => absent (same ▸ member)
      simp [lookup_put, apart, free s (List.mem_cons_of_mem _ member)]
    rw [putAll_cons, ih distinct still, numRules_put (free q List.mem_cons_self),
      List.length_cons]
    omega

/-- Insertions under surroundings of which it is known beforehand which are taken. -/
theorem insertAll_eq_of_taken (distinct : several.Nodup) (taken : Surroundings → Bool)
    (known : ∀ s ∈ several, (table.lookup state s).isSome = taken s) :
    table.insertAll state t several =
      (table.putAll state t (several.takeWhile fun s => !taken s),
        (several.find? taken).map (.repeatedRule state)) := by
  induction several generalizing table with
  | nil => rfl
  | cons q several ih =>
    obtain ⟨absent, distinct⟩ := List.nodup_cons.1 distinct
    have first := known q List.mem_cons_self
    cases found : taken q with
    | true => simp [insertAll, insert_of_taken (first.trans found), found, putAll]
    | false =>
      have free : table.lookup state q = none := by simpa [found] using first
      have later : ∀ s ∈ several, ((table.put state q t).lookup state s).isSome = taken s := by
        intro s member
        have apart : s ≠ q := fun same => absent (same ▸ member)
        simpa [lookup_put, apart] using known s (List.mem_cons_of_mem _ member)
      rw [insertAll, insert_of_free free]
      refine (ih distinct later).trans ?_
      simp [found, putAll]

/-- Insertions go on up to the first entry that is taken, and say which it is. -/
theorem insertAll_eq (distinct : several.Nodup) :
    table.insertAll state t several =
      (table.putAll state t (several.takeWhile fun s => !(table.lookup state s).isSome),
        (several.find? fun s => (table.lookup state s).isSome).map (.repeatedRule state)) :=
  insertAll_eq_of_taken distinct _ fun _ _ => rfl

end RuleTable

end MazeGrader
