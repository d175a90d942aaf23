import MazeGrader.Proofs.Rules.Extension
import MazeGrader.Proofs.Rules.FirstFault

/-! What a table keeps. It can be changed by three operations in any order, none of which takes
an entry or a state away, and one that fails has done its part up to there and nothing else. -/
namespace MazeGrader

namespace RuleTable

/-- The operations that change a table. -/
inductive Edit where
  | register (state : State)
  | insert (state : State) (s : Surroundings) (t : Transition)
  | addRule (rule : Rule)
  deriving DecidableEq, Repr

/-- What an operation leaves, and what stopped it. An insertion makes its state known before it
looks for an entry there. -/
def edit (table : RuleTable) : Edit → RuleTable × Option Fault
  | .register state => (table.register state, none)
  | .insert state s t =>
    match table.insert state s t with
    | .ok after => (after, none)
    | .error fault => (table.register state, some fault)
  | .addRule rule => table.addRule rule

/-- Operations one after the other, also after one that failed. -/
def editAll (table : RuleTable) (edits : List Edit) : RuleTable :=
  edits.foldl (fun table edit => (table.edit edit).1) table

/-- How many insertions succeed, up to the first one that fails. -/
def numInserted (table : RuleTable) (state : State) (t : Transition) : List Surroundings → Nat
  | [] => 0
  | s :: rest =>
    match table.insert state s t with
    | .ok after => numInserted after state t rest + 1
    | .error _ => 0

/-- How many insertions of an operation succeed. -/
def editInserted (table : RuleTable) : Edit → Nat
  | .register _ => 0
  | .insert state s t => table.numInserted state t [s]
  | .addRule rule =>
    (table.register rule.transition.next).numInserted rule.state rule.transition
      rule.pattern.matching

def editAllInserted (table : RuleTable) : List Edit → Nat
  | [] => 0
  | edit :: rest => table.editInserted edit + editAllInserted (table.edit edit).1 rest

variable {table after : RuleTable} {state : State} {s : Surroundings} {t : Transition}

/-- Where there is an entry its state is known, so an insertion that fails changes nothing. -/
theorem edit_insert_of_error {fault : Fault} (failed : table.insert state s t = .error fault) :
    table.edit (.insert state s t) = (table, some fault) := by
  obtain ⟨other, entry⟩ := Option.isSome_iff_exists.1 (insert_eq_error_iff.1 failed).1
  simp only [edit, failed, register_of_knows (knows_of_lookup entry)]

theorem edit_insert (table : RuleTable) (state : State) (s : Surroundings) (t : Transition) :
    table.edit (.insert state s t) = table.insertAll state t [s] := by
  cases attempt : table.insert state s t with
  | ok after => simp [edit, insertAll, attempt]
  | error fault => simp [edit_insert_of_error attempt, insertAll, attempt]

/-! ### Nothing is lost -/

theorem Extends.refl (table : RuleTable) : table.Extends table :=
  ⟨fun _ _ _ found => found, fun _ known => known⟩

theorem Extends.trans {last next first : RuleTable} (later : last.Extends next)
    (sooner : next.Extends first) : last.Extends first :=
  ⟨fun state s t found => later.lookup state s t (sooner.lookup state s t found),
    fun state known => later.knows state (sooner.knows state known)⟩

theorem register_extends (table : RuleTable) (state : State) :
    (table.register state).Extends table :=
  ⟨fun other s t found => by rw [lookup_register, found],
    fun other known => by rw [knows_register, known, Bool.or_true]⟩

theorem insert_extends (inserted : table.insert state s t = .ok after) : after.Extends table := by
  obtain ⟨free, rfl⟩ := insert_eq_ok_iff.1 inserted
  constructor
  · intro other q u found
    have elsewhere : ¬(other = state ∧ q = s) := by
      rintro ⟨rfl, rfl⟩
      cases free.symm.trans found
    rw [lookup_put, if_neg elsewhere, found]
  · intro other known
    rw [knows_put, known, Bool.or_true]

theorem insertAll_extends (table : RuleTable) (state : State) (t : Transition)
    (several : List Surroundings) : (table.insertAll state t several).1.Extends table := by
  induction several generalizing table with
  | nil => exact .refl table
  | cons s rest ih =>
    unfold insertAll
    split
    · next after inserted => exact (ih after).trans (insert_extends inserted)
    · exact .refl table

theorem edit_extends (table : RuleTable) (edit : Edit) : (table.edit edit).1.Extends table := by
  cases edit with
  | register state => exact register_extends table state
  | insert state s t =>
    rw [edit_insert]
    exact insertAll_extends table state t [s]
  | addRule rule => exact (insertAll_extends ..).trans (register_extends table _)

theorem editAll_extends (table : RuleTable) (edits : List Edit) :
    (table.editAll edits).Extends table := by
  induction edits generalizing table with
  | nil => exact .refl table
  | cons edit rest ih => exact (ih (table.edit edit).1).trans (table.edit_extends edit)

/-! ### Each entry is counted once -/

theorem numRules_insertAll (table : RuleTable) (state : State) (t : Transition)
    (several : List Surroundings) :
    (table.insertAll state t several).1.numRules =
      table.numRules + table.numInserted state t several := by
  induction several generalizing table with
  | nil => rfl
  | cons s rest ih =>
    cases attempt : table.insert state s t with
    | ok after =>
      obtain ⟨free, rfl⟩ := insert_eq_ok_iff.1 attempt
      simp only [insertAll, numInserted, attempt, ih, numRules_put free]
      omega
    | error fault => simp [insertAll, numInserted, attempt]

theorem numRules_edit (table : RuleTable) (edit : Edit) :
    (table.edit edit).1.numRules = table.numRules + table.editInserted edit := by
  cases edit with
  | register state => exact numRules_register
  | insert state s t =>
    rw [edit_insert]
    exact numRules_insertAll table state t [s]
  | addRule rule =>
    have count := (table.register rule.transition.next).numRules_insertAll rule.state
      rule.transition rule.pattern.matching
    rwa [numRules_register] at count

theorem numRules_editAll (table : RuleTable) (edits : List Edit) :
    (table.editAll edits).numRules = table.numRules + table.editAllInserted edits := by
  induction edits generalizing table with
  | nil => rfl
  | cons edit rest ih =>
    have rest := ih (table.edit edit).1
    rw [numRules_edit] at rest
    rw [editAllInserted, ← Nat.add_assoc]
    exact rest

/-! ### What is done and what is left out -/

/-- The table after an insertion: the state is known, and no other entry or state is touched. -/
structure Inserts (table : RuleTable) (state : State) (s : Surroundings) (t : Transition)
    (after : RuleTable) : Prop where
  entry : after.lookup state s = some t
  known : after.knows state = true
  lookup : ∀ other q, ¬(other = state ∧ q = s) → after.lookup other q = table.lookup other q
  knows : ∀ other, other ≠ state → after.knows other = table.knows other

theorem inserts_of_insert (inserted : table.insert state s t = .ok after) :
    table.Inserts state s t after := by
  obtain ⟨-, rfl⟩ := insert_eq_ok_iff.1 inserted
  constructor
  · simp [lookup_put]
  · simp [knows_put]
  · intro other q elsewhere
    rw [lookup_put, if_neg elsewhere]
  · intro other apart
    simp [knows_put, apart]

/-- The table after a rule that is stopped: its next state is known, and of its surroundings those
before the first taken ones, all of them free until then, have its transition. -/
structure StopsAt (table : RuleTable) (rule : Rule) (s : Surroundings) (after : RuleTable) :
    Prop where
  here : rule.pattern.Matches s
  taken : (table.lookup rule.state s).isSome = true
  least : ∀ q, rule.pattern.Matches q → (table.lookup rule.state q).isSome = true →
    s.index ≤ q.index
  free : ∀ q, rule.pattern.Matches q → q.index < s.index → table.lookup rule.state q = none
  lookup : ∀ state q, after.lookup state q =
    if state = rule.state ∧ rule.pattern.Matches q ∧ q.index < s.index then some rule.transition
    else table.lookup state q
  knows : ∀ state, after.knows state = true ↔
    state = rule.transition.next ∨ table.knows state = true

theorem addRule_stops_iff (table : RuleTable) (rule : Rule) :
    (∃ after fault, table.addRule rule = (after, some fault)) ↔
      ∃ s, rule.pattern.Matches s ∧ (table.lookup rule.state s).isSome = true := by
  rw [addRule_eq]
  simp only [Prod.mk.injEq, Option.map_eq_some_iff]
  constructor
  · rintro ⟨_, _, rfl, s, found, rfl⟩
    exact ⟨s, Pattern.mem_matching.1 (List.mem_of_find?_eq_some found), by
      simpa using List.find?_some found⟩
  · rintro ⟨s, here, taken⟩
    have stops : (rule.pattern.matching.find? fun s => (table.lookup rule.state s).isSome).isSome :=
      List.find?_isSome.2 ⟨s, Pattern.mem_matching.2 here, taken⟩
    obtain ⟨first, found⟩ := Option.isSome_iff_exists.1 stops
    exact ⟨_, _, rfl, first, found, rfl⟩

theorem stopsAt_of_addRule {rule : Rule} {fault : Fault}
    (stopped : table.addRule rule = (after, some fault)) :
    ∃ s, fault = .repeatedRule rule.state s ∧ table.StopsAt rule s after := by
  rw [addRule_eq, Prod.mk.injEq, Option.map_eq_some_iff] at stopped
  obtain ⟨rfl, s, found, rfl⟩ := stopped
  have taken : (table.lookup rule.state s).isSome = true := by simpa using List.find?_some found
  have least : ∀ q, rule.pattern.Matches q → (table.lookup rule.state q).isSome = true →
      s.index ≤ q.index := fun q here also =>
    Surroundings.index_le_of_find? rule.pattern.matching_ascending found
      (Pattern.mem_matching.2 here) also
  refine ⟨s, rfl, Pattern.mem_matching.1 (List.mem_of_find?_eq_some found), taken, least, ?_, ?_,
    ?_⟩
  · intro q here before
    exact Option.not_isSome_iff_eq_none.1 fun also =>
      absurd before (Nat.not_lt.2 (least q here also))
  · intro state q
    simp only [lookup_putAll, lookup_register, Pattern.mem_matching,
      Surroundings.mem_takeWhile_iff rule.pattern.matching_ascending found]
  · -- The state of the rule has an entry, so it is no news that it is known.
    obtain ⟨t, entry⟩ := Option.isSome_iff_exists.1 taken
    have known := (register_extends table rule.transition.next).knows _ (knows_of_lookup entry)
    intro state
    rw [knows_putAll_of_known known, knows_register, Bool.or_eq_true, decide_eq_true_eq]

/-- Whatever operations are made on a table, each entry and each known state stays. A single
insertion fails just where there is an entry, a rule fails where one of its surroundings is taken,
and the fault names the first of these. The entries of a table that began empty are those that
were inserted. -/
theorem write_once (table : RuleTable) (edits : List Edit) :
    (table.editAll edits).Extends table ∧
    (∀ state other s, (table.register state).lookup other s = table.lookup other s) ∧
    (∀ state s t,
      ((∃ fault, table.insert state s t = .error fault) ↔
        (table.lookup state s).isSome = true) ∧
      (∀ fault, table.insert state s t = .error fault →
        fault = .repeatedRule state s ∧ table.edit (.insert state s t) = (table, some fault)) ∧
      ∀ after, table.insert state s t = .ok after → table.Inserts state s t after) ∧
    (∀ rule : Rule,
      ((∃ after fault, table.addRule rule = (after, some fault)) ↔
        ∃ s, rule.pattern.Matches s ∧ (table.lookup rule.state s).isSome = true) ∧
      ∀ after fault, table.addRule rule = (after, some fault) →
        ∃ s, fault = .repeatedRule rule.state s ∧ table.StopsAt rule s after) ∧
    (empty.editAll edits).numRules = empty.editAllInserted edits := by
  refine ⟨table.editAll_extends edits, fun _ _ _ => lookup_register, fun state s t => ⟨?_, ?_, ?_⟩,
    fun rule => ⟨table.addRule_stops_iff rule, fun _ _ => stopsAt_of_addRule⟩, ?_⟩
  · simp [insert_eq_error_iff]
  · exact fun fault failed => ⟨(insert_eq_error_iff.1 failed).2, edit_insert_of_error failed⟩
  · exact fun _ => inserts_of_insert
  · have count := numRules_editAll empty edits
    rwa [numRules_empty, Nat.zero_add] at count

/-- The entry that is made first stops the rule, which goes on in its own state. -/
def stoppedEdits : List Edit :=
  [.insert 0 ⟨.clear, .wall, .clear, .clear⟩ ⟨.north, 1⟩, .register 1,
    .addRule ⟨0, ⟨.clear, .any, .any, .clear⟩, ⟨.west, 0⟩⟩]

theorem write_once_stopped :
    let table := empty.editAll (stoppedEdits.take 2)
    let rule : Rule := ⟨0, ⟨.clear, .any, .any, .clear⟩, ⟨.west, 0⟩⟩
    ∃ after, table.addRule rule =
        (after, some (.repeatedRule 0 ⟨.clear, .wall, .clear, .clear⟩)) ∧
      table.StopsAt rule ⟨.clear, .wall, .clear, .clear⟩ after ∧
      after.lookup 0 ⟨.clear, .clear, .wall, .clear⟩ = some ⟨.west, 0⟩ ∧
      after.lookup 0 ⟨.clear, .wall, .wall, .clear⟩ = none ∧
      (empty.editAll stoppedEdits).numRules = 3 := by
  intro table rule
  obtain ⟨-, -, -, rules, count⟩ := write_once table stoppedEdits
  have taken : (table.lookup 0 ⟨.clear, .wall, .clear, .clear⟩).isSome = true := by decide
  obtain ⟨after, fault, stopped⟩ := (rules rule).1.2 ⟨_, by decide, taken⟩
  have named : (table.addRule rule).2 =
      some (.repeatedRule 0 ⟨.clear, .wall, .clear, .clear⟩) := by decide
  obtain ⟨s, rfl, stopsAt⟩ := (rules rule).2 after fault stopped
  rw [stopped] at named
  cases named
  refine ⟨after, stopped, stopsAt, ?_, ?_, ?_⟩
  · rw [stopsAt.lookup]
    decide
  · rw [stopsAt.lookup]
    decide
  · rw [count]
    decide

end RuleTable

end MazeGrader
