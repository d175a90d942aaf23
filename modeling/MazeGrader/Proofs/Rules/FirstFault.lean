import MazeGrader.Proofs.Rules.Compiled
import Mathlib.Order.Bounds.Defs

/-! Where a compilation stops. The lines before the first one that is at fault compile, the
table they come to decides what is wrong with that line, and the lines behind it are not read. -/
namespace MazeGrader

/-- Surroundings are tried in the order of their indices. -/
theorem Pattern.matching_ascending (p : Pattern) :
    p.matching.Pairwise fun a b => a.index < b.index := by
  obtain ⟨_ | _ | _, _ | _ | _, _ | _ | _, _ | _ | _⟩ := p <;> decide

namespace Surroundings

variable {several : List Surroundings} {taken : Surroundings → Bool} {s q : Surroundings}

/-- The first ones taken are behind those of smaller index and before those of greater index. -/
theorem exists_split_of_find? (ascending : several.Pairwise fun a b => a.index < b.index)
    (found : several.find? taken = some s) :
    ∃ front back, several = front ++ s :: back ∧ taken s = true ∧
      (∀ q ∈ front, (!taken q) = true ∧ q.index < s.index) ∧ ∀ q ∈ back, s.index < q.index := by
  obtain ⟨isTaken, front, back, rfl, free⟩ := List.find?_eq_some_iff_append.1 found
  obtain ⟨-, tail, below⟩ := List.pairwise_append.1 ascending
  exact ⟨front, back, rfl, isTaken,
    fun q before => ⟨free q before, below q before s List.mem_cons_self⟩,
    (List.pairwise_cons.1 tail).1⟩

theorem index_le_of_find? (ascending : several.Pairwise fun a b => a.index < b.index)
    (found : several.find? taken = some s) (member : q ∈ several) (also : taken q = true) :
    s.index ≤ q.index := by
  obtain ⟨front, back, rfl, -, free, above⟩ := exists_split_of_find? ascending found
  rcases List.mem_append.1 member with before | behind
  · have notTaken := (free q before).1
    rw [also] at notTaken
    cases notTaken
  · rcases List.mem_cons.1 behind with rfl | behind
    · exact Fin.le_refl _
    · exact Fin.le_of_lt (above q behind)

/-- Those in front of the first ones taken are those of smaller index. -/
theorem mem_takeWhile_iff (ascending : several.Pairwise fun a b => a.index < b.index)
    (found : several.find? taken = some s) :
    (q ∈ several.takeWhile fun q => !taken q) ↔ q ∈ several ∧ q.index < s.index := by
  obtain ⟨front, back, rfl, isTaken, free, above⟩ := exists_split_of_find? ascending found
  have first : (front ++ s :: back).takeWhile (fun q => !taken q) = front := by
    rw [List.takeWhile_append_of_pos fun q before => (free q before).1,
      List.takeWhile_cons_of_neg (by simp [isTaken]), List.append_nil]
  rw [first]
  constructor
  · exact fun before => ⟨List.mem_append_left _ before, (free q before).2⟩
  · rintro ⟨member, smaller⟩
    rcases List.mem_append.1 member with before | behind
    · exact before
    · rcases List.mem_cons.1 behind with rfl | behind
      · exact absurd smaller (Nat.lt_irrefl _)
      · exact absurd smaller (Nat.lt_asymm (above q behind))

end Surroundings

/-- In these surroundings a rule would repeat one of some rules. -/
def Rule.RepeatsAt (rule : Rule) (earlier : List Rule) (s : Surroundings) : Prop :=
  rule.pattern.Matches s ∧ ∃ other ∈ earlier, other.state = rule.state ∧ other.pattern.Matches s

instance (rule : Rule) (earlier : List Rule) : DecidablePred (rule.RepeatsAt earlier) :=
  fun s => inferInstanceAs (Decidable (_ ∧ ∃ other ∈ earlier, _ ∧ other.pattern.Matches s))

/-- A rule is refused in the first of the surroundings where it would repeat another one. -/
theorem Records.first_repeat {rules : List Rule} {table extended : RuleTable} {rule : Rule}
    {fault : Fault} (records : Records rules table)
    (refused : table.addRule rule = (extended, some fault)) :
    ∃ s, fault = .repeatedRule rule.state s ∧ rule.RepeatsAt rules s ∧
      ∀ q, rule.RepeatsAt rules q → s.index ≤ q.index := by
  have taken_iff : ∀ s, (table.lookup rule.state s).isSome = true ↔
      ∃ other ∈ rules, other.state = rule.state ∧ other.pattern.Matches s := by
    intro s
    simp only [records.taken_iff, Pattern.mem_matching]
  rw [RuleTable.addRule_eq] at refused
  obtain ⟨s, found, rfl⟩ := Option.map_eq_some_iff.1 (Prod.mk.inj refused).2
  refine ⟨s, rfl, ⟨?_, ?_⟩, ?_⟩
  · exact Pattern.mem_matching.1 (List.mem_of_find?_eq_some found)
  · exact (taken_iff s).1 (by simpa using List.find?_some found)
  · rintro q ⟨here, there⟩
    exact Surroundings.index_le_of_find? rule.pattern.matching_ascending found
      (Pattern.mem_matching.2 here) ((taken_iff q).2 there)

/-! ### Lines that are added one after the other -/

namespace RuleTable

variable {table final : RuleTable} {index : Nat} {lines front back : List (List Char)}
  {line : List Char} {fault : Fault}

theorem addLines_cons (table : RuleTable) (index : Nat) (line : List Char)
    (rest : List (List Char)) :
    table.addLines index (line :: rest) =
      table.addLines index [line] >>= fun added => added.addLines (index + 1) rest := by
  simp only [addLines]
  split
  · split
    · rfl
    · split <;> rfl
  · rfl

/-- Lines can be added in two parts; the second part is counted on from the first. -/
theorem addLines_append (table : RuleTable) (index : Nat) (front back : List (List Char)) :
    table.addLines index (front ++ back) =
      table.addLines index front >>= fun added => added.addLines (index + front.length) back := by
  induction front generalizing table index with
  | nil => rfl
  | cons line rest ih =>
    have count : index + 1 + rest.length = index + (line :: rest).length := by
      rw [List.length_cons]
      omega
    rw [List.cons_append, addLines_cons, addLines_cons table index line rest, bind_assoc]
    simp only [ih, count]

/-- What stops a single line. -/
theorem addLines_singleton (stops : table.addLines index [line] = .error fault) :
    isRuleText (Text.strip line) = true ∧
      (Rule.read? (Text.strip line) = none ∧ fault = .unreadableLine index ∨
        ∃ rule extended, Rule.read? (Text.strip line) = some rule ∧
          table.addRule rule = (extended, some fault)) := by
  unfold addLines at stops
  dsimp only at stops
  split at stops
  · next holdsRule =>
    refine ⟨holdsRule, ?_⟩
    split at stops
    · next unreadable => exact .inl ⟨unreadable, (Except.error.inj stops).symm⟩
    · next rule read =>
      split at stops
      · cases stops
      · next extended refusal refused =>
        cases stops
        exact .inr ⟨rule, extended, read, refused⟩
  · cases stops

/-- Lines that are not added as a whole are added up to one that is at fault. -/
theorem exists_stop (failed : table.addLines index lines = .error fault) :
    ∃ front line back added, lines = front ++ line :: back ∧
      table.addLines index front = .ok added ∧
      added.addLines (index + front.length) [line] = .error fault := by
  induction lines generalizing table index with
  | nil => cases failed
  | cons line rest ih =>
    cases first : table.addLines index [line] with
    | error other =>
      rw [addLines_cons, first] at failed
      cases failed
      exact ⟨[], line, rest, table, rfl, rfl, first⟩
    | ok next =>
      rw [addLines_cons, first] at failed
      obtain ⟨front, stop, back, added, rfl, reached, stops⟩ := ih failed
      refine ⟨line :: front, stop, back, added, rfl, ?_, ?_⟩
      · rw [addLines_cons, first]
        exact reached
      · rw [List.length_cons, Nat.add_comm front.length, ← Nat.add_assoc]
        exact stops

/-- Lines of which the first ones are at fault are at fault in the same way. -/
theorem addLines_append_of_fault (failed : table.addLines index front = .error fault)
    (back : List (List Char)) : table.addLines index (front ++ back) = .error fault := by
  rw [addLines_append, failed]
  rfl

/-- The first ones of lines that are added can be added. -/
theorem addLines_of_append (added : table.addLines index (front ++ back) = .ok final) :
    ∃ part, table.addLines index front = .ok part := by
  cases first : table.addLines index front with
  | ok part => exact ⟨part, rfl⟩
  | error fault =>
    rw [addLines_append_of_fault first back] at added
    cases added

end RuleTable

/-- A file that does not compile is at fault in the first line with which it compiles no more.
Either that line cannot be read or its rule repeats an earlier one, in surroundings of the
least index where it does so. -/
theorem compile_first_fault (lines : List String) {fault : Fault}
    (failed : RuleTable.compile lines = .error fault) :
    ∃ i text, lines[i]? = some text ∧ isRuleText (Text.strip text.toList) = true ∧
      IsLeast {k | ∃ other, RuleTable.compile (lines.take (k + 1)) = .error other} i ∧
      (Rule.read? (Text.strip text.toList) = none → fault = .unreadableLine i) ∧
      (∀ rule, Rule.read? (Text.strip text.toList) = some rule →
        ∃ s, fault = .repeatedRule rule.state s ∧
          rule.RepeatsAt (readRules ((lines.take i).map String.toList)) s ∧
          ∀ q, rule.RepeatsAt (readRules ((lines.take i).map String.toList)) q →
            s.index ≤ q.index) ∧
      ∀ later, RuleTable.compile (lines.take (i + 1) ++ later) = .error fault := by
  obtain ⟨front, line, back, table, split, reached, stops⟩ := RuleTable.exists_stop failed
  obtain ⟨before, behind, rfl, rfl, rest⟩ := List.map_eq_append_iff.1 split
  obtain ⟨text, after, rfl, rfl, -⟩ := List.map_eq_cons_iff.1 rest
  obtain ⟨holdsRule, problem⟩ := RuleTable.addLines_singleton stops
  have upTo : (before ++ text :: after).take before.length = before := List.take_left
  have through : (before ++ text :: after).take (before.length + 1) = before ++ [text] := by
    simp [List.take_append]
  have stopped : RuleTable.compile (before ++ [text]) = .error fault := by
    unfold RuleTable.compile RuleTable.compileLines
    rw [List.map_append, RuleTable.addLines_append, reached]
    exact stops
  refine ⟨before.length, text, by simp, holdsRule, ⟨?_, ?_⟩, ?_, ?_, ?_⟩
  · exact ⟨fault, by rw [through, stopped]⟩
  · -- A shorter part is among the lines that compile.
    rintro k ⟨other, fails⟩
    by_contra shorter
    have inside : k + 1 ≤ before.length := by omega
    have cut : before = before.take (k + 1) ++ before.drop (k + 1) :=
      (List.take_append_drop ..).symm
    rw [List.take_append_of_le_length inside] at fails
    rw [cut, List.map_append] at reached
    obtain ⟨part, compiled⟩ := RuleTable.addLines_of_append reached
    cases compiled.symm.trans fails
  · intro unreadable
    rcases problem with ⟨-, rfl⟩ | ⟨rule, extended, read, -⟩
    · rw [List.length_map, Nat.zero_add]
    · cases unreadable.symm.trans read
  · intro rule read
    rcases problem with ⟨unreadable, -⟩ | ⟨other, extended, again, refused⟩
    · cases unreadable.symm.trans read
    · obtain rfl : other = rule := Option.some.inj (again.symm.trans read)
      have records := (Records.empty.of_addLines .nil reached).2.2
      rw [upTo]
      exact records.first_repeat refused
  · intro later
    rw [through]
    unfold RuleTable.compile RuleTable.compileLines
    rw [List.map_append]
    exact RuleTable.addLines_append_of_fault stopped _

/-- The third line repeats the second one with a wall in the east, and the last cannot be read. -/
def repeatingLines : List String := ["# go north", "0 x*** -> N 0", " 0 *E** -> X 1", "0 *"]

theorem compile_first_fault_repeating :
    RuleTable.compile repeatingLines =
        .error (.repeatedRule 0 ⟨.clear, .wall, .clear, .clear⟩) ∧
      ∀ later, RuleTable.compile (repeatingLines.take 3 ++ later) =
        .error (.repeatedRule 0 ⟨.clear, .wall, .clear, .clear⟩) := by
  have failed : RuleTable.compile repeatingLines =
      .error (.repeatedRule 0 ⟨.clear, .wall, .clear, .clear⟩) := by decide +kernel
  obtain ⟨i, text, -, -, ⟨⟨other, fails⟩, least⟩, -, -, unread⟩ :=
    compile_first_fault repeatingLines failed
  have third : RuleTable.compile (repeatingLines.take 3) =
      .error (.repeatedRule 0 ⟨.clear, .wall, .clear, .clear⟩) := by decide +kernel
  have before : ∀ k < 2, (RuleTable.compile (repeatingLines.take (k + 1))).isOk = true := by
    decide +kernel
  have upTo : i ≤ 2 := least ⟨_, third⟩
  obtain rfl : i = 2 := by
    by_contra earlier
    have compiles := before i (by omega)
    rw [fails] at compiles
    cases compiles
  exact ⟨failed, unread⟩

end MazeGrader
