import MazeGrader.Proofs.Rules.Entry
import MazeGrader.Rules.Compile
import Mathlib.Data.List.TakeWhile

/-! What a compiled table holds. It records the rules of the file: each stands under the
surroundings that it matches, and a file compiles unless a line cannot be read or two of its
rules would stand in one place. -/
namespace MazeGrader

namespace Pattern

/-- The number of slots that match both a clear neighbour and a wall. -/
def wildcards (p : Pattern) : Nat := [p.north, p.east, p.west, p.south].count .any

theorem matching_spec (p : Pattern) :
    p.matching.Nodup ∧ p.matching ≠ [] ∧ p.matching.length = 2 ^ p.wildcards := by
  obtain ⟨_ | _ | _, _ | _ | _, _ | _ | _, _ | _ | _⟩ := p <;> decide

theorem nodup_matching (p : Pattern) : p.matching.Nodup := p.matching_spec.1

theorem matching_ne_nil (p : Pattern) : p.matching ≠ [] := p.matching_spec.2.1

/-- Each wildcard doubles the number of surroundings. -/
theorem length_matching (p : Pattern) : p.matching.length = 2 ^ p.wildcards := p.matching_spec.2.2

end Pattern

/-- A rule is added up to the first place that is taken. -/
theorem RuleTable.addRule_eq (table : RuleTable) (rule : Rule) :
    table.addRule rule =
      ((table.register rule.transition.next).putAll rule.state rule.transition
        (rule.pattern.matching.takeWhile fun s => !(table.lookup rule.state s).isSome),
      (rule.pattern.matching.find? fun s => (table.lookup rule.state s).isSome).map
        (.repeatedRule rule.state)) := by
  rw [addRule, insertAll_eq rule.pattern.nodup_matching]
  simp only [lookup_register]

/-- Two rules are for one state and have surroundings in common. -/
def Rule.Clash (a b : Rule) : Prop :=
  a.state = b.state ∧ ∃ s ∈ a.pattern.matching, s ∈ b.pattern.matching

instance (a b : Rule) : Decidable (a.Clash b) :=
  inferInstanceAs (Decidable (_ ∧ ∃ s ∈ a.pattern.matching, s ∈ b.pattern.matching))

/-- A table holds what some rules say and nothing else. -/
structure Records (rules : List Rule) (table : RuleTable) : Prop where
  lookup : ∀ state s t, table.lookup state s = some t ↔
    ∃ rule ∈ rules, rule.state = state ∧ rule.pattern.Matches s ∧ rule.transition = t
  knows : ∀ state, table.knows state = true ↔
    ∃ rule ∈ rules, state = rule.state ∨ state = rule.transition.next
  numRules : table.numRules = (rules.map fun rule => 2 ^ rule.pattern.wildcards).sum

namespace Records

variable {rules : List Rule} {table final : RuleTable} {rule : Rule}

theorem empty : Records [] .empty := ⟨by simp, by simp, rfl⟩

/-- A place is taken by the rules that would clash there. -/
theorem taken_iff (records : Records rules table) (state : State) (s : Surroundings) :
    (table.lookup state s).isSome = true ↔
      ∃ other ∈ rules, other.state = state ∧ s ∈ other.pattern.matching := by
  simp only [Option.isSome_iff_exists, records.lookup, Pattern.mem_matching]
  constructor
  · rintro ⟨t, other, member, same, here, -⟩
    exact ⟨other, member, same, here⟩
  · rintro ⟨other, member, same, here⟩
    exact ⟨_, other, member, same, here, rfl⟩

/-- A rule that clashes with none of the rules is added as a whole. -/
theorem addRule (records : Records rules table) (apart : ∀ other ∈ rules, ¬other.Clash rule) :
    ∃ extended, table.addRule rule = (extended, none) ∧ Records (rules ++ [rule]) extended := by
  have free : ∀ s ∈ rule.pattern.matching, table.lookup rule.state s = none := by
    intro s here
    refine Option.not_isSome_iff_eq_none.1 fun taken => ?_
    obtain ⟨other, member, same, there⟩ := (records.taken_iff ..).1 taken
    exact apart other member ⟨same, s, there, here⟩
  have registered : ∀ s ∈ rule.pattern.matching,
      (table.register rule.transition.next).lookup rule.state s = none := by
    intro s here
    rw [RuleTable.lookup_register, free s here]
  refine ⟨(table.register rule.transition.next).putAll rule.state rule.transition
    rule.pattern.matching, ?_, ?_, ?_, ?_⟩
  · rw [RuleTable.addRule_eq, List.takeWhile_eq_self_iff.2 (by simp +contextual [free]),
      List.find?_eq_none.2 (by simp +contextual [free])]
    rfl
  · intro state s t
    rw [RuleTable.lookup_putAll, RuleTable.lookup_register]
    simp only [List.mem_append, List.mem_singleton, or_and_right, exists_or, exists_eq_left,
      ← records.lookup]
    split
    · next here =>
      obtain ⟨rfl, here⟩ := here
      simp [free s here, Pattern.mem_matching.1 here]
    · next elsewhere =>
      refine (or_iff_left ?_).symm
      rintro ⟨same, here, -⟩
      exact elsewhere ⟨same.symm, Pattern.mem_matching.2 here⟩
  · intro state
    rw [RuleTable.knows_putAll rule.pattern.matching_ne_nil, RuleTable.knows_register]
    simp only [Bool.or_eq_true, decide_eq_true_eq, records.knows, List.mem_append,
      List.mem_singleton, or_and_right, exists_or, exists_eq_left]
    rw [← or_assoc, or_comm]
  · rw [RuleTable.numRules_putAll rule.pattern.nodup_matching registered,
      RuleTable.numRules_register, records.numRules, rule.pattern.length_matching]
    simp

/-- A rule that clashes with one of the rules is refused. -/
theorem addRule_of_clash (records : Records rules table) {other : Rule} (member : other ∈ rules)
    (clash : other.Clash rule) : ∃ extended fault, table.addRule rule = (extended, some fault) := by
  obtain ⟨same, s, there, here⟩ := clash
  have taken : (table.lookup rule.state s).isSome = true :=
    (records.taken_iff ..).2 ⟨other, member, same, there⟩
  rw [RuleTable.addRule_eq]
  cases found : rule.pattern.matching.find? fun s => (table.lookup rule.state s).isSome with
  | none => exact absurd taken (List.find?_eq_none.1 found s here)
  | some first => exact ⟨_, _, rfl⟩

end Records

/-! ### Lines -/

/-- The lines that are not blank and no comments, without the blanks around them. -/
def ruleTexts (lines : List (List Char)) : List (List Char) :=
  (lines.map Text.strip).filter fun body => body ≠ [] ∧ body.head? ≠ some '#'

/-- The rules of the lines that can be read. -/
def readRules (lines : List (List Char)) : List Rule := (ruleTexts lines).filterMap Rule.read?

theorem isRuleText_eq (body : List Char) :
    isRuleText body = decide (body ≠ [] ∧ body.head? ≠ some '#') := by
  cases body with
  | nil => rfl
  | cons c rest => by_cases mark : c = '#' <;> simp [isRuleText, mark]

theorem ruleTexts_cons (line : List Char) (rest : List (List Char)) :
    ruleTexts (line :: rest) =
      if isRuleText (Text.strip line) then Text.strip line :: ruleTexts rest
      else ruleTexts rest := by
  simp only [ruleTexts, List.map_cons, List.filter_cons, isRuleText_eq]

theorem readRules_cons (line : List Char) (rest : List (List Char)) :
    readRules (line :: rest) =
      if isRuleText (Text.strip line) then
        (Rule.read? (Text.strip line)).toList ++ readRules rest
      else readRules rest := by
  unfold readRules
  rw [ruleTexts_cons]
  split
  · cases found : Rule.read? (Text.strip line) <;> simp [found]
  · rfl

namespace Records

variable {rules : List Rule} {table final : RuleTable}

/-- Lines that are added without a fault can all be read, and their rules are recorded. -/
theorem of_addLines (records : Records rules table)
    (apart : rules.Pairwise fun a b => ¬a.Clash b) {index : Nat} {lines : List (List Char)}
    (h : table.addLines index lines = .ok final) :
    (∀ body ∈ ruleTexts lines, ∃ rule, Rule.read? body = some rule) ∧
      (rules ++ readRules lines).Pairwise (fun a b => ¬a.Clash b) ∧
      Records (rules ++ readRules lines) final := by
  induction lines generalizing rules table index with
  | nil =>
    cases h
    exact ⟨by simp [ruleTexts], by simpa [readRules, ruleTexts] using apart,
      by simpa [readRules, ruleTexts] using records⟩
  | cons line rest ih =>
    rw [ruleTexts_cons, readRules_cons]
    unfold RuleTable.addLines at h
    dsimp only at h
    split at h
    · next holdsRule =>
      rw [if_pos holdsRule, if_pos holdsRule]
      split at h
      · cases h
      · next rule read =>
        split at h
        · next extended added =>
          -- The rule was added as a whole, so it is one that clashes with none before it.
          have new : ∀ other ∈ rules, ¬other.Clash rule := by
            intro other member clash
            obtain ⟨_, _, refused⟩ := records.addRule_of_clash member clash
            rw [added] at refused
            cases refused
          obtain ⟨_, again, recorded⟩ := records.addRule new
          obtain rfl := (Prod.mk.inj (added.symm.trans again)).1
          have separate : (rules ++ [rule]).Pairwise fun a b => ¬a.Clash b :=
            List.pairwise_append.2 ⟨apart, List.pairwise_singleton .., by simpa using new⟩
          obtain ⟨readable, separate, recorded⟩ := ih recorded separate h
          rw [List.append_assoc] at separate recorded
          rw [read]
          refine ⟨fun body member => ?_, separate, recorded⟩
          rcases List.mem_cons.1 member with rfl | member
          · exact ⟨rule, read⟩
          · exact readable body member
        · cases h
    · next skipped =>
      rw [if_neg skipped, if_neg skipped]
      exact ih records apart h

/-- Lines that can be read are added if no two of the rules clash. -/
theorem addLines (records : Records rules table) (index : Nat) {lines : List (List Char)}
    (readable : ∀ body ∈ ruleTexts lines, ∃ rule, Rule.read? body = some rule)
    (apart : (rules ++ readRules lines).Pairwise fun a b => ¬a.Clash b) :
    ∃ final, table.addLines index lines = .ok final := by
  induction lines generalizing rules table index with
  | nil => exact ⟨table, rfl⟩
  | cons line rest ih =>
    rw [ruleTexts_cons] at readable
    rw [readRules_cons] at apart
    unfold RuleTable.addLines
    dsimp only
    split
    · next holdsRule =>
      rw [if_pos holdsRule] at readable apart
      obtain ⟨rule, read⟩ := readable _ List.mem_cons_self
      rw [read, Option.toList_some, ← List.append_assoc] at apart
      have new : ∀ other ∈ rules, ¬other.Clash rule := fun other member =>
        (List.pairwise_append.1 (List.pairwise_append.1 apart).1).2.2 other member rule (by simp)
      obtain ⟨extended, added, recorded⟩ := records.addRule new
      simp only [read, added]
      exact ih recorded (index + 1)
        (fun body member => readable body (List.mem_cons_of_mem _ member)) apart
    · next skipped =>
      rw [if_neg skipped] at readable apart
      exact ih records (index + 1) readable apart

end Records

/-- A rule file has a line that cannot be read, or repeats a rule. -/
def Fault.OfSource : Fault → Prop
  | unreadableLine _ | repeatedRule _ _ => True
  | noRule _ _ | blocked _ _ | misshapenMap _ | badStart _ _ => False

theorem RuleTable.addRule_fault {table extended : RuleTable} {rule : Rule} {fault : Fault}
    (h : table.addRule rule = (extended, some fault)) :
    ∃ s ∈ rule.pattern.matching, fault = .repeatedRule rule.state s := by
  rw [addRule_eq] at h
  obtain ⟨s, found, rfl⟩ := Option.map_eq_some_iff.1 (Prod.mk.inj h).2
  exact ⟨s, List.mem_of_find?_eq_some found, rfl⟩

theorem RuleTable.addLines_fault {table : RuleTable} {index : Nat} {lines : List (List Char)}
    {fault : Fault} (h : table.addLines index lines = .error fault) : fault.OfSource := by
  induction lines generalizing table index with
  | nil => cases h
  | cons line rest ih =>
    unfold addLines at h
    dsimp only at h
    split at h
    · split at h
      · cases h
        trivial
      · split at h
        · exact ih h
        · next stopped =>
          cases h
          obtain ⟨s, -, rfl⟩ := addRule_fault stopped
          trivial
    · exact ih h

/-- A file compiles unless a line cannot be read or two rules clash, and the table then says
what the file says. -/
theorem compile_records (lines : List String) :
    ((∃ table, RuleTable.compile lines = .ok table) ↔
      (∀ body ∈ ruleTexts (lines.map String.toList), ∃ rule, Rule.read? body = some rule) ∧
      (readRules (lines.map String.toList)).Pairwise fun a b => ¬a.Clash b) ∧
    ∀ table, RuleTable.compile lines = .ok table →
      (∀ state s t, table.lookup state s = some t ↔
        ∃ rule ∈ readRules (lines.map String.toList),
          rule.state = state ∧ rule.pattern.Matches s ∧ rule.transition = t) ∧
      (∀ state, table.knows state = true ↔
        ∃ rule ∈ readRules (lines.map String.toList),
          state = rule.state ∨ state = rule.transition.next) ∧
      (∀ state s t, table.lookup state s = some t → table.knows t.next = true) ∧
      table.states.Pairwise (· < ·) ∧
      table.numRules = ((readRules (lines.map String.toList)).map fun rule =>
        2 ^ rule.pattern.wildcards).sum := by
  constructor
  · constructor
    · rintro ⟨table, compiled⟩
      obtain ⟨readable, apart, -⟩ := Records.empty.of_addLines .nil compiled
      exact ⟨readable, apart⟩
    · rintro ⟨readable, apart⟩
      exact Records.empty.addLines 0 readable apart
  · intro table compiled
    obtain ⟨-, -, records⟩ := Records.empty.of_addLines .nil compiled
    refine ⟨records.lookup, records.knows, fun state s t found => ?_, table.states_ascending,
      records.numRules⟩
    obtain ⟨rule, member, -, -, rfl⟩ := (records.lookup ..).1 found
    exact (records.knows _).2 ⟨rule, member, .inr rfl⟩

theorem compile_records_two_rules :
    ∃ table, RuleTable.compile ["0 x*** -> N 0", "# then rest", " 0 N**S -> X 1"] = .ok table ∧
      table.numRules = 12 ∧ table.knows 1 = true ∧
      table.lookup 0 ⟨.wall, .clear, .clear, .wall⟩ = some ⟨.stay, 1⟩ := by
  have readable : ∀ body ∈ ruleTexts
      (["0 x*** -> N 0", "# then rest", " 0 N**S -> X 1"].map String.toList),
      (Rule.read? body).isSome = true := by decide +kernel
  have rules : readRules (["0 x*** -> N 0", "# then rest", " 0 N**S -> X 1"].map String.toList) =
      [⟨0, ⟨.clear, .any, .any, .any⟩, ⟨.north, 0⟩⟩,
        ⟨0, ⟨.wall, .any, .any, .wall⟩, ⟨.stay, 1⟩⟩] := by decide +kernel
  have compiles := compile_records ["0 x*** -> N 0", "# then rest", " 0 N**S -> X 1"]
  rw [rules] at compiles
  obtain ⟨table, compiled⟩ := compiles.1.2
    ⟨fun body member => Option.isSome_iff_exists.1 (readable body member), by decide⟩
  obtain ⟨lookup, knows, -, -, numRules⟩ := compiles.2 table compiled
  exact ⟨table, compiled, numRules, (knows 1).2 (by decide), (lookup ..).2 (by decide)⟩

end MazeGrader
