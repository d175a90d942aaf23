import MazeGrader.Proofs.Rules.Compiled
import Mathlib.Data.List.Perm.Subperm

/-! Files that begin with another file. The lines of the longer file are those of the shorter
one and more, as far as they hold rules, so its table has all the entries and all the states. -/
namespace MazeGrader

namespace Text

/-- Whether a carriage return belongs to the end of a line is not seen without its blanks. -/
theorem strip_closeLine (met : List Char) : strip (closeLine met) = strip met.reverse := by
  unfold closeLine
  split
  · next met =>
    rw [List.reverse_cons, strip_append_blank _ (by decide)]
  · rfl

end Text

theorem ruleTexts_append (front back : List (List Char)) :
    ruleTexts (front ++ back) = ruleTexts front ++ ruleTexts back := by
  simp only [ruleTexts, List.map_append, List.filter_append]

/-- A line feed ends a line, or it adds one that is blank. -/
theorem ruleTexts_linesAfter (met front back : List Char) :
    ruleTexts (Text.linesAfter met (front ++ '\n' :: back)) =
      ruleTexts (Text.linesAfter met front) ++ ruleTexts (Text.lines back) := by
  -- The characters in `met` are those of the line that the text before the line feed goes on.
  induction front generalizing met with
  | nil =>
    have ended : Text.linesAfter met ('\n' :: back) = [Text.closeLine met] ++ Text.lines back :=
      rfl
    rw [List.nil_append, ended, ruleTexts_append]
    congr 1
    cases met with
    | nil => rfl
    | cons c met =>
      have unfinished : Text.linesAfter (c :: met) [] = [(c :: met).reverse] := rfl
      rw [unfinished]
      unfold ruleTexts
      rw [List.map_singleton, List.map_singleton, Text.strip_closeLine]
  | cons c front ih =>
    simp only [List.cons_append, Text.linesAfter]
    split
    · rw [← List.singleton_append, ruleTexts_append, ih, ← List.append_assoc, ← ruleTexts_append]
      rfl
    · exact ih (c :: met)

theorem ruleTexts_join (front back : String) :
    ruleTexts (Text.lines (front ++ "\n" ++ back).toList) =
      ruleTexts (Text.lines front.toList) ++ ruleTexts (Text.lines back.toList) := by
  have joined : (front ++ "\n" ++ back).toList = front.toList ++ '\n' :: back.toList := by
    rw [String.toList_append, String.toList_append, List.append_assoc]
    rfl
  rw [joined]
  exact ruleTexts_linesAfter [] front.toList back.toList

namespace RuleTable

/-- A table has every entry of another one and knows all of its states. -/
structure Extends (many few : RuleTable) : Prop where
  lookup : ∀ state s t, few.lookup state s = some t → many.lookup state s = some t
  knows : ∀ state, few.knows state = true → many.knows state = true

theorem Extends.numStates_le {many few : RuleTable} (extension : many.Extends few) :
    few.numStates ≤ many.numStates := by
  have distinct : few.states.Nodup := few.states_ascending.imp UInt32.ne_of_lt
  have among : few.states ⊆ many.states := by
    intro state member
    exact mem_states.2 (extension.knows state (mem_states.1 member))
  have shorter := (distinct.subperm among).length_le
  simpa only [numStates, states, List.length_map] using shorter

end RuleTable

theorem Records.extends {rules more : List Rule} {few many : RuleTable}
    (records : Records rules few) (recordsMore : Records (rules ++ more) many) :
    many.Extends few := by
  constructor
  · intro state s t found
    obtain ⟨rule, member, here⟩ := (records.lookup state s t).1 found
    exact (recordsMore.lookup state s t).2 ⟨rule, List.mem_append_left more member, here⟩
  · intro state known
    obtain ⟨rule, member, here⟩ := (records.knows state).1 known
    exact (recordsMore.knows state).2 ⟨rule, List.mem_append_left more member, here⟩

/-- What comes before a line feed in a source that compiles is a source that compiles. -/
theorem RuleTable.compileSource_of_join {front back : String} {many : RuleTable}
    (compiled : compileSource (front ++ "\n" ++ back) = .ok many) :
    ∃ few, compileSource front = .ok few ∧ many.Extends few := by
  obtain ⟨readable, apart, recordsMany⟩ := Records.empty.of_addLines .nil compiled
  have rules : readRules (Text.lines (front ++ "\n" ++ back).toList) =
      readRules (Text.lines front.toList) ++ readRules (Text.lines back.toList) := by
    simp only [readRules, ruleTexts_join, List.filterMap_append]
  rw [List.nil_append, rules] at apart recordsMany
  rw [ruleTexts_join] at readable
  have fewerApart := (List.pairwise_append.1 apart).1
  obtain ⟨few, compiledFew⟩ := Records.empty.addLines 0
    (fun body member => readable body (List.mem_append_left _ member)) fewerApart
  obtain ⟨-, -, recordsFew⟩ := Records.empty.of_addLines .nil compiledFew
  exact ⟨few, compiledFew, recordsFew.extends recordsMany⟩

end MazeGrader
