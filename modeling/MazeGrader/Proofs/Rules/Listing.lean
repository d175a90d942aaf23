import MazeGrader.Proofs.Rules.Compiled

/-! The text of a table can be read as rules again. Each of its entries is a rule without
wildcards when the state of its block is put in front of it, and these rules, in whatever order,
compile to the table. So tables with one text are equal. -/
namespace MazeGrader

/-! ### From the text of a table to rules -/

namespace Listing

/-- What stands in front of the state that a block is for. -/
def opening : List Char := "while in state ".toList

/-- The state in the heading of a block, as it is written there. -/
def heading? (line : List Char) : Option (List Char) :=
  if opening.isPrefixOf line && line.getLast? == some ':' then
    some (line.drop opening.length).dropLast
  else none

/-- No transition is listed for these surroundings. -/
def isUnmapped (line : List Char) : Bool := "(no mapping)".toList.isSuffixOf line

/-- Puts the state of its block in front of each line with a transition, where the lines up to
the next heading belong to `state`. -/
def rulesAfter (state : List Char) : List (List Char) → List (List Char)
  | [] => []
  | line :: rest =>
    match heading? line with
    | some state => rulesAfter state rest
    | none =>
      if isUnmapped line then rulesAfter state rest
      else (state ++ ' ' :: line) :: rulesAfter state rest

/-- The rules that the text of a table stands for. -/
def rules (text : String) : List String :=
  (rulesAfter [] (Text.lines text.toList)).map String.ofList

end Listing

/-! ### Rules without wildcards -/

def Neighbour.slot : Neighbour → Slot
  | .clear => .clear
  | .wall => .wall

/-- The pattern of these surroundings only. -/
def Surroundings.pattern (s : Surroundings) : Pattern :=
  ⟨s.north.slot, s.east.slot, s.west.slot, s.south.slot⟩

theorem Surroundings.matching_pattern (s : Surroundings) : s.pattern.matching = [s] := by
  obtain ⟨_ | _, _ | _, _ | _, _ | _⟩ := s <;> rfl

theorem Surroundings.matches_pattern_iff {s q : Surroundings} : s.pattern.Matches q ↔ q = s := by
  rw [← Pattern.mem_matching, matching_pattern, List.mem_singleton]

/-- A place of a table and what is written there. -/
structure Entry where
  state : State
  surroundings : Surroundings
  transition : Transition

namespace Entry

def rule (entry : Entry) : Rule := ⟨entry.state, entry.surroundings.pattern, entry.transition⟩

/-- The line of an entry within the block of its state. -/
def line (s : Surroundings) (t : Transition) : List Char :=
  s.text.toList ++ ' ' :: '-' :: '>' :: ' ' :: t.direction.letter :: ' ' ::
    Numeral.text t.next.toNat

def ruleLine (entry : Entry) : List Char :=
  Numeral.text entry.state.toNat ++ ' ' :: line entry.surroundings entry.transition

/-- Rules for different places do not clash. -/
theorem clash_iff {a b : Entry} :
    a.rule.Clash b.rule ↔ a.state = b.state ∧ a.surroundings = b.surroundings := by
  simp [Rule.Clash, rule, Surroundings.matching_pattern]

end Entry

/-! ### What is written for an entry is read as its rule -/

theorem Pattern.read_text (s : Surroundings) (rest : List Char) :
    Pattern.read (s.text.toList ++ rest) = some (s.pattern, rest) := by
  obtain ⟨_ | _, _ | _, _ | _, _ | _⟩ := s <;> rfl

theorem Surroundings.skipGap_text (s : Surroundings) (rest : List Char) :
    skipGap (s.text.toList ++ rest) = s.text.toList ++ rest := by
  obtain ⟨_ | _, _ | _, _ | _, _ | _⟩ := s <;> rfl

theorem skipGap_blank (rest : List Char) : skipGap (' ' :: rest) = skipGap rest := rfl

theorem skipSomeGap_blank (rest : List Char) : skipSomeGap (' ' :: rest) = some (skipGap rest) :=
  rfl

theorem skipArrow_arrow (rest : List Char) : skipArrow (skipGap ('-' :: '>' :: rest)) = some rest :=
  rfl

theorem Direction.skipGap_letter (d : Direction) (rest : List Char) :
    skipGap (d.letter :: rest) = d.letter :: rest := by
  cases d <;> rfl

theorem Direction.read_letter (d : Direction) (rest : List Char) :
    Direction.read (d.letter :: rest) = some (d, rest) := by
  rw [read, ofLetter?_letter, Option.map_some]

theorem Rule.readState_text (state : State) {rest : List Char}
    (ends : ∀ c ∈ rest.head?, c.isDigit = false) :
    Rule.readState (Numeral.text state.toNat ++ rest) = some (state, rest) := by
  have inside : state.toNat < Numeral.bound32 := state.toNat_lt
  rw [Rule.readState, Numeral.readBelow_text_append inside ends, Option.map_some,
    UInt32.ofNat_toNat]

theorem Entry.read?_ruleLine (entry : Entry) : Rule.read? entry.ruleLine = some entry.rule := by
  have next : Rule.readState (skipGap (Numeral.text entry.transition.next.toNat)) =
      some (entry.transition.next, []) := by
    have numeral := skipGap_text_append entry.transition.next.toNat []
    rw [List.append_nil] at numeral
    rw [numeral, ← List.append_nil (Numeral.text _), Rule.readState_text _ (by simp)]
  unfold Rule.read? ruleLine line
  rw [skipGap_text_append, Rule.readState_text _ (by simp [Char.isDigit])]
  simp only [Option.bind_eq_bind, Option.bind_some, skipSomeGap_blank, skipGap_blank,
    Surroundings.skipGap_text, Pattern.read_text, skipArrow_arrow, Direction.skipGap_letter,
    Direction.read_letter, next]
  rfl

theorem Entry.mem_getLast?_line {s : Surroundings} {t : Transition} {c : Char}
    (last : c ∈ (line s t).getLast?) : c.isDigit = true := by
  have front : line s t = s.text.toList ++ [' ', '-', '>', ' ', t.direction.letter, ' '] ++
      Numeral.text t.next.toNat := by simp [line]
  rw [front, List.getLast?_append_of_ne_nil _ (Numeral.text_ne_nil _)] at last
  exact Numeral.isDigit_of_mem_text (List.mem_of_getLast? last)

theorem Entry.mem_head?_ruleLine (entry : Entry) {c : Char} (first : c ∈ entry.ruleLine.head?) :
    c.isDigit = true := by
  rw [ruleLine, List.head?_append_of_ne_nil _ (Numeral.text_ne_nil _)] at first
  exact Numeral.isDigit_of_mem_text (List.mem_of_head? first)

/-- Rule lines begin and end with a digit, so there are no blanks around them. -/
theorem Entry.strip_ruleLine (entry : Entry) : Text.strip entry.ruleLine = entry.ruleLine := by
  apply Text.strip_of_ends
  · intro c first
    exact Text.isBlank_eq_false_of_isDigit (entry.mem_head?_ruleLine first)
  · intro c last
    rw [ruleLine, List.getLast?_append_of_ne_nil _ (List.cons_ne_nil _ _),
      List.getLast?_cons_of_ne_nil (by simp [line])] at last
    exact Text.isBlank_eq_false_of_isDigit (mem_getLast?_line last)

theorem Entry.isRuleText_ruleLine (entry : Entry) : isRuleText entry.ruleLine = true := by
  cases shape : entry.ruleLine with
  | nil =>
    have empty := congrArg List.length shape
    simp [ruleLine] at empty
  | cons c rest =>
    have digit : c.isDigit = true := entry.mem_head?_ruleLine (by simp [shape])
    have other : c ≠ '#' := by
      rintro rfl
      cases digit
    simp [isRuleText, other]

/-! ### The lines of a listing -/

namespace Listing

def headingLine (state : State) : List Char := opening ++ Numeral.text state.toNat ++ [':']

def entryLine (row : RuleRow) (s : Surroundings) : List Char :=
  match row.get s.index with
  | some t => Entry.line s t
  | none => s.text.toList ++ " -> (no mapping)".toList

/-- A block is a heading and sixteen entries. -/
def block (line : State × RuleRow) : List (List Char) :=
  headingLine line.1 :: Surroundings.all.map (entryLine line.2)

theorem toList_entryText (row : RuleRow) (s : Surroundings) :
    (RuleTable.entryText row s).toList = entryLine row s := by
  have same : row.get s.index = row[s.index] := rfl
  unfold RuleTable.entryText entryLine
  rw [same]
  cases row[s.index] with
  | none => rw [String.toList_append]
  | some t =>
    have numeral : (toString t.next).toList = Numeral.text t.next.toNat :=
      Numeral.toList_toString _
    simp [Entry.line, numeral]

theorem toList_rowText (line : State × RuleRow) :
    (RuleTable.rowText line).toList = (block line).flatMap (· ++ ['\n']) := by
  have numeral : (toString line.1).toList = Numeral.text line.1.toNat :=
    Numeral.toList_toString _
  have front : "while in state ".toList = opening := rfl
  have colon : ":\n".toList = [':'] ++ ['\n'] := rfl
  have feed : "\n".toList = ['\n'] := rfl
  unfold RuleTable.rowText
  simp only [String.toList_append, String.toList_join, toList_entryText, numeral,
    front, colon, feed, block, headingLine, List.flatMap_cons, List.flatMap_map,
    List.append_assoc]

theorem toList_text (table : RuleTable) :
    table.text.toList = (table.rows.flatMap block).flatMap (· ++ ['\n']) := by
  simp [RuleTable.text, String.toList_join, List.flatMap_map, toList_rowText, List.flatMap_assoc]

/-- Nothing in a line of a listing could end it. -/
theorem not_mem_block {line : State × RuleRow} {text : List Char} (member : text ∈ block line)
    {c : Char} (ends : c = '\n' ∨ c = '\r') : c ∉ text := by
  have numeral : ∀ n, c ∉ Numeral.text n := fun n => Numeral.not_mem_text (by
    rcases ends with rfl | rfl <;> rfl)
  have surroundings : ∀ s : Surroundings, c ∉ s.text.toList := by
    rintro ⟨_ | _, _ | _, _ | _, _ | _⟩ <;> rcases ends with rfl | rfl <;> decide
  have direction : ∀ d : Direction, c ≠ d.letter := by
    rintro (_ | _) <;> rcases ends with rfl | rfl <;> decide
  have fixed : ∀ d ∈ [' ', '-', '>', ':'], c ≠ d := by
    rcases ends with rfl | rfl <;> simp
  have phrases : c ∉ opening ∧ c ∉ " -> (no mapping)".toList := by
    rcases ends with rfl | rfl <;> decide
  rcases List.mem_cons.1 member with rfl | member
  · simp [headingLine, numeral, fixed, phrases]
  · obtain ⟨s, -, rfl⟩ := List.mem_map.1 member
    unfold entryLine
    split
    · simp [Entry.line, numeral, surroundings, direction, fixed]
    · simp only [List.mem_append, surroundings, phrases, or_self, not_false_eq_true]

theorem lines_text (table : RuleTable) :
    Text.lines table.text.toList = table.rows.flatMap block := by
  rw [toList_text]
  refine Text.lines_flatMap (fun text member => ?_) (.inl rfl)
  obtain ⟨line, -, member⟩ := List.mem_flatMap.1 member
  exact ⟨not_mem_block member (.inl rfl), not_mem_block member (.inr rfl)⟩

/-! ### Reading a listing -/

theorem heading?_headingLine (state : State) :
    heading? (headingLine state) = some (Numeral.text state.toNat) := by
  have front : opening.isPrefixOf (headingLine state) = true := by
    simp [headingLine]
  have last : (headingLine state).getLast? = some ':' := by simp [headingLine]
  rw [heading?, front, last, headingLine, List.append_assoc, List.drop_left]
  simp

theorem heading?_append_text (s : Surroundings) (rest : List Char) :
    heading? (s.text.toList ++ rest) = none := by
  have front : opening.isPrefixOf (s.text.toList ++ rest) = false := by
    obtain ⟨_ | _, _ | _, _ | _, _ | _⟩ := s <;> rfl
  rw [heading?, front]
  rfl

theorem isUnmapped_append_text (s : Surroundings) :
    isUnmapped (s.text.toList ++ " -> (no mapping)".toList) = true := by
  have split : " -> (no mapping)".toList = " -> ".toList ++ "(no mapping)".toList := by decide
  rw [isUnmapped, List.isSuffixOf_iff_suffix, split, ← List.append_assoc]
  exact List.suffix_append ..

theorem isUnmapped_line (s : Surroundings) (t : Transition) :
    isUnmapped (Entry.line s t) = false := by
  by_contra unmapped
  have ends : "(no mapping)".toList <:+ Entry.line s t := by simpa [isUnmapped] using unmapped
  obtain ⟨front, whole⟩ := ends
  have bracket : ')' ∈ (Entry.line s t).getLast? := by
    rw [← whole, List.getLast?_append_of_ne_nil _ (by decide)]
    decide
  cases Entry.mem_getLast?_line bracket

/-- The entries of a row by the order of their surroundings. -/
def entriesOf (line : State × RuleRow) : List Entry :=
  Surroundings.all.filterMap fun s => (line.2.get s.index).map fun t => ⟨line.1, s, t⟩

def entries (table : RuleTable) : List Entry := table.rows.flatMap entriesOf

theorem rulesAfter_entryLines (line : State × RuleRow) (several : List Surroundings)
    (rest : List (List Char)) :
    rulesAfter (Numeral.text line.1.toNat) (several.map (entryLine line.2) ++ rest) =
      (several.filterMap fun s => (line.2.get s.index).map fun t =>
        Entry.ruleLine ⟨line.1, s, t⟩) ++ rulesAfter (Numeral.text line.1.toNat) rest := by
  induction several with
  | nil => rfl
  | cons s several ih =>
    rw [List.map_cons, List.cons_append, rulesAfter, ih, entryLine]
    cases written : line.2.get s.index with
    | none =>
      simp only [heading?_append_text, isUnmapped_append_text, if_true, List.filterMap_cons,
        written, Option.map_none]
    | some t =>
      have noHeading : heading? (Entry.line s t) = none := heading?_append_text s _
      simp only [noHeading, isUnmapped_line, Bool.false_eq_true, if_false, List.filterMap_cons,
        written, Option.map_some, List.cons_append]
      rfl

theorem rulesAfter_blocks (state : List Char) (rows : List (State × RuleRow)) :
    rulesAfter state (rows.flatMap block) = (rows.flatMap entriesOf).map Entry.ruleLine := by
  induction rows generalizing state with
  | nil => rfl
  | cons line rows ih =>
    rw [List.flatMap_cons, block, List.cons_append, rulesAfter, heading?_headingLine]
    simp only [rulesAfter_entryLines, ih]
    simp [entriesOf, List.map_filterMap, Function.comp_def]

/-- From the text of a table its entries are found again. -/
theorem rules_text (table : RuleTable) :
    (rules table.text).map String.toList = (entries table).map Entry.ruleLine := by
  simp [rules, lines_text, rulesAfter_blocks, entries, Function.comp_def]

theorem mem_entries {table : RuleTable} {entry : Entry} :
    entry ∈ entries table ↔
      table.lookup entry.state entry.surroundings = some entry.transition := by
  simp only [entries, entriesOf, List.mem_flatMap, List.mem_filterMap, Option.map_eq_some_iff,
    RuleTable.lookup, RuleTable.row?, Option.bind_eq_some_iff,
    Entries.find?_eq_some_iff table.ascending]
  constructor
  · rintro ⟨⟨state, row⟩, member, s, -, t, written, rfl⟩
    exact ⟨row, member, written⟩
  · rintro ⟨row, member, written⟩
    exact ⟨_, member, entry.surroundings, Surroundings.mem_all _, _, written, rfl⟩

/-- Each entry has a place of its own. -/
theorem entries_apart (table : RuleTable) :
    (entries table).Pairwise fun a b => ¬(a.state = b.state ∧ a.surroundings = b.surroundings) := by
  refine List.pairwise_flatMap.2 ⟨fun line _ => ?_, table.ascending.imp fun {a b} less => ?_⟩
  · have distinct : Surroundings.all.Pairwise fun s q => s ≠ q := by decide
    refine List.pairwise_filterMap.2 (distinct.imp fun {s q} apart => ?_)
    intro x hx y hy same
    obtain ⟨t, -, rfl⟩ := Option.map_eq_some_iff.1 hx
    obtain ⟨u, -, rfl⟩ := Option.map_eq_some_iff.1 hy
    exact apart same.2
  · intro x hx y hy same
    obtain ⟨s, -, first⟩ := List.mem_filterMap.1 hx
    obtain ⟨q, -, second⟩ := List.mem_filterMap.1 hy
    obtain ⟨t, -, rfl⟩ := Option.map_eq_some_iff.1 first
    obtain ⟨u, -, rfl⟩ := Option.map_eq_some_iff.1 second
    exact UInt32.ne_of_lt less same.1

end Listing

/-! ### Compiling what was read -/

theorem ruleTexts_perm {lines others : List (List Char)} (perm : lines.Perm others) :
    (ruleTexts lines).Perm (ruleTexts others) := (perm.map _).filter _

theorem readRules_perm {lines others : List (List Char)} (perm : lines.Perm others) :
    (readRules lines).Perm (readRules others) := (ruleTexts_perm perm).filterMap _

theorem ruleTexts_ruleLines (several : List Entry) :
    ruleTexts (several.map Entry.ruleLine) = several.map Entry.ruleLine := by
  induction several with
  | nil => rfl
  | cons entry several ih =>
    rw [List.map_cons, ruleTexts_cons, entry.strip_ruleLine, if_pos entry.isRuleText_ruleLine, ih]

theorem readRules_ruleLines (several : List Entry) :
    readRules (several.map Entry.ruleLine) = several.map Entry.rule := by
  unfold readRules
  rw [ruleTexts_ruleLines, List.filterMap_map]
  simp [Entry.read?_ruleLine]

/-- A recorded state has an entry, or an entry leads to it. -/
theorem Records.knows_iff_lookup {rules : List Rule} {table : RuleTable}
    (records : Records rules table) (state : State) :
    table.knows state = true ↔ ∃ source s t, table.lookup source s = some t ∧
      (state = source ∨ state = t.next) := by
  rw [records.knows]
  constructor
  · rintro ⟨rule, member, leads⟩
    obtain ⟨s, here⟩ := List.exists_mem_of_ne_nil _ rule.pattern.matching_ne_nil
    have found := (records.lookup rule.state s rule.transition).2
      ⟨rule, member, rfl, Pattern.mem_matching.1 here, rfl⟩
    exact ⟨_, _, _, found, leads⟩
  · rintro ⟨source, s, t, found, leads⟩
    obtain ⟨rule, member, rfl, -, rfl⟩ := (records.lookup source s t).1 found
    exact ⟨rule, member, leads⟩

theorem Records.ext {rules others : List Rule} {left right : RuleTable}
    (records : Records rules left) (recordsOther : Records others right)
    (lookup : ∀ state s, left.lookup state s = right.lookup state s) : left = right := by
  refine RuleTable.ext_lookup (fun state => ?_) lookup
  rw [Bool.eq_iff_iff, records.knows_iff_lookup, recordsOther.knows_iff_lookup]
  simp only [lookup]

/-- Some file compiles to the table. -/
def RuleTable.Compiled (table : RuleTable) : Prop :=
  (∃ source, compileSource source = .ok table) ∨ ∃ lines, compile lines = .ok table

theorem RuleTable.Compiled.exists_records {table : RuleTable} (compiled : table.Compiled) :
    ∃ rules, Records rules table := by
  rcases compiled with ⟨source, compiled⟩ | ⟨lines, compiled⟩
  · exact ⟨_, (Records.empty.of_addLines .nil compiled).2.2⟩
  · exact ⟨_, (Records.empty.of_addLines .nil compiled).2.2⟩

theorem Records.compile_perm {recorded : List Rule} {table : RuleTable}
    (records : Records recorded table) {lines : List String}
    (perm : lines.Perm (Listing.rules table.text)) : RuleTable.compile lines = .ok table := by
  have chars := perm.map String.toList
  rw [Listing.rules_text] at chars
  have texts := ruleTexts_perm chars
  have rules := readRules_perm chars
  rw [ruleTexts_ruleLines] at texts
  rw [readRules_ruleLines] at rules
  have readable : ∀ body ∈ ruleTexts (lines.map String.toList),
      ∃ rule, Rule.read? body = some rule := by
    intro body member
    obtain ⟨entry, -, rfl⟩ := List.mem_map.1 (texts.mem_iff.1 member)
    exact ⟨_, entry.read?_ruleLine⟩
  have apart : (readRules (lines.map String.toList)).Pairwise fun a b => ¬a.Clash b := by
    have symm : ∀ {a b : Rule}, ¬a.Clash b → ¬b.Clash a := by
      rintro a b apart ⟨same, s, inB, inA⟩
      exact apart ⟨same.symm, s, inA, inB⟩
    refine (rules.pairwise_iff symm).2 (List.pairwise_map.2 ?_)
    simpa only [Entry.clash_iff] using Listing.entries_apart table
  obtain ⟨final, compiled⟩ := Records.empty.addLines 0 readable apart
  have again := (Records.empty.of_addLines .nil compiled).2.2
  rw [List.nil_append] at again
  have same : final = table := by
    refine again.ext records fun state s => Option.ext fun t => ?_
    rw [again.lookup]
    simp only [rules.mem_iff, List.mem_map, exists_exists_and_eq_and, Listing.mem_entries]
    constructor
    · rintro ⟨entry, found, rfl, here, rfl⟩
      rw [Surroundings.matches_pattern_iff.1 here]
      exact found
    · intro found
      exact ⟨⟨state, s, t⟩, found, rfl, Surroundings.matches_pattern_iff.2 rfl, rfl⟩
  rw [← same]
  exact compiled

/-- The rules in the text of a compiled table compile to that table in whatever order they come,
so no other compiled table has the same text. -/
theorem compile_rules_of_text {table : RuleTable} (compiled : table.Compiled) :
    (∀ lines : List String, lines.Perm (Listing.rules table.text) →
      RuleTable.compile lines = .ok table) ∧
    ∀ other : RuleTable, other.Compiled → other.text = table.text → other = table := by
  obtain ⟨rules, records⟩ := compiled.exists_records
  refine ⟨fun lines => records.compile_perm, fun other compiledOther same => ?_⟩
  obtain ⟨otherRules, recordsOther⟩ := compiledOther.exists_records
  have fromText := recordsOther.compile_perm (.refl _)
  rw [same, records.compile_perm (.refl _)] at fromText
  exact (Except.ok.inj fromText).symm

/-- Rules in two states that lead to a third one. -/
def listedSource : String := "1 NxWx -> S 30\n# and back\n0 *xxx -> x 1 # rest"

/-- Its rules as they are listed. -/
def listedRules : List String := ["0 xxxx -> X 1", "0 Nxxx -> X 1", "1 NxWx -> S 30"]

theorem compile_rules_of_text_listed :
    ∃ table, RuleTable.compileSource listedSource = .ok table ∧
      Listing.rules table.text = listedRules ∧
      RuleTable.compile listedRules.reverse = .ok table ∧
      ∀ other, RuleTable.compile listedRules = .ok other → other.text = table.text →
        other = table := by
  have listed : (RuleTable.compileSource listedSource).map
      (fun table => (Listing.entries table).map Entry.ruleLine) =
        .ok (listedRules.map String.toList) := by decide +kernel
  cases compiled : RuleTable.compileSource listedSource with
  | error fault =>
    rw [compiled] at listed
    cases listed
  | ok table =>
    rw [compiled] at listed
    have rules : Listing.rules table.text = listedRules := by
      apply List.map_injective_iff.2 fun _ _ => String.toList_inj.1
      rw [Listing.rules_text]
      exact Except.ok.inj listed
    obtain ⟨anyOrder, noOther⟩ := compile_rules_of_text (.inl ⟨_, compiled⟩)
    refine ⟨table, rfl, rules, anyOrder _ ?_, fun other also => noOther other (.inr ⟨_, also⟩)⟩
    rw [rules]
    exact List.reverse_perm _

end MazeGrader
