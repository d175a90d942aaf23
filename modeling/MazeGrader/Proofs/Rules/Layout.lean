import MazeGrader.Proofs.Rules.Extension
import MazeGrader.Proofs.Rules.FirstFault

/-! The layout of rule files. What a file compiles to depends neither on how its lines are ended
nor on the blanks around them, and lines without a rule only move the number of a line that
cannot be read. -/
namespace MazeGrader

namespace Text

/-- The other line has more blanks at its two ends, none of which ends a line. -/
def Pads (line padded : List Char) : Prop :=
  ∃ before after, padded = before ++ line ++ after ∧
    ∀ c ∈ before ++ after, isBlank c = true ∧ c ≠ '\n'

theorem Pads.strip_eq {line padded : List Char} (pads : Pads line padded) :
    strip padded = strip line := by
  obtain ⟨before, after, rfl, blank⟩ := pads
  rw [strip_append_blanks _ fun c member => (blank c (List.mem_append_right _ member)).1,
    strip_blanks_append fun c member => (blank c (List.mem_append_left _ member)).1]

theorem Pads.not_mem {line padded : List Char} (pads : Pads line padded) (whole : '\n' ∉ line) :
    '\n' ∉ padded := by
  obtain ⟨before, after, rfl, blank⟩ := pads
  intro member
  rcases List.mem_append.1 member with inside | behind
  · rcases List.mem_append.1 inside with front | inside
    · exact (blank _ (List.mem_append_left _ front)).2 rfl
    · exact whole inside
  · exact (blank _ (List.mem_append_right _ behind)).2 rfl

/-- A line ends in a line feed, with or without a carriage return before it. -/
def IsEnding (ending : List Char) : Prop := ending = ['\n'] ∨ ending = ['\r', '\n']

/-- What ends a line is lost with the blanks around it. -/
theorem lines_append_ending {piece ending : List Char} (whole : '\n' ∉ piece)
    (ends : IsEnding ending) (rest : List Char) :
    ∃ line, lines (piece ++ ending ++ rest) = line :: lines rest ∧ strip line = strip piece := by
  rcases ends with rfl | rfl
  · refine ⟨_, by simpa using lines_append piece rest whole, ?_⟩
    rw [strip_closeLine, List.reverse_reverse]
  · have apart : '\n' ∉ piece ++ ['\r'] := by simp [whole]
    refine ⟨_, by simpa using lines_append (piece ++ ['\r']) rest apart, ?_⟩
    rw [strip_closeLine, List.reverse_cons, List.reverse_reverse,
      strip_append_blank piece (by decide)]

end Text

/-! ### Line by line -/

namespace RuleTable

/-- Of a line no more is seen than what stands between the blanks. -/
theorem addLines_congr (table : RuleTable) (index : Nat) {lines others : List (List Char)}
    (same : lines.map Text.strip = others.map Text.strip) :
    table.addLines index lines = table.addLines index others := by
  induction lines generalizing others table index with
  | nil => rw [List.map_eq_nil_iff.1 same.symm]
  | cons line rest ih =>
    obtain ⟨other, more, rfl, first, later⟩ := List.map_eq_cons_iff.1 same.symm
    simp only [addLines, first, ih _ _ later.symm]

theorem addLines_blank (table : RuleTable) (index : Nat) :
    table.addLines index [[]] = .ok table := rfl

/-- A last line may be ended or not, and an empty one may be left out. -/
theorem addLines_lines_last (table : RuleTable) (index : Nat) {piece last : List Char}
    (whole : '\n' ∉ piece) (ends : last = [] ∨ Text.IsEnding last) :
    table.addLines index (Text.lines (piece ++ last)) = table.addLines index [piece] := by
  rcases ends with rfl | ends
  · rw [List.append_nil, Text.lines_of_not_mem whole]
    split
    · next nothing =>
      rw [List.isEmpty_iff.1 nothing, addLines_blank]
      rfl
    · rfl
  · obtain ⟨line, split, same⟩ := Text.lines_append_ending whole ends []
    rw [List.append_nil] at split
    exact addLines_congr table index (by simp [split, same])

/-- Lines are found again in the text that they are joined to. -/
theorem addLines_lines_intercalate (table : RuleTable) (index : Nat) {lines : List (List Char)}
    {ending last : List Char} (whole : ∀ line ∈ lines, '\n' ∉ line) (ends : Text.IsEnding ending)
    (lastEnds : last = [] ∨ Text.IsEnding last) :
    table.addLines index (Text.lines (ending.intercalate lines ++ last)) =
      table.addLines index lines := by
  induction lines generalizing table index with
  | nil =>
    rw [List.intercalate_nil, addLines_lines_last table index (by simp) lastEnds]
    rfl
  | cons line rest ih =>
    have first : '\n' ∉ line := whole line List.mem_cons_self
    cases rest with
    | nil => rw [List.intercalate_singleton, addLines_lines_last table index first lastEnds]
    | cons next rest =>
      obtain ⟨found, split, same⟩ := Text.lines_append_ending first ends
        (ending.intercalate (next :: rest) ++ last)
      have later := fun other => ih other (index + 1)
        fun line member => whole line (List.mem_cons_of_mem _ member)
      have alike : table.addLines index [found] = table.addLines index [line] :=
        addLines_congr table index (by simp [same])
      rw [List.intercalate_cons_cons, List.append_assoc, split, addLines_cons, alike,
        addLines_cons table index line (next :: rest)]
      simp only [later]

end RuleTable

/-! ### Lines without a rule -/

/-- A line is blank or a comment. -/
def IsRemark (line : List Char) : Prop :=
  Text.strip line = [] ∨ (Text.strip line).head? = some '#'

instance : DecidablePred IsRemark := fun _ => inferInstanceAs (Decidable (_ ∨ _))

theorem IsRemark.isRuleText_eq {line : List Char} (remark : IsRemark line) :
    isRuleText (Text.strip line) = false := by
  rw [MazeGrader.isRuleText_eq, decide_eq_false_iff_not]
  rintro ⟨filled, rule⟩
  exact remark.elim filled rule

/-- Lines each of which follows some others, and more lines behind the last. -/
def spread (blocks : List (List α × α)) (rest : List α) : List α :=
  blocks.flatMap (fun block => block.1 ++ [block.2]) ++ rest

/-- Before a line stand the lines that it follows, those before it and those that they follow. -/
def spreadIndex (blocks : List (List α × α)) (index : Nat) : Nat :=
  index + ((blocks.take (index + 1)).map fun block => block.1.length).sum

theorem spread_cons (block : List α × α) (blocks : List (List α × α)) (rest : List α) :
    spread (block :: blocks) rest = block.1 ++ block.2 :: spread blocks rest := by
  simp [spread]

theorem spreadIndex_zero (block : List α × α) (blocks : List (List α × α)) :
    spreadIndex (block :: blocks) 0 = block.1.length := by
  simp [spreadIndex]

theorem spreadIndex_succ (block : List α × α) (blocks : List (List α × α)) (index : Nat) :
    spreadIndex (block :: blocks) (index + 1) =
      spreadIndex blocks index + (block.1.length + 1) := by
  simp [spreadIndex]
  omega

theorem map_spread (f : α → β) (blocks : List (List α × α)) (rest : List α) :
    (spread blocks rest).map f =
      spread (blocks.map fun block => (block.1.map f, f block.2)) (rest.map f) := by
  simp [spread, List.map_flatMap, List.flatMap_map]

theorem spreadIndex_map (f : α → β) (blocks : List (List α × α)) :
    spreadIndex (blocks.map fun block => (block.1.map f, f block.2)) = spreadIndex blocks := by
  funext index
  simp [spreadIndex, ← List.map_take, Function.comp_def]

/-- The fault with another number for a line that cannot be read. -/
def Fault.renumber (number : Nat → Nat) : Fault → Fault
  | unreadableLine line => unreadableLine (number line)
  | fault => fault

namespace RuleTable

theorem mapError_renumber_renumber (result : Except Fault RuleTable) (f g : Nat → Nat) :
    (result.mapError (Fault.renumber f)).mapError (Fault.renumber g) =
      result.mapError (Fault.renumber fun line => g (f line)) := by
  cases result with
  | ok table => rfl
  | error fault => cases fault <;> rfl

/-- Lines are counted from the number of the first one. -/
theorem addLines_add (table : RuleTable) (index moved : Nat) (lines : List (List Char)) :
    table.addLines (index + moved) lines =
      (table.addLines index lines).mapError (Fault.renumber (· + moved)) := by
  induction lines generalizing table index with
  | nil => rfl
  | cons line rest ih =>
    simp only [addLines, Nat.add_right_comm index moved 1]
    split
    · split
      · rfl
      · split
        · exact ih ..
        · next stopped =>
          obtain ⟨s, -, rfl⟩ := addRule_fault stopped
          rfl
    · exact ih ..

theorem addLines_remarks (table : RuleTable) (index : Nat) {remarks : List (List Char)}
    (all : ∀ line ∈ remarks, IsRemark line) (rest : List (List Char)) :
    table.addLines index (remarks ++ rest) = table.addLines (index + remarks.length) rest := by
  induction remarks generalizing index with
  | nil => rfl
  | cons line remarks ih =>
    have first := (all line List.mem_cons_self).isRuleText_eq
    rw [List.cons_append, addLines, if_neg (by simp [first]),
      ih _ fun line member => all line (List.mem_cons_of_mem _ member), List.length_cons,
      Nat.add_assoc, Nat.add_comm 1]

/-- Among remarks the lines come to the same, but those that cannot be read are further down. -/
theorem addLines_spread (table : RuleTable) {blocks : List (List (List Char) × List Char)}
    {rest : List (List Char)} (remarks : ∀ block ∈ blocks, ∀ line ∈ block.1, IsRemark line)
    (rests : ∀ line ∈ rest, IsRemark line) :
    table.addLines 0 (spread blocks rest) =
      (table.addLines 0 (blocks.map (·.2))).mapError (Fault.renumber (spreadIndex blocks)) := by
  induction blocks generalizing table with
  | nil =>
    have skipped := addLines_remarks table 0 rests []
    rw [List.append_nil] at skipped
    exact skipped
  | cons block blocks ih =>
    have later := fun next : RuleTable =>
      ih next fun block member => remarks block (List.mem_cons_of_mem _ member)
    -- Both sides go on with the lines behind the first, counted from its number.
    have behind : ∀ next : RuleTable,
        next.addLines (block.1.length + 1) (spread blocks rest) =
          (next.addLines 1 (blocks.map (·.2))).mapError
            (Fault.renumber (spreadIndex (block :: blocks))) := by
      intro next
      have second := addLines_add next 0 1 (blocks.map (·.2))
      have moved := addLines_add next 0 (block.1.length + 1) (spread blocks rest)
      rw [Nat.zero_add] at second moved
      rw [second, moved, later, mapError_renumber_renumber, mapError_renumber_renumber]
      simp only [spreadIndex_succ]
    rw [spread_cons, addLines_remarks table 0 (remarks block List.mem_cons_self), Nat.zero_add]
    simp only [addLines, List.map_cons, Nat.zero_add]
    split
    · split
      · simp [Except.mapError, Fault.renumber, spreadIndex_zero]
      · split
        · exact behind _
        · next stopped =>
          obtain ⟨s, -, rfl⟩ := addRule_fault stopped
          rfl
    · exact behind _

end RuleTable

namespace RuleTable

theorem compile_eq (lines : List String) :
    compile lines = empty.addLines 0 (lines.map String.toList) := rfl

theorem compile_pads {lines padded : List String}
    (pads : List.Forall₂ (fun line pad => Text.Pads line.toList pad.toList) lines padded) :
    compile padded = compile lines := by
  refine addLines_congr empty 0 ?_
  induction pads with
  | nil => rfl
  | cons first _ ih =>
    simp only [List.map_cons, first.strip_eq, ih]

theorem compileSource_intercalate {lines : List String} {ending last : String}
    (whole : ∀ line ∈ lines, '\n' ∉ line.toList) (ends : Text.IsEnding ending.toList)
    (lastEnds : last = "" ∨ Text.IsEnding last.toList) :
    compileSource (ending.intercalate lines ++ last) = compile lines := by
  have source : (ending.intercalate lines ++ last).toList =
      ending.toList.intercalate (lines.map String.toList) ++ last.toList := by
    rw [String.toList_append, String.toList_intercalate]
  have lastEnds : last.toList = [] ∨ Text.IsEnding last.toList :=
    lastEnds.imp (fun empty => by rw [empty, String.toList_empty]) id
  unfold compileSource compileLines
  rw [source, compile_eq]
  exact addLines_lines_intercalate empty 0 (by simpa using whole) ends lastEnds

end RuleTable

/-- A file comes to the same, table or fault, however its lines are ended and whatever blanks
are around them. It comes to the same among lines that are blank or comments, but there a line
that cannot be read has another number. -/
theorem compile_layout :
    (∀ (lines padded : List String) (ending last : String),
      (∀ line ∈ lines, '\n' ∉ line.toList) →
      List.Forall₂ (fun line pad => Text.Pads line.toList pad.toList) lines padded →
      Text.IsEnding ending.toList → (last = "" ∨ Text.IsEnding last.toList) →
      RuleTable.compileSource (ending.intercalate padded ++ last) = RuleTable.compile lines) ∧
    ∀ (blocks : List (List String × String)) (rest : List String),
      (∀ block ∈ blocks, ∀ line ∈ block.1, IsRemark line.toList) →
      (∀ line ∈ rest, IsRemark line.toList) →
      RuleTable.compile (spread blocks rest) =
        (RuleTable.compile (blocks.map (·.2))).mapError (Fault.renumber (spreadIndex blocks)) := by
  constructor
  · intro lines padded ending last whole pads ends lastEnds
    have padWhole : ∀ pad ∈ padded, '\n' ∉ pad.toList := by
      clear ends
      induction pads with
      | nil => simp
      | cons first _ ih =>
        obtain ⟨line, others⟩ := List.forall_mem_cons.1 whole
        exact List.forall_mem_cons.2 ⟨first.not_mem line, ih others⟩
    rw [RuleTable.compileSource_intercalate padWhole ends lastEnds, RuleTable.compile_pads pads]
  · intro blocks rest remarks rests
    have charRemarks :
        ∀ block ∈ blocks.map fun block => (block.1.map String.toList, block.2.toList),
          ∀ line ∈ block.1, IsRemark line := by
      simpa only [List.forall_mem_map] using remarks
    have charRests : ∀ line ∈ rest.map String.toList, IsRemark line := by simpa using rests
    have found := RuleTable.addLines_spread .empty charRemarks charRests
    rw [← map_spread, spreadIndex_map, List.map_map] at found
    rw [RuleTable.compile_eq, RuleTable.compile_eq, List.map_map]
    exact found

/-- A file whose lines are ended in two characters and begin with an ideographic space, and the
same lines among comments, of which the last one cannot be read. -/
theorem compile_layout_sample :
    RuleTable.compileSource "\u3000\r\n\u30000 x*** -> N 0\t\r\n\u30000 x" =
        .error (.unreadableLine 2) ∧
      RuleTable.compile ["# north", "", " ", "0 x*** -> N 0", "\t# then?", "0 x", "#"] =
        .error (.unreadableLine 5) := by
  have plain : RuleTable.compile ["", "0 x*** -> N 0", "0 x"] = .error (.unreadableLine 2) := by
    decide +kernel
  have space : Text.isBlank '\u3000' = true ∧ '\u3000' ≠ '\n' := by decide
  have tab : Text.isBlank '\t' = true ∧ '\t' ≠ '\n' := by decide
  constructor
  · have same := compile_layout.1 ["", "0 x*** -> N 0", "0 x"]
      ["\u3000", "\u30000 x*** -> N 0\t", "\u30000 x"] "\r\n" "" (by decide)
      (.cons ⟨['\u3000'], [], by decide, List.forall_mem_singleton.2 space⟩
        (.cons ⟨['\u3000'], ['\t'], by decide,
            List.forall_mem_cons.2 ⟨space, List.forall_mem_singleton.2 tab⟩⟩
          (.cons ⟨['\u3000'], [], by decide, List.forall_mem_singleton.2 space⟩ .nil)))
      (.inr (by decide)) (.inl rfl)
    exact same.trans plain
  · have moved := compile_layout.2
      [(["# north"], ""), ([" "], "0 x*** -> N 0"), (["\t# then?"], "0 x")] ["#"]
      (by decide) (by decide)
    exact moved.trans (congrArg _ plain)

end MazeGrader
