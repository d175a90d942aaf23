import MazeGrader.Proofs.Coverage.Floor
import Mathlib.Data.List.Forall2

/-! Coverage tables from the texts of their thresholds. Texts are read in their own order, which is
not that of the thresholds, and several of them may spell one threshold; then the last one
counts. -/
namespace MazeGrader.CoverageTable

/-- The text spells the threshold. -/
def Spells (text : String) (threshold : Rat) : Prop :=
  ∃ ratio, Ratio.parse text = .ok ratio ∧ ratio.1 = threshold

/-- A text is read as a threshold, and its deduction is that of the threshold. -/
structure ReadAs (text : String × Float) (pair : Ratio × Float) : Prop where
  threshold : Ratio.parse text.1 = .ok pair.1
  deduction : text.2 = pair.2

variable {texts : List (String × Float)} {pairs : List (Ratio × Float)} {table : CoverageTable}
  {fault : Ratio.Fault}

theorem spells_iff {text : String} {threshold : Ratio} :
    Spells text threshold.1 ↔ Ratio.parse text = .ok threshold := by
  constructor
  · rintro ⟨ratio, read, same⟩
    rw [read, Subtype.ext same]
  · exact fun read => ⟨threshold, read, rfl⟩

/-! ### Reading the texts one after the other -/

theorem parsePairs_eq_ok_iff : parsePairs texts = .ok pairs ↔ List.Forall₂ ReadAs texts pairs := by
  induction texts generalizing pairs with
  | nil =>
    rw [List.forall₂_nil_left_iff]
    constructor
    · intro read
      cases read
      rfl
    · rintro rfl
      rfl
  | cons text rest ih =>
    rw [List.forall₂_cons_left_iff, parsePairs, bind_eq_ok]
    constructor
    · rintro ⟨threshold, first, read⟩
      obtain ⟨others, later, same⟩ := bind_eq_ok.1 read
      cases same
      exact ⟨(threshold, text.2), others, ⟨first, rfl⟩, ih.1 later, rfl⟩
    · rintro ⟨⟨threshold, deduction⟩, others, ⟨first, rfl⟩, later, rfl⟩
      exact ⟨threshold, first, bind_eq_ok.2 ⟨others, ih.2 later, rfl⟩⟩

/-- Reading stops at the first text that spells nothing. -/
theorem parsePairs_eq_error_iff : parsePairs texts = .error fault ↔
    ∃ front text back, texts = front ++ text :: back ∧
      (∀ earlier ∈ front, ∃ ratio, Ratio.parse earlier.1 = .ok ratio) ∧
      Ratio.parse text.1 = .error fault := by
  induction texts with
  | nil =>
    constructor
    · intro read
      cases read
    · rintro ⟨front, text, back, split, -⟩
      simp at split
  | cons text rest ih =>
    rw [parsePairs, bind_eq_error]
    constructor
    · rintro (first | ⟨threshold, first, read⟩)
      · exact ⟨[], text, rest, rfl, List.forall_mem_nil _, first⟩
      · have later : parsePairs rest = .error fault := by
          rcases bind_eq_error.1 read with later | ⟨others, -, done⟩
          · exact later
          · cases done
        obtain ⟨front, stop, back, rfl, spelled, refused⟩ := ih.1 later
        exact ⟨text :: front, stop, back, rfl, List.forall_mem_cons.2 ⟨⟨_, first⟩, spelled⟩,
          refused⟩
    · rintro ⟨front, stop, back, split, spelled, refused⟩
      cases front with
      | nil =>
        cases split
        exact .inl refused
      | cons earlier front =>
        cases split
        obtain ⟨⟨threshold, first⟩, others⟩ := List.forall_mem_cons.1 spelled
        have later := ih.2 ⟨front, stop, back, rfl, others, refused⟩
        exact .inr ⟨threshold, first, by rw [later]; rfl⟩

theorem exists_pair_iff (reads : List.Forall₂ ReadAs texts pairs) (threshold : Ratio) :
    (∃ pair ∈ pairs, pair.1 = threshold) ↔
      ∃ text ∈ texts, Ratio.parse text.1 = .ok threshold := by
  induction reads with
  | nil => simp
  | cons first _ ih => simp [first.threshold, ih]

/-- Among ascending texts the last one that spells a threshold is the greatest one that does. -/
theorem lastWith_iff (reads : List.Forall₂ ReadAs texts pairs) (ascends : Entries.Ascending texts)
    {threshold : Ratio} {deduction : Float} :
    Entries.LastWith threshold deduction pairs ↔
      ∃ text, (text, deduction) ∈ texts ∧ Ratio.parse text = .ok threshold ∧
        ∀ other ∈ texts, Ratio.parse other.1 = .ok threshold → other.1 ≤ text := by
  induction reads with
  | nil => simp [Entries.LastWith]
  | @cons text pair rest others first later ih =>
    obtain ⟨above, tail⟩ := List.pairwise_cons.1 ascends
    rw [Entries.lastWith_cons, ih tail]
    constructor
    · rintro (⟨last, member, read, greatest⟩ | ⟨rfl, alone⟩)
      · refine ⟨last, List.mem_cons_of_mem _ member, read, List.forall_mem_cons.2 ⟨?_, greatest⟩⟩
        exact fun _ => Std.le_of_lt (above _ member)
      · refine ⟨text.1, ?_, first.threshold, List.forall_mem_cons.2 ⟨fun _ => Std.le_refl _, ?_⟩⟩
        · exact List.mem_cons.2 (.inl (Prod.ext rfl first.deduction.symm))
        · intro other member read
          obtain ⟨again, listed, same⟩ := (exists_pair_iff later threshold).2 ⟨other, member, read⟩
          exact absurd same (alone again listed)
    · rintro ⟨last, member, read, greatest⟩
      have atMost := (List.forall_mem_cons.1 greatest).2
      rcases List.mem_cons.1 member with rfl | behind
      · refine .inr ⟨?_, fun again listed same => ?_⟩
        · have same := first.threshold.symm.trans read
          exact Prod.ext (Except.ok.inj same) first.deduction.symm
        · obtain ⟨other, member, read⟩ := (exists_pair_iff later threshold).1 ⟨again, listed, same⟩
          exact absurd (above other member) (Std.not_lt.2 (atMost other member read))
      · exact .inl ⟨last, behind, read, atMost⟩

theorem exists_parse (reads : List.Forall₂ ReadAs texts pairs) :
    ∀ text ∈ texts, ∃ ratio, Ratio.parse text.1 = .ok ratio := by
  induction reads with
  | nil => exact List.forall_mem_nil _
  | cons first _ ih => exact List.forall_mem_cons.2 ⟨⟨_, first.threshold⟩, ih⟩

/-! ### Tables -/

theorem ofTexts_eq_ok_iff : ofTexts texts = .ok table ↔
    ∃ pairs, List.Forall₂ ReadAs texts pairs ∧ ofPairs pairs = table := by
  simp only [← parsePairs_eq_ok_iff, ofTexts]
  cases parsePairs texts <;> simp [Except.map]

/-- Among ascending texts reading stops at the least one that spells nothing. -/
theorem ofTexts_eq_error_iff (ascends : Entries.Ascending texts) :
    ofTexts texts = .error fault ↔
      ∃ text ∈ texts, Ratio.parse text.1 = .error fault ∧
        ∀ other ∈ texts, other.1 < text.1 → ∃ ratio, Ratio.parse other.1 = .ok ratio := by
  have stopped : ofTexts texts = .error fault ↔ parsePairs texts = .error fault := by
    unfold ofTexts
    cases parsePairs texts <;> simp [Except.map]
  rw [stopped, parsePairs_eq_error_iff]
  constructor
  · rintro ⟨front, text, back, rfl, spelled, refused⟩
    have above := (List.pairwise_cons.1 (List.pairwise_append.1 ascends).2.1).1
    refine ⟨text, by simp, refused, fun other member below => ?_⟩
    rcases List.mem_append.1 member with before | behind
    · exact spelled other before
    · rcases List.mem_cons.1 behind with rfl | after
      · exact absurd below Std.lt_irrefl
      · exact absurd (Std.lt_trans below (above other after)) Std.lt_irrefl
  · rintro ⟨text, member, refused, spelled⟩
    obtain ⟨front, back, rfl⟩ := List.append_of_mem member
    refine ⟨front, text, back, rfl, fun earlier before => ?_, refused⟩
    have below := (List.pairwise_append.1 ascends).2.2 earlier before text List.mem_cons_self
    exact spelled earlier (List.mem_append_left _ before) below

theorem exists_fault_iff (ascends : Entries.Ascending texts) :
    (∃ fault, ofTexts texts = .error fault) ↔
      ∃ text ∈ texts, ¬∃ threshold, Spells text.1 threshold := by
  constructor
  · rintro ⟨fault, refused⟩
    obtain ⟨text, member, refused, -⟩ := (ofTexts_eq_error_iff ascends).1 refused
    refine ⟨text, member, ?_⟩
    rintro ⟨_, _, read, -⟩
    cases read.symm.trans refused
  · rintro ⟨text, member, unspelled⟩
    cases made : ofTexts texts with
    | error fault => exact ⟨fault, rfl⟩
    | ok table =>
      obtain ⟨pairs, reads, -⟩ := ofTexts_eq_ok_iff.1 made
      obtain ⟨ratio, read⟩ := exists_parse reads text member
      exact absurd ⟨ratio.1, ratio, read, rfl⟩ unspelled

theorem thresholds_of_ofTexts (made : ofTexts texts = .ok table) :
    table.thresholds = {q | ∃ text ∈ texts, Spells text.1 q} := by
  obtain ⟨pairs, reads, rfl⟩ := ofTexts_eq_ok_iff.1 made
  rw [thresholds_ofPairs]
  ext q
  constructor
  · rintro ⟨pair, member, rfl⟩
    obtain ⟨text, listed, read⟩ := (exists_pair_iff reads pair.1).1 ⟨pair, member, rfl⟩
    exact ⟨text, listed, spells_iff.2 read⟩
  · rintro ⟨text, listed, ratio, read, rfl⟩
    obtain ⟨pair, member, same⟩ := (exists_pair_iff reads ratio).2 ⟨text, listed, read⟩
    exact ⟨pair, member, congrArg Subtype.val same⟩

/-- A threshold has the deduction of the greatest text that spells it. -/
theorem mem_entries_of_ofTexts (ascends : Entries.Ascending texts)
    (made : ofTexts texts = .ok table) {threshold : Rat} {deduction : Float} :
    (threshold, deduction) ∈ table.entries ↔
      ∃ text, (text, deduction) ∈ texts ∧ Spells text threshold ∧
        ∀ other ∈ texts, Spells other.1 threshold → other.1 ≤ text := by
  obtain ⟨pairs, reads, rfl⟩ := ofTexts_eq_ok_iff.1 made
  constructor
  · intro listed
    obtain ⟨ratio, rfl⟩ : ∃ ratio : Ratio, ratio.1 = threshold :=
      ⟨⟨threshold, (ofPairs pairs).fits _ listed⟩, rfl⟩
    simp only [spells_iff]
    exact (lastWith_iff reads ascends).1 (mem_entries_ofPairs.1 listed)
  · rintro ⟨text, member, ⟨ratio, read, rfl⟩, greatest⟩
    simp only [spells_iff] at greatest
    exact mem_entries_ofPairs.2 ((lastWith_iff reads ascends).2 ⟨text, member, read, greatest⟩)

/-- A table is made again from its texts, which are as many as its thresholds and all spell them.
From any texts a table is made just if each of them spells a threshold, and the fault is that of the
least text that does not; the thresholds are those that are spelled, each with the deduction of the
greatest text that spells it, and writing and reading the table once more changes nothing. -/
theorem ofTexts_spelled :
    (∀ table : CoverageTable, ofTexts table.toTexts = .ok table ∧
      (∀ text, text ∈ table.toTexts ↔
        ∃ entry ∈ table.entries, (Ratio.text entry.1, entry.2) = text) ∧
      (table.entries.map fun entry => Ratio.text entry.1).Nodup ∧
      ∀ entry ∈ table.entries, Spells (Ratio.text entry.1) entry.1) ∧
    ∀ texts : List (String × Float), Entries.Ascending texts →
      ((∃ fault, ofTexts texts = .error fault) ↔
        ∃ text ∈ texts, ¬∃ threshold, Spells text.1 threshold) ∧
      (∀ fault, ofTexts texts = .error fault ↔
        ∃ text ∈ texts, Ratio.parse text.1 = .error fault ∧
          ∀ other ∈ texts, other.1 < text.1 → ∃ ratio, Ratio.parse other.1 = .ok ratio) ∧
      ∀ table, ofTexts texts = .ok table →
        table.thresholds = {q | ∃ text ∈ texts, Spells text.1 q} ∧
        (∀ threshold deduction, (threshold, deduction) ∈ table.entries ↔
          ∃ text, (text, deduction) ∈ texts ∧ Spells text threshold ∧
            ∀ other ∈ texts, Spells other.1 threshold → other.1 ≤ text) ∧
        ofTexts table.toTexts = .ok table := by
  constructor
  · intro table
    refine ⟨ofTexts_toTexts table, fun text => mem_toTexts, List.pairwise_map.2 table.texts_apart,
      fun entry member => ?_⟩
    have fits := table.fits entry member
    exact ⟨⟨entry.1, fits⟩, Ratio.parse_text ⟨entry.1, fits⟩, rfl⟩
  · intro texts ascends
    refine ⟨exists_fault_iff ascends, fun fault => ofTexts_eq_error_iff ascends, ?_⟩
    intro table made
    exact ⟨thresholds_of_ofTexts made,
      fun threshold deduction => mem_entries_of_ofTexts ascends made, ofTexts_toTexts table⟩

/-- A half is spelled in three ways, and ten stands before nine. -/
def halvedTexts : List (String × Float) :=
  [(" 1/2", 1), ("0.5", 2), ("10", 3), ("6/12", 4), ("9", 5)]

theorem ofTexts_spelled_halved :
    Entries.Ascending halvedTexts ∧
      (∃ table, ofTexts halvedTexts = .ok table ∧ (mkRat 1 2, 4) ∈ table.entries ∧
        ofTexts table.toTexts = .ok table) ∧
      ofTexts [("1/0", 1), ("1/x", 2)] = .error (.zeroDenominator "1/0") := by
  have ascends : Entries.Ascending halvedTexts := by
    unfold Entries.Ascending halvedTexts
    decide +kernel
  obtain ⟨-, -, tables⟩ := ofTexts_spelled.2 halvedTexts ascends
  refine ⟨ascends, ?_, ?_⟩
  · have made : ∃ table, ofTexts halvedTexts = .ok table := ⟨_, rfl⟩
    obtain ⟨table, made⟩ := made
    obtain ⟨-, entries, again⟩ := tables table made
    refine ⟨table, made, (entries _ _).2 ⟨"6/12", by simp [halvedTexts], ⟨_, rfl, rfl⟩, ?_⟩, again⟩
    intro other member spells
    simp only [halvedTexts, List.mem_cons, List.not_mem_nil, or_false] at member
    rcases member with rfl | rfl | rfl | rfl | rfl
    · decide +kernel
    · decide +kernel
    · decide +kernel
    · decide +kernel
    · obtain ⟨ratio, read, half⟩ := spells
      have nine : Ratio.parse "9" =
          .ok (Ratio.ofParts 9 1 (by decide) (by decide) (by decide)) := rfl
      cases nine.symm.trans read
      exact absurd half (by decide +kernel)
  · have pair : Entries.Ascending [("1/0", (1 : Float)), ("1/x", 2)] := by
      unfold Entries.Ascending
      decide +kernel
    refine ((ofTexts_spelled.2 _ pair).2.1 _).2 ⟨("1/0", 1), by simp, rfl, ?_⟩
    intro other member below
    rcases List.mem_pair.1 member with rfl | rfl
    · exact absurd below (by decide +kernel)
    · exact absurd below (by decide +kernel)

end MazeGrader.CoverageTable
