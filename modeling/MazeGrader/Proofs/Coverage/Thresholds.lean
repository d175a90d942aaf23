import MazeGrader.Coverage.Table
import MazeGrader.Failure
import Mathlib.Data.List.Basic
import Mathlib.Data.Set.List

/-! Thresholds and their texts. A ratio is written in lowest terms, so it is read again as
itself, and a coverage table is made again from the texts of its thresholds. -/
namespace MazeGrader

namespace Ratio

theorem toList_text (q : Ratio) : (text q.1).toList =
    if q.1.den = 1 then Numeral.text q.1.num.toNat
    else Numeral.text q.1.num.toNat ++ '/' :: Numeral.text q.1.den := by
  have num : toString q.1.num = toString q.1.num.toNat :=
    congrArg toString (Int.toNat_of_nonneg q.2.1).symm
  unfold text
  rw [num]
  split
  · exact Numeral.toList_toString _
  · simp only [String.toList_append, Numeral.toList_toString]
    simp

theorem isDigit_or_bar_of_mem_text {q : Ratio} {c : Char} (member : c ∈ (text q.1).toList) :
    c.isDigit = true ∨ c = '/' := by
  rw [toList_text] at member
  split at member
  · exact .inl (Numeral.isDigit_of_mem_text member)
  · rcases List.mem_append.1 member with top | rest
    · exact .inl (Numeral.isDigit_of_mem_text top)
    · rcases List.mem_cons.1 rest with bar | bottom
      · exact .inr bar
      · exact .inl (Numeral.isDigit_of_mem_text bottom)

theorem ofParts_eq {q : Ratio} {n d : Nat} (pos : d ≠ 0) (hn : n < Numeral.bound64)
    (hd : d < Numeral.bound64) (num : (n : Int) = q.1.num) (den : d = q.1.den) :
    ofParts n d pos hn hd = q := by
  apply Subtype.ext
  show mkRat n d = q.1
  rw [num, den, Rat.mkRat_self]

theorem ofFraction_eq_ok {source top bottom : List Char} {n d : Nat}
    (parts : (splitFirst '/' source).getD (source, ['1']) = (top, bottom))
    (hn : Numeral.read64 top = .ok n) (hd : Numeral.read64 bottom = .ok d) (pos : d ≠ 0) :
    ofFraction source =
      .ok (ofParts n d pos (Numeral.read64_lt hn) (Numeral.read64_lt hd)) := by
  unfold ofFraction
  rw [parts]
  simp only
  split
  · next other₁ other₂ hn' hd' =>
    rw [hn] at hn'
    rw [hd] at hd'
    cases hn'
    cases hd'
    rw [dif_pos pos]
  · next failed => exact absurd hd (failed n d hn)

/-- A ratio is read from its own text. -/
theorem parse_text (q : Ratio) : parse (text q.1) = .ok q := by
  have blank : ∀ c ∈ (text q.1).toList, Text.isBlank c = false := by
    intro c member
    rcases isDigit_or_bar_of_mem_text member with digit | rfl
    · exact Text.isBlank_eq_false_of_isDigit digit
    · rfl
  have point : '.' ∉ (text q.1).toList := by
    intro member
    rcases isDigit_or_bar_of_mem_text member with digit | bar <;> contradiction
  obtain ⟨nonneg, numFits, denFits⟩ := q.2
  have num : (q.1.num.toNat : Int) = q.1.num := Int.toNat_of_nonneg nonneg
  have top : Numeral.read64 (Numeral.text q.1.num.toNat) = .ok q.1.num.toNat :=
    Numeral.read64_text (by omega)
  have noBar : '/' ∉ Numeral.text q.1.num.toNat := Numeral.not_mem_text rfl
  rw [parse, parseChars, Text.strip_of_no_blank blank, splitFirst_of_not_mem point]
  show ofFraction (text q.1).toList = .ok q
  rw [toList_text]
  split
  · next whole =>
    have parts : (splitFirst '/' (Numeral.text q.1.num.toNat)).getD
        (Numeral.text q.1.num.toNat, ['1']) = (Numeral.text q.1.num.toNat, ['1']) := by
      rw [splitFirst_of_not_mem noBar]
      rfl
    have bottom : Numeral.read64 ['1'] = .ok 1 := rfl
    rw [ofFraction_eq_ok parts top bottom (by decide), ofParts_eq _ _ _ num whole.symm]
  · have parts : (splitFirst '/' (Numeral.text q.1.num.toNat ++ '/' :: Numeral.text q.1.den)).getD
        (Numeral.text q.1.num.toNat ++ '/' :: Numeral.text q.1.den, ['1']) =
          (Numeral.text q.1.num.toNat, Numeral.text q.1.den) := by
      rw [splitFirst_append noBar]
      rfl
    have bottom := Numeral.read64_text denFits
    rw [ofFraction_eq_ok parts top bottom q.1.den_nz, ofParts_eq _ _ _ num rfl]

theorem text_injective {q r : Ratio} (same : text q.1 = text r.1) : q = r := by
  have read := parse_text q
  rw [same, parse_text r] at read
  exact (Except.ok.inj read).symm

end Ratio

namespace CoverageTable

/-- How a threshold and its deduction are written. -/
def write (pair : Ratio × Float) : String × Float := (Ratio.text pair.1.1, pair.2)

theorem parsePairs_map_write (pairs : List (Ratio × Float)) :
    parsePairs (pairs.map write) = .ok pairs := by
  induction pairs with
  | nil => rfl
  | cons pair rest ih =>
    rw [List.map_cons]
    simp only [parsePairs, write, Ratio.parse_text]
    rw [ih]
    rfl

theorem entries_ofPairs (pairs : List (Ratio × Float)) :
    (ofPairs pairs).entries = Entries.ofPairs (pairs.map fun pair => (pair.1.1, pair.2)) := by
  suffices ∀ table : CoverageTable,
      (pairs.foldl (fun table pair => table.insert pair.1 pair.2) table).entries =
        (pairs.map fun pair => (pair.1.1, pair.2)).foldl
          (fun entries pair => Entries.insert pair.1 pair.2 entries) table.entries from
    this empty
  induction pairs with
  | nil => exact fun _ => rfl
  | cons pair rest ih => exact fun table => ih (table.insert pair.1 pair.2)

theorem toTexts_ascending (table : CoverageTable) : Entries.Ascending table.toTexts :=
  Entries.ofPairs_ascending _

theorem eq_of_text_eq {table : CoverageTable} {entry : Rat × Float} (member : entry ∈ table.entries)
    (threshold : Ratio) (same : Ratio.text entry.1 = Ratio.text threshold.1) :
    entry.1 = threshold.1 :=
  congrArg Subtype.val (Ratio.text_injective (q := ⟨entry.1, table.fits entry member⟩) same)

/-- No two thresholds of a table are written alike. -/
theorem texts_apart (table : CoverageTable) : table.entries.Pairwise
    fun earlier later => Ratio.text earlier.1 ≠ Ratio.text later.1 :=
  table.ascending.imp_of_mem fun {_ other} here there below same =>
    Std.ne_of_lt below (eq_of_text_eq here ⟨other.1, table.fits other there⟩ same)

theorem mem_toTexts {table : CoverageTable} {text : String × Float} :
    text ∈ table.toTexts ↔ ∃ entry ∈ table.entries, (Ratio.text entry.1, entry.2) = text := by
  rw [toTexts, Entries.mem_ofPairs (List.pairwise_map.2 table.texts_apart), List.mem_map]

/-- What is written of a table are its thresholds, each once. -/
theorem exists_toTexts_eq (table : CoverageTable) :
    ∃ pairs : List (Ratio × Float), table.toTexts = pairs.map write ∧
      (pairs.Pairwise fun earlier later => earlier.1.1 ≠ later.1.1) ∧
      ∀ pair : Ratio × Float, pair ∈ pairs ↔ (pair.1.1, pair.2) ∈ table.entries := by
  have range : table.toTexts ∈ Set.range (List.map write) := by
    rw [Set.range_list_map]
    intro text member
    obtain ⟨entry, inside, rfl⟩ := mem_toTexts.1 member
    exact ⟨(⟨entry.1, table.fits entry inside⟩, entry.2), rfl⟩
  obtain ⟨pairs, same⟩ := range
  refine ⟨pairs, same.symm, ?_, fun pair => ?_⟩
  · have ascends : Entries.Ascending (pairs.map write) := same ▸ table.toTexts_ascending
    refine (List.pairwise_map.1 ascends).imp fun below equal => ?_
    exact Std.ne_of_lt below (congrArg Ratio.text equal)
  · have listed : pair ∈ pairs ↔ write pair ∈ table.toTexts := by
      have injective : Function.Injective write := by
        intro left right equal
        simp only [write, Prod.mk.injEq] at equal
        exact Prod.ext (Ratio.text_injective equal.1) equal.2
      rw [← same, List.mem_map_of_injective injective]
    rw [listed, mem_toTexts]
    constructor
    · rintro ⟨entry, inside, equal⟩
      have key := eq_of_text_eq inside pair.1 (congrArg Prod.fst equal)
      have value : entry.2 = pair.2 := congrArg Prod.snd equal
      rwa [← key, ← value]
    · exact fun inside => ⟨_, inside, rfl⟩

/-- A table is made again from what is written of it. -/
theorem ofTexts_toTexts (table : CoverageTable) : ofTexts table.toTexts = .ok table := by
  obtain ⟨pairs, texts, apart, same⟩ := exists_toTexts_eq table
  have entries : (ofPairs pairs).entries = table.entries := by
    rw [entries_ofPairs]
    refine Entries.ofPairs_eq (List.pairwise_map.2 apart) table.ascending fun entry => ?_
    rw [List.mem_map]
    constructor
    · rintro ⟨pair, inside, rfl⟩
      exact (same pair).1 inside
    · intro inside
      exact ⟨(⟨entry.1, table.fits entry inside⟩, entry.2), (same _).2 inside, rfl⟩
  rw [texts, ofTexts, parsePairs_map_write]
  show Except.ok (ofPairs pairs) = .ok table
  cases table
  cases made : ofPairs pairs
  simp_all

theorem map_snd_of_parsePairs {texts : List (String × Float)} {pairs : List (Ratio × Float)}
    (read : parsePairs texts = .ok pairs) : pairs.map Prod.snd = texts.map Prod.snd := by
  induction texts generalizing pairs with
  | nil =>
    cases read
    rfl
  | cons text rest ih =>
    obtain ⟨threshold, -, read⟩ := bind_eq_ok.1 read
    obtain ⟨others, readOthers, same⟩ := bind_eq_ok.1 read
    cases same
    rw [List.map_cons, List.map_cons, ih readOthers]

/-- A table has no deductions but those of the texts it was made from. -/
theorem exists_text_of_ofTexts {texts : List (String × Float)} {table : CoverageTable}
    (made : ofTexts texts = .ok table) {entry : Rat × Float} (inside : entry ∈ table.entries) :
    ∃ text ∈ texts, text.2 = entry.2 := by
  rw [ofTexts] at made
  cases read : parsePairs texts with
  | error fault =>
    rw [read] at made
    cases made
  | ok pairs =>
    rw [read] at made
    cases made
    rw [entries_ofPairs] at inside
    obtain ⟨pair, member, rfl⟩ := List.mem_map.1 (Entries.mem_of_mem_ofPairs inside)
    have deduction : pair.2 ∈ texts.map Prod.snd := by
      rw [← map_snd_of_parsePairs read]
      exact List.mem_map_of_mem member
    exact List.mem_map.1 deduction

end CoverageTable

end MazeGrader
