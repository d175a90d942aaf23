import MazeGrader.Proofs.Coverage.Thresholds
import Mathlib.Algebra.Order.Ring.Rat
import Mathlib.Order.Bounds.Defs

/-! Which deduction counts. A coverage has the deduction of the greatest threshold that it
reaches, or of the least one if it reaches none, and thresholds are compared as exact ratios. -/
namespace MazeGrader

/-- Ratios are compared by their products crosswise, however large these are. -/
theorem Ratio.ofParts_le_iff {n d m e : Nat} (dPos : d ≠ 0) (ePos : e ≠ 0)
    (hn : n < Numeral.bound64) (hd : d < Numeral.bound64) (hm : m < Numeral.bound64)
    (he : e < Numeral.bound64) :
    (ofParts n d dPos hn hd).1 ≤ (ofParts m e ePos hm he).1 ↔ n * e ≤ m * d := by
  show mkRat n d ≤ mkRat m e ↔ n * e ≤ m * d
  rw [Rat.mkRat_eq_divInt, Rat.mkRat_eq_divInt, Rat.divInt_le_divInt (by omega) (by omega)]
  norm_cast

/-- The threshold that decides: the greatest one that is reached, or the least if none is. -/
def Decides (thresholds : Set Rat) (coverage threshold : Rat) : Prop :=
  IsGreatest {q ∈ thresholds | q ≤ coverage} threshold ∨
    (∀ q ∈ thresholds, coverage < q) ∧ IsLeast thresholds threshold

/-- A lower coverage is not decided by a higher threshold. -/
theorem Decides.le_of_le {thresholds : Set Rat} {low high p q : Rat} (le : low ≤ high)
    (first : Decides thresholds low p) (second : Decides thresholds high q) : p ≤ q := by
  rcases second with greatest | ⟨above, least⟩
  · rcases first with reached | ⟨-, least⟩
    · exact greatest.2 ⟨reached.1.1, reached.1.2.trans le⟩
    · exact least.2 greatest.1.1
  · rcases first with reached | ⟨-, first⟩
    · exact absurd (above p reached.1.1) (not_lt.2 (reached.1.2.trans le))
    · exact first.2 least.1

namespace CoverageTable

def thresholds (table : CoverageTable) : Set Rat := {q | ∃ entry ∈ table.entries, entry.1 = q}

variable {table : CoverageTable} {coverage : Rat} {pairs : List (Ratio × Float)}

/-- Up to the highest threshold, the deduction is that of the threshold that decides. -/
theorem exists_decides (inside : ∃ q ∈ table.thresholds, coverage ≤ q) :
    ∃ entry ∈ table.entries, Decides table.thresholds coverage entry.1 ∧
      table.deductionFor coverage = some entry.2 := by
  obtain ⟨_, ⟨entry, member, rfl⟩, le⟩ := inside
  have filled : table.entries ≠ [] := List.ne_nil_of_mem member
  have below : ¬(table.entries.getLast filled).1 < coverage := by
    have top := List.getLast?_eq_some_getLast filled
    have greatest := ((Entries.getLast?_eq_some_iff table.ascending).1 top).2
    exact not_lt.2 (le.trans (greatest entry member))
  simp only [deductionFor, List.getLast?_eq_some_getLast filled, if_neg below]
  cases reached : (table.entries.filter (·.1 ≤ coverage)).getLast? with
  | some last =>
    have reaches := table.ascending.filter (·.1 ≤ coverage)
    obtain ⟨listed, greatest⟩ := (Entries.getLast?_eq_some_iff reaches).1 reached
    simp only [List.mem_filter, decide_eq_true_eq] at listed greatest
    refine ⟨last, listed.1, .inl ⟨⟨⟨last, listed.1, rfl⟩, listed.2⟩, ?_⟩, rfl⟩
    rintro _ ⟨⟨other, also, rfl⟩, le⟩
    exact greatest other ⟨also, le⟩
  | none =>
    have first := List.head?_eq_some_head filled
    obtain ⟨listed, least⟩ := (Entries.head?_eq_some_iff table.ascending).1 first
    simp only [List.getLast?_eq_none_iff, List.filter_eq_nil_iff, decide_eq_true_eq,
      not_le] at reached
    refine ⟨_, listed, .inr ⟨?_, ⟨_, listed, rfl⟩, ?_⟩, by rw [first]; rfl⟩
    · rintro _ ⟨other, also, rfl⟩
      exact reached other also
    · rintro _ ⟨other, also, rfl⟩
      exact least other also

theorem deductionFor_eq_none_iff :
    table.deductionFor coverage = none ↔ ∀ q ∈ table.thresholds, q < coverage := by
  constructor
  · intro free
    by_contra inside
    push Not at inside
    obtain ⟨entry, -, -, found⟩ := exists_decides inside
    cases free.symm.trans found
  · intro above
    unfold deductionFor
    split
    · rfl
    · next highest top =>
      have listed := ((Entries.getLast?_eq_some_iff table.ascending).1 top).1
      rw [if_pos (above highest.1 ⟨highest, listed, rfl⟩)]

/-! ### The pairs that a table is made of -/

theorem mem_entries_ofPairs {threshold : Ratio} {deduction : Float} :
    (threshold.1, deduction) ∈ (ofPairs pairs).entries ↔
      Entries.LastWith threshold deduction pairs := by
  rw [entries_ofPairs, Entries.mem_ofPairs_iff]
  exact Entries.lastWith_map Subtype.val_injective

theorem thresholds_ofPairs : (ofPairs pairs).thresholds = {q | ∃ pair ∈ pairs, pair.1.1 = q} := by
  ext q
  constructor
  · rintro ⟨entry, listed, rfl⟩
    rw [entries_ofPairs] at listed
    obtain ⟨pair, member, rfl⟩ := List.mem_map.1 (Entries.mem_of_mem_ofPairs listed)
    exact ⟨pair, member, rfl⟩
  · rintro ⟨pair, member, rfl⟩
    obtain ⟨deduction, last⟩ := Entries.exists_lastWith_iff.2 ⟨pair, member, rfl⟩
    exact ⟨_, mem_entries_ofPairs.2 last, rfl⟩

/-- Where no higher threshold has a greater deduction, no higher coverage has one. -/
theorem le_of_deductionFor {order : Preorder Float}
    (falling : ∀ lower ∈ table.entries, ∀ higher ∈ table.entries, lower.1 < higher.1 →
      order.le higher.2 lower.2)
    {low high : Rat} (le : low ≤ high) {least : Float}
    (deducted : table.deductionFor high = some least) :
    ∃ most, table.deductionFor low = some most ∧ order.le least most := by
  have inside : ∃ q ∈ table.thresholds, high ≤ q := by
    by_contra above
    push Not at above
    cases (deductionFor_eq_none_iff.2 above).symm.trans deducted
  obtain ⟨higher, alsoListed, second, found⟩ := exists_decides inside
  obtain ⟨q, member, reached⟩ := inside
  obtain ⟨lower, listed, first, foundLow⟩ := exists_decides ⟨q, member, le.trans reached⟩
  obtain rfl : higher.2 = least := Option.some.inj (found.symm.trans deducted)
  refine ⟨lower.2, foundLow, ?_⟩
  rcases (first.le_of_le le second).lt_or_eq with below | same
  · exact falling lower listed higher alsoListed below
  · rw [Entries.eq_of_mem table.ascending listed alsoListed same]

/-- A coverage above all thresholds has no deduction. Any other one has that of the threshold that
decides, which of several pairs with this threshold is the one of the last. Ratios of numbers of
64 bits are compared exactly, and if no higher threshold has a greater deduction then no higher
coverage has one. -/
theorem deductionFor_floor (pairs : List (Ratio × Float)) :
    (∀ coverage : Rat,
      ((ofPairs pairs).deductionFor coverage = none ↔
        pairs = [] ∨ ∀ pair ∈ pairs, pair.1.1 < coverage) ∧
      (¬(pairs = [] ∨ ∀ pair ∈ pairs, pair.1.1 < coverage) →
        ∃ (threshold : Ratio) (deduction : Float),
          Decides {q | ∃ pair ∈ pairs, pair.1.1 = q} coverage threshold.1 ∧
          Entries.LastWith threshold deduction pairs ∧
          (ofPairs pairs).deductionFor coverage = some deduction)) ∧
    (∀ (n d m e : Nat) (dPos : d ≠ 0) (ePos : e ≠ 0) (hn : n < Numeral.bound64)
      (hd : d < Numeral.bound64) (hm : m < Numeral.bound64) (he : e < Numeral.bound64),
      (Ratio.ofParts n d dPos hn hd).1 ≤ (Ratio.ofParts m e ePos hm he).1 ↔ n * e ≤ m * d) ∧
    ∀ order : Preorder Float,
      (∀ lower ∈ (ofPairs pairs).entries, ∀ higher ∈ (ofPairs pairs).entries,
        lower.1 < higher.1 → order.le higher.2 lower.2) →
      ∀ low high : Rat, low ≤ high →
        ∀ least, (ofPairs pairs).deductionFor high = some least →
          ∃ most, (ofPairs pairs).deductionFor low = some most ∧ order.le least most := by
  have above_iff : ∀ coverage : Rat, (pairs = [] ∨ ∀ pair ∈ pairs, pair.1.1 < coverage) ↔
      ∀ q ∈ (ofPairs pairs).thresholds, q < coverage := by
    intro coverage
    rw [thresholds_ofPairs]
    constructor
    · rintro (rfl | above) q ⟨pair, member, rfl⟩
      · cases member
      · exact above pair member
    · exact fun above => .inr fun pair member => above _ ⟨pair, member, rfl⟩
  refine ⟨fun coverage => ⟨?_, fun inside => ?_⟩, fun _ _ _ _ => Ratio.ofParts_le_iff,
    fun order falling low high le least => le_of_deductionFor falling le⟩
  · rw [above_iff]
    exact deductionFor_eq_none_iff
  · rw [above_iff] at inside
    push Not at inside
    obtain ⟨entry, listed, decides, found⟩ := exists_decides inside
    have fits := (ofPairs pairs).fits entry listed
    rw [thresholds_ofPairs] at decides
    exact ⟨⟨entry.1, fits⟩, entry.2, decides, mem_entries_ofPairs.1 listed, found⟩

/-- A half is there twice, the second time not in lowest terms. -/
def repeatedPairs : List (Ratio × Float) :=
  [(Ratio.ofParts 1 2 (by decide) (by decide) (by decide), 5),
    (Ratio.ofParts 1 4 (by decide) (by decide) (by decide), 9),
    (Ratio.ofParts 2 4 (by decide) (by decide) (by decide), 3)]

/-- An order of deductions in which just three is below nine. -/
@[reducible] def threeBelowNine : Preorder Float where
  le a b := a = b ∨ a = 3 ∧ b = 9
  lt a b := (a = b ∨ a = 3 ∧ b = 9) ∧ ¬(b = a ∨ b = 3 ∧ a = 9)
  le_refl _ := .inl rfl
  le_trans a b c := by
    rintro (rfl | ⟨rfl, rfl⟩) (rfl | ⟨three, rfl⟩)
    · exact .inl rfl
    · exact .inr ⟨three, rfl⟩
    · exact .inr ⟨rfl, rfl⟩
    · exact .inr ⟨rfl, rfl⟩
  lt_iff_le_not_ge _ _ := Iff.rfl

theorem deductionFor_floor_repeated :
    (ofPairs repeatedPairs).deductionFor 1 = none ∧
      (∃ threshold : Ratio,
        Decides {q | ∃ pair ∈ repeatedPairs, pair.1.1 = q} (mkRat 1 2) threshold.1 ∧
        Entries.LastWith threshold 3 repeatedPairs) ∧
      ∃ most, (ofPairs repeatedPairs).deductionFor (mkRat 1 3) = some most ∧
        (3 = most ∨ most = 9) := by
  obtain ⟨lookup, -, falls⟩ := deductionFor_floor repeatedPairs
  have atHalf : (ofPairs repeatedPairs).deductionFor (mkRat 1 2) = some 3 := rfl
  have entries : (ofPairs repeatedPairs).entries = [(mkRat 1 4, 9), (mkRat 1 2, 3)] := rfl
  have above : ∀ pair ∈ repeatedPairs, pair.1.1 < 1 := by decide +kernel
  refine ⟨(lookup 1).1.2 (.inr above), ?_, ?_⟩
  · have inside : ¬(repeatedPairs = [] ∨ ∀ pair ∈ repeatedPairs, pair.1.1 < mkRat 1 2) := by
      rw [← (lookup _).1, atHalf]
      exact Option.some_ne_none 3
    obtain ⟨threshold, deduction, decides, last, found⟩ := (lookup _).2 inside
    obtain rfl : 3 = deduction := Option.some.inj (atHalf.symm.trans found)
    exact ⟨threshold, decides, last⟩
  · have falling : ∀ lower ∈ (ofPairs repeatedPairs).entries,
        ∀ higher ∈ (ofPairs repeatedPairs).entries, lower.1 < higher.1 →
          threeBelowNine.le higher.2 lower.2 := by
      rw [entries]
      intro lower listed higher also below
      rcases List.mem_pair.1 listed with rfl | rfl <;> rcases List.mem_pair.1 also with rfl | rfl
      · exact .inl rfl
      · exact .inr ⟨rfl, rfl⟩
      · exact absurd below (by decide +kernel)
      · exact .inl rfl
    have low : mkRat 1 3 ≤ mkRat 1 2 := by decide +kernel
    obtain ⟨most, found, same | ⟨-, nine⟩⟩ := falls threeBelowNine falling _ _ low 3 atHalf
    · exact ⟨most, found, .inl same⟩
    · exact ⟨most, found, .inr nine⟩

end CoverageTable

end MazeGrader
