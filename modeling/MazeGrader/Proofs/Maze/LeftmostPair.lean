import MazeGrader.Assignment.MapTest
import MazeGrader.Proofs.Rules.Grammar
import Mathlib.Data.Nat.Find

/-! Start positions in free text. A scan passes over the characters at which no pair of numbers
begins, so what is found is the leftmost pair. -/
namespace MazeGrader.StartPosition

/-- Digits that are worth a number of 64 bits. -/
structure IsIndex (digits : List Char) (n : Nat) : Prop where
  filled : digits ≠ []
  all : ∀ c ∈ digits, c.isDigit = true
  value : Numeral.value digits = n
  fits : n < Numeral.bound64

/-- A text that begins with a pair of numbers, in its parts. -/
structure PairParts where
  row : List Char
  beforeComma : List Char
  afterComma : List Char
  col : List Char
  rest : List Char

/-- The text falls into these parts. Neither number could go on: the row is followed by a gap or the
comma, and the column by no digit. -/
structure PairParts.Splits (parts : PairParts) (source : List Char) (pair : Nat × Nat) : Prop where
  text : source = parts.row ++ (parts.beforeComma ++
    ',' :: (parts.afterComma ++ (parts.col ++ parts.rest)))
  row : IsIndex parts.row pair.1
  beforeComma : IsGap parts.beforeComma
  afterComma : IsGap parts.afterComma
  col : IsIndex parts.col pair.2
  rest : ∀ c ∈ parts.rest.head?, c.isDigit = false

/-- The text begins with this pair. -/
def Begins (source : List Char) (pair : Nat × Nat) : Prop :=
  ∃ parts : PairParts, parts.Splits source pair

/-- The scan passes over so many characters, at each of which no pair begins, and stops where one
does or where the text ends. -/
inductive Scans : List Char → Nat → List Char → Prop
  | stop : (source = [] ∨ ∃ pair, Begins source pair) → Scans source 0 source
  | pass : (∀ pair, ¬Begins (c :: rest) pair) → Scans rest passed stop →
      Scans (c :: rest) (passed + 1) stop

variable {source stop digits rest : List Char} {pair : Nat × Nat} {n passed : Nat}

theorem readBelow_of_isIndex (index : IsIndex digits n)
    (ends : ∀ c ∈ rest.head?, c.isDigit = false) :
    Numeral.readBelow Numeral.bound64 (digits ++ rest) = some (n, rest) :=
  Numeral.readBelow_eq_some_iff.2
    ⟨digits, ⟨rfl, index.all, ends⟩, index.filled, index.value, index.fits⟩

theorem exists_isIndex (read : Numeral.readBelow Numeral.bound64 source = some (n, rest)) :
    ∃ digits, source = digits ++ rest ∧ IsIndex digits n ∧ ∀ c ∈ rest.head?, c.isDigit = false := by
  obtain ⟨digits, span, filled, value, fits⟩ := Numeral.readBelow_eq_some_iff.1 read
  exact ⟨digits, span.split, ⟨filled, span.all, value, fits⟩, span.stops⟩

theorem pairAt?_of_splits {parts : PairParts} (splits : parts.Splits source pair) :
    pairAt? source = some pair := by
  have rowEnds : ∀ c ∈ (parts.beforeComma ++
      ',' :: (parts.afterComma ++ (parts.col ++ parts.rest))).head?, c.isDigit = false := by
    cases gap : parts.beforeComma with
    | nil => simp
    | cons first others =>
      have blank := splits.beforeComma first (gap ▸ List.mem_cons_self)
      rcases blank with rfl | rfl <;> simp
  have comma : skipGap (parts.beforeComma ++
      ',' :: (parts.afterComma ++ (parts.col ++ parts.rest))) =
        ',' :: (parts.afterComma ++ (parts.col ++ parts.rest)) :=
    skipGap_eq_iff.2 ⟨_, RuleParts.span_gap splits.beforeComma (by simp [isGap])⟩
  have col : skipGap (parts.afterComma ++ (parts.col ++ parts.rest)) = parts.col ++ parts.rest :=
    skipGap_eq_iff.2 ⟨_, RuleParts.span_gap splits.afterComma
      (RuleParts.forall_head?_append splits.col.filled fun c member =>
        isGap_eq_false_of_isDigit (splits.col.all c member))⟩
  unfold pairAt?
  rw [splits.text, readBelow_of_isIndex splits.row rowEnds]
  simp only [Option.bind_eq_bind, Option.bind_some, comma, col,
    readBelow_of_isIndex splits.col splits.rest]
  rfl

theorem begins_of_pairAt? (found : pairAt? source = some pair) : Begins source pair := by
  simp only [pairAt?, Option.bind_eq_bind, Option.bind_eq_some_iff] at found
  obtain ⟨⟨row, behind⟩, readRow, found⟩ := found
  split at found
  · next fromCol comma =>
    obtain ⟨⟨col, rest⟩, readCol, same⟩ := Option.bind_eq_some_iff.1 found
    cases same
    obtain ⟨rowDigits, rfl, isRow, -⟩ := exists_isIndex readRow
    obtain ⟨colDigits, fromDigits, isCol, ends⟩ := exists_isIndex readCol
    obtain ⟨beforeComma, before⟩ := skipGap_eq_iff.1 comma
    obtain ⟨afterComma, after⟩ := skipGap_eq_iff.1 fromDigits
    refine ⟨⟨rowDigits, beforeComma, afterComma, colDigits, rest⟩, ?_, isRow,
      RuleParts.isGap_of_span before, RuleParts.isGap_of_span after, isCol, ends⟩
    rw [← after.split, ← before.split]
  · cases found

theorem pairAt?_eq_some_iff : pairAt? source = some pair ↔ Begins source pair :=
  ⟨begins_of_pairAt?, fun ⟨_, splits⟩ => pairAt?_of_splits splits⟩

theorem pairAt?_eq_none_iff : pairAt? source = none ↔ ∀ pair, ¬Begins source pair := by
  simp only [Option.eq_none_iff_forall_ne_some, ne_eq, pairAt?_eq_some_iff]

theorem not_begins_nil : ¬Begins [] pair := by
  rw [← pairAt?_eq_some_iff]
  exact Option.some_ne_none pair ∘ Eq.symm

/-! ### The scan -/

/-- The scan stops on every text. -/
theorem exists_scans (source : List Char) :
    ∃ passed stop, passed ≤ source.length ∧ Scans source passed stop := by
  induction source with
  | nil => exact ⟨0, [], Nat.le_refl 0, .stop (.inl rfl)⟩
  | cons c rest ih =>
    by_cases here : ∃ pair, Begins (c :: rest) pair
    · exact ⟨0, c :: rest, Nat.zero_le _, .stop (.inr here)⟩
    · obtain ⟨passed, stop, inside, scans⟩ := ih
      exact ⟨passed + 1, stop, Nat.succ_le_succ inside, .pass (not_exists.1 here) scans⟩

/-- What is found is the pair at which the scan stops. -/
theorem Scans.find?_eq (scans : Scans source passed stop) : find? source = pairAt? stop := by
  induction scans with
  | @stop source ends =>
    cases source with
    | nil => rfl
    | cons c rest =>
      obtain ⟨pair, here⟩ := ends.resolve_left (List.cons_ne_nil c rest)
      rw [find?, pairAt?_eq_some_iff.2 here, Option.some_or]
  | pass apart _ ih => rw [find?, pairAt?_eq_none_iff.2 apart, Option.none_or, ih]

theorem Scans.stop_eq (scans : Scans source passed stop) : stop = source.drop passed := by
  induction scans with
  | stop _ => rfl
  | pass _ _ ih => exact ih

theorem Scans.not_begins (scans : Scans source passed stop) {i : Nat} (before : i < passed) :
    ∀ pair, ¬Begins (source.drop i) pair := by
  induction scans generalizing i with
  | stop _ => exact absurd before (Nat.not_lt_zero i)
  | pass apart _ ih =>
    cases i with
    | zero => exact apart
    | succ i => exact ih (Nat.lt_of_succ_lt_succ before)

theorem Scans.stops (scans : Scans source passed stop) : stop = [] ∨ ∃ pair, Begins stop pair := by
  induction scans with
  | stop ends => exact ends
  | pass _ _ ih => exact ih

/-- No pair begins before the place where the scan stops, and none behind it if it stops at the
end of the text. -/
theorem Scans.begins_iff (scans : Scans source passed stop) :
    Begins stop pair ↔
      ∃ i, Begins (source.drop i) pair ∧ ∀ j < i, ∀ other, ¬Begins (source.drop j) other := by
  constructor
  · intro here
    exact ⟨passed, scans.stop_eq ▸ here, fun j before => scans.not_begins before⟩
  · rintro ⟨i, here, first⟩
    rcases Nat.lt_trichotomy i passed with before | rfl | behind
    · exact absurd here (scans.not_begins before pair)
    · exact scans.stop_eq ▸ here
    · have nowhere := first passed behind
      rw [← scans.stop_eq] at nowhere
      have ended : stop = [] := scans.stops.resolve_right (not_exists.2 nowhere)
      have gone : source.drop i = [] := by
        rw [scans.stop_eq, List.drop_eq_nil_iff] at ended
        exact List.drop_eq_nil_iff.2 (Nat.le_trans ended (Nat.le_of_lt behind))
      rw [gone] at here
      exact absurd here not_begins_nil

theorem find?_eq_some_iff : find? source = some pair ↔
    ∃ i, Begins (source.drop i) pair ∧ ∀ j < i, ∀ other, ¬Begins (source.drop j) other := by
  obtain ⟨passed, stop, -, scans⟩ := exists_scans source
  rw [scans.find?_eq, pairAt?_eq_some_iff, scans.begins_iff]

theorem find?_eq_none_iff : find? source = none ↔ ∀ i pair, ¬Begins (source.drop i) pair := by
  constructor
  · intro missed i pair here
    classical
    have somewhere : ∃ i pair, Begins (source.drop i) pair := ⟨i, pair, here⟩
    obtain ⟨leftmost, begins⟩ := Nat.find_spec somewhere
    have found := find?_eq_some_iff.2 ⟨_, begins, fun j before other also =>
      Nat.find_min somewhere before ⟨other, also⟩⟩
    cases missed.symm.trans found
  · intro nowhere
    refine Option.eq_none_iff_forall_ne_some.2 fun pair found => ?_
    obtain ⟨i, here, -⟩ := find?_eq_some_iff.1 found
    exact nowhere i pair here

/-- A start is found just if a pair of numbers begins somewhere in the text, and it is the pair that
begins leftmost, maybe within a run of digits that is worth too much. The scan for it stops on every
text. What is written of a start, also in the description of a test, is read as that start. -/
theorem ofText?_leftmost :
    (∀ source : String,
      (∀ pair, ofText? source = some pair ↔
        ∃ i, Begins (source.toList.drop i) pair ∧
          ∀ j < i, ∀ other, ¬Begins (source.toList.drop j) other) ∧
      (ofText? source = none ↔ ∀ i pair, ¬Begins (source.toList.drop i) pair) ∧
      ∃ passed stop, passed ≤ source.toList.length ∧ Scans source.toList passed stop ∧
        ofText? source = pairAt? stop) ∧
    (∀ row col, row < Numeral.bound64 → col < Numeral.bound64 →
      ofText? ("(" ++ toString row ++ ", " ++ toString col ++ ")") = some (row, col)) ∧
    ∀ test : MapTest, test.start.1 < Numeral.bound64 → test.start.2 < Numeral.bound64 →
      ofText? test.descriptor.start = some test.start := by
  refine ⟨fun source => ⟨fun pair => find?_eq_some_iff, find?_eq_none_iff, ?_⟩,
    fun row col => ofText?_text, fun test => ofText?_text⟩
  obtain ⟨passed, stop, inside, scans⟩ := exists_scans source.toList
  exact ⟨passed, stop, inside, scans, scans.find?_eq⟩

/-- The first number has 65 bits, and without its first digit 63. -/
theorem ofText?_leftmost_shifted :
    (∀ pair, ¬Begins "18446744073709551616\t, 2, 3".toList pair) ∧
      ofText? "18446744073709551616\t, 2, 3" = some (8446744073709551616, 2) ∧
      ofText? "(18446744073709551615, 0)" = some (18446744073709551615, 0) := by
  have apart : ∀ pair, ¬Begins "18446744073709551616\t, 2, 3".toList pair :=
    pairAt?_eq_none_iff.1 (by decide +kernel)
  have shifted : Begins ("18446744073709551616\t, 2, 3".toList.drop 1) (8446744073709551616, 2) :=
    pairAt?_eq_some_iff.1 (by decide +kernel)
  refine ⟨apart, ?_, ofText?_leftmost.2.1 18446744073709551615 0 (by decide) (by decide)⟩
  refine ((ofText?_leftmost.1 _).1 _).2 ⟨1, shifted, fun j before => ?_⟩
  obtain rfl : j = 0 := Nat.lt_one_iff.1 before
  exact apart

end MazeGrader.StartPosition
