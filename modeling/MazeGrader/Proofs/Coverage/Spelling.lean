import MazeGrader.Proofs.Coverage.Thresholds
import Mathlib.Data.String.Basic

/-! How ratios are written. A text with a point is a decimal, and any other one is a whole number or
a fraction of two. All arithmetic is done in words of 64 bits: what they do not hold is refused
before it is computed. -/
namespace MazeGrader

namespace Numeral

/-- Nothing but ASCII digits. -/
def IsDigits (part : List Char) : Prop := ∀ c ∈ part, c.isDigit = true

/-- The text is a number of 64 bits; a plus sign may precede the digits. -/
def IsUnsigned (source : List Char) (n : Nat) : Prop :=
  ∃ digits, (source = digits ∨ source = '+' :: digits) ∧ digits ≠ [] ∧ IsDigits digits ∧
    value digits = n ∧ n < bound64

variable {part source : List Char} {n : Nat}

theorem isDigits_iff : IsDigits part ↔ part.all Char.isDigit = true := List.all_eq_true.symm

/-- Digits are worth less than a one with as many zeros. -/
theorem value_lt (digits : IsDigits part) : value part < 10 ^ part.length := by
  suffices ∀ front : Nat, Nat.ofDigitChars 10 part front < (front + 1) * 10 ^ part.length by
    simpa [value] using this 0
  induction part with
  | nil => simp
  | cons c part ih =>
    intro front
    obtain ⟨first, others⟩ := List.forall_mem_cons.1 digits
    have small : c.toNat - '0'.toNat ≤ 9 :=
      Nat.sub_le_sub_right (Char.isDigit_iff_toNat.1 first).2 '0'.toNat
    rw [Nat.ofDigitChars_cons, List.length_cons, Nat.pow_succ']
    calc Nat.ofDigitChars 10 part (10 * front + (c.toNat - '0'.toNat))
        < (10 * front + (c.toNat - '0'.toNat) + 1) * 10 ^ part.length := ih others _
      _ ≤ ((front + 1) * 10) * 10 ^ part.length := Nat.mul_le_mul_right _ (by omega)
      _ = (front + 1) * (10 * 10 ^ part.length) := Nat.mul_assoc ..

theorem read64_eq_ok_iff : read64 source = .ok n ↔ IsUnsigned source n := by
  constructor
  · intro read
    obtain ⟨filled, plain, worth, fits⟩ := of_read64 read
    exact ⟨unsign source, eq_or_eq_unsign source, filled, isDigits_iff.2 plain, worth, fits⟩
  · rintro ⟨digits, rfl | rfl, filled, digitsOnly, rfl, fits⟩
    all_goals have plain := isDigits_iff.1 digitsOnly
    · rw [read64_of_digits filled plain, if_neg (Nat.not_le.2 fits)]
    · simp [read64, unsign, filled, plain, takeWhile_isDigit plain, Nat.not_le.2 fits]

theorem IsUnsigned.not_mem {mark : Char} (unsigned : IsUnsigned source n)
    (apart : mark.isDigit = false ∧ mark ≠ '+') : mark ∉ source := by
  obtain ⟨digits, written, -, plain, -⟩ := unsigned
  have absent : mark ∉ digits := by
    intro member
    rw [plain mark member] at apart
    cases apart.1
  rcases written with rfl | rfl
  · exact absent
  · exact List.not_mem_cons_of_ne_of_not_mem apart.2 absent

end Numeral

namespace Ratio

variable {source : String} {text whole fraction : List Char} {n d : Nat} {ratio : Ratio}

/-- The ratio is `n / d`, with the greatest common divisor taken from both. -/
structure Reduces (n d : Nat) (ratio : Ratio) : Prop where
  nonzero : d ≠ 0
  value : ratio.1 = n / d
  num : ratio.1.num = (n / n.gcd d : Nat)
  den : ratio.1.den = d / n.gcd d

theorem reduces_ofParts (pos : d ≠ 0) (hn : n < Numeral.bound64) (hd : d < Numeral.bound64) :
    Reduces n d (ofParts n d pos hn hd) where
  nonzero := pos
  value := Rat.mkRat_eq_div n d
  num := by simp [ofParts, Rat.num_mkRat, pos, Nat.gcd_comm]
  den := by simp [ofParts, Rat.den_mkRat, pos, Nat.gcd_comm]

theorem Reduces.unique {other : Ratio} (reduces : Reduces n d ratio) (again : Reduces n d other) :
    ratio = other := Subtype.ext (reduces.value.trans again.value.symm)

/-! ### Whole numbers and fractions -/

/-- A whole number, or two of them with a bar between. -/
def IsFraction (text : List Char) (n d : Nat) : Prop :=
  Numeral.IsUnsigned text n ∧ d = 1 ∨
    ∃ top bottom, text = top ++ '/' :: bottom ∧ Numeral.IsUnsigned top n ∧
      Numeral.IsUnsigned bottom d

theorem splitFirst_eq_none_iff {mark : Char} : splitFirst mark text = none ↔ mark ∉ text := by
  refine ⟨fun whole member => ?_, splitFirst_of_not_mem⟩
  obtain ⟨before, after, rfl, absent⟩ := List.eq_append_cons_of_mem member
  rw [splitFirst_append absent] at whole
  cases whole

theorem splitFirst_eq_some_iff {mark : Char} {before after : List Char} :
    splitFirst mark text = some (before, after) ↔
      text = before ++ mark :: after ∧ mark ∉ before := by
  constructor
  · intro split
    have member : mark ∈ text := by
      by_contra absent
      rw [splitFirst_of_not_mem absent] at split
      cases split
    obtain ⟨_, _, rfl, absent⟩ := List.eq_append_cons_of_mem member
    rw [splitFirst_append absent] at split
    cases split
    exact ⟨rfl, absent⟩
  · rintro ⟨rfl, absent⟩
    exact splitFirst_append absent after

/-- A fraction is read in two parts, of which the second is one where there is none. -/
theorem isFraction_iff : IsFraction text n d ↔ ∃ top bottom,
    (splitFirst '/' text).getD (text, ['1']) = (top, bottom) ∧
      Numeral.read64 top = .ok n ∧ Numeral.read64 bottom = .ok d := by
  simp only [Numeral.read64_eq_ok_iff]
  constructor
  · rintro (⟨unsigned, rfl⟩ | ⟨top, bottom, rfl, first, second⟩)
    · have absent : '/' ∉ text := unsigned.not_mem (by decide)
      refine ⟨text, ['1'], by rw [splitFirst_of_not_mem absent]; rfl, unsigned, ?_⟩
      exact Numeral.read64_eq_ok_iff.1 rfl
    · have absent : '/' ∉ top := first.not_mem (by decide)
      exact ⟨top, bottom, by rw [splitFirst_append absent]; rfl, first, second⟩
  · rintro ⟨top, bottom, parts, first, second⟩
    cases split : splitFirst '/' text with
    | none =>
      rw [split] at parts
      cases parts
      have one : Numeral.IsUnsigned ['1'] 1 := Numeral.read64_eq_ok_iff.1 rfl
      refine .inl ⟨first, ?_⟩
      exact Except.ok.inj ((Numeral.read64_eq_ok_iff.2 second).symm.trans
        (Numeral.read64_eq_ok_iff.2 one))
    | some both =>
      rw [split] at parts
      cases parts
      exact .inr ⟨top, bottom, (splitFirst_eq_some_iff.1 split).1, first, second⟩

theorem ofFraction_of_isFraction (written : IsFraction text n d) (pos : d ≠ 0) :
    ∃ ratio, ofFraction text = .ok ratio ∧ Reduces n d ratio := by
  obtain ⟨top, bottom, parts, first, second⟩ := isFraction_iff.1 written
  exact ⟨_, ofFraction_eq_ok parts first second pos, reduces_ofParts pos _ _⟩

theorem ofFraction_zero (written : IsFraction text n 0) :
    ofFraction text = .error (.zeroDenominator (String.ofList text)) := by
  obtain ⟨top, bottom, parts, first, second⟩ := isFraction_iff.1 written
  unfold ofFraction
  rw [parts]
  simp only
  split
  · next n d hn hd =>
    rw [second] at hd
    cases hd
    rfl
  · next failed => exact absurd second (failed n 0 first)

theorem isFraction_of_ofFraction (read : ofFraction text = .ok ratio) :
    ∃ n d, IsFraction text n d ∧ d ≠ 0 := by
  unfold ofFraction at read
  split at read
  next top bottom parts =>
    split at read
    · next n d hn hd =>
      split at read
      · next pos => exact ⟨n, d, isFraction_iff.2 ⟨top, bottom, parts, hn, hd⟩, pos⟩
      · cases read
    · cases read

theorem reduces_of_ofFraction (written : IsFraction text n d) (read : ofFraction text = .ok ratio) :
    Reduces n d ratio := by
  by_cases zero : d = 0
  · subst zero
    cases (ofFraction_zero written).symm.trans read
  · obtain ⟨found, same, reduces⟩ := ofFraction_of_isFraction written zero
    cases same.symm.trans read
    exact reduces

/-! ### Decimals -/

/-- Digits around a point, at one side of it at least. -/
structure IsDecimal (whole fraction : List Char) : Prop where
  before : Numeral.IsDigits whole
  behind : Numeral.IsDigits fraction
  filled : ¬(whole = [] ∧ fraction = [])

/-- A decimal in units of its last place. -/
def units (whole fraction : List Char) : Nat :=
  Numeral.value whole * 10 ^ fraction.length + Numeral.value fraction

/-- What of a decimal does not fit in 64 bits: ten to the number of its places, what stands before
the point, or the sum. -/
inductive Overflows (text whole fraction : List Char) : Fault → Prop
  | power : 19 < fraction.length →
      Overflows text whole fraction (.tooManyPlaces (String.ofList text))
  | whole : fraction.length ≤ 19 → Numeral.bound64 ≤ Numeral.value whole →
      Overflows text whole fraction (.numeral .tooLarge)
  | sum : fraction.length ≤ 19 → Numeral.value whole < Numeral.bound64 →
      Numeral.bound64 ≤ units whole fraction →
      Overflows text whole fraction (.tooLarge (String.ofList text))

/-- Words of 64 bits, whose sums and products wrap around, hold the parts of a decimal, and
what is computed of them in words is exact. -/
structure ExactInWords (whole fraction : List Char) (w f p : UInt64) : Prop where
  before : w.toNat = Numeral.value whole
  behind : f.toNat = Numeral.value fraction
  power : p.toNat = 10 ^ fraction.length
  product : (w * p).toNat = Numeral.value whole * 10 ^ fraction.length
  sum : (w * p + f).toNat = units whole fraction

theorem pow_lt_bound64 {places : Nat} (few : places ≤ 19) : 10 ^ places < Numeral.bound64 :=
  Nat.lt_of_le_of_lt (Nat.pow_le_pow_right (by decide) few) (by decide)

theorem power?_eq {places : Nat} (short : places < Numeral.bound32) :
    power? places = if places ≤ 19 then some (10 ^ places) else none := by
  simp only [power?, Nat.mod_eq_of_lt short]
  rfl

theorem readDigits_eq {part : List Char} (digits : Numeral.IsDigits part) :
    readDigits part =
      if Numeral.bound64 ≤ Numeral.value part then .error .tooLarge
      else .ok (Numeral.value part) := by
  unfold readDigits
  split
  · next empty =>
    rw [List.isEmpty_iff.1 empty]
    rfl
  · next filled =>
    exact Numeral.read64_of_digits (by simpa using filled) (Numeral.isDigits_iff.1 digits)

theorem isDecimal_iff : IsDecimal whole fraction ↔
    ((whole.isEmpty && fraction.isEmpty) || !(whole ++ fraction).all Char.isDigit) = false := by
  have filled : (whole.isEmpty && fraction.isEmpty) = false ↔ ¬(whole = [] ∧ fraction = []) := by
    rw [← Bool.not_eq_true, Bool.and_eq_true, List.isEmpty_iff, List.isEmpty_iff]
  rw [Bool.or_eq_false_iff, Bool.not_eq_false', List.all_append, Bool.and_eq_true, filled,
    ← Numeral.isDigits_iff, ← Numeral.isDigits_iff]
  exact ⟨fun decimal => ⟨decimal.filled, decimal.before, decimal.behind⟩,
    fun ⟨filled, before, behind⟩ => ⟨before, behind, filled⟩⟩

theorem ofDecimal_of_not_isDecimal (other : ¬IsDecimal whole fraction) :
    ofDecimal text whole fraction = .error (.notRatio (String.ofList text)) := by
  rw [isDecimal_iff, Bool.not_eq_false] at other
  rw [ofDecimal, if_pos other]

theorem IsDecimal.value_fraction_lt (decimal : IsDecimal whole fraction)
    (few : fraction.length ≤ 19) : Numeral.value fraction < Numeral.bound64 :=
  Nat.lt_trans (Numeral.value_lt decimal.behind) (pow_lt_bound64 few)

theorem product_le_units (whole fraction : List Char) :
    Numeral.value whole * 10 ^ fraction.length ≤ units whole fraction := Nat.le_add_right _ _

theorem value_whole_le_units (whole fraction : List Char) :
    Numeral.value whole ≤ units whole fraction :=
  Nat.le_trans (Nat.le_mul_of_pos_right _ (Nat.pow_pos (by decide))) (product_le_units ..)

theorem exactInWords (decimal : IsDecimal whole fraction) (few : fraction.length ≤ 19)
    (fits : units whole fraction < Numeral.bound64) :
    ∃ w f p, ExactInWords whole fraction w f p := by
  have word : ∀ n < Numeral.bound64, (UInt64.ofNat n).toNat = n :=
    fun n inside => UInt64.toNat_ofNat_of_lt' inside
  have before := word _ (Nat.lt_of_le_of_lt (value_whole_le_units whole fraction) fits)
  have behind := word _ (decimal.value_fraction_lt few)
  have power := word _ (pow_lt_bound64 few)
  have product : (UInt64.ofNat (Numeral.value whole) * .ofNat (10 ^ fraction.length)).toNat =
      Numeral.value whole * 10 ^ fraction.length := by
    rw [UInt64.toNat_mul, before, power]
    exact Nat.mod_eq_of_lt (Nat.lt_of_le_of_lt (product_le_units whole fraction) fits)
  refine ⟨_, _, _, before, behind, power, product, ?_⟩
  rw [UInt64.toNat_add, product, behind]
  exact Nat.mod_eq_of_lt fits

/-- With no more than nineteen places, what stands behind the point fits anyway. -/
theorem ofDecimal_of_few (decimal : IsDecimal whole fraction) (few : fraction.length ≤ 19) :
    ofDecimal text whole fraction =
      if Numeral.value whole < Numeral.bound64 then
        if fits : units whole fraction < Numeral.bound64 then
          .ok (ofParts (units whole fraction) (10 ^ fraction.length)
            (Nat.ne_of_gt (Nat.pow_pos (by decide))) fits (pow_lt_bound64 few))
        else .error (.tooLarge (String.ofList text))
      else .error (.numeral .tooLarge) := by
  have power : power? fraction.length = some (10 ^ fraction.length) := by
    rw [power?_eq (Nat.lt_of_le_of_lt few (by decide)), if_pos few]
  unfold ofDecimal
  rw [if_neg (by rw [isDecimal_iff.1 decimal]; decide)]
  split
  · next beyond =>
    rw [power] at beyond
    cases beyond
  · next found same =>
    obtain rfl : 10 ^ fraction.length = found := Option.some.inj (power.symm.trans same)
    rw [readDigits_eq decimal.before, readDigits_eq decimal.behind,
      if_neg (Nat.not_le.2 (decimal.value_fraction_lt few))]
    split
    · next beyond =>
      rw [if_neg (Nat.not_lt.2 beyond)]
      rfl
    · next before =>
      rw [if_pos (Nat.not_le.1 before)]
      rfl

theorem ofDecimal_of_many (decimal : IsDecimal whole fraction)
    (short : fraction.length < Numeral.bound32) (many : 19 < fraction.length) :
    ofDecimal text whole fraction = .error (.tooManyPlaces (String.ofList text)) := by
  unfold ofDecimal
  rw [if_neg (by rw [isDecimal_iff.1 decimal]; decide)]
  split
  · rfl
  · next same =>
    rw [power?_eq short, if_neg (Nat.not_le.2 many)] at same
    cases same

theorem ofDecimal_of_fits (text : List Char) (decimal : IsDecimal whole fraction)
    (few : fraction.length ≤ 19) (fits : units whole fraction < Numeral.bound64) :
    ∃ ratio, ofDecimal text whole fraction = .ok ratio ∧
      Reduces (units whole fraction) (10 ^ fraction.length) ratio := by
  have before := Nat.lt_of_le_of_lt (value_whole_le_units whole fraction) fits
  refine ⟨_, ?_, reduces_ofParts (Nat.ne_of_gt (Nat.pow_pos (by decide))) fits (pow_lt_bound64 few)⟩
  rw [ofDecimal_of_few decimal few, if_pos before, dif_pos fits]

theorem ofDecimal_of_overflows {fault : Fault} (decimal : IsDecimal whole fraction)
    (short : fraction.length < Numeral.bound32)
    (overflows : Overflows text whole fraction fault) :
    ofDecimal text whole fraction = .error fault := by
  cases overflows with
  | power many => exact ofDecimal_of_many decimal short many
  | whole few beyond => rw [ofDecimal_of_few decimal few, if_neg (Nat.not_lt.2 beyond)]
  | sum few before beyond =>
    rw [ofDecimal_of_few decimal few, if_pos before, dif_neg (Nat.not_lt.2 beyond)]

/-- A decimal fits, or there is a first number in it that does not. -/
theorem fits_or_overflows (text whole fraction : List Char) :
    fraction.length ≤ 19 ∧ units whole fraction < Numeral.bound64 ∨
      ∃ fault, Overflows text whole fraction fault := by
  rcases Nat.lt_or_ge 19 fraction.length with many | few
  · exact .inr ⟨_, .power many⟩
  rcases Nat.lt_or_ge (Numeral.value whole) Numeral.bound64 with before | beyond
  · rcases Nat.lt_or_ge (units whole fraction) Numeral.bound64 with fits | beyond
    · exact .inl ⟨few, fits⟩
    · exact .inr ⟨_, .sum few before beyond⟩
  · exact .inr ⟨_, .whole few beyond⟩

theorem ofDecimal_eq_error_iff {fault : Fault} (decimal : IsDecimal whole fraction)
    (short : fraction.length < Numeral.bound32) :
    ofDecimal text whole fraction = .error fault ↔ Overflows text whole fraction fault := by
  refine ⟨fun refused => ?_, ofDecimal_of_overflows decimal short⟩
  rcases fits_or_overflows text whole fraction with ⟨few, fits⟩ | ⟨other, overflows⟩
  · obtain ⟨ratio, read, -⟩ := ofDecimal_of_fits text decimal few fits
    cases read.symm.trans refused
  · cases (ofDecimal_of_overflows decimal short overflows).symm.trans refused
    exact overflows

theorem ofDecimal_eq_ok_iff (short : fraction.length < Numeral.bound32) :
    ofDecimal text whole fraction = .ok ratio ↔ IsDecimal whole fraction ∧
      fraction.length ≤ 19 ∧ units whole fraction < Numeral.bound64 ∧
      Reduces (units whole fraction) (10 ^ fraction.length) ratio := by
  constructor
  · intro read
    have decimal : IsDecimal whole fraction := by
      by_contra other
      rw [ofDecimal_of_not_isDecimal other] at read
      cases read
    rcases fits_or_overflows text whole fraction with ⟨few, fits⟩ | ⟨fault, overflows⟩
    · obtain ⟨found, same, reduces⟩ := ofDecimal_of_fits text decimal few fits
      cases same.symm.trans read
      exact ⟨decimal, few, fits, reduces⟩
    · cases (ofDecimal_of_overflows decimal short overflows).symm.trans read
  · rintro ⟨decimal, few, fits, reduces⟩
    obtain ⟨found, same, alike⟩ := ofDecimal_of_fits text decimal few fits
    rw [same, reduces.unique alike]

/-! ### Whole texts -/

theorem parse_of_point (split : Text.strip source.toList = whole ++ '.' :: fraction)
    (first : '.' ∉ whole) :
    parse source = ofDecimal (Text.strip source.toList) whole fraction := by
  rw [parse, parseChars, splitFirst_eq_some_iff.2 ⟨split, first⟩]

theorem parse_of_no_point (plain : '.' ∉ Text.strip source.toList) :
    parse source = ofFraction (Text.strip source.toList) := by
  rw [parse, parseChars, splitFirst_eq_none_iff.2 plain]

theorem length_le_utf8ByteSize (source : String) :
    source.toList.length ≤ source.utf8ByteSize := by
  rw [← String.utf8Len_toList]
  induction source.toList with
  | nil => exact Nat.le_refl 0
  | cons c rest ih =>
    have filled := c.utf8Size_pos
    rw [List.length_cons, String.utf8Len_cons]
    omega

theorem fraction_length_lt (short : source.utf8ByteSize < Numeral.bound32)
    (split : Text.strip source.toList = whole ++ '.' :: fraction) :
    fraction.length < Numeral.bound32 := by
  have stripped := Text.length_strip_le source.toList
  have bytes := length_le_utf8ByteSize source
  rw [split, List.length_append, List.length_cons] at stripped
  omega

/-- A text with a point is read just if digits stand on both sides of it, on one side at least, and
their value in units of the last of at most nineteen places fits in 64 bits; it is that many units.
Whatever does not fit is refused before it is computed, and all that is computed is exact. A text
without a point is read just if it is a number, or two of them of which the second is not zero;
there is no division by zero, as it is refused too. -/
theorem parse_exact (source : String) (short : source.utf8ByteSize < Numeral.bound32) :
    (∀ whole fraction, Text.strip source.toList = whole ++ '.' :: fraction → '.' ∉ whole →
      ((∃ ratio, parse source = .ok ratio) ↔ IsDecimal whole fraction ∧
        fraction.length ≤ 19 ∧ units whole fraction < Numeral.bound64) ∧
      (∀ ratio, parse source = .ok ratio →
        Reduces (units whole fraction) (10 ^ fraction.length) ratio ∧
        ∃ w f p, ExactInWords whole fraction w f p) ∧
      (IsDecimal whole fraction → ∀ fault, parse source = .error fault ↔
        Overflows (Text.strip source.toList) whole fraction fault)) ∧
    ('.' ∉ Text.strip source.toList →
      ((∃ ratio, parse source = .ok ratio) ↔
        ∃ n d, IsFraction (Text.strip source.toList) n d ∧ d ≠ 0) ∧
      (∀ n d ratio, IsFraction (Text.strip source.toList) n d → parse source = .ok ratio →
        Reduces n d ratio) ∧
      ∀ n, IsFraction (Text.strip source.toList) n 0 →
        parse source = .error (.zeroDenominator (String.ofList (Text.strip source.toList)))) := by
  constructor
  · intro whole fraction split first
    have few := fraction_length_lt short split
    rw [parse_of_point split first]
    refine ⟨⟨?_, ?_⟩, ?_, fun decimal fault => ofDecimal_eq_error_iff decimal few⟩
    · rintro ⟨ratio, read⟩
      obtain ⟨decimal, places, fits, -⟩ := (ofDecimal_eq_ok_iff few).1 read
      exact ⟨decimal, places, fits⟩
    · rintro ⟨decimal, places, fits⟩
      obtain ⟨ratio, read, -⟩ := ofDecimal_of_fits _ decimal places fits
      exact ⟨ratio, read⟩
    · intro ratio read
      obtain ⟨decimal, places, fits, reduces⟩ := (ofDecimal_eq_ok_iff few).1 read
      exact ⟨reduces, exactInWords decimal places fits⟩
  · intro plain
    rw [parse_of_no_point plain]
    refine ⟨⟨fun ⟨ratio, read⟩ => isFraction_of_ofFraction read, ?_⟩,
      fun n d ratio => reduces_of_ofFraction, fun n => ofFraction_zero⟩
    rintro ⟨n, d, written, pos⟩
    obtain ⟨ratio, read, -⟩ := ofFraction_of_isFraction written pos
    exact ⟨ratio, read⟩

/-- The greatest numerator over the greatest power of ten, one more than that, and a fraction with
signs that is not in lowest terms. -/
theorem parse_exact_greatest :
    (∃ ratio, parse " 1.8446744073709551615" = .ok ratio ∧
      Reduces 18446744073709551615 10000000000000000000 ratio) ∧
    parse "1.8446744073709551616" = .error (.tooLarge "1.8446744073709551616") ∧
    ∃ ratio, parse "+6/+08" = .ok ratio ∧ ratio.1.num = 3 ∧ ratio.1.den = 4 := by
  refine ⟨?_, ?_, ?_⟩
  · have parts := (parse_exact " 1.8446744073709551615" (by decide)).1 ['1']
      "8446744073709551615".toList (by decide) (by decide)
    have decimal : IsDecimal ['1'] "8446744073709551615".toList :=
      ⟨Numeral.isDigits_iff.2 (by decide), Numeral.isDigits_iff.2 (by decide), by decide⟩
    obtain ⟨ratio, read⟩ := parts.1.2 ⟨decimal, by decide, by decide⟩
    exact ⟨ratio, read, (parts.2.1 ratio read).1⟩
  · have parts := (parse_exact "1.8446744073709551616" (by decide)).1 ['1']
      "8446744073709551616".toList (by decide) (by decide)
    have decimal : IsDecimal ['1'] "8446744073709551616".toList :=
      ⟨Numeral.isDigits_iff.2 (by decide), Numeral.isDigits_iff.2 (by decide), by decide⟩
    exact (parts.2.2 decimal _).2 (.sum (by decide) (by decide) (by decide))
  · have whole := (parse_exact "+6/+08" (by decide)).2 (by decide)
    have written : IsFraction (Text.strip "+6/+08".toList) 6 8 :=
      .inr ⟨['+', '6'], ['+', '0', '8'], by decide, Numeral.read64_eq_ok_iff.1 rfl,
        Numeral.read64_eq_ok_iff.1 rfl⟩
    obtain ⟨ratio, read⟩ := whole.1.2 ⟨6, 8, written, by decide⟩
    have reduces := whole.2.1 6 8 ratio written read
    exact ⟨ratio, read, reduces.num, reduces.den⟩

end Ratio

end MazeGrader
