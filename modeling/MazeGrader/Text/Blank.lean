import MazeGrader.Text.Span

/-! White space around a text. The characters are those of the Unicode property
`White_Space`, so a byte order mark and the zero width space are not among them. -/
namespace MazeGrader.Text

def isBlank (c : Char) : Bool :=
  let code := c.toNat
  (0x9 ≤ code && code ≤ 0xD) || code == 0x20 || code == 0x85 || code == 0xA0 ||
    code == 0x1680 || (0x2000 ≤ code && code ≤ 0x200A) || code == 0x2028 || code == 0x2029 ||
    code == 0x202F || code == 0x205F || code == 0x3000

/-- The text without the blanks at its two ends. -/
def strip (text : List Char) : List Char :=
  ((text.dropWhile isBlank).reverse.dropWhile isBlank).reverse

theorem length_strip_le (text : List Char) : (strip text).length ≤ text.length := by
  have front := (text.dropWhile_sublist isBlank).length_le
  have back := ((text.dropWhile isBlank).reverse.dropWhile_sublist isBlank).length_le
  rw [List.length_reverse] at back
  rw [strip, List.length_reverse]
  exact Nat.le_trans back front

/-- A blank behind a text makes no difference. -/
theorem strip_append_blank (text : List Char) {c : Char} (blank : isBlank c = true) :
    strip (text ++ [c]) = strip text := by
  unfold strip
  rw [List.dropWhile_append]
  split
  · next nothing =>
    rw [List.isEmpty_iff.1 nothing]
    simp [blank]
  · simp [blank]

theorem strip_append_blanks (text : List Char) {after : List Char}
    (blank : ∀ c ∈ after, isBlank c = true) : strip (text ++ after) = strip text := by
  induction after generalizing text with
  | nil => simp
  | cons c after ih =>
    rw [List.append_cons, ih _ fun d member => blank d (List.mem_cons_of_mem _ member),
      strip_append_blank text (blank c List.mem_cons_self)]

/-- Nor do blanks in front of it. -/
theorem strip_blanks_append {before : List Char} (blank : ∀ c ∈ before, isBlank c = true)
    (text : List Char) : strip (before ++ text) = strip text := by
  unfold strip
  rw [List.dropWhile_append_of_pos blank]

/-- A text that neither begins nor ends with a blank stays as it is. -/
theorem strip_of_ends {text : List Char} (first : ∀ c ∈ text.head?, isBlank c = false)
    (last : ∀ c ∈ text.getLast?, isBlank c = false) : strip text = text := by
  have solid : ∀ other : List Char, (∀ c ∈ other.head?, isBlank c = false) →
      other.dropWhile isBlank = other := by
    intro other first
    have span : Span isBlank other [] other := ⟨rfl, List.forall_mem_nil _, first⟩
    exact (span_iff.1 span).2
  unfold strip
  rw [solid text first, solid text.reverse (by simpa using last), List.reverse_reverse]

theorem strip_of_no_blank {text : List Char} (plain : ∀ c ∈ text, isBlank c = false) :
    strip text = text :=
  strip_of_ends (fun c member => plain c (List.mem_of_head? member))
    fun c member => plain c (List.mem_of_getLast? member)

theorem isBlank_eq_false_of_isDigit {c : Char} (h : c.isDigit = true) : isBlank c = false := by
  have range : 48 ≤ c.toNat ∧ c.toNat ≤ 57 := by
    simpa [Char.isDigit, UInt32.le_iff_toNat_le] using h
  unfold isBlank
  simp
  omega

end MazeGrader.Text
