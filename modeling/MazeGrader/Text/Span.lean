/-! The span in front of a text: its longest beginning with characters of one kind only. -/
namespace MazeGrader.Text

/-- The text falls into a span of such characters and a rest that does not begin with one. -/
structure Span (kind : Char → Bool) (text span rest : List Char) : Prop where
  split : text = span ++ rest
  all : ∀ c ∈ span, kind c = true
  stops : ∀ c ∈ rest.head?, kind c = false

variable {kind : Char → Bool} {text span rest : List Char}

theorem span_iff : Span kind text span rest ↔
    text.takeWhile kind = span ∧ text.dropWhile kind = rest := by
  constructor
  · rintro ⟨rfl, all, stops⟩
    have front : rest.takeWhile kind = [] ∧ rest.dropWhile kind = rest := by
      cases rest with
      | nil => exact ⟨rfl, rfl⟩
      | cons c rest => simp [stops c rfl]
    rw [List.takeWhile_append_of_pos all, List.dropWhile_append_of_pos all, front.1, front.2]
    exact ⟨List.append_nil span, rfl⟩
  · rintro ⟨rfl, rfl⟩
    refine ⟨List.takeWhile_append_dropWhile.symm, ?_, ?_⟩
    · intro c member
      exact List.all_eq_true.1 List.all_takeWhile c member
    · intro c first
      have stops := List.head?_dropWhile_not kind text
      rwa [Option.mem_def.1 first] at stops

/-- There is one way only to take the span from a text. -/
theorem Span.unique {other otherRest : List Char} (taken : Span kind text span rest)
    (again : Span kind text other otherRest) : span = other ∧ rest = otherRest := by
  obtain ⟨front, back⟩ := span_iff.1 taken
  obtain ⟨otherFront, otherBack⟩ := span_iff.1 again
  exact ⟨front.symm.trans otherFront, back.symm.trans otherBack⟩

end MazeGrader.Text
