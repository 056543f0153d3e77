/-!
# Fragments of a text

`occurs fragment s` says whether the fragment stands anywhere in the text; the empty fragment
stands in every text.
-/

namespace QueryGate.Text

/-- The fragment stands somewhere in the text. -/
def occurs (fragment : List Char) : List Char → Bool
  | [] => fragment.isEmpty
  | c :: cs => fragment.isPrefixOf (c :: cs) || occurs fragment cs

/-- A fragment occurs exactly where the text can be cut around it. -/
theorem occurs_iff {fragment s : List Char} :
    occurs fragment s = true ↔ ∃ before after, s = before ++ fragment ++ after := by
  induction s with
  | nil =>
    constructor
    · intro h
      exact ⟨[], [], by simpa [occurs] using h⟩
    · rintro ⟨b, a, h⟩
      simp only [List.append_assoc, List.nil_eq, List.append_eq_nil_iff] at h
      simp [occurs, h.2.1]
  | cons c cs ih =>
    simp only [occurs, Bool.or_eq_true, List.isPrefixOf_iff_prefix, ih]
    constructor
    · rintro (⟨t, ht⟩ | ⟨b, a, h⟩)
      · exact ⟨[], t, by simpa using ht.symm⟩
      · exact ⟨c :: b, a, by simp [h]⟩
    · rintro ⟨b, a, h⟩
      cases b with
      | nil => exact .inl ⟨a, by simpa using h.symm⟩
      | cons d b =>
        simp only [List.cons_append, List.cons.injEq] at h
        exact .inr ⟨b, a, by simpa using h.2⟩

end QueryGate.Text
