/-
This file looks for one text inside another.
-/

namespace TableGateway.Text

/-- Whether a run of characters stands somewhere inside another. -/
def holds (part : List Char) : List Char → Bool
  | [] => part.isEmpty
  | first :: rest => part.isPrefixOf (first :: rest) || holds part rest

/-- A run of characters stands inside another exactly if the other is it with something before and
after. -/
theorem holds_iff (part whole : List Char) :
    holds part whole = true ↔ ∃ before after, whole = before ++ part ++ after := by
  induction whole with
  | nil => simp [holds]
  | cons first rest inductionHypothesis =>
    simp only [holds, Bool.or_eq_true, List.isPrefixOf_iff_prefix, inductionHypothesis]
    constructor
    · rintro (⟨after, same⟩ | ⟨before, after, same⟩)
      · exact ⟨[], after, same.symm⟩
      · exact ⟨first :: before, after, by rw [same]; rfl⟩
    · rintro ⟨before, after, same⟩
      cases before with
      | nil => exact .inl ⟨after, same.symm⟩
      | cons other before =>
        injection same with _ same
        exact .inr ⟨before, after, same⟩

end TableGateway.Text
