import MaskedInput.Proofs.Clearing.Plain

/-!
# Prefixes that stand apart

A prefix stands apart from a mask if it begins with neither a letter or digit nor the character that
the mask begins with. No filled mask begins with such a prefix. So formatting always puts it in
front, and what clearing drops is always what was put in front. No prefix at all stands apart as well.
-/
namespace MaskedInput

namespace Spec

/-- The prefix, if there is one, begins with neither a letter or digit nor what the mask begins
with. -/
def LeadApart (spec : Spec) (st : Stencil) : Prop :=
  ∀ p, spec.lead = some p →
    ∃ c rest, p = c :: rest ∧ ¬Text.isAlphanumeric c = true ∧ st.pattern.head? ≠ some c

namespace LeadApart

variable {spec : Spec} {st : Stencil} (apart : spec.LeadApart st)
include apart

/-- What lies along the mask does not begin with the prefix, and neither does the mask itself. -/
theorem not_started {p t : Text} (lead : spec.lead = some p)
    (along : LiesAlong st.placeholder st.pattern t) : ¬(p <+: t ∨ p <+: st.pattern) := by
  obtain ⟨c, rest, rfl, symbol, other⟩ := apart p lead
  rintro (⟨_, rfl⟩ | ⟨_, embedded⟩)
  · cases pattern : st.pattern with
    | nil =>
      rw [pattern] at along
      exact along.elim
    | cons m ms =>
      rw [pattern] at along other
      have accepted : (Element.ofChar st.placeholder m).accepts c = true := along.1
      by_cases slot : m = st.placeholder
      · rw [slot, Element.ofChar_self] at accepted
        exact symbol accepted
      · rw [Element.ofChar_literal slot] at accepted
        have same : c = m := by simpa [Element.accepts] using accepted
        exact other (by rw [List.head?_cons, same])
  · exact other (by rw [← embedded]; rfl)

/-- Formatting puts the prefix in front of the filled mask. -/
theorem format_eq (compiled : spec.stencil = .ok st) (usable : spec.hasNoMask = false)
    (strict : spec.strict = true) {t : Text} (nonempty : t ≠ []) :
    spec.format t = spec.leadText ++ fillSlots st.placeholder st.pattern
      (Text.alphanumerics (dropFirstMatching spec.ignorable t)) := by
  rw [spec.format_eq st compiled usable t nonempty (.inl strict)]
  cases lead : spec.lead with
  | none => rw [addLead_of_none lead, leadText, lead, Option.getD_none, List.nil_append]
  | some p =>
    rw [addLead_of_not_started lead (apart.not_started lead (st.liesAlong_fill _)),
      leadText_of_some lead]

/-- Nothing is dropped from letters and digits. -/
theorem dropLead_letters {t : Text} (letters : ∀ c ∈ t, Text.isAlphanumeric c = true) :
    spec.dropLead t = t := by
  cases lead : spec.lead with
  | none => exact dropLead_of_none lead t
  | some p =>
    obtain ⟨c, rest, rfl, symbol, -⟩ := apart p lead
    cases t with
    | nil => exact dropLead_nil
    | cons x xs =>
      have different : x ≠ c := by
        rintro rfl
        exact symbol (letters x (by simp))
      apply dropLead_of_other lead
      · exact fun begins => different (List.cons_prefix_cons.mp begins).1
      · exact fun begins => different (List.cons_prefix_cons.mp begins).1.symm

end LeadApart
end Spec
end MaskedInput
