import MaskedInput.Formatting
import Mathlib.Data.List.Infix

/-!
# Prefixes in front of a text

Putting a prefix in front of a formatted text and dropping it again. What was put in front is dropped;
but a text that starts with the prefix loses it as well when nothing was put in front of it.
-/
namespace MaskedInput

theorem Text.afterPrefix?_eq_some_iff (p t r : Text) :
    Text.afterPrefix? p t = some r ↔ t = p ++ r := by
  induction p generalizing t with
  | nil => simp [afterPrefix?]
  | cons c p ih =>
    cases t with
    | nil => simp [afterPrefix?]
    | cons d t =>
      by_cases same : c = d
      · simp [afterPrefix?, same, ih]
      · simp [afterPrefix?, same, Ne.symm same]

theorem Text.afterPrefix?_append (p r : Text) : Text.afterPrefix? p (p ++ r) = some r :=
  (afterPrefix?_eq_some_iff p _ r).mpr rfl

theorem Text.afterPrefix?_eq_none {p t : Text} (other : ¬p <+: t) :
    Text.afterPrefix? p t = none := by
  rw [Option.eq_none_iff_forall_not_mem]
  exact fun r found => other ⟨r, ((afterPrefix?_eq_some_iff p t r).mp found).symm⟩

namespace Spec

/-- The prefix; an empty text if there is none. -/
def leadText (spec : Spec) : Text := spec.lead.getD []

variable {spec : Spec} {p : Text}

theorem leadText_of_some (lead : spec.lead = some p) : spec.leadText = p := by
  rw [leadText, lead, Option.getD_some]

/-- In a live field that is otherwise empty stands the prefix, if it is to stay. -/
theorem fixedLead?_getD (spec : Spec) :
    spec.fixedLead?.getD [] = if spec.leadFixed then spec.leadText else [] := by
  unfold fixedLead? leadText
  split
  · next lead =>
    rw [lead]
    split <;> rfl
  · next other =>
    cases lead : spec.lead with
    | none => simp
    | some p =>
      cases p with
      | nil => simp
      | cons c rest => exact absurd lead (other c rest)

theorem fixedLead?_eq (lead : spec.lead = some p) (proper : p ≠ [])
    (fixed : spec.leadFixed = true) : spec.fixedLead? = some p := by
  cases p with
  | nil => exact absurd rfl proper
  | cons c rest => simp only [fixedLead?, lead, fixed, if_true]

@[simp] theorem addLead_of_none (bare : spec.lead = none) (pattern body : Text) :
    spec.addLead pattern body = body := by simp [addLead, bare]

@[simp] theorem dropLead_of_none (bare : spec.lead = none) (t : Text) : spec.dropLead t = t := by
  simp [dropLead, bare]

@[simp] theorem dropLead_nil : spec.dropLead [] = [] := by
  unfold dropLead
  cases spec.lead with
  | none => rfl
  | some p => cases p <;> simp [Text.afterPrefix?]

variable (lead : spec.lead = some p)
include lead

theorem addLead_of_started {pattern body : Text} (started : p <+: body ∨ p <+: pattern) :
    spec.addLead pattern body = body := by
  have found : (p.isPrefixOf body || p.isPrefixOf pattern) = true := by
    simpa only [Bool.or_eq_true, List.isPrefixOf_iff_prefix] using started
  simp only [addLead, lead, found, if_true]

theorem addLead_of_not_started {pattern body : Text} (started : ¬(p <+: body ∨ p <+: pattern)) :
    spec.addLead pattern body = p ++ body := by
  have found : ¬(p.isPrefixOf body || p.isPrefixOf pattern) = true := by
    simpa only [Bool.or_eq_true, List.isPrefixOf_iff_prefix] using started
  simp only [addLead, lead, if_neg found]

/-- The prefix is dropped. -/
theorem dropLead_append (t : Text) : spec.dropLead (p ++ t) = t := by
  have whole : ¬(decide ((p ++ t).length < p.length) && (p ++ t).isPrefixOf p) = true := by
    rw [Bool.and_eq_true, decide_eq_true_eq, List.length_append]
    omega
  simp only [dropLead, lead, if_neg whole, Text.afterPrefix?_append, Option.getD_some]

/-- Nothing is left of a text that the prefix starts with. -/
theorem dropLead_of_partial {t : Text} (begins : t <+: p) : spec.dropLead t = [] := by
  by_cases shorter : t.length < p.length
  · have part : (decide (t.length < p.length) && t.isPrefixOf p) = true := by
      simpa [shorter] using begins
    simp only [dropLead, lead, if_pos part]
  · have same : t = p := begins.eq_of_length_le (Nat.not_lt.mp shorter)
    rw [same]
    simpa using dropLead_append lead []

theorem dropLead_of_other {t : Text} (short : ¬t <+: p) (other : ¬p <+: t) :
    spec.dropLead t = t := by
  have part : ¬(decide (t.length < p.length) && t.isPrefixOf p) = true := by
    simpa using fun _ => short
  simp only [dropLead, lead, if_neg part, Text.afterPrefix?_eq_none other, Option.getD_none]

omit lead in
@[simp] theorem dropLead_leadText (spec : Spec) (t : Text) :
    spec.dropLead (spec.leadText ++ t) = t := by
  cases lead : spec.lead with
  | none => simp [leadText, lead, dropLead]
  | some p => rw [leadText_of_some lead, dropLead_append lead]

omit lead in
/-- What is left is an end of the text. -/
theorem dropLead_suffix (spec : Spec) (t : Text) : spec.dropLead t <:+ t := by
  cases lead : spec.lead with
  | none => rw [dropLead_of_none lead]
  | some p =>
    by_cases short : t <+: p
    · rw [dropLead_of_partial lead short]
      exact List.nil_suffix
    · by_cases started : p <+: t
      · obtain ⟨r, rfl⟩ := started
        rw [dropLead_append lead]
        exact List.suffix_append p r
      · rw [dropLead_of_other lead short started]

omit lead in
/-- Dropping the prefix from a text that it was put in front of, or not, leaves an end of it. -/
theorem dropLead_addLead_suffix (spec : Spec) (pattern body : Text) :
    spec.dropLead (spec.addLead pattern body) <:+ body := by
  cases lead : spec.lead with
  | none =>
    rw [addLead_of_none lead]
    exact dropLead_suffix spec body
  | some p =>
    by_cases started : p <+: body ∨ p <+: pattern
    · rw [addLead_of_started lead started]
      exact dropLead_suffix spec body
    · rw [addLead_of_not_started lead started, dropLead_append lead]

end Spec
end MaskedInput
