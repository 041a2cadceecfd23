import MaskedInput.Live.Controller
import MaskedInput.Proofs.Clearing.Plain

/-!
# What a field should show

The text that a field should show depends on its clean value alone. It is the clean value formatted,
or, if that is nothing, what an empty field shows: the prefix that is to stay.
-/
namespace MaskedInput.Live

variable {spec : Spec}

theorem fieldText_congr {t u : Text} (same : spec.clear t = spec.clear u) :
    fieldText spec t = fieldText spec u := by
  unfold fieldText
  rw [same]

/-- A field without text shows the prefix, if it is to stay. -/
theorem fieldText_nil (spec : Spec) :
    fieldText spec [] = if spec.leadFixed then spec.leadText else [] := by
  rw [← Spec.fixedLead?_getD]
  simp [fieldText, Spec.clear]

/-- An empty field shows a prefix that is to stay, or nothing if there is no prefix. -/
theorem fieldText_nil_of_stays (stays : spec.lead = none ∨ spec.leadFixed = true) :
    fieldText spec [] = spec.leadText := by
  rw [fieldText_nil]
  rcases stays with bare | fixed
  · rw [Spec.leadText, bare, Option.getD_none, ite_self]
  · rw [if_pos fixed]

/-- A field without clean value shows what an empty one shows. -/
theorem fieldText_of_clear_nil {t : Text} (none : spec.clear t = []) :
    fieldText spec t = fieldText spec [] :=
  fieldText_congr (none.trans (spec.clearBy_nil .pattern).symm)

/-- A clean value that is formatted to nothing is not shown. -/
theorem fieldText_of_format_nil {t : Text} (nothing : spec.format (spec.clear t) = []) :
    fieldText spec t = fieldText spec [] := by
  rw [fieldText_nil, ← Spec.fixedLead?_getD, fieldText, nothing]

theorem fieldText_of_format {t : Text} (some : spec.format (spec.clear t) ≠ []) :
    fieldText spec t = spec.format (spec.clear t) := by
  unfold fieldText
  cases result : spec.format (spec.clear t) with
  | nil => exact absurd result some
  | cons c rest => rfl

/-- Without a prefix an empty field shows nothing. -/
theorem fieldText_of_none (bare : spec.lead = none) (t : Text) :
    fieldText spec t = spec.format (spec.clear t) := by
  by_cases nothing : spec.format (spec.clear t) = []
  · rw [fieldText_of_format_nil nothing, nothing, fieldText_nil_of_stays (.inl bare), Spec.leadText,
      bare, Option.getD_none]
  · exact fieldText_of_format nothing

/-- A text that clearing and formatting leave as it is is shown, unless it is empty. -/
theorem fieldText_of_same {t : Text} (same : spec.format (spec.clear t) = t) :
    fieldText spec t = if t = [] then fieldText spec [] else t := by
  split
  · next nothing => rw [nothing]
  · next some =>
    rw [fieldText_of_format (by rwa [same]), same]

/-- Without a mask a field shows its text, or the prefix that is to stay if it has none. -/
theorem fieldText_of_hasNoMask (empty : spec.hasNoMask = true) (t : Text) :
    fieldText spec t = if t = [] then fieldText spec [] else t :=
  fieldText_of_same (by
    rw [Spec.clear, spec.clearBy_of_hasNoMask empty, spec.format_of_hasNoMask empty])

/-- Without its prefix, what an empty field shows is nothing. -/
theorem dropLead_fieldText_nil (spec : Spec) : spec.dropLead (fieldText spec []) = [] := by
  have dropped := Spec.dropLead_leadText spec []
  rw [List.append_nil] at dropped
  rw [fieldText_nil]
  split
  · exact dropped
  · exact Spec.dropLead_nil

/-- Nothing is cleared from what an empty field shows. -/
theorem clear_fieldText_nil {st : Stencil} (compiled : spec.stencil = .ok st)
    (usable : spec.hasNoMask = false) : spec.clear (fieldText spec []) = [] := by
  rw [Spec.clear, spec.clearBy_eq st compiled usable, dropLead_fieldText_nil, st.extract_nil,
    Option.getD_some]

end MaskedInput.Live
