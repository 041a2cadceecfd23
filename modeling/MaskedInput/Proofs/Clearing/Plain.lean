import MaskedInput.Proofs.Mask.Neighbours
import MaskedInput.Proofs.Text.Letters

/-!
# Masks without literal letters

Where no literal is a letter or digit, the value of a formatted text is all letters and digits in it.
Then it does not matter for formatting whether a text had the shape of the mask when it was cleared:
what could not be read keeps its letters and digits, and nothing else of it is formatted.
-/
namespace MaskedInput

section

variable {placeholder : Char} {pattern : Text}
  (foreign : ∀ m ∈ pattern, m ≠ placeholder → ¬Text.isAlphanumeric m = true)
include foreign

/-- The letters and digits of a text that lies along a pattern without literal letters are those on
its slots. -/
theorem alphanumerics_eq_charsOnSlots {t : Text} (along : LiesAlong placeholder pattern t) :
    Text.alphanumerics t = charsOnSlots placeholder pattern t := by
  induction pattern generalizing t with
  | nil => cases t with
    | nil => rfl
    | cons => exact along.elim
  | cons m ms ih =>
    cases t with
    | nil => rfl
    | cons y ys =>
      obtain ⟨accepted, along⟩ := along
      rw [charsOnSlots_cons, ← ih (fun m member => foreign m (by simp [member])) along]
      by_cases slot : m = placeholder
      · rw [slot, Element.ofChar_self] at accepted ⊢
        exact List.filter_cons_of_pos accepted
      · rw [Element.ofChar_literal slot] at accepted ⊢
        have same : y = m := by simpa [Element.accepts] using accepted
        rw [same]
        exact List.filter_cons_of_neg (foreign m (by simp) slot)

/-- The letters and digits of a filled mask are the value, as far as the slots go. -/
theorem alphanumerics_fillSlots (v : Text) (value : ∀ c ∈ v, Text.isAlphanumeric c = true) :
    Text.alphanumerics (fillSlots placeholder pattern v) = v.take (pattern.count placeholder) := by
  rw [alphanumerics_eq_charsOnSlots foreign (liesAlong_fillSlots _ _ _ value),
    charsOnSlots_fillSlots]

end

namespace Stencil

variable {st : Stencil}

theorem Plain.alphanumerics_eq_charsOnSlots (plain : st.Plain) {t : Text}
    (along : LiesAlong st.placeholder st.pattern t) :
    Text.alphanumerics t = charsOnSlots st.placeholder st.pattern t :=
  MaskedInput.alphanumerics_eq_charsOnSlots (st.plain_iff.mp plain) along

theorem Plain.alphanumerics_fillSlots (plain : st.Plain) (v : Text)
    (value : ∀ c ∈ v, Text.isAlphanumeric c = true) :
    Text.alphanumerics (fillSlots st.placeholder st.pattern v) =
      v.take (st.pattern.count st.placeholder) :=
  MaskedInput.alphanumerics_fillSlots (st.plain_iff.mp plain) v value

end Stencil

namespace Spec

section

variable {spec : Spec} {st : Stencil} (compiled : spec.stencil = .ok st)
  (usable : spec.hasNoMask = false) (plain : st.Plain)
include compiled usable plain

/-- Clearing keeps the letters and digits behind the prefix, whether the text could be read or not. -/
theorem alphanumerics_clear (t : Text) :
    Text.alphanumerics (spec.clear t) = Text.alphanumerics (spec.dropLead t) := by
  rw [clear, spec.clearBy_eq st compiled usable, st.extract_pattern]
  cases read : Cut.value? st.singles (spec.dropLead t) with
  | none => rfl
  | some v =>
    rw [Option.getD_some, Cut.value?_eq_alphanumerics plain.singles read,
      Text.alphanumerics_of_all (Text.alphanumerics_all _)]

/-- Clearing only leaves characters out. -/
theorem clear_sublist (t : Text) : (spec.clear t).Sublist t := by
  have rest := (dropLead_suffix spec t).sublist
  rw [clear, spec.clearBy_eq st compiled usable, st.extract_pattern]
  cases read : Cut.value? st.singles (spec.dropLead t) with
  | none => exact rest
  | some v =>
    rw [Option.getD_some, Cut.value?_eq_alphanumerics plain.singles read]
    exact List.filter_sublist.trans rest

/-- What is left behind the prefix of a text that lies along the mask is read, and so are all its
letters and digits. -/
theorem clear_of_liesAlong {t u : Text} (along : LiesAlong st.placeholder st.pattern u)
    (ending : spec.dropLead t <:+ u) : spec.clear t = Text.alphanumerics (spec.dropLead t) := by
  obtain ⟨v, read⟩ := st.exists_value?_of_liesAlong along ending
  rw [clear, spec.clearBy_eq st compiled usable, st.extract_pattern, read, Option.getD_some,
    Cut.value?_eq_alphanumerics plain.singles read]

/-- Clearing recovers from a filled mask behind a prefix what of the value found a slot. -/
theorem clear_of_dropLead {t v : Text} (value : ∀ c ∈ v, Text.isAlphanumeric c = true)
    (dropped : spec.dropLead t = fillSlots st.placeholder st.pattern v) :
    spec.clear t = v.take st.slotCount := by
  have along := liesAlong_fillSlots st.placeholder st.pattern v value
  rw [clear_of_liesAlong compiled usable plain along (dropped ▸ List.suffix_rfl), dropped,
    plain.alphanumerics_fillSlots v value, (spec.stencil_success st compiled).2]

end

variable {spec : Spec} {st : Stencil} (compiled : spec.stencil = .ok st) (bare : spec.lead = none)
  (slots : 0 < st.slotCount) (plain : st.Plain)
include compiled bare slots plain

/-- Clearing recovers from a filled mask what of the value found a slot. -/
theorem clear_fillSlots (v : Text) (value : ∀ c ∈ v, Text.isAlphanumeric c = true) :
    spec.clear (fillSlots st.placeholder st.pattern v) = v.take st.slotCount :=
  clear_of_dropLead compiled (spec.hasNoMask_of_slots st compiled slots) plain value
    (dropLead_of_none bare _)

/-- A text cleared and formatted again shows its letters and digits, whether it had the shape of the
mask or not. -/
theorem format_clear (strict : spec.strict = true) (keeps : spec.ignorable = []) (t : Text) :
    spec.format (spec.clear t) =
      fillSlots st.placeholder st.pattern (Text.alphanumerics t) := by
  rw [spec.format_bare st compiled bare keeps slots _ (.inl strict),
    alphanumerics_clear compiled (spec.hasNoMask_of_slots st compiled slots) plain,
    dropLead_of_none bare]

end Spec
end MaskedInput
