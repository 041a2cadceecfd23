import MaskedInput.Proofs.Clearing.Behind
import MaskedInput.Proofs.Clearing.LeadApart
import MaskedInput.Proofs.Formatting.Spellings

/-!
# Formatting a formatted text

A formatted text is formatted again. Its literals are read as if they had been typed, and so is its
prefix. The second run gives the same text if no literal letter stands before the last slot and if
all letters of the prefix are ignored. For masks without prefix the first condition is exact: where
a literal letter stands before a slot, it is read as a part of the value.
-/
namespace MaskedInput

/-- The letters of a filled mask fill it in the same way, unless a literal letter stands before a
slot. -/
theorem fillSlots_alphanumerics_fillSlots {placeholder : Char} {pattern v : Text}
    (value : ∀ c ∈ v, Text.isAlphanumeric c = true) (plain : ¬LetterBeforeSlot placeholder pattern) :
    fillSlots placeholder pattern (Text.alphanumerics (fillSlots placeholder pattern v)) =
      fillSlots placeholder pattern v := by
  obtain ⟨tail, letters, none⟩ := alphanumerics_fillSlots_eq_append value plain
  rw [letters]
  rcases Nat.lt_or_ge v.length (pattern.count placeholder) with few | enough
  · rw [none few, List.append_nil, fillSlots_take]
  · -- The letters behind the last slot come after a full value, where no slot is left for them.
    rw [fillSlots_take_append, ← fillSlots_take, List.take_append_of_le_length enough,
      fillSlots_take]

namespace Spec

variable {spec : Spec} {st : Stencil}

/-- Formatting again changes nothing if of a formatted text all that is left are the letters behind
the prefix, and no literal letter stands before the last slot. -/
theorem LeadApart.format_format (apart : spec.LeadApart st) (compiled : spec.stencil = .ok st)
    (usable : spec.hasNoMask = false) (strict : spec.strict = true) (plain : st.PlainToLastSlot)
    (absorbed : ∀ body, Text.alphanumerics
      (dropFirstMatching spec.ignorable (spec.leadText ++ body)) = Text.alphanumerics body)
    (t : Text) : spec.format (spec.format t) = spec.format t := by
  by_cases typed : t = []
  · rw [typed, format_nil, format_nil]
  have formatted := apart.format_eq compiled usable strict typed
  by_cases shown : spec.format t = []
  · rw [shown, format_nil]
  rw [apart.format_eq compiled usable strict shown, formatted, absorbed,
    fillSlots_alphanumerics_fillSlots (Text.alphanumerics_all _)
      (Stencil.plainToLastSlot_iff.mp plain)]

/-- The masks that format every text once for all, for a strict specification without prefix and
without ignorable texts: all those, and no others, in which no literal letter or digit stands before
the last slot. -/
theorem format_idempotent_iff (spec : Spec) (st : Stencil) (compiled : spec.stencil = .ok st)
    (usable : spec.hasNoMask = false) (strict : spec.strict = true) (bare : spec.lead = none)
    (keeps : spec.ignorable = []) :
    (∀ t, spec.format (spec.format t) = spec.format t) ↔ st.PlainToLastSlot := by
  constructor
  · intro idempotent
    rw [Stencil.plainToLastSlot_iff]
    intro before
    -- A letter that is no literal is put on every slot, so that any literal read into one shows.
    obtain ⟨x, letter, fresh⟩ := Text.exists_letter_not_mem (length_pattern_of_stencil compiled)
    have slots : 0 < st.slotCount :=
      (spec.stencil_success st compiled).2 ▸ List.count_pos_iff.mpr before.slot
    have same := idempotent (List.replicate (st.pattern.count st.placeholder) x)
    rw [spec.format_bare st compiled bare keeps slots _ (.inl strict),
      spec.format_bare st compiled bare keeps slots _ (.inl strict),
      Text.alphanumerics_of_all (Text.replicate_letters letter _),
      ← List.append_nil (Text.alphanumerics _)] at same
    exact not_letterBeforeSlot_of_refilled letter fresh same before
  · intro plain
    have apart : spec.LeadApart st := fun p lead => by
      rw [bare] at lead
      cases lead
    refine apart.format_format compiled usable strict plain fun body => ?_
    rw [keeps, dropFirstMatching_nil, leadText, bare, Option.getD_none, List.nil_append]

/-- A unit behind the last slot does no harm, a digit in front of the first one does. -/
theorem unit_behind_slots_stable :
    let weight := Spec.ofPattern ['#', '#', ' ', 'k', 'g']
    let weightStencil : Stencil := { mask := weight.mask, placeholder := '#', slotCount := 2 }
    let phone := Spec.ofPattern ['+', '7', ' ', '#', '#', '#']
    let phoneStencil : Stencil := { mask := phone.mask, placeholder := '#', slotCount := 3 }
    (weight.stencil = .ok weightStencil ∧ weight.hasNoMask = false ∧ weight.strict = true ∧
      weight.lead = none ∧ weight.ignorable = []) ∧
    (phone.stencil = .ok phoneStencil ∧ phone.hasNoMask = false ∧ phone.strict = true ∧
      phone.lead = none ∧ phone.ignorable = []) ∧
    (∀ t, weight.format (weight.format t) = weight.format t) ∧
    ¬∀ t, phone.format (phone.format t) = phone.format t := by
  intro weight weightStencil phone phoneStencil
  have compiled : weight.stencil = .ok weightStencil := rfl
  have compiled' : phone.stencil = .ok phoneStencil := rfl
  have stable := weight.format_idempotent_iff weightStencil compiled rfl rfl rfl rfl
  have stable' := phone.format_idempotent_iff phoneStencil compiled' rfl rfl rfl rfl
  refine ⟨⟨compiled, rfl, rfl, rfl, rfl⟩, ⟨compiled', rfl, rfl, rfl, rfl⟩, ?_, ?_⟩
  · exact stable.mpr (by decide)
  · exact fun law => absurd (stable'.mp law) (by decide)

/-- Ignorable texts absorb a prefix that stands apart, in whatever order they are listed, if one of
them begins it and those that it begins, or that begin it, differ from it in symbols only. Then
formatting again changes nothing. -/
theorem format_idempotent_of_lead_ignored (spec : Spec) (st : Stencil)
    (compiled : spec.stencil = .ok st) (usable : spec.hasNoMask = false)
    (strict : spec.strict = true) (plain : st.PlainToLastSlot) (apart : spec.LeadApart st)
    (p : Text) (lead : spec.lead = some p) (known : ∃ b ∈ spec.ignorable, b <+: p)
    (symbols : ∀ b ∈ spec.ignorable, b.DifferInSymbols p) (t : Text) :
    spec.format (spec.format t) = spec.format t := by
  refine apart.format_format compiled usable strict plain (fun body => ?_) t
  rw [leadText_of_some lead]
  exact (leftBehindFirst_iff.mpr rfl).alphanumerics_eq symbols known

/-- The ignorable text that is dropped in the second run goes on behind the prefix and takes the
bracket of the mask with it. -/
theorem bracket_dropped_with_lead :
    let spec : Spec :=
      { pattern := some ['(', '#', '#', '#', ')']
        lead := some ['+', '7', ' ']
        ignorable := [['+', '7', ' ', '('], ['7'], ['+', '7']] }
    let st : Stencil := { mask := spec.mask, placeholder := '#', slotCount := 3 }
    let t : Text := ['7', '9', '3']
    (spec.stencil = .ok st ∧ spec.hasNoMask = false ∧ spec.strict = true ∧ st.PlainToLastSlot ∧
      spec.LeadApart st ∧ spec.lead = some ['+', '7', ' '] ∧
      (∃ b ∈ spec.ignorable, b <+: ['+', '7', ' ']) ∧
      ∀ b ∈ spec.ignorable, b.DifferInSymbols ['+', '7', ' ']) ∧
    spec.format t = ['+', '7', ' ', '(', '9', '3'] ∧
    dropFirstMatching spec.ignorable (spec.format t) = ['9', '3'] ∧
    spec.format (spec.format t) = ['+', '7', ' ', '(', '9', '3'] := by
  intro spec st t
  have compiled : spec.stencil = .ok st := rfl
  have plain : st.PlainToLastSlot := by decide
  have apart : spec.LeadApart st := by
    rintro p ⟨⟩
    exact ⟨'+', ['7', ' '], rfl, by decide, by decide⟩
  have known : ∃ b ∈ spec.ignorable, b <+: ['+', '7', ' '] := by decide
  have symbols : ∀ b ∈ spec.ignorable, b.DifferInSymbols ['+', '7', ' '] := by decide
  have written : spec.format t = ['+', '7', ' ', '(', '9', '3'] := by decide
  refine ⟨⟨compiled, rfl, rfl, plain, apart, rfl, known, symbols⟩, written, by decide, ?_⟩
  rw [spec.format_idempotent_of_lead_ignored st compiled rfl rfl plain apart _ rfl known symbols,
    written]

end Spec
end MaskedInput
