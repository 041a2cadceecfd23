import MaskedInput.Proofs.Mask.Neighbours
import MaskedInput.Proofs.Text.Letters

/-!
# Reading formatted text

Formatted text has the shape of its mask. This remains so when clearing takes the prefix away,
whether formatting had put it in front or the filled mask merely begins with it and loses a part of
its own: any end of a filled mask can be read. What is read is the value itself in two cases. By
position it is found under every mask without a prefix. By pattern it is found where no literal
letter or digit stands beside a slot, and then each beginning of the formatted text gives as much of
the value as it has slots.
-/
namespace MaskedInput

/-- Where no literal letter stands beside a slot, both ways of reading find what stands on the slots
of a text that lies along the mask. -/
theorem Stencil.SlotsApart.extract_of_liesAlong {st : Stencil} (apart : st.SlotsApart) {t : Text}
    (along : LiesAlong st.placeholder st.pattern t) (mode : ClearMode) :
    st.extract mode t = some (charsOnSlots st.placeholder st.pattern t) := by
  have read : Cut.value? st.singles t = some (charsOnSlots st.placeholder st.pattern t) :=
    Cut.value?_pattern_of_liesAlong (st.slotsApart_iff.mp apart) along
  cases mode with
  | pattern => rw [st.extract_pattern, read]
  | positional => rw [st.extract_positional, read, Option.map_some]

namespace Spec

section

variable {spec : Spec} {st : Stencil} (compiled : spec.stencil = .ok st)
  (usable : spec.hasNoMask = false)
include compiled usable

/-- Text that can be read without its prefix is cleared, if there is any. -/
theorem clearOutcome_of_read {mode : ClearMode} {t clean : Text}
    (read : st.extract mode (spec.dropLead t) = some clean) :
    spec.clearOutcome mode t = if t = [] then .untouched else .cleared clean := by
  cases t with
  | nil => simp [clearOutcome, clearUsing]
  | cons c t =>
    rw [if_neg (List.cons_ne_nil c t)]
    simp only [clearOutcome, clearUsing, usable, List.isEmpty_cons, compiled, Bool.or_self,
      Bool.false_eq_true, if_false, read]

/-- Only letters and digits are read by pattern. -/
theorem clear_letters_of_read {t clean : Text}
    (read : st.extract .pattern (spec.dropLead t) = some clean) :
    ∀ c ∈ spec.clear t, Text.isAlphanumeric c = true := by
  rw [clear, spec.clearBy_eq st compiled usable, read, Option.getD_some]
  rw [st.extract_pattern] at read
  exact Cut.value?_letters read

/-- What is formatted can be read once clearing has taken the prefix away. -/
theorem exists_extract_format (mode : ClearMode) (t : Text)
    (short : spec.strict = true ∨ t.length ≤ st.slotCount) :
    ∃ clean, st.extract mode (spec.dropLead (spec.format t)) = some clean := by
  by_cases nonempty : t = []
  · exact ⟨[], by rw [nonempty, format_nil, dropLead_nil, st.extract_nil]⟩
  · rw [spec.format_eq st compiled usable t nonempty short]
    exact st.exists_extract_of_liesAlong mode (st.liesAlong_fill _)
      (dropLead_addLead_suffix spec st.pattern _)

end

/-- Reading by position finds the letters and digits that were formatted, as many as there are slots,
whatever the literals of the mask are. -/
theorem clearByPosition_format (spec : Spec) (st : Stencil) (compiled : spec.stencil = .ok st)
    (usable : spec.hasNoMask = false) (bare : spec.lead = none) (t : Text)
    (short : spec.strict = true ∨ t.length ≤ st.slotCount) :
    ∃ rest, LeftBehindFirst spec.ignorable t rest ∧
      spec.clearByPosition (spec.format t) = (Text.alphanumerics rest).take st.slotCount := by
  refine ⟨dropFirstMatching spec.ignorable t, leftBehindFirst_iff.mpr rfl, ?_⟩
  by_cases nonempty : t = []
  · have empty : dropFirstMatching spec.ignorable [] = [] :=
      List.suffix_nil.mp (dropFirstMatching_suffix spec.ignorable [])
    rw [nonempty, format_nil, clearByPosition, clearBy_nil, empty]
    exact List.take_nil.symm
  obtain ⟨read, found⟩ := exists_extract_format compiled usable .pattern t short
  have formatted := spec.format_eq st compiled usable t nonempty short
  rw [addLead_of_none bare] at formatted
  rw [dropLead_of_none bare, st.extract_pattern] at found
  rw [clearByPosition, spec.clearBy_eq st compiled usable, dropLead_of_none bare,
    st.extract_positional, found, Option.map_some, Option.getD_some, formatted,
    charsOnSlots_fillSlots, (spec.stencil_success st compiled).2]

/-- Under a mask that ends in a letter, the seven is dropped and the last two digits find no slot. -/
theorem letter_behind_slots_by_position :
    let spec : Spec := { pattern := some ['#', '#', '#', '#', 'z'], ignorable := [['+'], ['7']] }
    let st : Stencil := { mask := spec.mask, placeholder := '#', slotCount := 4 }
    let t : Text := ['7', ' ', '1', '2', 'x', '3', ' ', '4', '5']
    (spec.stencil = .ok st ∧ spec.hasNoMask = false ∧ spec.lead = none ∧ spec.strict = true) ∧
    spec.format t = ['1', '2', 'x', '3', 'z'] ∧
    spec.clearByPosition (spec.format t) = ['1', '2', 'x', '3'] := by
  intro spec st t
  have compiled : spec.stencil = .ok st := rfl
  obtain ⟨rest, left, cleared⟩ := spec.clearByPosition_format st compiled rfl rfl t (.inl rfl)
  refine ⟨⟨compiled, rfl, rfl, rfl⟩, by decide, ?_⟩
  rw [cleared, ← leftBehindFirst_iff.mp left]
  decide

/-- Where no literal letter stands beside a slot, each beginning of a formatted text gives as much of
the value as it has slots, whichever way it is read. -/
theorem extract_take_format (spec : Spec) (st : Stencil) (compiled : spec.stencil = .ok st)
    (bare : spec.lead = none) (keeps : spec.ignorable = []) (apart : st.SlotsApart) (v : Text)
    (value : ∀ c ∈ v, Text.isAlphanumeric c = true) (fits : v.length ≤ st.slotCount) (n : Nat)
    (mode : ClearMode) :
    st.extract mode ((spec.format v).take n) =
      some (v.take ((st.pattern.take n).count st.placeholder)) := by
  by_cases nonempty : v = []
  · rw [nonempty, format_nil, List.take_nil, List.take_nil, st.extract_nil]
  have slots : 0 < st.slotCount := (List.length_pos_iff.mpr nonempty).trans_le fits
  have filled := liesAlong_fillSlots st.placeholder st.pattern v value
  have along : LiesAlong st.placeholder st.pattern
      ((fillSlots st.placeholder st.pattern v).take n) := by
    rw [← List.take_append_drop n (fillSlots st.placeholder st.pattern v)] at filled
    exact filled.beginning
  rw [spec.format_bare st compiled bare keeps slots v (.inr fits), Text.alphanumerics_of_all value,
    apart.extract_of_liesAlong along, charsOnSlots_take_fillSlots]

/-- A formatted text is cut behind a literal letter. -/
theorem cut_behind_letter_read :
    let spec := Spec.ofPattern ['#', '#', '-', 'a', '-', '#']
    let st : Stencil := { mask := spec.mask, placeholder := '#', slotCount := 3 }
    (spec.stencil = .ok st ∧ spec.lead = none ∧ spec.ignorable = [] ∧ st.SlotsApart ∧
      (∀ c ∈ ['1', '2', '3'], Text.isAlphanumeric c = true) ∧
      ['1', '2', '3'].length ≤ st.slotCount) ∧
    (spec.format ['1', '2', '3']).take 4 = ['1', '2', '-', 'a'] ∧
    ∀ mode, st.extract mode ((spec.format ['1', '2', '3']).take 4) = some ['1', '2'] := by
  intro spec st
  have compiled : spec.stencil = .ok st := rfl
  have apart : st.SlotsApart := by decide
  have value : ∀ c ∈ ['1', '2', '3'], Text.isAlphanumeric c = true := by
    simp only [List.forall_mem_cons, List.not_mem_nil, false_implies, implies_true, and_true]
    decide
  have fits : ['1', '2', '3'].length ≤ st.slotCount := by decide
  refine ⟨⟨compiled, rfl, rfl, apart, value, fits⟩, by decide, fun mode => ?_⟩
  rw [spec.extract_take_format st compiled rfl rfl apart _ value fits 4 mode]
  decide

end Spec
end MaskedInput
