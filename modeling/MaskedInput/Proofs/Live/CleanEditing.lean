import MaskedInput.Proofs.Live.Keystrokes
import MaskedInput.Proofs.Live.Shown

/-!
# Editing the clean value

In a strict mask without literal letters, without a prefix and without ignorable texts, the user of a
buffer edits the clean value: what a keystroke inserts or deletes among the letters and digits of the
text is inserted or deleted in the value, wherever the caret stands, and the buffer shows the value
in the mask. This needs no assumption on the text in the middle of an edit, which may have lost the
shape of the mask.
-/
namespace MaskedInput.Live

section

variable {spec : Spec} {st : Stencil} (compiled : spec.stencil = .ok st) (bare : spec.lead = none)
  (slots : 0 < st.slotCount) (plain : st.Plain) (strict : spec.strict = true)
  (keeps : spec.ignorable = [])
include compiled bare slots plain strict keeps

theorem fieldText_plain (t : Text) :
    fieldText spec t = fillSlots st.placeholder st.pattern (Text.alphanumerics t) := by
  rw [fieldText_of_none bare, Spec.format_clear compiled bare slots plain strict keeps]

/-- A buffer that shows what one with the text `t` should. -/
theorem clean_of_shown {s : Stage Buffer} (attached : Buffer.Attached spec s) {t : Text}
    (shown : s.fields.text = fieldText spec t) :
    s.controller.clean = (Text.alphanumerics t).take st.slotCount ∧
      s.fields.text = st.rendering s.controller.clean := by
  have count := (spec.stencil_success st compiled).2
  have text : s.fields.text = fillSlots st.placeholder st.pattern (Text.alphanumerics t) :=
    shown.trans (fieldText_plain compiled bare slots plain strict keeps t)
  have clean : s.controller.clean = (Text.alphanumerics t).take st.slotCount := by
    rw [attached.clean_eq, text]
    exact Spec.clear_fillSlots compiled bare slots plain _ (Text.alphanumerics_all t)
  refine ⟨clean, ?_⟩
  rw [clean, ← st.fillSlots_eq_rendering count, text, count, fillSlots_take]

/-- The letters and digits of what is shown are not more than there are slots. -/
theorem alphanumerics_shown_length (t : Text) :
    (Text.alphanumerics (fieldText spec t)).length ≤ st.slotCount := by
  rw [fieldText_plain compiled bare slots plain strict keeps,
    plain.alphanumerics_fillSlots _ (Text.alphanumerics_all t), (spec.stencil_success st compiled).2]
  exact List.length_take_le _ _

end

/-- After any keystrokes: what is inserted at the caret is inserted in the clean value, unless all of
it is refused, which changes nothing; what is deleted in front of the caret is deleted in the clean
value; and the buffer shows the clean value in the mask, or nothing if there is none. -/
theorem Keystroke.edits_clean_value (spec : Spec) (st : Stencil) (compiled : spec.stencil = .ok st)
    (strict : spec.strict = true) (bare : spec.lead = none) (keeps : spec.ignorable = [])
    (slots : 0 < st.slotCount) (plain : st.Plain) (strokes : List Keystroke) :
    let s := run spec strokes
    let text := s.fields.text
    let caret := s.fields.caret
    (∀ typed, accepted typed = [] → Buffer.alone.insert Buffer.host typed s = s) ∧
    (∀ typed, accepted typed ≠ [] →
      let after := Buffer.alone.insert Buffer.host typed s
      after.controller.clean = (Text.alphanumerics (text.take caret) ++
        Text.alphanumerics (accepted typed) ++
          Text.alphanumerics (text.drop caret)).take st.slotCount ∧
      after.fields.text = st.rendering after.controller.clean ∧
      (after.controller.clean = [] → after.fields.text = [])) ∧
    (0 < caret →
      let after := Buffer.alone.backspace Buffer.host s
      after.controller.clean = Text.alphanumerics (text.eraseIdx (caret - 1)) ∧
      after.fields.text = st.rendering after.controller.clean ∧
      (after.controller.clean = [] → after.fields.text = [])) := by
  intro s text caret
  obtain ⟨attached, t, shown⟩ := run_attached spec strokes
  change Buffer.Attached spec s at attached
  change text = fieldText spec t at shown
  have empty {after : Stage Buffer} (rendered : after.fields.text =
      st.rendering after.controller.clean) (none : after.controller.clean = []) :
      after.fields.text = [] := by
    rw [rendered, none, ← st.fillSlots_eq_rendering (spec.stencil_success st compiled).2]
    exact fillSlots_nil_of_mem (spec.mem_pattern_of_slots st compiled slots)
  -- Each edit shows what a buffer with the exchanged text should.
  have edit (start removed : Nat) (inserted : Text) :
      let after := Buffer.alone.edit Buffer.host start removed inserted s
      after.controller.clean = (Text.alphanumerics (text.take start ++ inserted ++
        text.drop (start + removed))).take st.slotCount ∧
      after.fields.text = st.rendering after.controller.clean := by
    obtain ⟨still, fields⟩ := Buffer.edit_attached attached start removed inserted
    apply clean_of_shown compiled bare slots plain strict keeps still
    rw [fields, Buffer.updated_text]
    rfl
  refine ⟨fun typed => Buffer.insert_refused attached typed, fun typed some => ?_, fun before => ?_⟩
  · rw [Buffer.insert_accepted attached typed some]
    obtain ⟨clean, rendered⟩ := edit caret 0 (accepted typed)
    refine ⟨?_, rendered, empty rendered⟩
    rw [clean, Text.alphanumerics_append, Text.alphanumerics_append]
    rfl
  · rw [Buffer.backspace_eq s before]
    obtain ⟨clean, rendered⟩ := edit (caret - 1) 1 []
    refine ⟨?_, rendered, empty rendered⟩
    have erased : text.take (caret - 1) ++ [] ++ text.drop (caret - 1 + 1) =
        text.eraseIdx (caret - 1) := by
      rw [List.append_nil, List.eraseIdx_eq_take_drop_succ]
    have kept : (Text.alphanumerics (text.eraseIdx (caret - 1))).length ≤ st.slotCount := by
      have fewer := ((List.eraseIdx_sublist text (caret - 1)).filter Text.isAlphanumeric).length_le
      have most := alphanumerics_shown_length compiled bare slots plain strict keeps t
      rw [← shown] at most
      exact fewer.trans most
    rw [clean, erased, List.take_of_length_le kept]

/-- In a mask with a dash, the first of three digits is deleted. -/
theorem first_of_three_deleted :
    let spec := Spec.ofPattern ['#', '#', '-', '#']
    let st : Stencil := { mask := spec.mask, placeholder := '#', slotCount := 3 }
    let s := Keystroke.run spec [.type ['1', '2', '3'], .moveCaret 1]
    (spec.stencil = .ok st ∧ spec.strict = true ∧ spec.lead = none ∧ spec.ignorable = [] ∧
      0 < st.slotCount ∧ st.Plain) ∧
    s.fields.text = ['1', '2', '-', '3'] ∧
    (Buffer.alone.backspace Buffer.host s).controller.clean = ['2', '3'] := by
  intro spec st s
  have compiled : spec.stencil = .ok st := rfl
  have plain : st.Plain := by
    rw [st.plain_iff]
    change ∀ m ∈ ['#', '#', '-', '#'], m ≠ '#' → ¬Text.isAlphanumeric m = true
    simp only [List.forall_mem_cons, List.not_mem_nil, false_implies, implies_true, and_true]
    decide
  have text : s.fields.text = ['1', '2', '-', '3'] := by decide +kernel
  have caret : s.fields.caret = 1 := by decide +kernel
  have deletes := (Keystroke.edits_clean_value spec st compiled rfl rfl rfl (by decide) plain
    [.type ['1', '2', '3'], .moveCaret 1]).2.2
  refine ⟨⟨compiled, rfl, rfl, rfl, by decide, plain⟩, text, ?_⟩
  change 0 < s.fields.caret → (Buffer.alone.backspace Buffer.host s).controller.clean =
    Text.alphanumerics (s.fields.text.eraseIdx (s.fields.caret - 1)) ∧ _ at deletes
  rw [(deletes (by rw [caret]; decide)).1, text, caret]
  decide

end MaskedInput.Live
