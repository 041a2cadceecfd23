import MaskedInput.Proofs.Formatting.Usable
import MaskedInput.Proofs.Live.Sessions

/-!
# Prefixes that stay

Under a strict mask a prefix that is to stay cannot be deleted, as long as the controller is
attached. It gets in front of a text in three ways: formatting puts it there, or the mask itself
begins with it, or it is all that is shown because there is nothing else to show. What the user does
to it, and where the caret stands meanwhile, makes no difference, since a field shows nothing but
texts of these three kinds. A prefix that contains the placeholder is left out: where the mask begins
with such a prefix, letters and digits are written over it.
-/
namespace MaskedInput

/-- Formatting gives nothing, or a text that begins with the prefix. -/
theorem Spec.lead_prefix_format {spec : Spec} {st : Stencil} {p : Text}
    (compiled : spec.stencil = .ok st) (usable : spec.hasNoMask = false)
    (strict : spec.strict = true) (lead : spec.lead = some p) (bare : st.placeholder ∉ p)
    {t : Text} (nonempty : t ≠ []) (written : spec.format t ≠ []) : p <+: spec.format t := by
  rw [spec.format_eq st compiled usable t nonempty (.inl strict)] at written ⊢
  generalize Text.alphanumerics (dropFirstMatching spec.ignorable t) = v at written ⊢
  by_cases started : p <+: fillSlots st.placeholder st.pattern v ∨ p <+: st.pattern
  · rw [addLead_of_started lead started] at written ⊢
    rcases started with filled | ⟨rest, embedded⟩
    · exact filled
    · by_cases slot : st.placeholder ∈ st.pattern
      · have value : v ≠ [] := by
          rintro rfl
          exact written (fillSlots_nil_of_mem slot)
        rw [← embedded, fillSlots_append_of_not_mem bare rest value]
        exact List.prefix_append p _
      · rw [fillSlots_of_not_mem slot, ← embedded]
        exact List.prefix_append p rest
  · rw [addLead_of_not_started lead started]
    exact List.prefix_append p _

namespace Live

/-- A field never shows less than the prefix. -/
theorem lead_prefix_fieldText {spec : Spec} {st : Stencil} {p : Text}
    (compiled : spec.stencil = .ok st) (usable : spec.hasNoMask = false)
    (strict : spec.strict = true) (lead : spec.lead = some p) (bare : st.placeholder ∉ p)
    (stays : spec.fixedLead? = some p) (t : Text) : p <+: fieldText spec t := by
  unfold fieldText
  split
  · rw [stays, Option.getD_some]
  · next c rest written =>
    have result : spec.format (spec.clear t) ≠ [] := by simp [written]
    have source : spec.clear t ≠ [] := fun empty => result (by rw [empty, Spec.format_nil])
    rw [← written]
    exact Spec.lead_prefix_format compiled usable strict lead bare source result

namespace Buffer

/-- The caret goes behind a prefix that is all that is shown, whatever moves were left over. -/
theorem updated_caret {spec : Spec} {p : Text} (stays : spec.fixedLead? = some p) {b : Buffer}
    (only : (b.updated spec).text = p) : (b.updated spec).caret = p.length := by
  rw [updated_text] at only
  have move : caretMove spec (fieldText spec b.text) = some { position := p.length } := by
    simp only [caretMove, stays, only, if_true]
  have text : (b.shown spec).settle.text = p := by rw [settle_text, shown_text, only]
  rw [updated, move, settle_postpone, moveCaret, text]
  exact Nat.min_self _

/-- An attached controller, and a buffer that shows what some text should be shown as. -/
structure Showing (spec : Spec) (s : Stage Buffer) : Prop where
  observed : Observed spec s
  shows : ∃ t, s.fields.text = fieldText spec t

theorem Showing.apply {spec : Spec} {s : Stage Buffer} (showing : Showing spec s) (event : Event)
    (stays : event ≠ .detach) : Showing spec (event.apply s) := by
  obtain ⟨observed, t, shown⟩ := showing
  cases event with
  | keystroke stroke =>
    refine Keystroke.apply_preserves (p := Showing spec) ?_ ?_ stroke s ⟨observed, t, shown⟩
    · intro s start removed inserted _ now
      obtain ⟨attached, fields⟩ := now.observed.edit start removed inserted
      exact ⟨attached.observed, _, by rw [fields, updated_text]⟩
    · intro s position now
      exact ⟨⟨now.observed.spec, now.observed.session, now.observed.controlled⟩, now.shows⟩
  | overwrite u =>
    obtain ⟨log, ran⟩ := observed.runScript_overwrite u
    simp only [Event.apply, ran]
    refine ⟨⟨rfl, rfl, ?_⟩, accepted u, ?_⟩
    · rw [postpone_controlled, shown_controlled]
      exact observed.controlled
    · rw [postpone_text, shown_text]
      rfl
  | settle =>
    refine ⟨⟨observed.spec, observed.session, ?_⟩, t, ?_⟩
    · exact (settle_controlled _).trans observed.controlled
    · exact (settle_text _).trans shown
  | detach => exact absurd rfl stays
  | attach =>
    obtain ⟨log, attached⟩ := attach_alone s (by simp [observed.session])
    simp only [Event.apply, attached]
    exact ⟨⟨observed.spec, rfl, (shown_controlled _ _).trans observed.controlled⟩, s.fields.text,
      by rw [shown_text, observed.spec]⟩

end Buffer

namespace Event

theorem run_showing (spec : Spec) (events : List Event) (stays : Event.detach ∉ events) :
    Buffer.Showing spec (run spec events) := by
  refine run_preserves spec ?_ events fun event member s now =>
    now.apply event fun gone => stays (gone ▸ member)
  obtain ⟨attached, fields⟩ := Buffer.opened_attached spec
  exact ⟨attached.observed, [], by rw [fields, Buffer.updated_text]⟩

/-- Whatever is formatted begins with the prefix, and so does the text of a buffer after any events
but detaching. An edit that leaves only the prefix leaves the caret behind it. -/
theorem fixed_lead_stays (spec : Spec) (st : Stencil) (p : Text)
    (compiled : spec.stencil = .ok st) (usable : spec.hasNoMask = false)
    (strict : spec.strict = true) (lead : spec.lead = some p) (proper : p ≠ [])
    (fixed : spec.leadFixed = true) (bare : st.placeholder ∉ p) :
    (∀ t, t ≠ [] → spec.format t ≠ [] → p <+: spec.format t) ∧
    ∀ events, Event.detach ∉ events →
      let s := run spec events
      p <+: s.fields.text ∧
      (∀ typed, accepted typed ≠ [] →
        let after := apply s (.keystroke (.insert typed))
        after.fields.text = p → after.fields.caret = p.length) ∧
      (0 < s.fields.caret →
        let after := apply s (.keystroke .backspace)
        after.fields.text = p → after.fields.caret = p.length) := by
  have stays : spec.fixedLead? = some p := Spec.fixedLead?_eq lead proper fixed
  refine ⟨fun t => Spec.lead_prefix_format compiled usable strict lead bare,
    fun events attached => ?_⟩
  intro s
  obtain ⟨observed, t, shown⟩ := run_showing spec events attached
  change Buffer.Observed spec s at observed
  have edit (start removed : Nat) (inserted : Text) :
      let after := Buffer.alone.edit Buffer.host start removed inserted s
      after.fields.text = p → after.fields.caret = p.length := by
    intro after only
    rw [(observed.edit start removed inserted).2] at only ⊢
    exact Buffer.updated_caret stays only
  refine ⟨?_, fun typed some => ?_, fun before => ?_⟩
  · rw [shown]
    exact lead_prefix_fieldText compiled usable strict lead bare stays t
  · rw [apply, Keystroke.apply, observed.insert, if_neg some]
    exact edit _ _ _
  · rw [apply, Keystroke.apply, Buffer.backspace_eq s before]
    exact edit _ _ _

/-- The only digit of a phone number is deleted. -/
theorem last_digit_deleted :
    let spec : Spec := { pattern := some ['(', '#', '#', '#', ')'], lead := some ['+', '7', ' '] }
    let st : Stencil := { mask := spec.mask, placeholder := '#', slotCount := 3 }
    let s := run spec [.keystroke (.type ['9'])]
    let after := apply s (.keystroke .backspace)
    (spec.stencil = .ok st ∧ spec.hasNoMask = false ∧ spec.strict = true ∧
      spec.lead = some ['+', '7', ' '] ∧ spec.leadFixed = true ∧ st.placeholder ∉ ['+', '7', ' '] ∧
      0 < s.fields.caret) ∧
    after.fields.text = ['+', '7', ' '] ∧ after.fields.caret = 3 := by
  intro spec st
  have before : 0 < (run spec [.keystroke (.type ['9'])]).fields.caret := by decide +kernel
  have only : (apply (run spec [.keystroke (.type ['9'])]) (.keystroke .backspace)).fields.text =
      ['+', '7', ' '] := by decide +kernel
  have attached : Event.detach ∉ [Event.keystroke (.type ['9'])] := by simp
  have stays := (fixed_lead_stays spec st ['+', '7', ' '] rfl rfl rfl rfl (by decide) rfl
    (by decide)).2 [.keystroke (.type ['9'])] attached
  exact ⟨⟨rfl, rfl, rfl, rfl, rfl, by decide, before⟩, only, stays.2.2 before only⟩

end Event
end Live
end MaskedInput
