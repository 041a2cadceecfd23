import MaskedInput.Proofs.Clearing.Rereading
import MaskedInput.Proofs.Live.FixedLead
import MaskedInput.Proofs.Live.Shown

/-!
# What a controller remembers

The text that a controller knows is always what some text should be shown as, since it takes nothing
else over: while it is attached that is the text of the buffer, and while it is detached the text that
it knew last. Under a strict mask it can read every such text, whatever the literals, the prefix and
the ignorable texts are. So the clean value never is a text that could not be read and was left as it
is, and there is nothing in it but letters and digits.
-/
namespace MaskedInput.Live

/-- What a field should show can be read once clearing has taken the prefix away. -/
theorem exists_extract_fieldText {spec : Spec} {st : Stencil} (compiled : spec.stencil = .ok st)
    (usable : spec.hasNoMask = false) (strict : spec.strict = true) (mode : ClearMode) (t : Text) :
    ∃ clean, st.extract mode (spec.dropLead (fieldText spec t)) = some clean := by
  by_cases nothing : spec.format (spec.clear t) = []
  · rw [fieldText_of_format_nil nothing, dropLead_fieldText_nil, st.extract_nil]
    exact ⟨[], rfl⟩
  · rw [fieldText_of_format nothing]
    exact Spec.exists_extract_format compiled usable mode _ (.inl strict)

namespace Buffer

theorem Coherent.formatted {spec : Spec} {s : Stage Buffer} (coherent : Coherent spec s)
    (observed : Observed spec s) : s.controller.formatted = s.fields.text := by
  rcases coherent.agrees with none | waits
  · rw [observed.session] at none
    cases none
  · exact waits.2

/-- Between events the controller knows what some text should be shown as. -/
structure Remembering (spec : Spec) (s : Stage Buffer) : Prop where
  coherent : Coherent spec s
  shown : ∃ t, s.controller.formatted = fieldText spec t

theorem Remembering.apply {spec : Spec} {s : Stage Buffer} (remembering : Remembering spec s)
    (event : Event) : Remembering spec (event.apply s) := by
  obtain ⟨coherent, t, shown⟩ := remembering
  have still := coherent.apply event
  refine ⟨still, ?_⟩
  by_cases attaches : event = .attach
  · obtain ⟨log, attached⟩ := attach_alone s coherent.idle
    rw [attaches, Event.apply, attached]
    exact ⟨s.fields.text, by rw [coherent.spec]⟩
  rcases coherent.cases with detached | observed
  · obtain ⟨log, applied⟩ := detached.apply event attaches
    rw [applied]
    exact ⟨t, shown⟩
  by_cases detaches : event = .detach
  · rw [detaches, Event.apply, detach_of_idle coherent.idle]
    exact ⟨t, shown⟩
  · -- The controller stays attached, so that it knows what the buffer shows.
    have showing : Showing spec s := ⟨observed, t, (coherent.formatted observed).symm.trans shown⟩
    obtain ⟨observed, u, shows⟩ := showing.apply event detaches
    exact ⟨u, (still.formatted observed).trans shows⟩

end Buffer

namespace Event

theorem run_remembering (spec : Spec) (events : List Event) :
    Buffer.Remembering spec (run spec events) := by
  refine run_preserves spec ?_ events fun event _ s now => now.apply event
  obtain ⟨attached, fields⟩ := Buffer.opened_attached spec
  refine ⟨run_coherent spec [], [], ?_⟩
  rw [attached.formatted, fields, Buffer.updated_text]

/-- Under a strict mask, what is formatted can be read in both ways once clearing has taken the prefix
away. So clearing it never leaves a text as it is that does not fit, and gives letters and digits
only; and after any events the clean value of a buffer consists of letters and digits. -/
theorem formatted_text_is_read (spec : Spec) (st : Stencil) (compiled : spec.stencil = .ok st)
    (usable : spec.hasNoMask = false) (strict : spec.strict = true) :
    (∀ mode t, (st.extract mode (spec.dropLead (spec.format t))).isSome) ∧
    (∀ mode t stripped pattern tried,
      spec.clearOutcome mode (spec.format t) ≠ .misfit stripped pattern tried) ∧
    (∀ t, ∀ c ∈ spec.clear (spec.format t), Text.isAlphanumeric c = true) ∧
    ∀ events, ∀ c ∈ (run spec events).controller.clean, Text.isAlphanumeric c = true := by
  have read (mode : ClearMode) (t : Text) :=
    Spec.exists_extract_format compiled usable mode t (.inl strict)
  refine ⟨fun mode t => Option.isSome_iff_exists.mpr (read mode t),
    fun mode t stripped pattern tried => ?_, fun t => ?_, fun events => ?_⟩
  · obtain ⟨clean, found⟩ := read mode t
    rw [Spec.clearOutcome_of_read compiled usable found]
    split <;> simp
  · obtain ⟨clean, found⟩ := read .pattern t
    exact Spec.clear_letters_of_read compiled usable found
  · obtain ⟨coherent, t, shown⟩ := run_remembering spec events
    obtain ⟨clean, found⟩ := exists_extract_fieldText compiled usable strict .pattern t
    rw [Controller.clean, coherent.spec, shown]
    exact Spec.clear_letters_of_read compiled usable found

/-- A filled mask that begins with the prefix loses its first slot with it, and is read. -/
theorem lead_inside_slots_read :
    let spec : Spec :=
      { pattern := some ['1', '#', '#', '-', '#'], lead := some ['1', '5'], ignorable := [['7']] }
    let st : Stencil := { mask := spec.mask, placeholder := '#', slotCount := 3 }
    let typed := run spec [.keystroke (.type ['5', '6', '8']), .keystroke .backspace]
    (spec.stencil = .ok st ∧ spec.hasNoMask = false ∧ spec.strict = true) ∧
    spec.format ['7', '5', '6', '8'] = ['1', '5', '6', '-', '8'] ∧
    spec.dropLead ['1', '5', '6', '-', '8'] = ['6', '-', '8'] ∧
    (∀ mode, (st.extract mode ['6', '-', '8']).isSome) ∧
    ∀ c ∈ typed.controller.clean, Text.isAlphanumeric c = true := by
  intro spec st typed
  have compiled : spec.stencil = .ok st := rfl
  obtain ⟨read, -, -, letters⟩ := formatted_text_is_read spec st compiled rfl rfl
  have formatted : spec.format ['7', '5', '6', '8'] = ['1', '5', '6', '-', '8'] := by decide
  have dropped : spec.dropLead ['1', '5', '6', '-', '8'] = ['6', '-', '8'] := by decide
  refine ⟨⟨compiled, rfl, rfl⟩, formatted, dropped, fun mode => ?_, letters _⟩
  have readBack := read mode ['7', '5', '6', '8']
  rwa [formatted, dropped] at readBack

end Event
end MaskedInput.Live
