import MaskedInput.Mask.Preset
import MaskedInput.Proofs.Live.Echoes
import MaskedInput.Proofs.Live.Typing

/-!
# Echoes that go unnoticed

A field that has just been reshaped and sends another notification, for which nothing has changed,
should not be written to again. In a strict mask without literal letters, behind a prefix that
stands apart, this holds of all fields if there are no ignorable texts and the prefix is to stay.
Otherwise it fails in two ways, and in no others. An ignorable text that was dropped once in front
of a clean value may begin what is left and is dropped again. And an empty clean value may have
brought up a prefix, or a mask without slots, that an empty field does not show.
-/
namespace MaskedInput.Live

section

variable {spec : Spec} {st : Stencil} (compiled : spec.stencil = .ok st)
  (apart : spec.LeadApart st) (usable : spec.hasNoMask = false) (strict : spec.strict = true)
include compiled apart usable strict

/-- A field shows what an empty one does, or some letters and digits in the mask. -/
theorem fieldText_cases (t : Text) : fieldText spec t = fieldText spec [] ∨
    ∃ v, (∀ c ∈ v, Text.isAlphanumeric c = true) ∧
      fieldText spec t = spec.leadText ++ fillSlots st.placeholder st.pattern v := by
  by_cases nonempty : spec.clear t = []
  · exact .inl (fieldText_of_clear_nil nonempty)
  by_cases nothing : spec.format (spec.clear t) = []
  · exact .inl (fieldText_of_format_nil nothing)
  · exact .inr ⟨_, Text.alphanumerics_all _,
      (fieldText_of_format nothing).trans (apart.format_eq compiled usable strict nonempty)⟩

variable (plain : st.Plain)
include plain

/-- What a field shows that has a clean value. -/
theorem fieldText_of_clean {t : Text} (value : spec.clear (fieldText spec t) ≠ []) :
    (∀ c ∈ spec.clear (fieldText spec t), Text.isAlphanumeric c = true) ∧
      (spec.clear (fieldText spec t)).length ≤ st.slotCount ∧
      fieldText spec t = spec.leadText ++
        fillSlots st.placeholder st.pattern (spec.clear (fieldText spec t)) := by
  rcases fieldText_cases compiled apart usable strict t with empty | ⟨v, letters, shown⟩
  · rw [empty, clear_fieldText_nil compiled usable] at value
    exact absurd rfl value
  · have clean : spec.clear (fieldText spec t) = v.take st.slotCount := by
      rw [shown]
      exact Spec.clear_of_dropLead compiled usable plain letters (Spec.dropLead_leadText spec _)
    rw [clean, shown, (spec.stencil_success st compiled).2, fillSlots_take]
    exact ⟨fun c member => letters c (List.mem_of_mem_take member), List.length_take_le _ _, rfl⟩

/-- Exactly when a field that has been reshaped shows what it should. -/
theorem converged_fieldText_iff (t : Text) :
    Converged spec (fieldText spec t) ↔
      dropFirstMatching spec.ignorable (spec.clear (fieldText spec t)) =
        spec.clear (fieldText spec t) ∧
      (spec.clear (fieldText spec t) = [] → fieldText spec t = fieldText spec []) := by
  by_cases value : spec.clear (fieldText spec t) = []
  · -- What an empty value shows once more is what an empty field shows.
    have again := fieldText_of_clear_nil value
    have kept : dropFirstMatching spec.ignorable [] = [] :=
      List.suffix_nil.mp (dropFirstMatching_suffix spec.ignorable [])
    change fieldText spec (fieldText spec t) = fieldText spec t ↔ _
    rw [again, value]
    exact ⟨fun same => ⟨kept, fun _ => same.symm⟩, fun settled => (settled.2 rfl).symm⟩
  · obtain ⟨letters, most, shown⟩ := fieldText_of_clean compiled apart usable strict plain value
    obtain ⟨clean, isClean⟩ : ∃ v, spec.clear (fieldText spec t) = v := ⟨_, rfl⟩
    rw [isClean] at value letters most shown ⊢
    have ending := dropFirstMatching_suffix spec.ignorable clean
    have remaining : Text.alphanumerics (dropFirstMatching spec.ignorable clean) =
        dropFirstMatching spec.ignorable clean :=
      Text.alphanumerics_of_all fun c member => letters c (ending.mem member)
    have formatted := apart.format_eq compiled usable strict value
    rw [remaining] at formatted
    refine Iff.trans ⟨fun converged => ?_, fun kept => ?_⟩
      (and_iff_left fun empty => absurd empty value).symm
    · by_cases nothing : spec.format clean = []
      · -- Nothing is shown of the value any more, though the field has not changed.
        have empty : fieldText spec t = fieldText spec [] := by
          rw [← isClean] at nothing
          exact converged.symm.trans (fieldText_of_format_nil nothing)
        rw [empty, clear_fieldText_nil compiled usable] at isClean
        exact absurd isClean.symm value
      · have same : fillSlots st.placeholder st.pattern (dropFirstMatching spec.ignorable clean) =
            fillSlots st.placeholder st.pattern clean := by
          have again : fieldText spec (fieldText spec t) = spec.format clean := by
            rw [← isClean] at nothing ⊢
            exact fieldText_of_format nothing
          rw [converged, formatted] at again
          exact List.append_cancel_left (again.symm.trans shown)
        have onSlots := congrArg (charsOnSlots st.placeholder st.pattern) same
        rw [charsOnSlots_fillSlots, charsOnSlots_fillSlots, ← (spec.stencil_success st compiled).2,
          List.take_of_length_le most,
          List.take_of_length_le (ending.length_le.trans most)] at onSlots
        exact onSlots
    · have again : spec.format clean = fieldText spec t := by rw [formatted, kept, shown]
      have some : fieldText spec t ≠ [] := by
        intro nothing
        rw [nothing, Spec.clear, spec.clearBy_nil] at isClean
        exact value isClean.symm
      rw [← isClean] at again
      exact (fieldText_of_format (by rwa [again])).trans again

/-- Without ignorable texts, and with a prefix that is to stay or none, a field that has been
reshaped always shows what it should. -/
theorem converged_fieldText (keeps : spec.ignorable = []) (slots : 0 < st.slotCount)
    (stays : spec.lead = none ∨ spec.leadFixed = true) (t : Text) :
    Converged spec (fieldText spec t) := by
  rw [converged_fieldText_iff compiled apart usable strict plain, keeps, dropFirstMatching_nil]
  refine ⟨rfl, fun none => ?_⟩
  rcases fieldText_cases compiled apart usable strict t with empty | ⟨v, letters, shown⟩
  · exact empty
  · have clean : spec.clear (fieldText spec t) = v.take st.slotCount := by
      rw [shown]
      exact Spec.clear_of_dropLead compiled usable plain letters (Spec.dropLead_leadText spec _)
    rw [clean, List.take_eq_nil_iff] at none
    rw [shown, none.resolve_left (by omega),
      fillSlots_nil_of_mem (spec.mem_pattern_of_slots st compiled slots), List.append_nil,
      fieldText_nil_of_stays stays]

end

namespace EchoField

/-- The next notification changes nothing: nothing is written, and the controller still knows the
same text and the same clean value. -/
def Unnoticed (s : Stage EchoField) : Prop :=
  let after := (host.after () s).1
  after.fields = s.fields ∧ after.controller.formatted = s.controller.formatted ∧
    after.controller.clean = s.controller.clean

theorem Waits.unnoticed_iff {spec : Spec} {s : Stage EchoField} (waits : Waits spec s)
    (known : s.controller.formatted = s.fields.text) :
    Unnoticed s ↔ Converged spec s.fields.text := by
  obtain ⟨log, taken⟩ := waits.after
  unfold Unnoticed
  rw [taken, known]
  refine ⟨fun unnoticed => unnoticed.2.1, fun converged => ?_⟩
  have shows : fieldText spec s.fields.text = s.fields.text := converged
  refine ⟨notified_of_converged converged, shows, ?_⟩
  rw [Controller.clean, Controller.clean, waits.spec, known]
  exact congrArg spec.clear shows

/-- Exactly when a field that has been reshaped can send one more notification without any effect:
if there is no mask, or if no ignorable text is dropped in front of the clean value, and the field
shows what an empty one does if there is none. Without ignorable texts this holds of every field
under a mask with slots, unless a prefix is there that need not stay. -/
theorem unnoticed_exactly (spec : Spec) (st : Stencil) (compiled : spec.stencil = .ok st)
    (strict : spec.strict = true) (plain : st.Plain) (apart : spec.LeadApart st)
    (s : Stage EchoField) (waits : Waits spec s) :
    let reshaped := (host.after () s).1
    (Unnoticed reshaped ↔ spec.hasNoMask = true ∨
      dropFirstMatching spec.ignorable reshaped.controller.clean = reshaped.controller.clean ∧
      (reshaped.controller.clean = [] → reshaped.fields.text = fieldText spec [])) ∧
    (spec.ignorable = [] → 0 < st.slotCount → spec.lead = none ∨ spec.leadFixed = true →
      Unnoticed reshaped) := by
  intro reshaped
  obtain ⟨log, taken⟩ := waits.after
  have state : reshaped.controller =
      { spec, session := some .waiting, formatted := fieldText spec s.fields.text } :=
    congrArg (fun r => r.1.controller) taken
  have text : reshaped.fields.text = fieldText spec s.fields.text :=
    (congrArg (fun r => r.1.fields.text) taken).trans (notified_text spec s.fields)
  have clean : reshaped.controller.clean = spec.clear (fieldText spec s.fields.text) := by
    rw [Controller.clean, state]
  have still : Waits spec reshaped := by
    constructor
    · rw [state]
    · rw [state]
  have unnoticed : Unnoticed reshaped ↔ Converged spec (fieldText spec s.fields.text) := by
    rw [still.unnoticed_iff (by rw [state, text]), text]
  rw [unnoticed, clean, text]
  cases usable : spec.hasNoMask with
  | true =>
    have converged := converged_of_hasNoMask usable s.fields.text
    exact ⟨iff_of_true converged (.inl rfl), fun _ _ _ => converged⟩
  | false =>
    constructor
    · rw [converged_fieldText_iff compiled apart usable strict plain]
      simp
    · exact fun keeps slots stays =>
        converged_fieldText compiled apart usable strict plain keeps slots stays s.fields.text

/-- A phone number is typed without the symbols of its mask. Nothing of it is ignorable, and its
echo goes unnoticed. -/
theorem phone_echo_unnoticed :
    let spec := (Preset.all.get ⟨0, by decide⟩).spec
    let st : Stencil := { mask := spec.mask, placeholder := '#', slotCount := 10 }
    let s : Stage EchoField :=
      { controller := { spec, session := some .waiting }, fields := { text := ['9', '3', '0'] } }
    (spec.stencil = .ok st ∧ spec.strict = true ∧ st.Plain ∧ spec.LeadApart st ∧ Waits spec s) ∧
      (host.after () s).1.fields.text = ['+', '7', ' ', '(', '9', '3', '0'] ∧
      Unnoticed (host.after () s).1 := by
  intro spec st s
  have compiled : spec.stencil = .ok st := rfl
  have plain : st.Plain := by decide +kernel
  have apart : spec.LeadApart st := by
    rintro p ⟨rfl⟩
    exact ⟨'+', ['7', ' '], rfl, by decide, by decide⟩
  have waits : Waits spec s := ⟨rfl, rfl⟩
  have clean : (host.after () s).1.controller.clean = ['9', '3', '0'] := by decide +kernel
  have unnoticed := (unnoticed_exactly spec st compiled rfl plain apart s waits).1
  refine ⟨⟨compiled, rfl, plain, apart, waits⟩, by decide +kernel, unnoticed.mpr (.inr ?_)⟩
  rw [clean]
  exact ⟨rfl, fun none => absurd none (by decide)⟩

/-- Behind the ignorable digit of a phone number stands the same digit. The echo drops it as well.
-/
theorem second_seven_dropped :
    let spec := (Preset.all.get ⟨0, by decide⟩).spec
    let st : Stencil := { mask := spec.mask, placeholder := '#', slotCount := 10 }
    let s : Stage EchoField :=
      { controller := { spec, session := some .waiting }, fields := { text := ['7', '7', '9'] } }
    (spec.stencil = .ok st ∧ spec.strict = true ∧ st.Plain ∧ spec.LeadApart st ∧ Waits spec s) ∧
      (deliver^[2] { s with fields := { text := ['7', '7', '9'], due := 1 } }).fields.writes =
        [['+', '7', ' ', '(', '7', '9'], ['+', '7', ' ', '(', '9']] ∧
      ¬Unnoticed (host.after () s).1 := by
  intro spec st s
  have apart : spec.LeadApart st := by
    rintro p ⟨rfl⟩
    exact ⟨'+', ['7', ' '], rfl, by decide, by decide⟩
  refine ⟨⟨rfl, rfl, by decide +kernel, apart, ⟨rfl, rfl⟩⟩, by decide +kernel, fun unnoticed => ?_⟩
  have known : (host.after () (host.after () s).1).1.controller.formatted =
      ['+', '7', ' ', '(', '9'] := by decide +kernel
  have before : (host.after () s).1.controller.formatted = ['+', '7', ' ', '(', '7', '9'] := by
    decide +kernel
  have same := unnoticed.2.1
  rw [known, before] at same
  exact absurd same (by decide)

end EchoField
end MaskedInput.Live
