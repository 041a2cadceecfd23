import MaskedInput.Proofs.Live.Typing
import MaskedInput.Proofs.Mask.Ends

/-!
# Erasing at the end of a text

Backspace behind the last character deletes it, and the buffer shows what it should show then.
While a slot is empty, or if no literal stands behind the last slot, the character deleted is the
last letter or digit of the value, so that all that was typed can be erased and only the prefix is
left. In a full mask with literals behind its last slot it is a literal, which is written again at
once: then nothing can be erased from the end, however often backspace is pressed.
-/
namespace MaskedInput.Live

/-- What a field shows once its last character has been deleted. -/
def lastErased (spec : Spec) (t : Text) : Text := fieldText spec t.dropLast

/-- A field shows nothing only if an empty one does. -/
theorem fieldText_nil_of_shown {spec : Spec} {t : Text} (nothing : fieldText spec t = []) :
    fieldText spec [] = [] := by
  by_cases written : spec.format (spec.clear t) = []
  · rw [← fieldText_of_format_nil written, nothing]
  · rw [fieldText_of_format written] at nothing
    exact absurd nothing written

namespace Buffer

/-- Backspace at the end deletes the last character, if there is one. -/
theorem Attached.backspace {spec : Spec} {s : Stage Buffer} (attached : Attached spec s)
    (atEnd : s.fields.AtEnd) {t : Text} (shown : s.fields.text = fieldText spec t) :
    let after := alone.backspace host s
    Attached spec after ∧ after.fields.AtEnd ∧
      after.fields.text = lastErased spec s.fields.text := by
  intro after
  have caret : s.fields.caret = s.fields.text.length := atEnd
  rcases Nat.eq_zero_or_pos s.fields.caret with front | before
  · have empty : s.fields.text = [] := List.eq_nil_of_length_eq_zero (caret ▸ front)
    have unchanged : after = s := by
      have place : (alone.get s.fields).caret = 0 := front
      simp only [after, BufferPlace.backspace, place]
    rw [unchanged]
    refine ⟨attached, atEnd, ?_⟩
    rw [empty] at shown ⊢
    exact (fieldText_nil_of_shown shown.symm).symm
  · have text : (s.fields.exchange (s.fields.caret - 1) 1 []).text = s.fields.text.dropLast := by
      rw [exchange, List.append_nil, List.dropLast_eq_take, caret,
        List.drop_of_length_le (by omega), List.append_nil]
    have behind : (s.fields.exchange (s.fields.caret - 1) 1 []).AtEnd := by
      rw [AtEnd, text, List.length_dropLast, ← caret]
      rfl
    obtain ⟨still, fields⟩ := edit_attached attached (s.fields.caret - 1) 1 []
    have erased : after = alone.edit host (s.fields.caret - 1) 1 [] s := backspace_eq s before
    rw [erased, fields, updated_text, text]
    exact ⟨still, behind.updated attached.postponed spec, rfl⟩

/-- What pressing backspace a number of times leaves. -/
def erased (n : Nat) (s : Stage Buffer) : Stage Buffer := (alone.backspace host)^[n] s

theorem Attached.erased {spec : Spec} {s : Stage Buffer} (attached : Attached spec s)
    (atEnd : s.fields.AtEnd) {t : Text} (shown : s.fields.text = fieldText spec t) (n : Nat) :
    Attached spec (Buffer.erased n s) ∧
      (Buffer.erased n s).fields.text = (lastErased spec)^[n] s.fields.text := by
  induction n generalizing s t with
  | zero => exact ⟨attached, rfl⟩
  | succ n ih =>
    obtain ⟨still, behind, text⟩ := attached.backspace atEnd shown
    obtain ⟨observes, erased⟩ := ih still behind text
    refine ⟨observes, erased.trans ?_⟩
    rw [text, Function.iterate_succ_apply]

end Buffer

section

variable {spec : Spec} {st : Stencil}

theorem shownLetters_nil (stays : spec.lead = none ∨ spec.leadFixed = true) :
    shownLetters spec st [] = spec.leadText := by
  rw [shownLetters, if_pos rfl, fieldText_nil_of_stays stays]

variable (compiled : spec.stencil = .ok st)
include compiled

/-- Of a prefix that is to stay nothing can be deleted. -/
theorem lastErased_nil (usable : spec.hasNoMask = false)
    (stays : spec.lead = none ∨ spec.leadFixed = true) :
    lastErased spec (shownLetters spec st []) = shownLetters spec st [] := by
  have dropped : spec.dropLead spec.leadText.dropLast = [] := by
    cases lead : spec.lead with
    | none => rw [Spec.leadText, lead]; exact Spec.dropLead_nil
    | some p =>
      rw [Spec.leadText_of_some lead]
      exact Spec.dropLead_of_partial lead (List.dropLast_prefix p)
  rw [lastErased, fieldText_of_clear_nil]
  · rfl
  · rw [shownLetters_nil stays, Spec.clear, spec.clearBy_eq st compiled usable, dropped,
      st.extract_nil, Option.getD_some]

variable (slots : 0 < st.slotCount)
include slots

/-- Letters beyond the last slot are not shown. -/
theorem shownLetters_take (v : Text) :
    shownLetters spec st (v.take st.slotCount) = shownLetters spec st v := by
  have same : v.take st.slotCount = [] ↔ v = [] := by
    rw [List.take_eq_nil_iff]
    exact or_iff_right (Nat.ne_of_gt slots)
  simp only [shownLetters, same]
  rw [(spec.stencil_success st compiled).2, fillSlots_take]

theorem clean_of_shownLetters (apart : spec.LeadApart st) (plain : st.Plain) {s : Stage Buffer}
    (attached : Buffer.Attached spec s) {v : Text}
    (value : ∀ c ∈ v, Text.isAlphanumeric c = true) (fits : v.length ≤ st.slotCount)
    (shown : s.fields.text = shownLetters spec st v) : s.controller.clean = v := by
  rw [attached.clean_eq, shown, clear_shownLetters apart compiled slots plain value,
    List.take_of_length_le fits]

end

section

variable {spec : Spec} {st : Stencil} (apart : spec.LeadApart st) (compiled : spec.stencil = .ok st)
  (strict : spec.strict = true) (keeps : spec.ignorable = []) (slots : 0 < st.slotCount)
  (plain : st.Plain)
include apart compiled strict keeps slots plain

/-- Of a text that lies along the mask behind the prefix, the letters and digits are shown. -/
theorem fieldText_along {u : Text} (along : LiesAlong st.placeholder st.pattern u) :
    fieldText spec (spec.leadText ++ u) = shownLetters spec st (Text.alphanumerics u) := by
  unfold shownLetters
  split
  · next none =>
    apply fieldText_of_clear_nil
    have dropped := Spec.dropLead_leadText spec u
    rw [Spec.clear_of_liesAlong compiled (spec.hasNoMask_of_slots st compiled slots) plain along
      (by rw [dropped]), dropped, none]
  · next some =>
    have dropped := Spec.dropLead_leadText spec u
    rw [fieldText_apart apart compiled strict keeps slots plain (by rwa [dropped]), dropped]

/-- A first part of the mask, filled exactly, shows its letters and digits. -/
theorem fieldText_filled {front back v : Text} (split : st.pattern = front ++ back)
    (fills : v.length = front.count st.placeholder)
    (value : ∀ c ∈ v, Text.isAlphanumeric c = true) :
    fieldText spec (spec.leadText ++ fillSlots st.placeholder front v) =
      shownLetters spec st v := by
  have foreign : ∀ m ∈ front, m ≠ st.placeholder → ¬Text.isAlphanumeric m = true :=
    fun m member => st.plain_iff.mp plain m (by simp [split, member])
  have along := (liesAlong_fillSlots st.placeholder front v value).append back
  rw [← split] at along
  rw [fieldText_along apart compiled strict keeps slots plain along,
    alphanumerics_fillSlots foreign v value, ← fills, List.take_length]

/-- While a slot is empty, or if nothing stands behind the last one, the last letter is erased. -/
theorem lastErased_shownLetters (stays : spec.lead = none ∨ spec.leadFixed = true) {v : Text}
    (value : ∀ c ∈ v, Text.isAlphanumeric c = true) (fits : v.length ≤ st.slotCount)
    (ends : v.length < st.slotCount ∨ st.EndsInSlot) :
    lastErased spec (shownLetters spec st v) = shownLetters spec st v.dropLast := by
  cases v using List.reverseRecOn with
  | nil => exact lastErased_nil compiled (spec.hasNoMask_of_slots st compiled slots) stays
  | append_singleton v x =>
    rw [(spec.stencil_success st compiled).2] at fits ends
    rw [Stencil.endsInSlot_iff] at ends
    obtain ⟨front, back, split, fills, filled⟩ := fillSlots_ends_on_slot fits ends
    have shown : shownLetters spec st (v ++ [x]) =
        spec.leadText ++ fillSlots st.placeholder front v ++ [x] := by
      rw [shownLetters, if_neg (by simp), filled, List.append_assoc]
    rw [lastErased, shown, List.dropLast_concat, List.dropLast_concat]
    exact fieldText_filled apart compiled strict keeps slots plain split fills
      fun c member => value c (by simp [member])

/-- In a full mask with literals behind its last slot, the last of them is written again. -/
theorem lastErased_full {v : Text} (value : ∀ c ∈ v, Text.isAlphanumeric c = true)
    (full : v.length = st.slotCount) (tail : ¬st.EndsInSlot) :
    lastErased spec (shownLetters spec st v) = shownLetters spec st v := by
  obtain ⟨front, m, split, literal⟩ :=
    Stencil.exists_append_literal (spec.mem_pattern_of_slots st compiled slots) tail
  have plainTail : st.placeholder ∉ [m] := by simpa using Ne.symm literal
  have nonempty : v ≠ [] := by
    rintro rfl
    exact absurd slots (by rw [← full]; exact Nat.lt_irrefl 0)
  have fills : v.length = front.count st.placeholder := by
    rw [full, (spec.stencil_success st compiled).2, split, List.count_append,
      List.count_eq_zero.mpr plainTail, Nat.add_zero]
  have filled := fillSlots_append fills [m] [] fun slot => absurd slot plainTail
  rw [List.append_nil, fillSlots_of_not_mem plainTail, ← split] at filled
  have shown : shownLetters spec st v =
      spec.leadText ++ fillSlots st.placeholder front v ++ [m] := by
    rw [shownLetters, if_neg nonempty, filled, List.append_assoc]
  rw [lastErased, shown, List.dropLast_concat, ← shown]
  exact fieldText_filled apart compiled strict keeps slots plain split fills value

/-- Erasing one letter after another. -/
theorem lastErased_iterate (stays : spec.lead = none ∨ spec.leadFixed = true) {v : Text}
    (value : ∀ c ∈ v, Text.isAlphanumeric c = true) (fits : v.length ≤ st.slotCount)
    (ends : v.length < st.slotCount ∨ st.EndsInSlot) (n : Nat) :
    (lastErased spec)^[n] (shownLetters spec st v) =
      shownLetters spec st (v.take (v.length - n)) := by
  induction n with
  | zero => rw [Nat.sub_zero, List.take_length]; rfl
  | succ n ih =>
    have fewer : (v.take (v.length - n)).length ≤ v.length := List.length_take_le' _ _
    have shorter : (v.take (v.length - n)).dropLast = v.take (v.length - (n + 1)) := by
      rw [List.dropLast_eq_take, List.take_take, List.length_take]
      congr 1
      omega
    rw [Function.iterate_succ_apply', ih, lastErased_shownLetters apart compiled strict keeps slots
      plain stays (fun c member => value c (List.mem_of_mem_take member)) (fewer.trans fits)
      (ends.imp_left (Nat.lt_of_le_of_lt fewer)), shorter]

/-- A fresh buffer after some keys and then some backspaces. -/
theorem erased_typed (keys : Text) (n : Nat) :
    let s := Buffer.erased n (Buffer.alone.type Buffer.host keys (Buffer.opened spec))
    Buffer.Attached spec s ∧ s.fields.text = (lastErased spec)^[n]
      (shownLetters spec st ((Text.alphanumerics keys).take st.slotCount)) := by
  obtain ⟨fresh, front, empty⟩ := Buffer.opened_atEnd spec
  obtain ⟨attached, atEnd, text⟩ := fresh.type_keys front keys
  obtain ⟨-, t, shown⟩ := Keystroke.run_attached spec [.type keys]
  rw [empty, typedBehind_apart apart compiled strict keeps slots plain _
    (Text.alphanumerics_all keys), ← shownLetters_take compiled slots] at text
  rw [← text]
  exact attached.erased atEnd shown n

/-- Each backspace takes the last letter or digit off the value. -/
theorem erased_of_ends (stays : spec.lead = none ∨ spec.leadFixed = true) (keys : Text)
    (ends : (Text.alphanumerics keys).length < st.slotCount ∨ st.EndsInSlot) (n : Nat) :
    let s := Buffer.erased n (Buffer.alone.type Buffer.host keys (Buffer.opened spec))
    let v := (Text.alphanumerics keys).take st.slotCount
    s.fields.text = shownLetters spec st (v.take (v.length - n)) ∧
      s.controller.clean = v.take (v.length - n) := by
  intro s v
  have value : ∀ c ∈ v, Text.isAlphanumeric c = true := fun c member =>
    Text.alphanumerics_all keys c (List.mem_of_mem_take member)
  have fits : v.length ≤ st.slotCount := List.length_take_le _ _
  have fewer : v.length < st.slotCount ∨ st.EndsInSlot :=
    ends.imp_left (Nat.lt_of_le_of_lt (List.length_take_le' _ _))
  obtain ⟨attached, text⟩ := erased_typed apart compiled strict keeps slots plain keys n
  rw [lastErased_iterate apart compiled strict keeps slots plain stays value fits fewer] at text
  exact ⟨text, clean_of_shownLetters compiled slots apart plain attached
    (fun c member => value c (List.mem_of_mem_take member))
    ((List.length_take_le' _ _).trans fits) text⟩

/-- No backspace changes anything. -/
theorem erased_of_full (keys : Text) (full : st.slotCount ≤ (Text.alphanumerics keys).length)
    (tail : ¬st.EndsInSlot) (n : Nat) :
    let s := Buffer.erased n (Buffer.alone.type Buffer.host keys (Buffer.opened spec))
    let v := (Text.alphanumerics keys).take st.slotCount
    s.fields.text = shownLetters spec st v ∧ s.controller.clean = v := by
  intro s v
  have value : ∀ c ∈ v, Text.isAlphanumeric c = true := fun c member =>
    Text.alphanumerics_all keys c (List.mem_of_mem_take member)
  have filled : v.length = st.slotCount := List.length_take_of_le full
  have fixed := lastErased_full apart compiled strict keeps slots plain value filled tail
  obtain ⟨attached, text⟩ := erased_typed apart compiled strict keeps slots plain keys n
  rw [Function.iterate_fixed fixed] at text
  exact ⟨text, clean_of_shownLetters compiled slots apart plain attached value filled.le text⟩

end

/-- After any keys, backspace pressed once for each character leaves the prefix and no clean value
exactly if a slot was left empty or the mask ends in a slot. Then each backspace takes the last
letter or digit off the value; otherwise no backspace changes anything. -/
theorem erased_exactly (spec : Spec) (st : Stencil) (compiled : spec.stencil = .ok st)
    (strict : spec.strict = true) (keeps : spec.ignorable = []) (slots : 0 < st.slotCount)
    (plain : st.Plain) (apart : spec.LeadApart st)
    (stays : spec.lead = none ∨ spec.leadFixed = true) (keys : Text) :
    let typed := Buffer.alone.type Buffer.host keys (Buffer.opened spec)
    let all := Buffer.erased typed.fields.text.length typed
    let erasable := (Text.alphanumerics keys).length < st.slotCount ∨ st.EndsInSlot
    (all.fields.text = spec.leadText ∧ all.controller.clean = [] ↔ erasable) ∧
    (erasable → ∀ n, (Buffer.erased n typed).controller.clean =
      typed.controller.clean.take (typed.controller.clean.length - n)) ∧
    (¬erasable → ∀ n, (Buffer.erased n typed).fields.text = typed.fields.text ∧
      (Buffer.erased n typed).controller.clean = typed.controller.clean) := by
  intro typed all erasable
  have shrinks (ends : erasable) (n : Nat) :=
    erased_of_ends apart compiled strict keeps slots plain stays keys ends n
  have stuck (full : ¬erasable) (n : Nat) :=
    erased_of_full apart compiled strict keeps slots plain keys
      (Nat.not_lt.mp fun fewer => full (.inl fewer)) (fun ends => full (.inr ends)) n
  have first (ends : erasable) :
      typed.controller.clean = (Text.alphanumerics keys).take st.slotCount := by
    have none := (shrinks ends 0).2
    rwa [Nat.sub_zero, List.take_length] at none
  refine ⟨⟨fun gone => ?_, fun ends => ?_⟩, fun ends n => ?_, fun full n => ?_⟩
  · by_contra full
    have nothing := (stuck full _).2.symm.trans gone.2
    rw [List.take_eq_nil_iff] at nothing
    have fewer : (Text.alphanumerics keys).length < st.slotCount := by
      rw [nothing.resolve_left (Nat.ne_of_gt slots)]
      exact slots
    exact full (.inl fewer)
  · -- The value is not longer than the text that shows it.
    have attached : Buffer.Attached spec typed :=
      (erased_typed apart compiled strict keeps slots plain keys 0).1
    have enough := (Spec.clear_sublist compiled (spec.hasNoMask_of_slots st compiled slots) plain
      typed.fields.text).length_le
    rw [← attached.clean_eq, first ends] at enough
    obtain ⟨text, clean⟩ := shrinks ends typed.fields.text.length
    rw [Nat.sub_eq_zero_of_le enough, List.take_zero] at text clean
    exact ⟨text.trans (shownLetters_nil stays), clean⟩
  · rw [first ends]
    exact (shrinks ends n).2
  · exact ⟨(stuck full n).1.trans (stuck full 0).1.symm,
      (stuck full n).2.trans (stuck full 0).2.symm⟩

/-- Three digits are typed behind a prefix, and all of them are erased. -/
theorem phone_erased :
    let spec : Spec :=
      { pattern := some ['(', '#', '#', ')', '#', '#'], lead := some ['+', '7', ' '] }
    let st : Stencil := { mask := spec.mask, placeholder := '#', slotCount := 4 }
    let typed := Buffer.alone.type Buffer.host ['9', '3', '0', '1', '2'] (Buffer.opened spec)
    let all := Buffer.erased typed.fields.text.length typed
    (spec.stencil = .ok st ∧ spec.strict = true ∧ spec.ignorable = [] ∧ 0 < st.slotCount ∧
      st.Plain ∧ spec.LeadApart st ∧ (spec.lead = none ∨ spec.leadFixed = true)) ∧
    typed.fields.text = ['+', '7', ' ', '(', '9', '3', ')', '0', '1'] ∧
    all.fields.text = ['+', '7', ' '] ∧ all.controller.clean = [] := by
  intro spec st
  have compiled : spec.stencil = .ok st := rfl
  have plain : st.Plain := by decide
  have apart : spec.LeadApart st := by
    rintro p ⟨rfl⟩
    exact ⟨'+', ['7', ' '], rfl, by decide, by decide⟩
  have gone := (erased_exactly spec st compiled rfl rfl (by decide) plain apart (.inr rfl)
    ['9', '3', '0', '1', '2']).1.mpr (.inr rfl)
  refine ⟨⟨compiled, rfl, rfl, by decide, plain, apart, .inr rfl⟩, by decide +kernel,
    gone.1.trans ?_, gone.2⟩
  rfl

/-- Behind the last slot of a full mask stands a bracket, which cannot be deleted. -/
theorem bracket_not_erased :
    let spec := Spec.ofPattern ['(', '#', '#', '#', ')']
    let st : Stencil := { mask := spec.mask, placeholder := '#', slotCount := 3 }
    let typed := Buffer.alone.type Buffer.host ['9', '3', '0'] (Buffer.opened spec)
    let all := Buffer.erased typed.fields.text.length typed
    (spec.stencil = .ok st ∧ spec.strict = true ∧ spec.ignorable = [] ∧ 0 < st.slotCount ∧
      st.Plain ∧ spec.lead = none) ∧
    all.fields.text = ['(', '9', '3', '0', ')'] ∧
    ¬(all.fields.text = [] ∧ all.controller.clean = []) := by
  intro spec st typed all
  have text : all.fields.text = ['(', '9', '3', '0', ')'] := by decide +kernel
  refine ⟨⟨rfl, rfl, rfl, by decide, by decide, rfl⟩, text, fun gone => ?_⟩
  rw [text] at gone
  exact List.cons_ne_nil _ _ gone.1

end MaskedInput.Live
