import MaskedInput.Proofs.Clearing.LeadApart
import MaskedInput.Proofs.Live.Keystrokes
import MaskedInput.Proofs.Live.Shown

/-!
# Typing at the end of a text

While a user types at the end, the caret stays there, and symbols change nothing; so all that typing
does is to put one letter or digit after another behind the text and to show what should be shown
then. Behind a prefix that stands apart from the mask, this gives what formatting all the keys at
once gives: after each key the letters and digits that found a slot are still in the text, and the
others, which did not, would not find one at once either.
-/
namespace MaskedInput.Live
namespace Buffer

/-- The caret is behind the last character. -/
def AtEnd (b : Buffer) : Prop := b.caret = b.text.length

theorem shown_postponed (spec : Spec) (b : Buffer) : (b.shown spec).postponed = b.postponed := by
  unfold shown
  split <;> rfl

theorem AtEnd.shown {b : Buffer} (atEnd : b.AtEnd) (spec : Spec) : (b.shown spec).AtEnd := by
  unfold Buffer.shown
  split
  · exact atEnd
  · rfl

/-- The caret moves that a controller asks for go to the end of a text. -/
theorem caretMove_position {spec : Spec} {t : Text} {move : CaretMove}
    (asked : caretMove spec t = some move) : move.position = t.length := by
  unfold caretMove at asked
  split at asked
  · next p _ =>
    split at asked
    · next same =>
      cases asked
      rw [same]
    · cases asked
  · cases asked

theorem AtEnd.updated {b : Buffer} (atEnd : b.AtEnd) (settled : b.postponed = []) (spec : Spec) :
    (b.updated spec).AtEnd := by
  have still : (b.shown spec).settle = b.shown spec :=
    settle_of_settled ((shown_postponed spec b).trans settled)
  unfold Buffer.updated
  cases asked : caretMove spec (fieldText spec b.text) with
  | none =>
    rw [postpone, still]
    exact atEnd.shown spec
  | some move =>
    rw [settle_postpone, still, moveCaret, AtEnd, caretMove_position asked, shown_text]
    exact Nat.min_self _

/-- A key that is a letter or digit goes behind the text; any other changes nothing. -/
theorem Attached.insert_key {spec : Spec} {s : Stage Buffer} (attached : Attached spec s)
    (atEnd : s.fields.AtEnd) (key : Char) :
    let after := alone.insert host [key] s
    Attached spec after ∧ after.fields.AtEnd ∧ after.fields.text =
      if Text.isAlphanumeric key then fieldText spec (s.fields.text ++ [key])
      else s.fields.text := by
  intro after
  by_cases letter : Text.isAlphanumeric key = true
  · have taken : accepted [key] = [key] := by simp [accepted, letter]
    have inserted : after = alone.edit host s.fields.caret 0 [key] s := by
      rw [← taken]
      exact insert_accepted attached [key] (by simp [taken])
    have caret : s.fields.caret = s.fields.text.length := atEnd
    have text : (s.fields.exchange s.fields.caret 0 [key]).text = s.fields.text ++ [key] := by
      simp [exchange, caret]
    have behind : (s.fields.exchange s.fields.caret 0 [key]).AtEnd := by
      rw [AtEnd, text, List.length_append, ← caret]
      rfl
    obtain ⟨still, fields⟩ := edit_attached attached s.fields.caret 0 [key]
    rw [inserted, fields, updated_text, text, if_pos letter]
    exact ⟨still, behind.updated attached.postponed spec, rfl⟩
  · have refused : accepted [key] = [] := by simp [accepted, letter]
    have unchanged : after = s := insert_refused attached [key] refused
    rw [unchanged, if_neg letter]
    exact ⟨attached, atEnd, rfl⟩

end Buffer

/-- What a field shows after letters and digits were typed behind its text, one by one. -/
def typedBehind (spec : Spec) (t letters : Text) : Text :=
  letters.foldl (fun shown key => fieldText spec (shown ++ [key])) t

theorem typedBehind_append_singleton (spec : Spec) (t letters : Text) (key : Char) :
    typedBehind spec t (letters ++ [key]) =
      fieldText spec (typedBehind spec t letters ++ [key]) := by
  simp only [typedBehind, List.foldl_append, List.foldl_cons, List.foldl_nil]

/-- Typing keys at the end. -/
theorem Buffer.Attached.type_keys {spec : Spec} {s : Stage Buffer} (attached : Attached spec s)
    (atEnd : s.fields.AtEnd) (keys : Text) :
    let after := alone.type host keys s
    Attached spec after ∧ after.fields.AtEnd ∧
      after.fields.text = typedBehind spec s.fields.text (Text.alphanumerics keys) := by
  induction keys generalizing s with
  | nil => exact ⟨attached, atEnd, rfl⟩
  | cons key keys ih =>
    obtain ⟨still, behind, text⟩ := attached.insert_key atEnd key
    obtain ⟨observes, last, typed⟩ := ih still behind
    refine ⟨observes, last, typed.trans ?_⟩
    by_cases letter : Text.isAlphanumeric key = true
    · rw [text, if_pos letter, Text.alphanumerics, Text.alphanumerics,
        List.filter_cons_of_pos letter]
      rfl
    · rw [text, if_neg letter, Text.alphanumerics, Text.alphanumerics,
        List.filter_cons_of_neg letter]

/-- A fresh buffer, with the caret at the end of what it shows. -/
theorem Buffer.opened_atEnd (spec : Spec) :
    Attached spec (opened spec) ∧ (opened spec).fields.AtEnd ∧
      (opened spec).fields.text = fieldText spec [] := by
  obtain ⟨attached, fields⟩ := opened_attached spec
  have front : AtEnd { controlled := true } := rfl
  refine ⟨attached, ?_, ?_⟩
  · rw [fields]
    exact front.updated rfl spec
  · rw [fields, updated_text]

/-- What a field shows after these letters and digits were typed into it. -/
def shownLetters (spec : Spec) (st : Stencil) (v : Text) : Text :=
  if v = [] then fieldText spec []
  else spec.leadText ++ fillSlots st.placeholder st.pattern v

/-- Behind what is shown, letters and digits follow the filled mask once the prefix is dropped. -/
theorem dropLead_shownLetters {spec : Spec} {st : Stencil} (apart : spec.LeadApart st)
    (slot : st.placeholder ∈ st.pattern) (v : Text) {letters : Text}
    (value : ∀ c ∈ letters, Text.isAlphanumeric c = true) :
    spec.dropLead (shownLetters spec st v ++ letters) =
      fillSlots st.placeholder st.pattern v ++ letters := by
  unfold shownLetters
  split
  · next empty =>
    rw [empty, fillSlots_nil_of_mem slot, List.nil_append, fieldText_nil]
    split
    · exact Spec.dropLead_leadText spec letters
    · exact apart.dropLead_letters value
  · rw [List.append_assoc, Spec.dropLead_leadText]

/-- Clearing what is shown of letters and digits recovers those that found a slot. -/
theorem clear_shownLetters {spec : Spec} {st : Stencil} (apart : spec.LeadApart st)
    (compiled : spec.stencil = .ok st) (slots : 0 < st.slotCount) (plain : st.Plain) {v : Text}
    (value : ∀ c ∈ v, Text.isAlphanumeric c = true) :
    spec.clear (shownLetters spec st v) = v.take st.slotCount := by
  have dropped := dropLead_shownLetters apart (spec.mem_pattern_of_slots st compiled slots) v
    (List.forall_mem_nil _)
  rw [List.append_nil, List.append_nil] at dropped
  exact Spec.clear_of_dropLead compiled (spec.hasNoMask_of_slots st compiled slots) plain value
    dropped

section

variable {spec : Spec} {st : Stencil} (apart : spec.LeadApart st) (compiled : spec.stencil = .ok st)
  (strict : spec.strict = true) (keeps : spec.ignorable = []) (slots : 0 < st.slotCount)
  (plain : st.Plain)
include apart compiled strict keeps slots plain

/-- A field whose text has letters or digits behind the prefix shows them in the mask, and the prefix
in front. -/
theorem fieldText_apart {t : Text} (value : Text.alphanumerics (spec.dropLead t) ≠ []) :
    fieldText spec t = spec.leadText ++
      fillSlots st.placeholder st.pattern (Text.alphanumerics (spec.dropLead t)) := by
  have usable := spec.hasNoMask_of_slots st compiled slots
  have mask : st.pattern ≠ [] := List.ne_nil_of_mem (spec.mem_pattern_of_slots st compiled slots)
  have recovered := Spec.alphanumerics_clear compiled usable plain t
  have nonempty : spec.clear t ≠ [] := by
    intro empty
    rw [empty] at recovered
    exact value recovered.symm
  have formatted := apart.format_eq compiled usable strict nonempty
  rw [keeps, dropFirstMatching_nil, recovered] at formatted
  have shows : spec.format (spec.clear t) ≠ [] := by
    rw [formatted]
    exact List.append_ne_nil_of_right_ne_nil _ (fillSlots_ne_nil mask value)
  rw [fieldText_of_format shows, formatted]

/-- However letters and digits are typed, all of them are shown as if they had come at once. -/
theorem typedBehind_apart (v : Text) (value : ∀ c ∈ v, Text.isAlphanumeric c = true) :
    typedBehind spec (fieldText spec []) v = shownLetters spec st v := by
  induction v using List.reverseRecOn with
  | nil => rfl
  | append_singleton v key ih =>
    have letter : ∀ c ∈ [key], Text.isAlphanumeric c = true := fun c member =>
      value c (List.mem_append_right v member)
    have earlier : ∀ c ∈ v, Text.isAlphanumeric c = true := fun c member =>
      value c (List.mem_append_left [key] member)
    have behind := dropLead_shownLetters apart (spec.mem_pattern_of_slots st compiled slots) v letter
    have letters : Text.alphanumerics (fillSlots st.placeholder st.pattern v ++ [key]) =
        v.take (st.pattern.count st.placeholder) ++ [key] := by
      rw [Text.alphanumerics_append, plain.alphanumerics_fillSlots v earlier,
        Text.alphanumerics_of_all letter]
    have shown := fieldText_apart apart compiled strict keeps slots plain
      (t := shownLetters spec st v ++ [key]) (by simp [behind, letters])
    -- A letter that finds no slot now would not have found one behind all the others either.
    rw [typedBehind_append_singleton, ih earlier, shown, behind, letters, fillSlots_take_append,
      shownLetters, if_neg (by simp)]

end

/-- Behind a prefix that begins with neither a letter or digit nor what the mask begins with, typing
key by key shows what formatting all keys shows, with the caret at its end, and the clean value has
the letters and digits that found a slot. As long as there are none, the field shows the prefix if it
is to stay, and nothing otherwise. -/
theorem type_eq_format (spec : Spec) (st : Stencil) (c : Char) (rest : Text)
    (compiled : spec.stencil = .ok st) (strict : spec.strict = true) (keeps : spec.ignorable = [])
    (slots : 0 < st.slotCount) (plain : st.Plain) (lead : spec.lead = some (c :: rest))
    (symbol : ¬Text.isAlphanumeric c = true) (other : st.pattern.head? ≠ some c) (keys : Text) :
    let s := Buffer.alone.type Buffer.host keys (Buffer.opened spec)
    s.fields.text =
      (if Text.alphanumerics keys = [] then if spec.leadFixed then c :: rest else []
        else spec.format keys) ∧
    s.fields.caret = s.fields.text.length ∧
    s.controller.clean = (Text.alphanumerics keys).take st.slotCount := by
  intro s
  have apart : spec.LeadApart st := by
    intro p found
    rw [lead, Option.some.injEq] at found
    exact ⟨c, rest, found.symm, symbol, other⟩
  have value := Text.alphanumerics_all keys
  obtain ⟨attached, atEnd, empty⟩ := Buffer.opened_atEnd spec
  obtain ⟨still, behind, typed⟩ := attached.type_keys atEnd keys
  change Buffer.Attached spec s at still
  change s.fields.text = _ at typed
  rw [empty, typedBehind_apart apart compiled strict keeps slots plain _ value] at typed
  refine ⟨?_, behind, ?_⟩
  · rw [typed, shownLetters, fieldText_nil, Spec.leadText_of_some lead]
    split
    · rfl
    · next some =>
      have nonempty : keys ≠ [] := by
        rintro rfl
        exact some rfl
      rw [apart.format_eq compiled (spec.hasNoMask_of_slots st compiled slots) strict nonempty,
        keeps, dropFirstMatching_nil, Spec.leadText_of_some lead]
  · rw [still.clean_eq, typed]
    exact clear_shownLetters apart compiled slots plain value

/-- Four digits and a dash are typed into a mask with three slots. -/
theorem phone_typed :
    let spec : Spec := { pattern := some ['(', '#', '#', '#', ')'], lead := some ['+', '7', ' '] }
    let st : Stencil := { mask := spec.mask, placeholder := '#', slotCount := 3 }
    let s := Buffer.alone.type Buffer.host ['9', '-', '3', '0', '4'] (Buffer.opened spec)
    (spec.stencil = .ok st ∧ spec.strict = true ∧ spec.ignorable = [] ∧ 0 < st.slotCount ∧
      st.Plain ∧ spec.lead = some ['+', '7', ' '] ∧ ¬Text.isAlphanumeric '+' = true ∧
      st.pattern.head? ≠ some '+') ∧
    s.fields.text = ['+', '7', ' ', '(', '9', '3', '0', ')'] ∧
    s.controller.clean = ['9', '3', '0'] := by
  intro spec st
  have compiled : spec.stencil = .ok st := rfl
  have plain : st.Plain := by decide
  have symbol : ¬Text.isAlphanumeric '+' = true := by decide
  have typed := type_eq_format spec st '+' ['7', ' '] compiled rfl rfl (by decide) plain rfl symbol
    (by decide) ['9', '-', '3', '0', '4']
  refine ⟨⟨compiled, rfl, rfl, by decide, plain, rfl, symbol, by decide⟩, typed.1.trans ?_,
    typed.2.2.trans ?_⟩
  · decide
  · decide

end MaskedInput.Live
