import MaskedInput.Proofs.Clearing.Behind
import MaskedInput.Proofs.Live.Typing

/-!
# Typing past a full field

Letters and digits for which no slot is left should be dropped under a strict mask, and should be
added to the value under a mask that is not strict. Without a prefix and with no literal letter
beside a slot, this holds of all values and all further keys exactly in two cases: if no literal
letter stands before the first slot and nothing stands behind the last one, or under a strict mask
if no literal letter stands before the last slot. In all other masks some value is damaged by the
next key, or was never taken up.
-/
namespace MaskedInput.Live

section

variable {spec : Spec} {st : Stencil} (compiled : spec.stencil = .ok st) (bare : spec.lead = none)
  (keeps : spec.ignorable = []) (slots : 0 < st.slotCount)
include compiled bare

theorem fieldText_overlong (lenient : spec.strict = false) {t : Text}
    (long : st.slotCount < (spec.clear t).length) : fieldText spec t = spec.clear t := by
  rw [fieldText_of_none bare, spec.format_overlong st compiled lenient _ long]

include keeps slots

theorem fieldText_bare {t : Text}
    (short : spec.strict = true ∨ (spec.clear t).length ≤ st.slotCount) :
    fieldText spec t =
      fillSlots st.placeholder st.pattern (Text.alphanumerics (spec.clear t)) := by
  rw [fieldText_of_none bare, spec.format_bare st compiled bare keeps slots _ short]

/-- Under a strict mask a field shows a full value again if its letters still begin with it. -/
theorem fieldText_full (strict : spec.strict = true) {t v : Text} (full : v.length = st.slotCount)
    (begins : v <+: Text.alphanumerics (spec.clear t)) :
    fieldText spec t = fillSlots st.placeholder st.pattern v := by
  obtain ⟨more, letters⟩ := begins
  rw [(spec.stencil_success st compiled).2] at full
  rw [fieldText_bare compiled bare keeps slots (.inl strict), ← letters, ← fillSlots_take,
    ← full, List.take_left]

variable (apart : st.SlotsApart)
include apart

/-- Typing up to the last slot fills the mask, if no literal letter stands before the first. -/
theorem typedBehind_opensPlain (opens : st.OpensPlain) {v : Text}
    (value : ∀ c ∈ v, Text.isAlphanumeric c = true) (fits : v.length ≤ st.slotCount) :
    typedBehind spec [] v = fillSlots st.placeholder st.pattern v := by
  induction v using List.reverseRecOn with
  | nil => exact (fillSlots_nil_of_mem (spec.mem_pattern_of_slots st compiled slots)).symm
  | append_singleton v key ih =>
    obtain ⟨earlier, letter⟩ := List.forall_mem_append.mp value
    have fewer : v.length < st.slotCount := by rwa [List.length_append] at fits
    have clean := Spec.clear_fillSlots_append compiled bare slots apart opens earlier letter
      fewer.le (.inl fewer)
    rw [typedBehind_append_singleton, ih earlier fewer.le,
      fieldText_bare compiled bare keeps slots (.inr (by rw [clean]; exact fits)), clean,
      Text.alphanumerics_of_all value]

/-- Under a strict mask no further key is shown if the full value is not damaged by one. -/
theorem typedBehind_full (strict : spec.strict = true)
    (harmless : (st.OpensPlain ∧ st.EndsInSlot) ∨ st.PlainToLastSlot) {v w : Text}
    (value : ∀ c ∈ v, Text.isAlphanumeric c = true) (full : v.length = st.slotCount)
    (letters : ∀ c ∈ w, Text.isAlphanumeric c = true) :
    typedBehind spec (fillSlots st.placeholder st.pattern v) w =
      fillSlots st.placeholder st.pattern v := by
  induction w using List.reverseRecOn with
  | nil => rfl
  | append_singleton w key ih =>
    obtain ⟨earlier, -⟩ := List.forall_mem_append.mp letters
    rw [typedBehind_append_singleton, ih earlier]
    exact fieldText_full compiled bare keeps slots strict full
      (Spec.prefix_clear_full compiled bare slots apart harmless value full (letters key (by simp)))

omit keeps in
/-- Under a mask that is not strict and ends in a slot, further keys are added to the value, which
is then shown without the mask. -/
theorem typedBehind_overlong (lenient : spec.strict = false) (opens : st.OpensPlain)
    (ends : st.EndsInSlot) {v w : Text} (value : ∀ c ∈ v, Text.isAlphanumeric c = true)
    (full : v.length = st.slotCount) (letters : ∀ c ∈ w, Text.isAlphanumeric c = true)
    (more : w ≠ []) : typedBehind spec (fillSlots st.placeholder st.pattern v) w = v ++ w := by
  induction w using List.reverseRecOn with
  | nil => exact absurd rfl more
  | append_singleton w key ih =>
    obtain ⟨earlier, letter⟩ := List.forall_mem_append.mp letters
    have clean : spec.clear (typedBehind spec (fillSlots st.placeholder st.pattern v) w ++ [key]) =
        v ++ (w ++ [key]) := by
      by_cases first : w = []
      · rw [first]
        exact Spec.clear_fillSlots_append compiled bare slots apart opens value letter full.le
          (.inr ends)
      · rw [ih earlier first, List.append_assoc]
        exact Spec.clear_letters_of_opensPlain compiled bare slots opens
          (List.forall_mem_append.mpr ⟨value, letters⟩)
    have long : st.slotCount < (v ++ (w ++ [key])).length := by
      rw [List.length_append, List.length_append, List.length_singleton]
      omega
    rw [typedBehind_append_singleton, fieldText_overlong compiled bare lenient (by rwa [clean]),
      clean]

end

/-- What typing further letters and digits behind a full value should do. -/
def FullKept (spec : Spec) (st : Stencil) : Prop :=
  ∀ v w : Text, (∀ c ∈ v, Text.isAlphanumeric c = true) → v.length = st.slotCount →
    (∀ c ∈ w, Text.isAlphanumeric c = true) → w ≠ [] →
    let full := typedBehind spec [] v
    if spec.strict then typedBehind spec full w = full
    else spec.clear (typedBehind spec full w) = v ++ w

section

variable {spec : Spec} {st : Stencil} (compiled : spec.stencil = .ok st) (bare : spec.lead = none)
  (keeps : spec.ignorable = []) (slots : 0 < st.slotCount)
include compiled bare keeps slots

/-- A letter that is in no literal is shown as the first of the value. -/
theorem fieldText_fresh {x : Char} (letter : Text.isAlphanumeric x = true) (fresh : x ∉ st.pattern)
    (short : spec.strict = true) :
    fieldText spec [x] = fillSlots st.placeholder st.pattern [x] := by
  have letters : ∀ c ∈ [x], Text.isAlphanumeric c = true := by simpa using letter
  obtain ⟨front, back, split, first⟩ :=
    List.eq_append_cons_of_mem (spec.mem_pattern_of_slots st compiled slots)
  have clean : spec.clear [x] = [x] := by
    refine Spec.clear_letters compiled bare slots split letters fun m member => ?_
    refine ⟨fun slot => first (slot ▸ member), fun same => fresh ?_⟩
    rw [split, ← List.mem_singleton.mp same]
    exact List.mem_append_left _ member
  rw [fieldText_bare compiled bare keeps slots (.inl short), clean,
    Text.alphanumerics_of_all letters]

/-- A letter that a literal before the first slot takes can be typed as often as there are slots,
and nothing is shown of it. -/
theorem FullKept.opensPlain (kept : FullKept spec st) : st.OpensPlain := by
  by_contra closed
  obtain ⟨c, letter, swallowed⟩ := Spec.exists_swallowed compiled bare slots closed
  have nothing (n : Nat) : typedBehind spec [] (List.replicate n c) = [] := by
    induction n with
    | zero => rfl
    | succ n ih =>
      rw [List.replicate_succ', typedBehind_append_singleton, ih, List.nil_append,
        fieldText_of_none bare, swallowed, spec.format_nil]
  have typed (x : Char) (isLetter : Text.isAlphanumeric x = true) :=
    kept (List.replicate st.slotCount c) [x]
      (Text.replicate_letters letter _) List.length_replicate
      (by simpa using isLetter) (List.cons_ne_nil x [])
  simp only [nothing] at typed
  cases strict : spec.strict with
  | true =>
    -- Another letter is shown, since it does find a slot.
    obtain ⟨x, isLetter, fresh⟩ :=
      Text.exists_letter_not_mem (spec.length_pattern_of_stencil compiled)
    have hidden := typed x isLetter
    rw [strict, if_pos rfl] at hidden
    have shown := fieldText_fresh compiled bare keeps slots isLetter fresh strict
    exact fillSlots_ne_nil (List.ne_nil_of_mem (spec.mem_pattern_of_slots st compiled slots))
      (List.cons_ne_nil x []) (shown.symm.trans hidden)
  | false =>
    have read := typed c letter
    have again : typedBehind spec [] [c] = [] := nothing 1
    rw [strict, if_neg Bool.false_ne_true, again, Spec.clear, spec.clearBy_nil] at read
    simp at read

variable (apart : st.SlotsApart)
include apart

/-- A literal letter before a slot would count as a letter of the value, if a letter that is in no
literal is typed behind a full value that has no other letters. -/
theorem plainToLastSlot_of_kept (strict : spec.strict = true) {front : Text} {m x : Char}
    (split : st.pattern = front ++ [m]) (literal : m ≠ st.placeholder)
    (letter : Text.isAlphanumeric x = true) (fresh : x ∉ st.pattern)
    (kept : fieldText spec
        (fillSlots st.placeholder st.pattern (List.replicate st.slotCount x) ++ [x]) =
      fillSlots st.placeholder st.pattern (List.replicate st.slotCount x)) :
    st.PlainToLastSlot := by
  have count := (spec.stencil_success st compiled).2
  have value := Text.replicate_letters letter st.slotCount
  have full : (List.replicate st.slotCount x).length = st.slotCount := List.length_replicate
  have other : x ≠ m := fun same => fresh (by simp [split, same])
  rw [fieldText_bare compiled bare keeps slots (.inl strict),
    Spec.clear_fillSlots_full compiled bare slots apart split literal value full, if_neg other,
    Text.alphanumerics_append, count] at kept
  exact Stencil.plainToLastSlot_iff.mpr (not_letterBeforeSlot_of_refilled letter fresh kept)

omit keeps in
/-- Under a mask that is not strict, a text that cannot be read is left as it is, and its literals
are taken for a part of the value. -/
theorem clear_fieldText_unread (lenient : spec.strict = false) {front v : Text} {m x : Char}
    (split : st.pattern = front ++ [m]) (literal : m ≠ st.placeholder)
    (value : ∀ c ∈ v, Text.isAlphanumeric c = true) (full : v.length = st.slotCount)
    (other : x ≠ m) :
    spec.clear (fieldText spec (fillSlots st.placeholder st.pattern v ++ [x])) ≠ v ++ [x] := by
  have unread := Spec.clear_fillSlots_full compiled bare slots apart split literal value full x
  rw [if_neg other] at unread
  have longer : v.length < (fillSlots st.placeholder st.pattern v).length :=
    length_lt_fillSlots (by simp [split]) literal
      (full.trans (spec.stencil_success st compiled).2)
  have long : st.slotCount < (fillSlots st.placeholder st.pattern v ++ [x]).length := by
    rw [List.length_append, ← full]
    omega
  rw [fieldText_overlong compiled bare lenient (by rwa [unread]), unread, unread]
  intro same
  rw [List.append_cancel_right same] at longer
  exact Nat.lt_irrefl _ longer

/-- With a literal behind the last slot, a letter that is in no literal cannot be read behind a
full value, and only under a strict mask without literal letters before the last slot this does no
harm. -/
theorem FullKept.plainToLastSlot (kept : FullKept spec st) (tail : ¬st.EndsInSlot) :
    spec.strict = true ∧ st.PlainToLastSlot := by
  have opens := kept.opensPlain compiled bare keeps slots
  obtain ⟨front, m, split, literal⟩ :=
    Stencil.exists_append_literal (spec.mem_pattern_of_slots st compiled slots) tail
  obtain ⟨x, letter, fresh⟩ :=
    Text.exists_letter_not_mem (spec.length_pattern_of_stencil compiled)
  have other : x ≠ m := fun same => fresh (by simp [split, same])
  have value := Text.replicate_letters letter st.slotCount
  have full : (List.replicate st.slotCount x).length = st.slotCount := List.length_replicate
  have next := kept _ [x] value full (by simpa using letter) (List.cons_ne_nil x [])
  rw [typedBehind_opensPlain compiled bare keeps slots apart opens value full.le] at next
  cases strict : spec.strict with
  | true =>
    rw [strict, if_pos rfl] at next
    exact ⟨rfl, plainToLastSlot_of_kept compiled bare keeps slots apart strict split literal letter
      fresh next⟩
  | false =>
    rw [strict, if_neg Bool.false_ne_true] at next
    exact absurd next
      (clear_fieldText_unread compiled bare slots apart strict split literal value full other)

end

theorem fullKept_iff {spec : Spec} {st : Stencil} (compiled : spec.stencil = .ok st)
    (bare : spec.lead = none) (keeps : spec.ignorable = []) (slots : 0 < st.slotCount)
    (apart : st.SlotsApart) : FullKept spec st ↔
      (st.OpensPlain ∧ st.EndsInSlot) ∨ (spec.strict = true ∧ st.PlainToLastSlot) := by
  constructor
  · intro kept
    by_cases ends : st.EndsInSlot
    · exact .inl ⟨kept.opensPlain compiled bare keeps slots, ends⟩
    · exact .inr (kept.plainToLastSlot compiled bare keeps slots apart ends)
  · intro harmless v w value full letters more
    have slot := spec.mem_pattern_of_slots st compiled slots
    have opens : st.OpensPlain := harmless.elim And.left fun both => both.2.opensPlain slot
    have filled := typedBehind_opensPlain compiled bare keeps slots apart opens value full.le
    cases strict : spec.strict with
    | true =>
      simp only [filled, if_true]
      exact typedBehind_full compiled bare keeps slots apart strict (harmless.imp_right And.right)
        value full letters
    | false =>
      have ends := (harmless.resolve_right fun both => by simp [strict] at both).2
      simp only [filled, Bool.false_eq_true, if_false]
      rw [typedBehind_overlong compiled bare slots apart strict opens ends value full letters more]
      exact Spec.clear_letters_of_opensPlain compiled bare slots opens
        (List.forall_mem_append.mpr ⟨value, letters⟩)

/-- Letters and digits are typed into a fresh buffer, and then some more. -/
theorem Buffer.typed_further {spec : Spec} (bare : spec.lead = none) {v w : Text}
    (value : ∀ c ∈ v, Text.isAlphanumeric c = true)
    (letters : ∀ c ∈ w, Text.isAlphanumeric c = true) :
    let full := alone.type host v (opened spec)
    let after := alone.type host w full
    (full.fields.text = typedBehind spec [] v ∧
      full.controller.clean = spec.clear (typedBehind spec [] v)) ∧
    (after.fields.text = typedBehind spec (typedBehind spec [] v) w ∧
      after.controller.clean = spec.clear (typedBehind spec (typedBehind spec [] v) w)) := by
  intro full after
  obtain ⟨fresh, front, empty⟩ := opened_atEnd spec
  obtain ⟨attached, atEnd, text⟩ := fresh.type_keys front v
  obtain ⟨still, -, further⟩ := attached.type_keys atEnd w
  have nothing : fieldText spec [] = [] := by
    rw [fieldText_nil_of_stays (.inl bare), Spec.leadText, bare, Option.getD_none]
  rw [empty, nothing, Text.alphanumerics_of_all value] at text
  rw [text, Text.alphanumerics_of_all letters] at further
  exact ⟨⟨text, attached.clean_eq.trans (congrArg spec.clear text)⟩,
    further, still.clean_eq.trans (congrArg spec.clear further)⟩

/-- The masks under which typing past a full field does no harm, for a specification without prefix
and ignorable texts and with no literal letter beside a slot. Whatever letters and digits fill the
slots and whatever follows them, a strict mask drops what follows, and one that is not strict adds
it to the value: this holds exactly if no literal letter stands before the first slot and nothing
stands behind the last, or if the mask is strict and no literal letter stands before the last slot.
-/
theorem full_value_kept_exactly (spec : Spec) (st : Stencil) (compiled : spec.stencil = .ok st)
    (bare : spec.lead = none) (keeps : spec.ignorable = []) (slots : 0 < st.slotCount)
    (apart : st.SlotsApart) :
    (∀ v w : Text, (∀ c ∈ v, Text.isAlphanumeric c = true) → v.length = st.slotCount →
      (∀ c ∈ w, Text.isAlphanumeric c = true) → w ≠ [] →
      let full := Buffer.alone.type Buffer.host v (Buffer.opened spec)
      let after := Buffer.alone.type Buffer.host w full
      if spec.strict then after.fields.text = full.fields.text ∧
        after.controller.clean = full.controller.clean
      else after.controller.clean = v ++ w) ↔
    (st.OpensPlain ∧ st.EndsInSlot) ∨ (spec.strict = true ∧ st.PlainToLastSlot) := by
  rw [← fullKept_iff compiled bare keeps slots apart]
  refine forall_congr' fun v => forall_congr' fun w => forall_congr' fun value =>
    imp_congr_right fun full => forall_congr' fun letters => imp_congr_right fun more => ?_
  obtain ⟨⟨text, clean⟩, further, value⟩ := Buffer.typed_further bare value letters
  simp only [text, clean, further, value]
  cases spec.strict with
  | true =>
    simp only [if_true]
    exact ⟨And.left, fun same => ⟨same, congrArg spec.clear same⟩⟩
  | false => exact Iff.rfl

/-- A digit too many is dropped behind a bracket. -/
theorem fourth_digit_dropped :
    let spec := Spec.ofPattern ['(', '#', '#', '#', ')']
    let st : Stencil := { mask := spec.mask, placeholder := '#', slotCount := 3 }
    let full := Buffer.alone.type Buffer.host ['9', '3', '0'] (Buffer.opened spec)
    (spec.stencil = .ok st ∧ spec.strict = true ∧ spec.lead = none ∧ spec.ignorable = [] ∧
      0 < st.slotCount ∧ st.SlotsApart) ∧
    full.fields.text = ['(', '9', '3', '0', ')'] ∧
    (Buffer.alone.type Buffer.host ['1'] full).fields.text = full.fields.text := by
  intro spec st
  have compiled : spec.stencil = .ok st := rfl
  have plain : st.Plain := by decide
  have apart : st.SlotsApart := by decide
  have value : ∀ c ∈ ['9', '3', '0'], Text.isAlphanumeric c = true := List.all_eq_true.mp rfl
  have letter : ∀ c ∈ ['1'], Text.isAlphanumeric c = true := List.all_eq_true.mp rfl
  have kept := (full_value_kept_exactly spec st compiled rfl rfl (by decide) apart).mpr
    (.inr ⟨rfl, plain.plainToLastSlot⟩) ['9', '3', '0'] ['1'] value rfl letter
    (List.cons_ne_nil _ _)
  exact ⟨⟨compiled, rfl, rfl, rfl, by decide, apart⟩, by decide +kernel, kept.1⟩

/-- Behind a bracket, a digit too many makes a literal digit of the mask part of the value. -/
theorem literal_seven_taken_up :
    let spec := Spec.ofPattern ['+', '7', ' ', '(', '#', '#', '#', ')']
    let st : Stencil := { mask := spec.mask, placeholder := '#', slotCount := 3 }
    let full := Buffer.alone.type Buffer.host ['9', '3', '0'] (Buffer.opened spec)
    let after := Buffer.alone.type Buffer.host ['1'] full
    (spec.stencil = .ok st ∧ spec.strict = true ∧ spec.lead = none ∧ spec.ignorable = [] ∧
      0 < st.slotCount ∧ st.SlotsApart) ∧
    full.controller.clean = ['9', '3', '0'] ∧ after.controller.clean = ['7', '9', '3'] ∧
    ¬(after.fields.text = full.fields.text ∧ after.controller.clean = full.controller.clean) := by
  intro spec st full after
  have before : full.controller.clean = ['9', '3', '0'] := by decide +kernel
  have damaged : after.controller.clean = ['7', '9', '3'] := by decide +kernel
  refine ⟨⟨rfl, rfl, rfl, rfl, by decide, by decide⟩, before, damaged, fun kept => ?_⟩
  have same := kept.2
  rw [before, damaged] at same
  exact absurd same (by decide)

end MaskedInput.Live
