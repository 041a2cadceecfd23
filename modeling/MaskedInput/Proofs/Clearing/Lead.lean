import MaskedInput.Proofs.Clearing.Plain

/-!
# Masks with a prefix in front

Clearing a formatted text should give the same with a prefix and without. It does where formatting
put the prefix in front, since clearing takes the same away. But formatting leaves the prefix out if
the text or the pattern already starts with it, and clearing takes it away nevertheless, together
with what it stands for in the mask. For strict masks without ignorable texts this module says
exactly when that does harm.
-/
namespace MaskedInput

/-- The specification with the prefix taken out. -/
def Spec.withoutLead (spec : Spec) : Spec := { spec with lead := none }

/-- Whether the prefix makes no difference to what is recovered from the formatted text. -/
def Spec.LeadTransparent (spec : Spec) (mode : ClearMode) (t : Text) : Prop :=
  spec.clearBy mode (spec.format t) =
    spec.withoutLead.clearBy mode (spec.withoutLead.format t)

/-- Without slots the value is empty, whichever way it is read. -/
theorem Stencil.extract_of_no_slots {st : Stencil} (none : st.placeholder ∉ st.pattern)
    (mode : ClearMode) {t v : Text} (read : st.extract mode t = some v) : v = [] := by
  cases mode with
  | pattern =>
    rw [st.extract_pattern] at read
    refine Cut.value?_of_no_slots (fun member => none ?_) read
    obtain ⟨m, inside, equal⟩ := List.mem_map.mp member
    by_cases slot : m = st.placeholder
    · exact slot ▸ inside
    · simp [Element.ofChar_literal slot] at equal
  | positional =>
    rw [st.extract_positional, charsOnSlots_of_not_mem none] at read
    obtain ⟨_, _, rfl⟩ := Option.map_eq_some_iff.mp read
    rfl

/-- Of a mask with one slot filled, a piece without slots is taken away in front. Then the letter on
the slot is not found by position any more. -/
theorem Stencil.Plain.letter_displaced {st : Stencil} (plain : st.Plain)
    (slot : st.placeholder ∈ st.pattern) {c : Char} (letter : Text.isAlphanumeric c = true)
    {p left : Text} (proper : p ≠ []) (foreign : Text.alphanumerics p = [])
    (whole : p ++ left = fillSlots st.placeholder st.pattern [c]) :
    c ∉ charsOnSlots st.placeholder st.pattern left := by
  obtain ⟨front, back, pattern, noSlot⟩ := List.eq_append_cons_of_mem slot
  have literals := st.plain_iff.mp plain
  rw [pattern] at literals whole ⊢
  rw [fillSlots_append_of_not_mem noSlot _ (by simp), fillSlots_slot] at whole
  have lettersOfLead : c ∉ p := fun member => by
    have kept : c ∈ Text.alphanumerics p := List.mem_filter.mpr ⟨member, letter⟩
    simp [foreign] at kept
  -- What is taken away ends before the slot.
  obtain ⟨between, rfl, rfl⟩ : ∃ between, front = p ++ between ∧
      left = between ++ c :: fillSlots st.placeholder back [] := by
    rcases List.append_eq_append_iff.mp whole with ⟨between, before, after⟩ | ⟨beyond, before, after⟩
    · exact ⟨between, before, after⟩
    · cases beyond with
      | nil => exact ⟨[], by simpa using before.symm, by simpa using after.symm⟩
      | cons d beyond =>
        rw [List.cons_append, List.cons.injEq] at after
        exact absurd (by simp [before, after.1]) lettersOfLead
  -- So the letter now stands on a literal before the slot.
  intro member
  have shorter : between.length + 1 ≤ (p ++ between).length := by
    have := List.length_pos_iff.mpr proper
    rw [List.length_append]
    omega
  have same : (between ++ [c]).length = ((p ++ between).take (between.length + 1)).length := by
    rw [List.length_take, Nat.min_eq_left shorter]
    simp
  rw [show p ++ between ++ st.placeholder :: back = (p ++ between).take (between.length + 1) ++
      ((p ++ between).drop (between.length + 1) ++ st.placeholder :: back) by
        rw [← List.append_assoc, List.take_append_drop],
    List.append_cons between c, charsOnSlots_append same,
    charsOnSlots_of_not_mem fun inside => noSlot (List.mem_of_mem_take inside),
    List.nil_append] at member
  obtain ⟨noMore, inBack⟩ := mem_of_mem_fillSlots_nil (mem_of_mem_charsOnSlots member)
  exact literals c (by simp [inBack]) (fun slot => noMore (slot ▸ inBack)) letter

namespace Spec

section

variable {spec : Spec} {st : Stencil} {p : Text} (compiled : spec.stencil = .ok st)
  (usable : spec.hasNoMask = false) (strict : spec.strict = true) (keeps : spec.ignorable = [])
include compiled usable strict keeps

theorem format_withoutLead {t : Text} (nonempty : t ≠ []) :
    spec.withoutLead.format t =
      fillSlots st.placeholder st.pattern (Text.alphanumerics t) := by
  rw [spec.withoutLead.format_eq st compiled usable t nonempty (.inl strict), addLead_of_none rfl,
    show spec.withoutLead.ignorable = [] from keeps, dropFirstMatching_nil]

/-- Formatting with the prefix only adds it, if at all. -/
theorem format_eq_addLead {t : Text} (nonempty : t ≠ []) :
    spec.format t = spec.addLead st.pattern (spec.withoutLead.format t) := by
  rw [spec.format_eq st compiled usable t nonempty (.inl strict), keeps, dropFirstMatching_nil,
    format_withoutLead compiled usable strict keeps nonempty]

theorem liesAlong_withoutLead (t : Text) :
    LiesAlong st.placeholder st.pattern (spec.withoutLead.format t) := by
  by_cases nonempty : t = []
  · rw [nonempty, format_nil]
    exact liesAlong_nil _ _
  · rw [format_withoutLead compiled usable strict keeps nonempty]
    exact st.liesAlong_fill t

variable (lead : spec.lead = some p)
include lead

/-- Exactly when the prefix makes no difference: if formatting put it in front, or if dropping it from
the text that has it by itself leaves the value as it was. -/
theorem leadTransparent_iff (mode : ClearMode) (t : Text) :
    spec.LeadTransparent mode t ↔
      spec.format t ≠ spec.withoutLead.format t ∨
        st.extract mode (spec.dropLead (spec.withoutLead.format t)) =
          st.extract mode (spec.withoutLead.format t) := by
  unfold LeadTransparent
  by_cases nonempty : t = []
  · rw [nonempty, format_nil, format_nil, clearBy_nil, clearBy_nil, dropLead_nil]
    simp
  have along := liesAlong_withoutLead compiled usable strict keeps t
  rw [spec.clearBy_eq st compiled usable, spec.withoutLead.clearBy_eq st compiled usable,
    dropLead_of_none (rfl : spec.withoutLead.lead = none),
    format_eq_addLead compiled usable strict keeps nonempty]
  obtain ⟨whole, read⟩ := st.exists_extract_of_liesAlong mode along List.suffix_rfl
  obtain ⟨left, readLeft⟩ := st.exists_extract_of_liesAlong mode along (dropLead_suffix spec _)
  by_cases started : p <+: spec.withoutLead.format t ∨ p <+: st.pattern
  · rw [addLead_of_started lead started, read, readLeft]
    simp
  · rw [addLead_of_not_started lead started, dropLead_append lead, read]
    have proper : p ≠ [] := fun empty => started (.inl (empty ▸ List.nil_prefix))
    simp [proper]

/-- A prefix that cannot begin a formatted text is not dropped from one that lacks it. -/
theorem dropLead_outside (outside : ¬LiesAlong st.placeholder st.pattern p) {t : Text}
    (started : p <+: spec.withoutLead.format t ∨ p <+: st.pattern) :
    spec.dropLead (spec.withoutLead.format t) = spec.withoutLead.format t := by
  by_cases nonempty : t = []
  · rw [nonempty, format_nil, dropLead_nil]
  have along := liesAlong_withoutLead compiled usable strict keeps t
  have formatted := format_withoutLead compiled usable strict keeps nonempty
  have other : ¬p <+: spec.withoutLead.format t := by
    rintro ⟨r, whole⟩
    rw [← whole] at along
    exact outside along.beginning
  by_cases short : spec.withoutLead.format t <+: p
  · obtain ⟨rest, whole⟩ := started.resolve_left other
    by_cases slot : st.placeholder ∈ st.pattern
    · by_cases value : Text.alphanumerics t = []
      · rw [formatted, value, fillSlots_nil_of_mem slot, dropLead_nil]
      · -- Then the filled mask is a piece of the bare one, which the prefix lies along.
        have bare : spec.withoutLead.format t <+: st.pattern :=
          short.trans ⟨rest, whole⟩
        rw [formatted] at bare
        have letter := placeholder_of_fillSlots_prefix (Text.alphanumerics_all t) value slot bare
        have self := liesAlong_self letter st.pattern
        rw [← whole] at self
        exact absurd (whole ▸ self.beginning) outside
    · rw [formatted, fillSlots_of_not_mem slot] at other
      exact absurd ⟨rest, whole⟩ other
  · exact dropLead_of_other lead short other

/-- The prefix makes no difference for any text if it is empty, if there are no slots, or if it cannot
begin a formatted text. -/
theorem leadTransparent_of_foreign
    (foreign : p = [] ∨ st.slotCount = 0 ∨ ¬LiesAlong st.placeholder st.pattern p)
    (mode : ClearMode) (t : Text) : spec.LeadTransparent mode t := by
  rw [leadTransparent_iff compiled usable strict keeps lead]
  by_cases nonempty : t = []
  · rw [nonempty, format_nil, format_nil, dropLead_nil]
    exact .inr rfl
  have along := liesAlong_withoutLead compiled usable strict keeps t
  by_cases started : p <+: spec.withoutLead.format t ∨ p <+: st.pattern
  · right
    rcases foreign with empty | noSlots | outside
    · have whole := dropLead_append lead (spec.withoutLead.format t)
      rw [empty, List.nil_append] at whole
      rw [whole]
    · have none : st.placeholder ∉ st.pattern :=
        List.count_eq_zero.mp ((spec.stencil_success st compiled).2 ▸ noSlots)
      obtain ⟨whole, read⟩ := st.exists_extract_of_liesAlong mode along List.suffix_rfl
      obtain ⟨left, readLeft⟩ := st.exists_extract_of_liesAlong mode along (dropLead_suffix spec _)
      rw [read, readLeft, st.extract_of_no_slots none mode read,
        st.extract_of_no_slots none mode readLeft]
    · rw [dropLead_outside compiled usable strict keeps lead outside started]
  · left
    rw [format_eq_addLead compiled usable strict keeps nonempty,
      addLead_of_not_started lead started]
    intro same
    exact started (.inl ⟨_, same⟩)

/-- Under a mask without literal letters, a prefix that can begin a formatted text is lost from one
that it begins. -/
theorem not_leadTransparent (plain : st.Plain) (slots : 0 < st.slotCount) (proper : p ≠ [])
    (along : LiesAlong st.placeholder st.pattern p) :
    ∃ mode t, ¬spec.LeadTransparent mode t := by
  have count := (spec.stencil_success st compiled).2
  -- The text has on the slots what the prefix has there, and one letter more.
  have letter : Text.isAlphanumeric 'a' = true := by decide
  obtain ⟨t, found⟩ : ∃ t, charsOnSlots st.placeholder st.pattern p ++ ['a'] = t := ⟨_, rfl⟩
  have nonempty : t ≠ [] := by simp [← found]
  have value : ∀ c ∈ t, Text.isAlphanumeric c = true := by
    intro c member
    rw [← found, List.mem_append, List.mem_singleton] at member
    rcases member with onSlot | last
    · exact along.charsOnSlots c onSlot
    · rwa [last]
  have formatted := format_withoutLead compiled usable strict keeps nonempty
  rw [Text.alphanumerics_of_all value] at formatted
  obtain ⟨left, whole⟩ := prefix_fillSlots along (List.cons_ne_nil 'a' [])
  rw [found] at whole
  have same : spec.format t = spec.withoutLead.format t := by
    rw [format_eq_addLead compiled usable strict keeps nonempty, formatted,
      addLead_of_started lead (.inl ⟨left, whole⟩)]
  have dropped : spec.dropLead (spec.withoutLead.format t) = left := by
    rw [formatted, ← whole, dropLead_append lead]
  have read (mode : ClearMode) (transparent : spec.LeadTransparent mode t) :
      st.extract mode left =
        st.extract mode (fillSlots st.placeholder st.pattern t) := by
    rw [leadTransparent_iff compiled usable strict keeps lead, dropped, formatted] at transparent
    exact transparent.resolve_left (not_not_intro (same.trans formatted))
  have filled := liesAlong_fillSlots st.placeholder st.pattern t value
  obtain ⟨v, readLeft⟩ := st.exists_value?_of_liesAlong filled ⟨p, whole⟩
  obtain ⟨w, readWhole⟩ := st.exists_value?_of_liesAlong filled List.suffix_rfl
  by_cases onSlots : charsOnSlots st.placeholder st.pattern p = []
  · refine ⟨.positional, t, fun transparent => ?_⟩
    have equal := read .positional transparent
    rw [st.extract_positional, st.extract_positional, readLeft, readWhole, Option.map_some,
      Option.map_some, Option.some.injEq, charsOnSlots_fillSlots, ← count] at equal
    rw [onSlots, List.nil_append] at found
    have displaced := plain.letter_displaced (spec.mem_pattern_of_slots st compiled slots) letter
      proper (plain.alphanumerics_eq_charsOnSlots along ▸ onSlots) (found ▸ whole)
    rw [equal, ← found, List.take_of_length_le (Nat.succ_le_of_lt slots)] at displaced
    exact displaced (List.mem_singleton_self 'a')
  · refine ⟨.pattern, t, fun transparent => ?_⟩
    have equal := read .pattern transparent
    rw [st.extract_pattern, st.extract_pattern, readLeft, readWhole, Option.some.injEq,
      Cut.value?_eq_alphanumerics plain.singles readLeft,
      Cut.value?_eq_alphanumerics plain.singles readWhole, ← whole, Text.alphanumerics_append,
      plain.alphanumerics_eq_charsOnSlots along] at equal
    exact onSlots (List.self_eq_append_left.mp equal)

end

/-- Exactly when the prefix makes no difference to what is recovered from a formatted text. A single
text needs that formatting put the prefix in front, or that nothing is lost with it; all texts have
this under a prefix that cannot begin a formatted text, and if no literal is a letter or digit, only
then. -/
theorem leadTransparent_exactly (spec : Spec) (st : Stencil) (p : Text)
    (compiled : spec.stencil = .ok st) (strict : spec.strict = true) (keeps : spec.ignorable = [])
    (lead : spec.lead = some p) :
    (∀ mode t, spec.LeadTransparent mode t ↔
      spec.hasNoMask = true ∨ spec.format t ≠ spec.withoutLead.format t ∨
        st.extract mode (spec.dropLead (spec.withoutLead.format t)) =
          st.extract mode (spec.withoutLead.format t)) ∧
    (p = [] ∨ st.slotCount = 0 ∨ ¬LiesAlong st.placeholder st.pattern p →
      ∀ mode t, spec.LeadTransparent mode t) ∧
    (st.Plain → (∀ mode t, spec.LeadTransparent mode t) →
      p = [] ∨ st.slotCount = 0 ∨ ¬LiesAlong st.placeholder st.pattern p) := by
  cases usable : spec.hasNoMask with
  | true =>
    have transparent (mode : ClearMode) (t : Text) : spec.LeadTransparent mode t := by
      unfold LeadTransparent
      rw [spec.format_of_hasNoMask usable, spec.withoutLead.format_of_hasNoMask usable,
        spec.clearBy_of_hasNoMask usable, spec.withoutLead.clearBy_of_hasNoMask usable]
    have noSlots : st.slotCount = 0 := by
      rw [spec.hasNoMask_eq st compiled, List.isEmpty_iff] at usable
      rw [(spec.stencil_success st compiled).2, usable, List.count_nil]
    exact ⟨fun mode t => iff_of_true (transparent mode t) (.inl rfl), fun _ => transparent,
      fun _ _ => .inr (.inl noSlots)⟩
  | false =>
    refine ⟨fun mode t => ?_, leadTransparent_of_foreign compiled usable strict keeps lead,
      fun plain transparent => ?_⟩
    · rw [leadTransparent_iff compiled usable strict keeps lead]
      simp
    · by_cases proper : p = []
      · exact .inl proper
      rcases Nat.eq_zero_or_pos st.slotCount with noSlots | slots
      · exact .inr (.inl noSlots)
      refine .inr (.inr fun along => ?_)
      obtain ⟨mode, t, lost⟩ :=
        not_leadTransparent compiled usable strict keeps lead plain slots proper along
      exact lost (transparent mode t)

/-- A prefix in front of a mask that does not start with it. -/
theorem phone_lead_transparent :
    let spec : Spec := { pattern := some ['(', '#', '#', '#', ')'], lead := some ['+', '7', ' '] }
    let st : Stencil := { mask := spec.mask, placeholder := '#', slotCount := 3 }
    (spec.stencil = .ok st ∧ spec.strict = true ∧ spec.ignorable = [] ∧
      spec.lead = some ['+', '7', ' ']) ∧
    spec.LeadTransparent .positional ['9', '3', '0'] := by
  intro spec st
  have compiled : spec.stencil = .ok st := rfl
  have foreign : ¬LiesAlong st.placeholder st.pattern ['+', '7', ' '] := by decide
  have transparent := (spec.leadTransparent_exactly st ['+', '7', ' '] compiled rfl rfl rfl).2.1
  exact ⟨⟨compiled, rfl, rfl, rfl⟩, transparent (.inr (.inr foreign)) _ _⟩

/-- Of a mask that embeds the prefix, the digits are lost. -/
theorem embedded_lead_not_transparent :
    let spec : Spec :=
      { pattern := some ['+', '7', ' ', '(', '#', '#', '#', ')'], lead := some ['+', '7', ' '] }
    let st : Stencil := { mask := spec.mask, placeholder := '#', slotCount := 3 }
    (spec.stencil = .ok st ∧ spec.strict = true ∧ spec.ignorable = []) ∧
    spec.clearBy .positional (spec.format ['9', '3', '0']) = [')'] ∧
    spec.withoutLead.clearBy .positional (spec.withoutLead.format ['9', '3', '0']) =
      ['9', '3', '0'] ∧
    ¬spec.LeadTransparent .positional ['9', '3', '0'] := by
  intro spec st
  have withLead : spec.clearBy .positional (spec.format ['9', '3', '0']) = [')'] := by
    decide +kernel
  have without : spec.withoutLead.clearBy .positional
      (spec.withoutLead.format ['9', '3', '0']) = ['9', '3', '0'] := by decide +kernel
  refine ⟨⟨rfl, rfl, rfl⟩, withLead, without, fun transparent => ?_⟩
  unfold LeadTransparent at transparent
  rw [withLead, without] at transparent
  exact absurd transparent (by decide)

end Spec
end MaskedInput
