import MaskedInput.Proofs.Formatting.ClosedForm

/-!
# What reading by pattern leaves out

A text in the shape of a mask need not have been formatted: a run of slots may take letters that a
literal behind it stands for, and a literal may take letters that were typed for a slot. Which of
them took a letter can be told only where the letter is no literal of the mask. All the others are
read into the value, in their order and each once.
-/
namespace MaskedInput
namespace Stencil

variable (st : Stencil)

theorem literal_mem_singles_iff (c : Char) : Element.literal c ∈ st.singles ↔ c ∈ st.literals := by
  simp only [singles, literals, List.mem_map, List.mem_filter, decide_eq_true_eq]
  constructor
  · rintro ⟨d, inside, same⟩
    have isLiteral : d ≠ st.placeholder := fun slot => by simp [slot] at same
    rw [Element.ofChar_literal isLiteral, Element.literal.injEq] at same
    exact same ▸ ⟨inside, isLiteral⟩
  · rintro ⟨inside, isLiteral⟩
    exact ⟨c, inside, Element.ofChar_literal isLiteral⟩

/-- A value that is read by pattern consists of letters and digits of the text, in their order. All
that can be missing are literals of the mask, so that nothing is if they have no letter or digit.
Reading by position accepts the same texts and gives no more characters than the mask has slots. -/
theorem extract_loses_only_literals (mask : Mask) (compiled : mask.compile = .ok st) (t v : Text)
    (read : st.extract .pattern t = some v) :
    v.Sublist (Text.alphanumerics t) ∧
    v.filter (· ∉ st.literals) = (Text.alphanumerics t).filter (· ∉ st.literals) ∧
    ((∀ c ∈ st.literals, ¬Text.isAlphanumeric c = true) → v = Text.alphanumerics t) ∧
    ∃ w, st.extract .positional t = some w ∧ w.Sublist t ∧ w.length ≤ st.slotCount := by
  rw [extract_pattern] at read
  have letters : Text.alphanumerics v = v := List.filter_eq_self.mpr (Cut.value?_letters read)
  refine ⟨?_, ?_, ?_, charsOnSlots st.placeholder st.pattern t, ?_, charsOnSlots_sublist _ _ _, ?_⟩
  · rw [← letters]
    exact (Cut.value?_sublist read).filter Text.isAlphanumeric
  · have strange : ∀ c, Element.literal c ∈ st.singles →
        ¬(Text.isAlphanumeric c && decide (c ∉ st.literals)) = true := by
      intro c member
      simp [(st.literal_mem_singles_iff c).mp member]
    calc v.filter (· ∉ st.literals)
        = (Text.alphanumerics v).filter (· ∉ st.literals) := by rw [letters]
      _ = v.filter fun c => Text.isAlphanumeric c && decide (c ∉ st.literals) := by
          simp only [Text.alphanumerics, List.filter_filter, Bool.and_comm]
      _ = t.filter fun c => Text.isAlphanumeric c && decide (c ∉ st.literals) :=
          Cut.value?_filter strange read
      _ = (Text.alphanumerics t).filter (· ∉ st.literals) := by
          simp only [Text.alphanumerics, List.filter_filter, Bool.and_comm]
  · intro plain
    exact Cut.value?_eq_alphanumerics
      (fun c member => plain c ((st.literal_mem_singles_iff c).mp member)) read
  · rw [extract_positional, read, Option.map_some]
  · rw [Mask.slotCount_of_compile compiled]
    exact length_charsOnSlots_le _ _ _

/-- The literal in front takes a letter that stands on a slot, and the slots behind the dash take the
letters that could be the literal between them. -/
theorem letters_taken_by_literals :
    let mask : Mask := { pattern := ['a', '#', '-', '#', 'b', '#'], placeholder := some '#' }
    let st : Stencil := { mask, placeholder := '#', slotCount := 3 }
    let t : Text := ['a', 'a', '7', '-', 'b', '1', 'b']
    mask.compile = .ok st ∧ st.extract .pattern t = some ['7', 'b', '1', 'b'] ∧
    List.Sublist ['7', 'b', '1', 'b'] (Text.alphanumerics t) ∧
    List.filter (· ∉ st.literals) ['7', 'b', '1', 'b'] = ['7', '1'] ∧
    (Text.alphanumerics t).filter (· ∉ st.literals) = ['7', '1'] ∧
    ∃ w, st.extract .positional t = some w ∧ w.Sublist t ∧ w.length ≤ 3 := by
  intro mask st t
  have read : st.extract .pattern t = some ['7', 'b', '1', 'b'] := by decide
  obtain ⟨inOrder, others, -, byPosition⟩ := st.extract_loses_only_literals mask rfl t _ read
  exact ⟨rfl, read, inOrder, by decide, others ▸ by decide, byPosition⟩

end Stencil
end MaskedInput
