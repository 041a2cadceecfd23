import MaskedInput.Proofs.Formatting.Usable

/-!
# Letters beside slots

Two conditions on the literals of a mask, said position by position: that no literal letter or digit
stands directly beside a slot, and that there is none at all. The first is the same as being able to
tell neighbouring elements apart, the second lets whatever is read be all letters and digits.
-/
namespace MaskedInput

/-- Whether the position holds a literal that is a letter or digit. -/
def Stencil.holdsLetter (st : Stencil) (index : Nat) : Bool :=
  !st.holdsSlot index && (st.pattern[index]?.map Text.isAlphanumeric).getD false

/-- No literal letter or digit stands directly before or directly after a slot. -/
def Stencil.SlotsApart (st : Stencil) : Prop :=
  ∀ index, ¬(st.holdsLetter index = true ∧ st.holdsSlot (index + 1) = true) ∧
    ¬(st.holdsSlot index = true ∧ st.holdsLetter (index + 1) = true)

/-- No literal is a letter or digit. -/
def Stencil.Plain (st : Stencil) : Prop := ∀ index, st.holdsLetter index = false

theorem Element.apart_slots_literal {c : Char} :
    Element.Apart .slots (.literal c) ↔ ¬Text.isAlphanumeric c = true := by
  simp [Element.Apart, Element.accepts]

theorem Element.apart_literal_slots {c : Char} :
    Element.Apart (.literal c) .slots ↔ ¬Text.isAlphanumeric c = true := by
  constructor
  · rintro (equal | foreign) letter
    · cases equal
    · exact foreign c letter (beq_self_eq_true c)
  · refine fun foreign => Or.inr fun x letter same => foreign ?_
    rwa [← beq_iff_eq.mp same]

theorem Element.apart_literal_literal (c d : Char) : Element.Apart (.literal c) (.literal d) := by
  by_cases equal : c = d
  · exact Or.inl (by rw [equal])
  · refine Or.inr fun x second first => equal ?_
    exact (beq_iff_eq.mp first).symm.trans (beq_iff_eq.mp second)

theorem Element.apart_self (e : Element) : e.Apart e := Or.inl rfl

namespace Stencil

variable (st : Stencil)

theorem holdsSlot_eq (index : Nat) (inside : index < st.pattern.length) :
    st.holdsSlot index = true ↔ st.pattern[index] = st.placeholder := by
  simp [holdsSlot, inside]

theorem holdsLetter_eq (index : Nat) (inside : index < st.pattern.length) :
    st.holdsLetter index = true ↔
      st.pattern[index] ≠ st.placeholder ∧ Text.isAlphanumeric st.pattern[index] = true := by
  rw [holdsLetter, Bool.and_eq_true, Bool.not_eq_true', ← Bool.not_eq_true,
    st.holdsSlot_eq index inside]
  simp [inside]

theorem not_holdsSlot_of_outside (index : Nat) (outside : st.pattern.length ≤ index) :
    st.holdsSlot index = false := by
  simp [holdsSlot, List.getElem?_eq_none outside]

theorem not_holdsLetter_of_outside (index : Nat) (outside : st.pattern.length ≤ index) :
    st.holdsLetter index = false := by
  simp [holdsLetter, List.getElem?_eq_none outside]

/-- Two neighbouring positions can be told apart if not one holds a slot and the other a letter. -/
theorem apart_singles_iff (c d : Char) :
    (Element.ofChar st.placeholder c).Apart (Element.ofChar st.placeholder d) ↔
      ¬((c ≠ st.placeholder ∧ Text.isAlphanumeric c = true) ∧ d = st.placeholder) ∧
        ¬(c = st.placeholder ∧ d ≠ st.placeholder ∧ Text.isAlphanumeric d = true) := by
  by_cases first : c = st.placeholder <;> by_cases second : d = st.placeholder
  · simp [first, second, Element.apart_self]
  · rw [first, Element.ofChar_self, Element.ofChar_literal second, Element.apart_slots_literal]
    simp [second]
  · rw [second, Element.ofChar_self, Element.ofChar_literal first, Element.apart_literal_slots]
    simp [first]
  · rw [Element.ofChar_literal first, Element.ofChar_literal second]
    simp [first, second, Element.apart_literal_literal]

/-- No letter stands beside a slot exactly if all neighbouring elements can be told apart. -/
theorem slotsApart_iff : st.SlotsApart ↔ st.singles.IsChain Element.Apart := by
  have neighbours (index : Nat) (inside : index + 1 < st.pattern.length) :
      (¬(st.holdsLetter index = true ∧ st.holdsSlot (index + 1) = true) ∧
        ¬(st.holdsSlot index = true ∧ st.holdsLetter (index + 1) = true)) ↔
      (Element.ofChar st.placeholder st.pattern[index]).Apart
        (Element.ofChar st.placeholder st.pattern[index + 1]) := by
    rw [apart_singles_iff, st.holdsSlot_eq index (by omega), st.holdsSlot_eq _ inside,
      st.holdsLetter_eq index (by omega), st.holdsLetter_eq _ inside]
  rw [singles, List.isChain_map, List.isChain_iff_getElem]
  constructor
  · intro separate index inside
    exact (neighbours index inside).mp (separate index)
  · intro chain index
    by_cases inside : index + 1 < st.pattern.length
    · exact (neighbours index inside).mpr (chain index inside)
    · have outside := Nat.not_lt.mp inside
      simp [st.not_holdsSlot_of_outside _ outside, st.not_holdsLetter_of_outside _ outside]

instance decidableSlotsApart : Decidable st.SlotsApart :=
  decidable_of_iff (∀ index < st.pattern.length,
      ¬(st.holdsLetter index = true ∧ st.holdsSlot (index + 1) = true) ∧
        ¬(st.holdsSlot index = true ∧ st.holdsLetter (index + 1) = true)) <| by
    refine ⟨fun inside index => ?_, fun apart index _ => apart index⟩
    by_cases bound : index < st.pattern.length
    · exact inside index bound
    · have outside := Nat.not_lt.mp bound
      simp [st.not_holdsSlot_of_outside _ outside, st.not_holdsLetter_of_outside _ outside]

theorem plain_iff : st.Plain ↔
    ∀ m ∈ st.pattern, m ≠ st.placeholder → ¬Text.isAlphanumeric m = true := by
  constructor
  · intro plain m member literal letter
    obtain ⟨index, inside, rfl⟩ := List.getElem_of_mem member
    simpa [plain index] using (st.holdsLetter_eq index inside).mpr ⟨literal, letter⟩
  · intro foreign index
    by_cases inside : index < st.pattern.length
    · rw [← Bool.not_eq_true, st.holdsLetter_eq index inside]
      exact fun found => foreign _ (List.getElem_mem inside) found.1 found.2
    · exact st.not_holdsLetter_of_outside index (Nat.not_lt.mp inside)

instance decidablePlain : Decidable st.Plain :=
  have : Decidable (∀ m ∈ st.pattern, m ≠ st.placeholder → ¬Text.isAlphanumeric m = true) :=
    List.decidableBAll _ st.pattern
  decidable_of_iff' _ st.plain_iff

theorem Plain.singles {st : Stencil} (plain : st.Plain) (c : Char)
    (member : Element.literal c ∈ st.singles) : ¬Text.isAlphanumeric c = true := by
  obtain ⟨d, belongs, equal⟩ := List.mem_map.mp member
  have literal : d ≠ st.placeholder := fun slot => by simp [slot] at equal
  rw [Element.ofChar_literal literal, Element.literal.injEq] at equal
  rw [← equal]
  exact st.plain_iff.mp plain d belongs literal

end Stencil
end MaskedInput
