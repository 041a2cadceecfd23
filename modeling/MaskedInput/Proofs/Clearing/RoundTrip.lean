import MaskedInput.Proofs.Mask.Neighbours

/-!
# Masks that clearing by pattern can undo

Every value that fits a mask comes back from its formatted text exactly if no literal letter or digit
stands beside a slot. A letter behind a slot is read as part of the value; a letter before a slot
swallows an equal character on it. Both are seen on the first pair of neighbours that cannot be told
apart: what stands before it is read rightly, so that what goes wrong there cannot be made up for.
-/
namespace MaskedInput

/-- Whether reading behind an element gives back each value that fits what follows of the mask. -/
def RecoversBehind (e : Element) (placeholder : Char) (pattern : Text) : Prop :=
  ∀ v : Text, (∀ c ∈ v, Text.isAlphanumeric c = true) → v.length ≤ pattern.count placeholder →
    Cut.value? (e :: pattern.map (Element.ofChar placeholder)) (fillSlots placeholder pattern v) =
      some v

/-- A letter before a slot takes an equal character off it. -/
theorem not_recoversBehind_letter (c placeholder : Char) (rest : Text)
    (letter : Text.isAlphanumeric c = true) :
    ¬RecoversBehind (.literal c) placeholder (placeholder :: rest) := by
  intro recovers
  have read := recovers [c] (by simpa using letter) (by simp)
  rw [fillSlots_slot, List.map_cons, Element.ofChar_self,
    Cut.value?_cons_accepts _ _ _ _ (Element.accepts_literal_self c)] at read
  simp only [Element.kept, List.nil_append, Option.map_id'] at read
  by_cases more : placeholder ∈ rest
  · rw [fillSlots_nil_of_mem more, Cut.value?_nil_text] at read
    simp at read
  · rw [fillSlots_of_not_mem more, Cut.value?_cons, Cut.value?_cons] at read
    simp only [Element.kept, List.nil_append, Option.map_id', Option.map_eq_some_iff] at read
    obtain ⟨later, readLater, equal⟩ := read
    have none : Element.slots ∉ rest.map (Element.ofChar placeholder) := by
      intro member
      obtain ⟨d, belongs, isSlot⟩ := List.mem_map.mp member
      have literal : d ≠ placeholder := fun same => more (same ▸ belongs)
      simp [Element.ofChar_literal literal] at isSlot
    rw [Cut.value?_of_no_slots none readLater, List.append_nil] at equal
    -- The piece on the slot would begin with the character that the literal has just used up.
    have first : (rest.dropWhile (Element.literal c).accepts).head? = some c := by
      rw [← List.takeWhile_append_dropWhile (p := Element.slots.accepts)
        (l := rest.dropWhile (Element.literal c).accepts), equal]
      rfl
    have used := List.head?_dropWhile_not (Element.literal c).accepts rest
    rw [first] at used
    simp [Element.accepts] at used

/-- A letter behind a slot is read as part of the value. -/
theorem not_recoversBehind_slots (c placeholder : Char) (rest : Text) (literal : c ≠ placeholder)
    (letter : Text.isAlphanumeric c = true) :
    ¬RecoversBehind .slots placeholder (c :: rest) := by
  intro recovers
  obtain ⟨x, isValue, other⟩ : ∃ x : Char, Text.isAlphanumeric x = true ∧ x ≠ c := by
    by_cases zero : c = '0'
    · exact ⟨'1', by decide, by rw [zero]; decide⟩
    · exact ⟨'0', by decide, Ne.symm zero⟩
  have read := recovers (List.replicate ((c :: rest).count placeholder) x)
    (fun d member => List.eq_of_mem_replicate member ▸ isValue) (by simp)
  have count : (c :: rest).count placeholder = rest.count placeholder := by simp [literal]
  have goes : placeholder ∈ rest → List.replicate (rest.count placeholder) x ≠ [] := by
    intro more empty
    have : rest.count placeholder = 0 := by simpa using empty
    exact List.count_eq_zero.mp this more
  rw [count, fillSlots_literal literal _ _ goes,
    Cut.value?_cons_accepts _ _ _ _ ((Element.accepts_slots c).trans letter),
    Option.map_eq_some_iff] at read
  obtain ⟨later, _, equal⟩ := read
  have member : c ∈ List.replicate (rest.count placeholder) x := by
    rw [← equal]
    simp [Element.kept]
  exact other (List.eq_of_mem_replicate member).symm

/-- What is recovered behind an element is recovered behind the next one as well. -/
theorem RecoversBehind.next {e : Element} {placeholder m : Char} {ms : Text}
    (recovers : RecoversBehind e placeholder (m :: ms))
    (apart : e.Apart (Element.ofChar placeholder m)) :
    RecoversBehind (Element.ofChar placeholder m) placeholder ms := by
  intro v value fits
  by_cases slot : m = placeholder
  · subst m
    have read := recovers ('0' :: v) (by
      intro c member
      rcases List.mem_cons.mp member with rfl | member
      · decide
      · exact value c member) (by simpa using fits)
    rw [fillSlots_slot, List.map_cons, Cut.value?_apart apart _ _ _ (by
      rw [Element.ofChar_self]; decide)] at read
    obtain ⟨later, readLater, equal⟩ := Option.map_eq_some_iff.mp read
    have same : later = v := by simpa [Element.kept] using equal
    rw [readLater, same]
  · by_cases goes : placeholder ∈ ms → v ≠ []
    · have read := recovers v value (by simpa [slot] using fits)
      rw [fillSlots_literal slot _ _ goes, List.map_cons, Cut.value?_apart apart _ _ _ (by
        rw [Element.ofChar_literal slot]; exact Element.accepts_literal_self m)] at read
      simpa [Element.ofChar_literal slot, Element.kept] using read
    · obtain ⟨more, empty⟩ : placeholder ∈ ms ∧ v = [] := by simpa using goes
      rw [empty, fillSlots_nil_of_mem more, Cut.value?_nil_text]

theorem isChain_of_recoversBehind {e : Element} {placeholder : Char} {pattern : Text}
    (recovers : RecoversBehind e placeholder pattern) :
    (e :: pattern.map (Element.ofChar placeholder)).IsChain Element.Apart := by
  induction pattern generalizing e with
  | nil => exact List.IsChain.singleton e
  | cons m ms ih =>
    have apart : e.Apart (Element.ofChar placeholder m) := by
      by_cases slot : m = placeholder
      · subst m
        cases e with
        | slots => rw [Element.ofChar_self]; exact Element.apart_self _
        | literal c =>
          rw [Element.ofChar_self, Element.apart_literal_slots]
          exact fun letter => not_recoversBehind_letter c placeholder ms letter recovers
      · cases e with
        | slots =>
          rw [Element.ofChar_literal slot, Element.apart_slots_literal]
          exact fun letter => not_recoversBehind_slots m placeholder ms slot letter recovers
        | literal c =>
          rw [Element.ofChar_literal slot]
          exact Element.apart_literal_literal c m
    exact List.isChain_cons_cons.mpr ⟨apart, ih (recovers.next apart)⟩

/-- Neighbours can be told apart in the whole mask exactly if each value that fits can be read off
its filled mask. The first element counts once or twice, which makes no difference. -/
theorem Stencil.isChain_singles_iff (st : Stencil) :
    st.singles.IsChain Element.Apart ↔
      ∀ v : Text, (∀ c ∈ v, Text.isAlphanumeric c = true) →
        v.length ≤ st.pattern.count st.placeholder →
        Cut.value? st.singles (fillSlots st.placeholder st.pattern v) = some v := by
  unfold singles
  constructor
  · intro chain v value fits
    rw [Cut.value?_pattern_of_liesAlong chain (liesAlong_fillSlots _ _ _ value),
      charsOnSlots_fillSlots, List.take_of_length_le fits]
  · intro recovers
    cases pattern : st.pattern with
    | nil => exact List.IsChain.nil
    | cons m ms =>
      rw [pattern] at recovers
      have doubled : RecoversBehind (Element.ofChar st.placeholder m) st.placeholder (m :: ms) := by
        intro v value fits
        rw [List.map_cons, Cut.value?_repeat]
        exact recovers v value fits
      exact (List.isChain_cons_cons.mp (isChain_of_recoversBehind doubled)).2

/-- The masks that clearing by pattern can undo, for a specification without prefix and without
ignorable texts: all those, and no others, in which no literal letter or digit stands beside a
slot. -/
theorem Spec.clear_format_iff_slotsApart (spec : Spec) (st : Stencil)
    (compiled : spec.stencil = .ok st) (bare : spec.lead = none) (keeps : spec.ignorable = []) :
    (∀ v : Text, (∀ c ∈ v, Text.isAlphanumeric c = true) → v.length ≤ st.slotCount →
      spec.clear (spec.format v) = v) ↔ st.SlotsApart := by
  have count := (spec.stencil_success st compiled).2
  rcases Nat.eq_zero_or_pos st.slotCount with zero | slots
  · have none : st.placeholder ∉ st.pattern := List.count_eq_zero.mp (count ▸ zero)
    have noSlot (index : Nat) : st.holdsSlot index = false := by
      rw [← Bool.not_eq_true, Stencil.holdsSlot, beq_iff_eq]
      exact fun found => none (List.mem_of_getElem? found)
    refine iff_of_true ?_ fun index => by simp [noSlot]
    intro v _ fits
    have empty : v = [] := List.eq_nil_of_length_eq_zero (by omega)
    rw [empty, format_nil, clear, clearBy_nil]
  · rw [st.slotsApart_iff, st.isChain_singles_iff, ← count]
    refine forall_congr' fun v => forall_congr' fun value => forall_congr' fun fits => ?_
    rw [spec.format_bare st compiled bare keeps slots v (Or.inr fits),
      Text.alphanumerics, List.filter_eq_self.mpr value, spec.clear_bare st compiled bare slots]
    obtain ⟨read, found⟩ :=
      st.exists_value?_of_liesAlong (liesAlong_fillSlots _ _ v value) List.suffix_rfl
    simp [found]

/-- A mask with a letter behind its slots cannot be undone. -/
theorem letter_behind_slots_not_recovered :
    let spec := Spec.ofPattern ['#', '#', '#', '#', 'z']
    let st : Stencil := { mask := spec.mask, placeholder := '#', slotCount := 4 }
    (spec.stencil = .ok st ∧ spec.lead = none ∧ spec.ignorable = []) ∧
      ¬∀ v : Text, (∀ c ∈ v, Text.isAlphanumeric c = true) → v.length ≤ st.slotCount →
        spec.clear (spec.format v) = v := by
  intro spec st
  have compiled : spec.stencil = .ok st := rfl
  refine ⟨⟨compiled, rfl, rfl⟩, fun law => ?_⟩
  have apart := (spec.clear_format_iff_slotsApart st compiled rfl rfl).mp law
  exact (apart 3).2 ⟨rfl, rfl⟩

end MaskedInput
