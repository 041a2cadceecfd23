import MaskedInput.Proofs.Mask.Neighbours

/-!
# Letters before the first and the last slot

Masks may have literal letters and still be typed into without harm. How much harm they do depends
on where they stand: before the first slot, between slots, or behind the last one. It also matters
whether anything stands behind the last slot at all.
-/
namespace MaskedInput

/-- Whether a literal letter or digit of the pattern stands somewhere before a slot. -/
def LetterBeforeSlot (placeholder : Char) : Text → Prop
  | [] => False
  | m :: ms => (m ≠ placeholder ∧ Text.isAlphanumeric m = true ∧ placeholder ∈ ms) ∨
      LetterBeforeSlot placeholder ms

theorem letterBeforeSlot_iff {placeholder : Char} {pattern : Text} :
    LetterBeforeSlot placeholder pattern ↔ ∃ front m back, pattern = front ++ m :: back ∧
      m ≠ placeholder ∧ Text.isAlphanumeric m = true ∧ placeholder ∈ back := by
  induction pattern with
  | nil => simp [LetterBeforeSlot]
  | cons m ms ih =>
    rw [LetterBeforeSlot, ih]
    constructor
    · rintro (here | ⟨front, d, back, split, later⟩)
      · exact ⟨[], m, ms, rfl, here⟩
      · exact ⟨m :: front, d, back, by rw [split]; rfl, later⟩
    · rintro ⟨front, d, back, split, found⟩
      cases front with
      | nil =>
        obtain ⟨rfl, rfl⟩ := List.cons.inj split
        exact .inl found
      | cons c front => exact .inr ⟨front, d, back, (List.cons.inj split).2, found⟩

instance decidableLetterBeforeSlot (placeholder : Char) :
    (pattern : Text) → Decidable (LetterBeforeSlot placeholder pattern)
  | [] => .isFalse id
  | _ :: ms =>
    have := decidableLetterBeforeSlot placeholder ms
    inferInstanceAs (Decidable (_ ∨ _))

theorem LetterBeforeSlot.slot {placeholder : Char} {pattern : Text}
    (before : LetterBeforeSlot placeholder pattern) : placeholder ∈ pattern := by
  obtain ⟨front, m, back, rfl, -, -, slot⟩ := letterBeforeSlot_iff.mp before
  exact List.mem_append_right front (List.mem_cons_of_mem m slot)

namespace Stencil

/-- No literal letter or digit stands before the first slot. -/
def OpensPlain (st : Stencil) : Prop :=
  ∀ index, st.holdsLetter index = true → ∃ slot < index, st.holdsSlot slot = true

/-- No literal letter or digit stands before the last slot. -/
def PlainToLastSlot (st : Stencil) : Prop :=
  ∀ index, st.holdsLetter index = true → st.hasSlotAtOrAfter index = false

/-- Nothing stands behind the last slot. -/
def EndsInSlot (st : Stencil) : Prop := st.holdsSlot (st.length - 1) = true

variable {st : Stencil}

theorem holdsLetter_append_iff {front back : Text} {m : Char}
    (split : st.pattern = front ++ m :: back) :
    st.holdsLetter front.length = true ↔
      m ≠ st.placeholder ∧ Text.isAlphanumeric m = true := by
  have inside : front.length < st.pattern.length := by simp [split]
  have found : st.pattern[front.length] = m := by simp [split]
  rw [st.holdsLetter_eq _ inside, found]

/-- A position that holds a letter, as a place in the pattern. -/
theorem exists_append_of_holdsLetter {index : Nat} (letter : st.holdsLetter index = true) :
    ∃ front m back, st.pattern = front ++ m :: back ∧ front.length = index ∧
      m ≠ st.placeholder ∧ Text.isAlphanumeric m = true := by
  by_cases inside : index < st.pattern.length
  · refine ⟨st.pattern.take index, st.pattern[index], st.pattern.drop (index + 1), ?_, ?_,
      (st.holdsLetter_eq index inside).mp letter⟩
    · rw [List.getElem_cons_drop, List.take_append_drop]
    · rw [List.length_take]
      omega
  · rw [st.not_holdsLetter_of_outside index (Nat.not_lt.mp inside)] at letter
    cases letter

theorem exists_holdsSlot_iff {front rest : Text} (split : st.pattern = front ++ rest) :
    (∃ slot < front.length, st.holdsSlot slot = true) ↔ st.placeholder ∈ front := by
  simp only [holdsSlot, split, beq_iff_eq, List.mem_iff_getElem?]
  constructor
  · rintro ⟨slot, before, found⟩
    exact ⟨slot, by rwa [List.getElem?_append_left before] at found⟩
  · rintro ⟨slot, found⟩
    have before := (List.getElem?_eq_some_iff.mp found).1
    exact ⟨slot, before, by rwa [List.getElem?_append_left before]⟩

theorem opensPlain_iff : st.OpensPlain ↔
    ∀ front m back, st.pattern = front ++ m :: back → m ≠ st.placeholder →
      Text.isAlphanumeric m = true → st.placeholder ∈ front := by
  constructor
  · intro opens front m back split literal letter
    rw [← exists_holdsSlot_iff split]
    exact opens _ ((holdsLetter_append_iff split).mpr ⟨literal, letter⟩)
  · intro opens index letter
    obtain ⟨front, m, back, split, rfl, literal, isLetter⟩ := exists_append_of_holdsLetter letter
    rw [exists_holdsSlot_iff split]
    exact opens front m back split literal isLetter

theorem plainToLastSlot_iff :
    st.PlainToLastSlot ↔ ¬LetterBeforeSlot st.placeholder st.pattern := by
  have remaining {front back : Text} {m : Char} (split : st.pattern = front ++ m :: back)
      (literal : m ≠ st.placeholder) :
      st.hasSlotAtOrAfter front.length = false ↔ st.placeholder ∉ back := by
    rw [hasSlotAtOrAfter, split, List.drop_left, ← Bool.not_eq_true, List.contains_iff_mem,
      List.mem_cons, not_or]
    exact and_iff_right (Ne.symm literal)
  rw [letterBeforeSlot_iff]
  constructor
  · rintro plain ⟨front, m, back, split, literal, letter, slot⟩
    exact (remaining split literal).mp
      (plain _ ((holdsLetter_append_iff split).mpr ⟨literal, letter⟩)) slot
  · intro none index letter
    obtain ⟨front, m, back, split, rfl, literal, isLetter⟩ := exists_append_of_holdsLetter letter
    rw [remaining split literal]
    exact fun slot => none ⟨front, m, back, split, literal, isLetter, slot⟩

instance decidablePlainToLastSlot : Decidable st.PlainToLastSlot :=
  decidable_of_iff' _ plainToLastSlot_iff

theorem endsInSlot_iff : st.EndsInSlot ↔ st.pattern.getLast? = some st.placeholder := by
  rw [EndsInSlot, holdsSlot, beq_iff_eq, List.getLast?_eq_getElem?]
  rfl

/-- A mask with slots that does not end in one ends in a literal. -/
theorem exists_append_literal (slot : st.placeholder ∈ st.pattern) (tail : ¬st.EndsInSlot) :
    ∃ front m, st.pattern = front ++ [m] ∧ m ≠ st.placeholder := by
  rcases List.eq_nil_or_concat' st.pattern with empty | ⟨front, m, split⟩
  · rw [empty] at slot
    cases slot
  · refine ⟨front, m, split, fun same => tail ?_⟩
    rw [endsInSlot_iff, split, List.getLast?_concat, same]

theorem Plain.plainToLastSlot (plain : st.Plain) : st.PlainToLastSlot := by
  intro index letter
  rw [plain index] at letter
  cases letter

/-- A letter that stands before no slot stands before the first one no more. -/
theorem PlainToLastSlot.opensPlain (plain : st.PlainToLastSlot)
    (slot : st.placeholder ∈ st.pattern) : st.OpensPlain := by
  rw [plainToLastSlot_iff, letterBeforeSlot_iff] at plain
  rw [opensPlain_iff]
  intro front m back split literal letter
  have behind : st.placeholder ∉ back := fun later =>
    plain ⟨front, m, back, split, literal, letter, later⟩
  rw [split, List.mem_append, List.mem_cons] at slot
  exact slot.resolve_right (not_or.mpr ⟨Ne.symm literal, behind⟩)

end Stencil

end MaskedInput
