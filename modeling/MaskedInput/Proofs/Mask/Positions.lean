import MaskedInput.Proofs.Mask.Captures
import MaskedInput.Proofs.Mask.Grammar
import MaskedInput.Proofs.Mask.Inference
import Mathlib.Data.Bool.Basic
import Mathlib.Data.Set.Card

/-!
# The positions of a compiled mask

A stencil answers three questions about positions, each in its own way: whether a position holds a
slot, whether a slot is left from there on, and how many slots there are. A fourth answer is in the
extraction pattern, which has a capturing group for each maximal run of slots. All four agree with
the pattern and with one another.
-/
namespace MaskedInput

/-- The character that marks the slots of a mask: the one that is set, or else the earliest of the
most frequent ones of the pattern, or the default for an empty pattern. -/
inductive Mask.MarkedBy (mask : Mask) : Char → Prop where
  | explicit (c : Char) (given : mask.placeholder = some c) : MarkedBy mask c
  | inferred (c : Char) (n : Nat) (unset : mask.placeholder = none) (nonempty : mask.pattern ≠ [])
      (first : Placeholder.EarliestMostFrequent mask.pattern c n) : MarkedBy mask c
  | byDefault (unset : mask.placeholder = none) (empty : mask.pattern = []) :
      MarkedBy mask defaultPlaceholder

/-- A run of slots that is as long as it can be, by its first and its last position. -/
structure Stencil.IsRun (st : Stencil) (first last : Nat) : Prop where
  ordered : first ≤ last
  slots : ∀ i, first ≤ i → i ≤ last → st.holdsSlot i = true
  opens : ∀ i, i + 1 = first → st.holdsSlot i = false
  closes : st.holdsSlot (last + 1) = false

theorem Mask.markedBy_iff {mask : Mask} {c : Char} : mask.MarkedBy c ↔ c = mask.slotting.1 := by
  constructor
  · intro marked
    cases marked with
    | explicit c given => rw [slotting, given]
    | inferred c n unset nonempty first =>
      rw [slotting, unset]
      exact (first.unique (Placeholder.infer_earliestMostFrequent nonempty)).1
    | byDefault unset empty =>
      rw [slotting, unset, empty]
      rfl
  · rintro rfl
    cases given : mask.placeholder with
    | some c =>
      rw [slotting, given]
      exact .explicit c given
    | none =>
      have inferred : mask.slotting = Placeholder.infer mask.pattern := by rw [slotting, given]
      rw [inferred]
      by_cases empty : mask.pattern = []
      · rw [empty]
        exact .byDefault given empty
      · exact .inferred _ _ given empty (Placeholder.infer_earliestMostFrequent empty)

section Counting

/-- What is true of positions is counted at the first one and from the second one on. -/
theorem encard_positions (P : Nat → Prop) [Decidable (P 0)] :
    {i | P i}.encard = {i | P (i + 1)}.encard + if P 0 then 1 else 0 := by
  have later : (Nat.succ '' {i | P (i + 1)}).encard = {i | P (i + 1)}.encard :=
    Nat.succ_injective.encard_image _
  have fresh : 0 ∉ Nat.succ '' {i | P (i + 1)} := by simp
  by_cases first : P 0
  · have all : {i | P i} = insert 0 (Nat.succ '' {i | P (i + 1)}) := by
      ext i
      cases i <;> simp [first]
    rw [all, Set.encard_insert_of_notMem fresh, later, if_pos first]
  · have all : {i | P i} = Nat.succ '' {i | P (i + 1)} := by
      ext i
      cases i <;> simp [first]
    rw [all, later, if_neg first, add_zero]

variable {placeholder : Char}

theorem encard_occurrences (t : Text) :
    {i : Nat | t[i]? = some placeholder}.encard = t.count placeholder := by
  induction t with
  | nil => simp
  | cons c t ih =>
    rw [encard_positions]
    simp [ih, List.count_cons]

/-- A run of slots is counted where it ends. -/
theorem Element.count_slots_cons (c : Char) (t : Text) :
    (ofPattern placeholder (c :: t)).count .slots = (ofPattern placeholder t).count .slots +
      if c = placeholder ∧ t.head? ≠ some placeholder then 1 else 0 := by
  have joined : (ofPattern placeholder t).head? = some .slots ↔ t.head? = some placeholder :=
    head?_ofPattern_eq_slots_iff t
  rw [ofPattern]
  by_cases slot : c = placeholder
  · rw [if_pos slot]
    -- A slot in front of a run only lengthens it; elsewhere it is a run of its own.
    split
    next more run =>
      rw [run] at joined ⊢
      simp [joined.mp rfl]
    next noRun =>
      have alone : t.head? ≠ some placeholder := by
        intro next
        obtain ⟨more, run⟩ := List.head?_eq_some_iff.mp (joined.mpr next)
        exact noRun more run
      simp [slot, alone]
  · simp [slot]

theorem Element.encard_ends (t : Text) :
    {i : Nat | t[i]? = some placeholder ∧ t[i + 1]? ≠ some placeholder}.encard =
      (ofPattern placeholder t).count .slots := by
  induction t with
  | nil => simp [ofPattern]
  | cons c t ih =>
    rw [encard_positions, count_slots_cons]
    simp [← ih, List.head?_eq_getElem?]

end Counting

namespace Stencil

variable {st : Stencil} {first last : Nat}

theorem hasSlotAtOrAfter_iff {i : Nat} :
    st.hasSlotAtOrAfter i = true ↔ ∃ j, i ≤ j ∧ st.holdsSlot j = true := by
  simp only [hasSlotAtOrAfter, holdsSlot, List.contains_iff_mem, List.mem_iff_getElem?,
    List.getElem?_drop, beq_iff_eq]
  constructor
  · rintro ⟨offset, found⟩
    exact ⟨i + offset, Nat.le_add_right i offset, found⟩
  · rintro ⟨j, later, found⟩
    obtain ⟨offset, rfl⟩ := Nat.exists_eq_add_of_le later
    exact ⟨offset, found⟩

theorem antitone_hasSlotAtOrAfter : Antitone st.hasSlotAtOrAfter := by
  intro i j before later
  obtain ⟨k, behind, slot⟩ := hasSlotAtOrAfter_iff.mp later
  exact hasSlotAtOrAfter_iff.mpr ⟨k, before.trans behind, slot⟩

/-- From each slot a run reaches back to one that has no slot in front of it. -/
theorem exists_first (slot : st.holdsSlot last = true) :
    ∃ first ≤ last, (∀ i, first ≤ i → i ≤ last → st.holdsSlot i = true) ∧
      ∀ i, i + 1 = first → st.holdsSlot i = false := by
  induction last with
  | zero =>
    refine ⟨0, Nat.le_refl 0, fun i _ inside => ?_, fun i before => absurd before i.succ_ne_zero⟩
    rwa [Nat.le_zero.mp inside]
  | succ last ih =>
    by_cases before : st.holdsSlot last = true
    · obtain ⟨first, ordered, slots, opens⟩ := ih before
      refine ⟨first, Nat.le_succ_of_le ordered, fun i reached inside => ?_, opens⟩
      rcases Nat.le_succ_iff.mp inside with earlier | rfl
      · exact slots i reached earlier
      · exact slot
    · refine ⟨last + 1, Nat.le_refl _, fun i reached inside => ?_, fun i same => ?_⟩
      · rwa [Nat.le_antisymm inside reached]
      · rw [Nat.succ.inj same]
        exact Bool.eq_false_iff.mpr before

theorem IsRun.first_le {other : Nat} (run : st.IsRun first last) (same : st.IsRun other last) :
    first ≤ other := by
  by_contra later
  obtain ⟨before, rfl⟩ := Nat.exists_eq_succ_of_ne_zero (Nat.ne_zero_of_lt (Nat.not_le.mp later))
  have ordered := run.ordered
  have slot := same.slots before (by omega) (by omega)
  rw [run.opens before rfl] at slot
  cases slot

/-- There is one run for each position that holds a slot and is not followed by one. -/
theorem encard_runs :
    {run : Nat × Nat | st.IsRun run.1 run.2}.encard =
      {i | st.holdsSlot i = true ∧ st.holdsSlot (i + 1) = false}.encard := by
  have ends : Prod.snd '' {run : Nat × Nat | st.IsRun run.1 run.2} =
      {i | st.holdsSlot i = true ∧ st.holdsSlot (i + 1) = false} := by
    ext i
    constructor
    · rintro ⟨⟨first, last⟩, run, rfl⟩
      exact ⟨run.slots last run.ordered (Nat.le_refl last), run.closes⟩
    · rintro ⟨slot, closes⟩
      obtain ⟨first, ordered, slots, opens⟩ := exists_first slot
      exact ⟨(first, i), ⟨ordered, slots, opens, closes⟩, rfl⟩
  have distinct : Set.InjOn Prod.snd {run : Nat × Nat | st.IsRun run.1 run.2} := by
    rintro ⟨first, last⟩ run ⟨other, _⟩ same rfl
    exact congrArg (·, last) (Nat.le_antisymm (run.first_le same) (same.first_le run))
  rw [← ends, distinct.encard_image]

theorem encard_runEnds :
    {i | st.holdsSlot i = true ∧ st.holdsSlot (i + 1) = false}.encard =
      st.elements.count .slots := by
  rw [elements, ← Element.encard_ends]
  simp [holdsSlot]

theorem encard_slots :
    {i | st.holdsSlot i = true}.encard = st.pattern.count st.placeholder := by
  rw [← encard_occurrences]
  simp [holdsSlot]

end Stencil

namespace Mask

/-- A compiled mask agrees with its pattern at every position, however large. It keeps the characters
of the pattern, and its slots stand where the placeholder does, which is the explicit one or the
earliest of the most frequent characters. A slot is left from a position on if one stands there or
behind it, the slots are counted exactly, and the extraction pattern is a regular expression with
one capturing group for each maximal run of slots, that is, for each slot that no slot follows. -/
theorem compile_agrees {mask : Mask} {st : Stencil} (compiled : mask.compile = .ok st) :
    (st.pattern = mask.pattern ∧ mask.slotting = (st.placeholder, st.slotCount) ∧
      ∀ c, mask.MarkedBy c ↔ c = st.placeholder) ∧
    (∀ i, st.holdsSlot i = true ↔
      ∃ inside : i < mask.pattern.length, mask.pattern[i] = st.placeholder) ∧
    (∀ i, st.hasSlotAtOrAfter i = true ↔ ∃ j, i ≤ j ∧ st.holdsSlot j = true) ∧
    Antitone st.hasSlotAtOrAfter ∧
    (∀ i, (∀ j, st.holdsSlot j = true → j < i) → st.hasSlotAtOrAfter i = false) ∧
    {i | st.holdsSlot i = true}.encard = st.slotCount ∧
    ∃ e, Regex.Expression.ofPattern st.expression = .ok e ∧
      {run : Nat × Nat | st.IsRun run.1 run.2}.encard = e.captures ∧
      {i | st.holdsSlot i = true ∧ st.holdsSlot (i + 1) = false}.encard = e.captures := by
  obtain ⟨kept, found⟩ := mask.compile_success st compiled
  have pattern : st.pattern = mask.pattern := congrArg Mask.pattern kept
  have slots : {i | st.holdsSlot i = true}.encard = st.slotCount := by
    rw [slotCount_of_compile compiled, Stencil.encard_slots]
  obtain ⟨e, read, captures⟩ := Element.exists_captures_expression st.elements
  have ends : {i | st.holdsSlot i = true ∧ st.holdsSlot (i + 1) = false}.encard = e.captures := by
    rw [captures, Stencil.encard_runEnds]
  refine ⟨⟨pattern, found.symm, fun c => ?_⟩, fun i => ?_, fun i => Stencil.hasSlotAtOrAfter_iff,
    Stencil.antitone_hasSlotAtOrAfter, fun i none => ?_, slots, e, read,
    Stencil.encard_runs.trans ends, ends⟩
  · rw [markedBy_iff, ← found]
  · rw [← pattern]
    simp [Stencil.holdsSlot, List.getElem?_eq_some_iff]
  · rw [Bool.eq_false_iff]
    intro left
    obtain ⟨j, behind, slot⟩ := Stencil.hasSlotAtOrAfter_iff.mp left
    exact absurd (none j slot) (Nat.not_lt.mpr behind)

/-- Brackets and a circumflex are literals, and the inferred hash marks two runs of slots. -/
theorem two_runs_captured :
    let mask : Mask := { pattern := ['[', '#', '#', ']', '#', '^'], placeholder := none }
    let st : Stencil := { mask, placeholder := '#', slotCount := 3 }
    mask.compile = .ok st ∧ mask.MarkedBy '#' ∧ st.holdsSlot 4 = true ∧
    st.hasSlotAtOrAfter 5 = false ∧ {i | st.holdsSlot i = true}.encard = 3 ∧
    ∃ e, Regex.Expression.ofPattern st.expression = .ok e ∧ e.captures = 2 ∧
      {run : Nat × Nat | st.IsRun run.1 run.2}.encard = 2 := by
  intro mask st
  have compiled : mask.compile = .ok st := by decide
  obtain ⟨⟨-, -, marked⟩, holds, -, -, noneLeft, slots, e, read, runs, ends⟩ :=
    compile_agrees compiled
  have captured : e.captures = 2 := by
    rw [Stencil.encard_runEnds] at ends
    exact (Nat.cast_injective ends).symm
  rw [captured] at runs
  refine ⟨compiled, (marked '#').mpr rfl, (holds 4).mpr ⟨by decide, rfl⟩, noneLeft 5 ?_, slots, e,
    read, captured, runs⟩
  intro j slot
  obtain ⟨inside, -⟩ := (holds j).mp slot
  have notLast : j ≠ 5 := by
    rintro rfl
    exact absurd slot (by decide)
  have within : j < 6 := inside
  omega

end Mask

end MaskedInput
