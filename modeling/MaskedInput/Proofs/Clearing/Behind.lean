import MaskedInput.Proofs.Clearing.Plain
import MaskedInput.Proofs.Mask.Ends

/-!
# Letters behind a filled mask

What clearing makes of a filled mask with letters or digits behind it, as they stand there when a
user goes on typing. Behind a slot they are read as part of the value. Behind a literal at the end
of a full mask the text cannot be read any more, unless the letter is that literal itself; then the
text is left as it is, with its literals, and the first letters and digits in it are the value only
if no literal letter stands before the last slot. In an empty field a literal letter before the
first slot takes an equal letter for itself.
-/
namespace MaskedInput

/-- Where no literal letter stands before a slot, the letters of a filled mask are as much of the
value as there are slots, and literal letters behind that only if no slot stays empty. -/
theorem alphanumerics_fillSlots_eq_append {placeholder : Char} {pattern v : Text}
    (value : ∀ c ∈ v, Text.isAlphanumeric c = true) (plain : ¬LetterBeforeSlot placeholder pattern) :
    ∃ tail, Text.alphanumerics (fillSlots placeholder pattern v) =
        v.take (pattern.count placeholder) ++ tail ∧
      (v.length < pattern.count placeholder → tail = []) := by
  induction pattern, v using fillSlots_induction with
  | nil v => exact ⟨[], rfl, fun _ => rfl⟩
  | stop pattern slot => exact ⟨[], by simp [Text.alphanumerics], fun _ => rfl⟩
  | slot x ms xs ih =>
    obtain ⟨tail, letters, none⟩ := ih (fun c member => value c (List.mem_cons_of_mem x member))
      fun later => plain (.inr later)
    rw [List.count_cons_self, List.take_succ_cons, Text.alphanumerics,
      List.filter_cons_of_pos (value x (by simp))]
    exact ⟨tail, congrArg (x :: ·) letters, fun few => none (Nat.lt_of_succ_lt_succ few)⟩
  | literal m ms v isLiteral ih =>
    obtain ⟨tail, letters, none⟩ := ih value fun later => plain (.inr later)
    rw [List.count_cons_of_ne isLiteral]
    by_cases letter : Text.isAlphanumeric m = true
    · -- No slot is left, so that nothing of the value comes behind the letter.
      have last : placeholder ∉ ms := fun more => plain (.inl ⟨isLiteral, letter, more⟩)
      rw [List.count_eq_zero.mpr last]
      exact ⟨_, rfl, fun few => absurd few (Nat.not_lt_zero _)⟩
    · rw [Text.alphanumerics, List.filter_cons_of_neg letter]
      exact ⟨tail, letters, none⟩

/-- Where no literal letter stands before a slot, the letters of a full mask begin with the value.
-/
theorem prefix_alphanumerics_fillSlots {placeholder : Char} {pattern v : Text}
    (value : ∀ c ∈ v, Text.isAlphanumeric c = true) (full : v.length = pattern.count placeholder)
    (plain : ¬LetterBeforeSlot placeholder pattern) :
    v <+: Text.alphanumerics (fillSlots placeholder pattern v) := by
  obtain ⟨tail, letters, -⟩ := alphanumerics_fillSlots_eq_append value plain
  rw [letters, List.take_of_length_le full.le]
  exact List.prefix_append v tail

/-- A literal letter before a slot is among as many letters of a full mask as there are slots. -/
theorem exists_literal_mem_take {placeholder : Char} {pattern v : Text}
    (value : ∀ c ∈ v, Text.isAlphanumeric c = true) (full : v.length = pattern.count placeholder)
    (before : LetterBeforeSlot placeholder pattern) :
    ∃ m ∈ pattern, m ∈ (Text.alphanumerics (fillSlots placeholder pattern v)).take
      (pattern.count placeholder) := by
  induction pattern, v using fillSlots_induction with
  | nil v => exact before.elim
  | stop pattern slot => exact absurd (List.count_pos_iff.mpr slot) (by rw [← full]; simp)
  | slot x ms xs ih =>
    obtain ⟨m, member, taken⟩ := ih (fun c member => value c (List.mem_cons_of_mem x member))
      (by simpa using full) (before.resolve_left fun here => here.1 rfl)
    refine ⟨m, List.mem_cons_of_mem _ member, ?_⟩
    rw [List.count_cons_self, Text.alphanumerics, List.filter_cons_of_pos (value x (by simp)),
      List.take_succ_cons]
    exact List.mem_cons_of_mem x taken
  | literal m ms v isLiteral ih =>
    have more : placeholder ∈ ms := before.elim (fun here => here.2.2) fun later => later.slot
    rw [List.count_cons_of_ne isLiteral] at full ⊢
    by_cases letter : Text.isAlphanumeric m = true
    · have positive := List.count_pos_iff.mpr more
      obtain ⟨n, count⟩ := Nat.exists_eq_succ_of_ne_zero (Nat.ne_of_gt positive)
      refine ⟨m, by simp, ?_⟩
      rw [count, Text.alphanumerics, List.filter_cons_of_pos letter, List.take_succ_cons]
      exact List.mem_cons_self
    · obtain ⟨d, member, taken⟩ := ih value full
        (before.resolve_left fun here => letter here.2.1)
      refine ⟨d, List.mem_cons_of_mem _ member, ?_⟩
      rwa [Text.alphanumerics, List.filter_cons_of_neg letter]

/-- A mask filled with a letter that is not in it is filled in the same way again, by the letters that
it then shows, only if no literal letter stands before a slot. -/
theorem not_letterBeforeSlot_of_refilled {placeholder x : Char} {pattern w : Text}
    (letter : Text.isAlphanumeric x = true) (fresh : x ∉ pattern)
    (refilled : fillSlots placeholder pattern (Text.alphanumerics (fillSlots placeholder pattern
        (List.replicate (pattern.count placeholder) x)) ++ w) =
      fillSlots placeholder pattern (List.replicate (pattern.count placeholder) x)) :
    ¬LetterBeforeSlot placeholder pattern := by
  intro before
  obtain ⟨m, member, taken⟩ := exists_literal_mem_take (Text.replicate_letters letter _)
    List.length_replicate before
  have onSlots := congrArg (charsOnSlots placeholder pattern) refilled
  rw [charsOnSlots_fillSlots, charsOnSlots_fillSlots] at onSlots
  have shown : m ∈ (List.replicate (pattern.count placeholder) x).take
      (pattern.count placeholder) := onSlots ▸ ((List.prefix_append _ w).take _).mem taken
  exact fresh (List.eq_of_mem_replicate (List.mem_of_mem_take shown) ▸ member)

/-- A full mask with a literal is longer than the value. -/
theorem length_lt_fillSlots {placeholder m : Char} {pattern v : Text} (member : m ∈ pattern)
    (literal : m ≠ placeholder) (full : v.length = pattern.count placeholder) :
    v.length < (fillSlots placeholder pattern v).length := by
  rw [length_fillSlots full.ge, full]
  refine Nat.lt_of_le_of_ne List.count_le_length fun same => literal ?_
  exact (List.count_eq_length.mp same m member).symm

/-- Behind a first part of the mask that is filled exactly, reading goes on with its last element.
-/
theorem Stencil.SlotsApart.value?_fillSlots_append {st : Stencil} (apart : st.SlotsApart)
    {front back v : Text} {m : Char} (split : st.pattern = front ++ m :: back)
    (value : ∀ c ∈ v, Text.isAlphanumeric c = true)
    (fills : v.length = (front ++ [m]).count st.placeholder) (u : Text) :
    Cut.value? st.singles (fillSlots st.placeholder (front ++ [m]) v ++ u) =
      (Cut.value? (Element.ofChar st.placeholder m ::
        back.map (Element.ofChar st.placeholder)) u).map (v ++ ·) := by
  have whole : st.singles = (front ++ [m]).map (Element.ofChar st.placeholder) ++
      back.map (Element.ofChar st.placeholder) := by
    rw [singles, split, ← List.map_append, List.append_assoc]
    rfl
  have chain := st.slotsApart_iff.mp apart
  rw [whole] at chain ⊢
  rw [Cut.value?_append_concat chain.left_of_append (liesAlong_fillSlots _ _ _ value)
    (length_fillSlots fills.ge), charsOnSlots_fillSlots, ← fills, List.take_length]

namespace Spec

variable {spec : Spec} {st : Stencil} (compiled : spec.stencil = .ok st) (bare : spec.lead = none)
  (slots : 0 < st.slotCount)
include compiled bare slots

/-- Letters that no literal before the first slot is equal to are all read into the value. -/
theorem clear_letters {front back t : Text}
    (split : st.pattern = front ++ st.placeholder :: back)
    (letters : ∀ c ∈ t, Text.isAlphanumeric c = true)
    (foreign : ∀ m ∈ front, m ≠ st.placeholder ∧ m ∉ t) : spec.clear t = t := by
  have read : Cut.value? st.singles t = some t := by
    rw [Stencil.singles, split, List.map_append, List.map_cons, Element.ofChar_self]
    refine Cut.value?_behind_literals letters ?_
    intro e element c member accepted
    obtain ⟨m, belongs, rfl⟩ := List.mem_map.mp element
    obtain ⟨literal, absent⟩ := foreign m belongs
    rw [Element.ofChar_literal literal, Element.accepts, beq_iff_eq] at accepted
    exact absent (accepted ▸ member)
  rw [spec.clear_bare st compiled bare slots, read, Option.getD_some]

theorem clear_letters_of_opensPlain (opens : st.OpensPlain) {t : Text}
    (letters : ∀ c ∈ t, Text.isAlphanumeric c = true) : spec.clear t = t := by
  obtain ⟨front, back, split, first⟩ :=
    List.eq_append_cons_of_mem (spec.mem_pattern_of_slots st compiled slots)
  refine clear_letters compiled bare slots split letters fun m member => ?_
  have literal : m ≠ st.placeholder := fun slot => first (slot ▸ member)
  refine ⟨literal, fun letter => first ?_⟩
  obtain ⟨before, after, rfl⟩ := List.append_of_mem member
  have slot := Stencil.opensPlain_iff.mp opens before m (after ++ st.placeholder :: back)
    (by rw [split, List.append_assoc]; rfl) literal (letters m letter)
  exact List.mem_append_left _ slot

/-- A mask with a letter before its first slot reads that letter, typed on its own, as nothing. -/
theorem exists_swallowed (opens : ¬st.OpensPlain) :
    ∃ c, Text.isAlphanumeric c = true ∧ spec.clear [c] = [] := by
  by_contra none
  refine opens (Stencil.opensPlain_iff.mpr fun front c back split literal letter => ?_)
  by_contra first
  have noSlots : .slots ∉ front.map (Element.ofChar st.placeholder) := by
    intro member
    obtain ⟨m, belongs, isSlot⟩ := List.mem_map.mp member
    have other : m ≠ st.placeholder := fun slot => first (slot ▸ belongs)
    simp [Element.ofChar_literal other] at isSlot
  have read : Cut.value? st.singles [c] = some [] := by
    rw [Stencil.singles, split, List.map_append, List.map_cons, Element.ofChar_literal literal]
    exact Cut.value?_swallowed noSlots c _
  refine none ⟨c, letter, ?_⟩
  rw [spec.clear_bare st compiled bare slots, read, Option.getD_some]

variable (apart : st.SlotsApart)
include apart

/-- Behind a slot, letters are read as part of the value. -/
theorem clear_fillSlots_append (opens : st.OpensPlain) {v u : Text}
    (value : ∀ c ∈ v, Text.isAlphanumeric c = true)
    (letters : ∀ c ∈ u, Text.isAlphanumeric c = true)
    (fits : v.length ≤ st.slotCount) (ends : v.length < st.slotCount ∨ st.EndsInSlot) :
    spec.clear (fillSlots st.placeholder st.pattern v ++ u) = v ++ u := by
  cases v using List.reverseRecOn with
  | nil =>
    rw [fillSlots_nil_of_mem (spec.mem_pattern_of_slots st compiled slots)]
    exact clear_letters_of_opensPlain compiled bare slots opens letters
  | append_singleton v x =>
    rw [(spec.stencil_success st compiled).2] at fits ends
    rw [Stencil.endsInSlot_iff] at ends
    obtain ⟨front, back, split, fills, filled⟩ := fillSlots_ends_on_slot fits ends
    have through : (v ++ [x]).length = (front ++ [st.placeholder]).count st.placeholder := by
      simp [fills]
    have none : ∀ e ∈ ([] : List Element), ∀ c ∈ u, ¬e.accepts c = true := by simp
    have onSlot : Cut.value? (.slots :: back.map (Element.ofChar st.placeholder)) u = some u :=
      Cut.value?_behind_literals letters none
    rw [spec.clear_bare st compiled bare slots, filled, ← fillSlots_concat fills,
      apart.value?_fillSlots_append split value through, Element.ofChar_self, onSlot]
    rfl

/-- Behind a literal at the end of a full mask, only that literal can be read once more. -/
theorem clear_fillSlots_full {front v : Text} {m : Char} (split : st.pattern = front ++ [m])
    (literal : m ≠ st.placeholder) (value : ∀ c ∈ v, Text.isAlphanumeric c = true)
    (full : v.length = st.slotCount) (y : Char) :
    spec.clear (fillSlots st.placeholder st.pattern v ++ [y]) =
      if y = m then v else fillSlots st.placeholder st.pattern v ++ [y] := by
  have fills : v.length = (front ++ [m]).count st.placeholder := by
    rw [full, (spec.stencil_success st compiled).2, split]
  have read := apart.value?_fillSlots_append split value fills [y]
  rw [← split, Element.ofChar_literal literal] at read
  rw [spec.clear_bare st compiled bare slots, read]
  split
  · next same =>
    rw [same, Cut.value?_cons_accepts _ _ _ _ (Element.accepts_literal_self m),
      Cut.value?_nil_text]
    simp [Element.kept]
  · next other =>
    rw [Cut.value?_cons_refuses _ _ _ _ (by simpa [Element.accepts] using other)]
    rfl

/-- Behind a full value, a further letter leaves the value in front of all letters if it is read,
or if no literal letter stands before the last slot. -/
theorem prefix_clear_full (harmless : (st.OpensPlain ∧ st.EndsInSlot) ∨ st.PlainToLastSlot)
    {v : Text} (value : ∀ c ∈ v, Text.isAlphanumeric c = true) (full : v.length = st.slotCount)
    {y : Char} (letter : Text.isAlphanumeric y = true) :
    v <+: Text.alphanumerics (spec.clear (fillSlots st.placeholder st.pattern v ++ [y])) := by
  have slot := spec.mem_pattern_of_slots st compiled slots
  by_cases ends : st.EndsInSlot
  · have opens : st.OpensPlain := harmless.elim And.left fun plain => plain.opensPlain slot
    rw [clear_fillSlots_append compiled bare slots apart opens value (by simpa using letter) full.le
      (.inr ends), Text.alphanumerics_append, Text.alphanumerics_of_all value]
    exact List.prefix_append v _
  · have plain := harmless.resolve_left fun both => ends both.2
    obtain ⟨front, m, split, literal⟩ := Stencil.exists_append_literal slot ends
    rw [clear_fillSlots_full compiled bare slots apart split literal value full]
    split
    · rw [Text.alphanumerics_of_all value]
    · rw [Text.alphanumerics_append]
      rw [(spec.stencil_success st compiled).2] at full
      exact (prefix_alphanumerics_fillSlots value full (Stencil.plainToLastSlot_iff.mp plain)).trans
        (List.prefix_append _ _)

end Spec
end MaskedInput
