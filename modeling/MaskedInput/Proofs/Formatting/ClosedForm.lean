import MaskedInput.Proofs.Formatting.Usable

/-!
# Formatted texts, position by position

What formatting makes of a text, said without the course of the filling: where the text in the mask
ends, what stands on each of its positions, and what is in front of it. So it can be told where each
character of a formatted text comes from: from the prefix, from the literals of the mask, or from
the letters and digits of the text, of which none is used twice or out of turn.
-/
namespace MaskedInput

/-- The third text consists of the characters of the other two, each in its own order. -/
inductive Interleaved : Text → Text → Text → Prop where
  | nil : Interleaved [] [] []
  | left (c : Char) {s t u : Text} (rest : Interleaved s t u) : Interleaved (c :: s) t (c :: u)
  | right (c : Char) {s t u : Text} (rest : Interleaved s t u) : Interleaved s (c :: t) (c :: u)

/-- On the slots of a filled mask stand the characters of the value, counted by the slots in front,
and elsewhere the literals. -/
theorem getElem?_fillSlots {placeholder : Char} {pattern v : Text} {index : Nat}
    (inside : index < (fillSlots placeholder pattern v).length) :
    (fillSlots placeholder pattern v)[index]? =
      if pattern[index]? = some placeholder then v[(pattern.take index).count placeholder]?
      else pattern[index]? := by
  induction pattern, v using fillSlots_induction generalizing index with
  | nil v => cases inside
  | stop pattern _ => cases inside
  | slot x ms xs ih =>
    cases index with
    | zero => simp
    | succ index =>
      rw [List.getElem?_cons_succ, ih (Nat.lt_of_succ_lt_succ inside), List.getElem?_cons_succ,
        List.take_succ_cons, List.count_cons_self, List.getElem?_cons_succ]
  | literal m ms v isLiteral ih =>
    cases index with
    | zero => simp [isLiteral]
    | succ index =>
      rw [List.getElem?_cons_succ, ih (Nat.lt_of_succ_lt_succ inside), List.getElem?_cons_succ,
        List.take_succ_cons, List.count_cons_of_ne isLiteral]

/-- A filled mask consists of the value, as far as there are slots, and the first literals. -/
theorem interleaved_fillSlots (placeholder : Char) (pattern v : Text) :
    ∃ literals, literals <+: pattern.filter (· ≠ placeholder) ∧
      Interleaved literals (v.take (pattern.count placeholder)) (fillSlots placeholder pattern v) := by
  induction pattern, v using fillSlots_induction with
  | nil v => exact ⟨[], List.nil_prefix, by simpa using .nil⟩
  | stop pattern _ => exact ⟨[], List.nil_prefix, by simpa using .nil⟩
  | slot x ms xs ih =>
    obtain ⟨literals, first, woven⟩ := ih
    refine ⟨literals, by simpa using first, ?_⟩
    rw [List.count_cons_self, List.take_succ_cons]
    exact woven.right x
  | literal m ms v isLiteral ih =>
    obtain ⟨literals, first, woven⟩ := ih
    refine ⟨m :: literals, ?_, ?_⟩
    · rw [List.filter_cons_of_pos (by simpa using isLiteral)]
      exact (List.prefix_cons_inj m).mpr first
    · rw [List.count_cons_of_ne isLiteral]
      exact woven.left m

namespace Stencil

/-- The literals of the mask, in order. -/
def literals (st : Stencil) : Text := st.pattern.filter (· ≠ st.placeholder)

/-- The number of slots in front of a position. -/
def slotsBefore (st : Stencil) (index : Nat) : Nat := (st.pattern.take index).count st.placeholder

/-- The text is the mask with the value on its slots: all of the mask if the value has a character
for every slot, and else the mask up to the slot of its last character. -/
structure IsFilling (st : Stencil) (v body : Text) : Prop where
  onSlot : ∀ index < body.length, st.holdsSlot index = true →
    body[index]? = v[st.slotsBefore index]?
  elsewhere : ∀ index < body.length, st.holdsSlot index = false →
    body[index]? = st.pattern[index]?
  whole : st.slotCount ≤ v.length → body.length = st.length
  nothing : v = [] → 0 < st.slotCount → body = []
  /-- The text ends on the slot of the last character. -/
  cut : v ≠ [] → v.length < st.slotCount → ∃ last, st.holdsSlot last = true ∧
    st.slotsBefore last + 1 = v.length ∧ body.length = last + 1

variable {st : Stencil}

theorem holdsSlot_iff {index : Nat} :
    st.holdsSlot index = true ↔ st.pattern[index]? = some st.placeholder := beq_iff_eq

/-- Slots further on have more slots in front of them. -/
theorem slotsBefore_lt {index later : Nat} (slot : st.holdsSlot index = true)
    (order : index < later) : st.slotsBefore index < st.slotsBefore later := by
  have next : st.slotsBefore (index + 1) = st.slotsBefore index + 1 := by
    rw [slotsBefore, List.take_add_one, holdsSlot_iff.mp slot, List.count_append]
    simp [slotsBefore]
  have more : st.slotsBefore (index + 1) ≤ st.slotsBefore later :=
    (List.take_sublist_take_left order).count_le _
  omega

theorem eq_of_slotsBefore_eq {first second : Nat} (slot : st.holdsSlot first = true)
    (slot' : st.holdsSlot second = true) (same : st.slotsBefore first = st.slotsBefore second) :
    first = second := by
  rcases Nat.lt_trichotomy first second with less | equal | more
  · have := slotsBefore_lt slot less
    omega
  · exact equal
  · have := slotsBefore_lt slot' more
    omega

/-- There is only one way to write a value into a mask. -/
theorem IsFilling.unique {v body other : Text} (filling : st.IsFilling v body)
    (filling' : st.IsFilling v other) : body = other := by
  have length : body.length = other.length := by
    rcases Nat.lt_or_ge v.length st.slotCount with few | enough
    · by_cases empty : v = []
      · have some : 0 < st.slotCount := Nat.zero_lt_of_lt few
        rw [filling.nothing empty some, filling'.nothing empty some]
      · obtain ⟨last, slot, turn, ends⟩ := filling.cut empty few
        obtain ⟨last', slot', turn', ends'⟩ := filling'.cut empty few
        rw [ends, ends', eq_of_slotsBefore_eq slot slot' (by omega)]
    · rw [filling.whole enough, filling'.whole enough]
  apply List.ext_getElem?
  intro index
  by_cases inside : index < body.length
  · have inside' : index < other.length := length ▸ inside
    cases slot : st.holdsSlot index with
    | true => rw [filling.onSlot index inside slot, filling'.onSlot index inside' slot]
    | false => rw [filling.elsewhere index inside slot, filling'.elsewhere index inside' slot]
  · have outside := Nat.not_lt.mp inside
    rw [List.getElem?_eq_none outside, List.getElem?_eq_none (length ▸ outside)]

theorem isFilling_fillSlots (count : st.slotCount = st.pattern.count st.placeholder) (v : Text) :
    st.IsFilling v (fillSlots st.placeholder st.pattern v) where
  onSlot index inside slot := by
    rw [getElem?_fillSlots inside, if_pos (holdsSlot_iff.mp slot), slotsBefore]
  elsewhere index inside literal := by
    rw [← Bool.not_eq_true, holdsSlot_iff] at literal
    rw [getElem?_fillSlots inside, if_neg literal]
  whole enough := length_fillSlots (count ▸ enough)
  nothing empty some := by
    rw [empty]
    exact fillSlots_nil_of_mem (List.count_pos_iff.mp (count ▸ some))
  cut nonempty few := by
    obtain ⟨v, x, rfl⟩ := (List.eq_nil_or_concat' v).resolve_left nonempty
    rw [count] at few
    obtain ⟨front, back, split, fills, filled⟩ := fillSlots_ends_on_slot few.le (.inl few)
    refine ⟨front.length, ?_, ?_, ?_⟩
    · simp [holdsSlot, split]
    · simp [slotsBefore, split, fills]
    · rw [filled, List.length_append, length_fillSlots fills.ge, List.length_singleton]

/-- Filling writes the value into the mask, and nothing else does. -/
theorem isFilling_iff (count : st.slotCount = st.pattern.count st.placeholder) {v body : Text} :
    st.IsFilling v body ↔ fillSlots st.placeholder st.pattern v = body := by
  constructor
  · exact (isFilling_fillSlots count v).unique
  · rintro rfl
    exact isFilling_fillSlots count v

end Stencil

namespace Spec

/-- What stands in front of a text in the mask: the prefix, if one is set and neither the text nor
the pattern starts with it, and else nothing. -/
def PutInFront (spec : Spec) (pattern body front : Text) : Prop :=
  (∃ p, spec.lead = some p ∧ ¬p <+: body ∧ ¬p <+: pattern ∧ front = p) ∨
    ((∀ p, spec.lead = some p → p <+: body ∨ p <+: pattern) ∧ front = [])

theorem putInFront_iff {spec : Spec} {pattern body front : Text} :
    spec.PutInFront pattern body front ↔ spec.addLead pattern body = front ++ body := by
  cases lead : spec.lead with
  | none => simp [PutInFront, lead]
  | some p =>
    have either : spec.PutInFront pattern body front ↔
        (¬(p <+: body ∨ p <+: pattern) ∧ front = p) ∨
          ((p <+: body ∨ p <+: pattern) ∧ front = []) := by
      simp only [PutInFront, lead, Option.some.injEq, exists_eq_left', forall_eq', not_or, and_assoc]
    rw [either]
    by_cases started : p <+: body ∨ p <+: pattern
    · rw [addLead_of_started lead started, List.self_eq_append_left]
      simp [started]
    · rw [addLead_of_not_started lead started, List.append_cancel_right_eq]
      simp [started, eq_comm]

/-- Something stands in front in any case, nothing or the prefix. -/
theorem exists_front (spec : Spec) (pattern body : Text) :
    ∃ front, spec.addLead pattern body = front ++ body ∧ (front = [] ∨ spec.lead = some front) := by
  cases lead : spec.lead with
  | none => exact ⟨[], addLead_of_none lead pattern body, .inl rfl⟩
  | some p =>
    by_cases started : p <+: body ∨ p <+: pattern
    · exact ⟨[], addLead_of_started lead started, .inl rfl⟩
    · exact ⟨p, addLead_of_not_started lead started, .inr rfl⟩

theorem length_addLead_le (spec : Spec) (pattern body : Text) :
    (spec.addLead pattern body).length ≤ body.length + spec.leadText.length := by
  obtain ⟨front, put, nothing | lead⟩ := spec.exists_front pattern body
  · rw [put, nothing, List.nil_append]
    exact Nat.le_add_right _ _
  · rw [put, leadText_of_some lead, List.length_append, Nat.add_comm]

/-- The text consists of the prefix or nothing, and behind that of first literals of the mask and
first characters of the value, each taken once and in its order. -/
def MadeUpOf (spec : Spec) (st : Stencil) (value result : Text) : Prop :=
  ∃ front body literals used, result = front ++ body ∧ (front = [] ∨ spec.lead = some front) ∧
    literals <+: st.literals ∧ used <+: value ∧ Interleaved literals used body

theorem madeUpOf_nil (spec : Spec) (st : Stencil) (value : Text) : spec.MadeUpOf st value [] :=
  ⟨[], [], [], [], rfl, .inl rfl, List.nil_prefix, List.nil_prefix, .nil⟩

theorem madeUpOf_addLead (spec : Spec) (st : Stencil) (value : Text) : spec.MadeUpOf st value
    (spec.addLead st.pattern (fillSlots st.placeholder st.pattern value)) := by
  obtain ⟨literals, first, woven⟩ := interleaved_fillSlots st.placeholder st.pattern value
  obtain ⟨front, put, either⟩ := spec.exists_front st.pattern
    (fillSlots st.placeholder st.pattern value)
  exact ⟨front, _, literals, _, put, either, first, List.take_prefix _ value, woven⟩

/-- What formatting makes of a text, in closed form. A text with more characters than slots is left
alone by a mask that is not strict. Else the letters and digits behind the first ignorable text that
the text begins with are written into the mask, and the prefix is put in front if need be. So a
strict result is not longer than the mask with the prefix, and no character of it is made up. -/
theorem format_closed_form (spec : Spec) (st : Stencil) (compiled : spec.stencil = .ok st)
    (usable : spec.hasNoMask = false) :
    (spec.strict = false → ∀ t : Text, st.slotCount < t.length → spec.format t = t) ∧
    (∀ t result : Text, t ≠ [] → (spec.strict = true ∨ t.length ≤ st.slotCount) →
      (spec.format t = result ↔ ∃ rest body front, LeftBehindFirst spec.ignorable t rest ∧
        st.IsFilling (Text.alphanumerics rest) body ∧ spec.PutInFront st.pattern body front ∧
        result = front ++ body)) ∧
    (spec.strict = true → ∀ t : Text,
      (spec.format t).length ≤ st.length + spec.leadText.length ∧
      ∃ rest, LeftBehindFirst spec.ignorable t rest ∧
        spec.MadeUpOf st (Text.alphanumerics rest) (spec.format t)) := by
  have count := (spec.stencil_success st compiled).2
  refine ⟨fun lenient t long => spec.format_overlong st compiled lenient t long,
    fun t result nonempty short => ?_, fun strict t => ?_⟩
  · rw [spec.format_eq st compiled usable t nonempty short]
    constructor
    · rintro rfl
      obtain ⟨front, put, -⟩ := spec.exists_front st.pattern (fillSlots st.placeholder st.pattern
        (Text.alphanumerics (dropFirstMatching spec.ignorable t)))
      exact ⟨_, _, front, leftBehindFirst_iff.mpr rfl, Stencil.isFilling_fillSlots count _,
        putInFront_iff.mpr put, put⟩
    · rintro ⟨rest, body, front, left, filling, put, rfl⟩
      rw [leftBehindFirst_iff.mp left, (Stencil.isFilling_iff count).mp filling,
        putInFront_iff.mp put]
  · by_cases nonempty : t = []
    · rw [nonempty, format_nil]
      exact ⟨Nat.zero_le _, _, leftBehindFirst_iff.mpr rfl, madeUpOf_nil spec st _⟩
    · rw [spec.format_eq st compiled usable t nonempty (.inl strict)]
      refine ⟨(spec.length_addLead_le _ _).trans ?_, _, leftBehindFirst_iff.mpr rfl,
        madeUpOf_addLead spec st _⟩
      exact Nat.add_le_add_right (length_fillSlots_le _ _ _) _

/-- Behind the country code stand five digits. They reach into the last group, the prefix is put in
front, and the full stop behind the last slot is not written. Were the mask not strict, the nine
characters would be left alone. -/
theorem five_digits_written :
    let spec : Spec :=
      { pattern := some ['(', '#', '#', ')', ' ', '#', '#', '-', '#', '#', '.']
        lead := some ['+', '7', ' ']
        ignorable := [['8'], ['+', '7'], ['+', '7', ' ']] }
    let lenient : Spec := { spec with strict := false }
    let st : Stencil := { mask := spec.mask, placeholder := '#', slotCount := 6 }
    let t : Text := ['+', '7', ' ', '9', '3', '-', '0', '1', '2']
    let written : Text := ['+', '7', ' ', '(', '9', '3', ')', ' ', '0', '1', '-', '2']
    (spec.stencil = .ok st ∧ spec.hasNoMask = false ∧ spec.strict = true ∧ t ≠ []) ∧
    (lenient.stencil = .ok st ∧ lenient.hasNoMask = false ∧ st.slotCount < t.length) ∧
    spec.format t = written ∧ (spec.format t).length ≤ 14 ∧ lenient.format t = t := by
  intro spec lenient st t written
  have compiled : spec.stencil = .ok st := rfl
  have long : st.slotCount < t.length := by decide
  have nonempty : t ≠ [] := List.cons_ne_nil _ _
  obtain ⟨-, closed, bounded⟩ := spec.format_closed_form st compiled rfl
  obtain ⟨alone, -⟩ := lenient.format_closed_form st compiled rfl
  refine ⟨⟨compiled, rfl, rfl, nonempty⟩, ⟨compiled, rfl, long⟩, ?_, (bounded rfl t).1,
    alone rfl t long⟩
  refine (closed t written nonempty (.inl rfl)).mpr ⟨[' ', '9', '3', '-', '0', '1', '2'],
    ['(', '9', '3', ')', ' ', '0', '1', '-', '2'], ['+', '7', ' '], ?_, ?_, ?_, rfl⟩
  · exact leftBehindFirst_iff.mpr (by decide)
  · exact (Stencil.isFilling_iff rfl).mpr (by decide)
  · exact putInFront_iff.mpr (by decide)

end Spec
end MaskedInput
