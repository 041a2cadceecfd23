import MaskedInput.Formatting
import MaskedInput.Proofs.Extraction.Alignment
import MaskedInput.Proofs.Mask.Slots

/-!
# Filled masks

What stands in a mask after its slots were filled. The closed form (`Stencil.rendering`) takes the
pattern as far as the value reaches and lays the value over the slots in it; it does not look at what
comes after a position, as the filling does. Characters beyond the last slot make no difference, and
on the slots stands the value.
-/
namespace MaskedInput

/-- The pattern up to the given number of slots, the last of them included. -/
def throughSlot (placeholder : Char) : Nat → Text → Text
  | 0, _ | _ + 1, [] => []
  | n + 1, m :: ms => m :: throughSlot placeholder (if m = placeholder then n else n + 1) ms

/-- The pattern with a value on its slots, in order; slots beyond the value stay as they are. -/
def overlay (placeholder : Char) : Text → Text → Text
  | [], _ => []
  | m :: ms, [] => m :: ms
  | m :: ms, x :: xs =>
    if m = placeholder then x :: overlay placeholder ms xs
    else m :: overlay placeholder ms (x :: xs)

/-- A value in the mask: all of the mask if it fills every slot, else the mask up to its last
character. -/
def Stencil.rendering (st : Stencil) (v : Text) : Text :=
  overlay st.placeholder
    (if st.slotCount ≤ v.length then st.pattern
      else throughSlot st.placeholder v.length st.pattern) v

@[simp] theorem fillSlots_nil_pattern (placeholder : Char) (v : Text) :
    fillSlots placeholder [] v = [] := by cases v <;> rfl

theorem fillSlots_nil_of_mem {placeholder : Char} {pattern : Text} (slot : placeholder ∈ pattern) :
    fillSlots placeholder pattern [] = [] := by
  cases pattern with
  | nil => rfl
  | cons m ms => rw [fillSlots, if_pos (by simpa using slot)]

theorem fillSlots_of_not_mem {placeholder : Char} {pattern : Text}
    (plain : placeholder ∉ pattern) (v : Text) : fillSlots placeholder pattern v = pattern := by
  induction pattern with
  | nil => simp
  | cons m ms ih =>
    obtain ⟨different, plain⟩ := not_or.mp (List.mem_cons.not.mp plain)
    cases v with
    | nil => simp [fillSlots, different, plain]
    | cons x xs => rw [fillSlots, if_neg (Ne.symm different), ih plain]

@[simp] theorem fillSlots_slot (placeholder x : Char) (ms xs : Text) :
    fillSlots placeholder (placeholder :: ms) (x :: xs) = x :: fillSlots placeholder ms xs := by
  simp [fillSlots]

/-- A literal is written unless a slot follows for which nothing is left. -/
theorem fillSlots_literal {placeholder m : Char} (literal : m ≠ placeholder) (ms xs : Text)
    (goes : placeholder ∈ ms → xs ≠ []) :
    fillSlots placeholder (m :: ms) xs = m :: fillSlots placeholder ms xs := by
  cases xs with
  | nil =>
    have plain : placeholder ∉ ms := fun slot => goes slot rfl
    have all : placeholder ∉ m :: ms := by simp [Ne.symm literal, plain]
    rw [fillSlots_of_not_mem all, fillSlots_of_not_mem plain]
  | cons x xs => rw [fillSlots, if_neg literal]

theorem fillSlots_ne_nil {placeholder : Char} {pattern v : Text} (mask : pattern ≠ [])
    (value : v ≠ []) : fillSlots placeholder pattern v ≠ [] := by
  cases pattern with
  | nil => exact absurd rfl mask
  | cons m ms =>
    cases v with
    | nil => exact absurd rfl value
    | cons x xs =>
      rw [fillSlots]
      split <;> exact List.cons_ne_nil _ _

/-- The filling that looks ahead for slots is the rendering that does not. -/
theorem fillSlots_eq_overlay (placeholder : Char) (pattern v : Text) :
    fillSlots placeholder pattern v =
      overlay placeholder (if pattern.count placeholder ≤ v.length then pattern
        else throughSlot placeholder v.length pattern) v := by
  induction pattern generalizing v with
  | nil => simp [overlay]
  | cons m ms ih =>
    cases v with
    | nil =>
      by_cases slot : placeholder ∈ m :: ms
      · have positive : ¬(m :: ms).count placeholder ≤ 0 := fun zero =>
          List.count_eq_zero.mp (Nat.le_zero.mp zero) slot
        rw [fillSlots_nil_of_mem slot]
        simp only [List.length_nil, if_neg positive]
        rfl
      · rw [fillSlots_of_not_mem slot]
        simp [List.count_eq_zero.mpr slot, overlay]
    | cons x xs =>
      by_cases slot : m = placeholder
      · subst m
        rw [fillSlots_slot, ih]
        by_cases enough : ms.count placeholder ≤ xs.length
        · simp [enough, overlay]
        · simp [enough, overlay, throughSlot]
      · rw [fillSlots, if_neg slot, ih]
        by_cases enough : ms.count placeholder ≤ (x :: xs).length
        · have same : (m :: ms).count placeholder ≤ (x :: xs).length := by simpa [slot] using enough
          rw [if_pos enough, if_pos same]
          simp [overlay, slot]
        · have same : ¬(m :: ms).count placeholder ≤ (x :: xs).length := by simpa [slot] using enough
          rw [if_neg enough, if_neg same]
          simp [overlay, slot, throughSlot]

/-- Filling goes on over slots and literals until a slot is left without a character. -/
@[elab_as_elim] theorem fillSlots_induction {placeholder : Char}
    {motive : Text → Text → Text → Prop} (nil : ∀ v, motive [] v [])
    (stop : ∀ pattern, placeholder ∈ pattern → motive pattern [] [])
    (slot : ∀ x ms xs, motive ms xs (fillSlots placeholder ms xs) →
      motive (placeholder :: ms) (x :: xs) (x :: fillSlots placeholder ms xs))
    (literal : ∀ m ms v, m ≠ placeholder → motive ms v (fillSlots placeholder ms v) →
      motive (m :: ms) v (m :: fillSlots placeholder ms v))
    (pattern v : Text) : motive pattern v (fillSlots placeholder pattern v) := by
  induction pattern generalizing v with
  | nil => rw [fillSlots_nil_pattern]; exact nil v
  | cons m ms ih =>
    by_cases goes : placeholder ∈ m :: ms → v ≠ []
    · by_cases isSlot : m = placeholder
      · subst m
        cases v with
        | nil => exact absurd rfl (goes (by simp))
        | cons x xs => rw [fillSlots_slot]; exact slot x ms xs (ih xs)
      · rw [fillSlots_literal isSlot ms v fun more => goes (List.mem_cons_of_mem m more)]
        exact literal m ms v isSlot (ih v)
    · obtain ⟨more, empty⟩ : placeholder ∈ m :: ms ∧ v = [] := by simpa using goes
      rw [empty, fillSlots_nil_of_mem more]
      exact stop _ more

theorem liesAlong_fillSlots (placeholder : Char) (pattern v : Text)
    (value : ∀ c ∈ v, Text.isAlphanumeric c = true) :
    LiesAlong placeholder pattern (fillSlots placeholder pattern v) := by
  induction pattern, v using fillSlots_induction with
  | nil v => exact trivial
  | stop pattern _ => exact liesAlong_nil placeholder pattern
  | slot x ms xs ih =>
    refine ⟨?_, ih fun c member => value c (by simp [member])⟩
    rw [Element.ofChar_self]
    exact value x (by simp)
  | literal m ms v isLiteral ih =>
    refine ⟨?_, ih value⟩
    rw [Element.ofChar_literal isLiteral]
    exact Element.accepts_literal_self m

theorem length_fillSlots_le (placeholder : Char) (pattern v : Text) :
    (fillSlots placeholder pattern v).length ≤ pattern.length := by
  induction pattern, v using fillSlots_induction with
  | nil v => exact Nat.le_refl 0
  | stop pattern _ => exact Nat.zero_le _
  | slot x ms xs ih => exact Nat.succ_le_succ ih
  | literal m ms v _ ih => exact Nat.succ_le_succ ih

/-- On the slots of a beginning of a filled mask stands as much of the value as it has slots. -/
theorem charsOnSlots_take_fillSlots (placeholder : Char) (pattern v : Text) (n : Nat) :
    charsOnSlots placeholder pattern ((fillSlots placeholder pattern v).take n) =
      v.take ((pattern.take n).count placeholder) := by
  induction pattern, v using fillSlots_induction generalizing n with
  | nil v => simp
  | stop pattern _ => simp
  | slot x ms xs ih =>
    cases n with
    | zero => simp
    | succ n =>
      rw [List.take_succ_cons, List.take_succ_cons, charsOnSlots_cons, ih]
      simp [Element.kept]
  | literal m ms v isLiteral ih =>
    cases n with
    | zero => simp
    | succ n =>
      rw [List.take_succ_cons, List.take_succ_cons, charsOnSlots_cons, ih,
        Element.ofChar_literal isLiteral]
      simp [Element.kept, isLiteral]

/-- On the slots of a filled mask stands the value, as far as the slots go. -/
theorem charsOnSlots_fillSlots (placeholder : Char) (pattern v : Text) :
    charsOnSlots placeholder pattern (fillSlots placeholder pattern v) =
      v.take (pattern.count placeholder) := by
  have whole := charsOnSlots_take_fillSlots placeholder pattern v pattern.length
  rwa [List.take_of_length_le (length_fillSlots_le placeholder pattern v), List.take_length] at whole

/-- A part of the value that fills the slots of a first part of the pattern is written there. The
literals behind it are written if no slot follows that stays empty. -/
theorem fillSlots_append {placeholder : Char} {front v : Text}
    (fills : v.length = front.count placeholder) (pattern w : Text)
    (goes : placeholder ∈ pattern → w ≠ []) :
    fillSlots placeholder (front ++ pattern) (v ++ w) =
      fillSlots placeholder front v ++ fillSlots placeholder pattern w := by
  induction front generalizing v with
  | nil =>
    rw [List.eq_nil_of_length_eq_zero fills, fillSlots_nil_pattern]
    rfl
  | cons m ms ih =>
    by_cases slot : m = placeholder
    · subst m
      cases v with
      | nil => simp at fills
      | cons x xs =>
        rw [List.cons_append, List.cons_append, fillSlots_slot, fillSlots_slot,
          ih (by simpa using fills), List.cons_append]
    · rw [List.count_cons_of_ne slot] at fills
      have filled : placeholder ∈ ms → v ≠ [] := by
        rintro more rfl
        exact absurd (List.count_pos_iff.mpr more) (by rw [← fills]; simp)
      have follows : placeholder ∈ ms ++ pattern → v ++ w ≠ [] := by
        intro more
        rcases List.mem_append.mp more with here | later
        · exact List.append_ne_nil_of_left_ne_nil (filled here) w
        · exact List.append_ne_nil_of_right_ne_nil v (goes later)
      rw [List.cons_append, fillSlots_literal slot _ _ follows, fillSlots_literal slot _ _ filled,
        ih fills, List.cons_append]

theorem fillSlots_append_of_not_mem {placeholder : Char} {front : Text} (plain : placeholder ∉ front)
    (pattern : Text) {v : Text} (nonempty : v ≠ []) :
    fillSlots placeholder (front ++ pattern) v = front ++ fillSlots placeholder pattern v := by
  have written := fillSlots_append (v := []) (List.count_eq_zero.mpr plain).symm pattern v
    fun _ => nonempty
  rwa [List.nil_append, fillSlots_of_not_mem plain] at written

theorem fillSlots_concat {placeholder : Char} {front v : Text}
    (fills : v.length = front.count placeholder) (x : Char) :
    fillSlots placeholder (front ++ [placeholder]) (v ++ [x]) =
      fillSlots placeholder front v ++ [x] := by
  rw [fillSlots_append fills _ _ fun _ => List.cons_ne_nil x [], fillSlots_slot,
    fillSlots_nil_pattern]

/-- The slot that comes after a given number of others. -/
theorem exists_eq_append_slot {placeholder : Char} {pattern : Text} {n : Nat}
    (more : n < pattern.count placeholder) :
    ∃ front back, pattern = front ++ placeholder :: back ∧ front.count placeholder = n := by
  induction pattern generalizing n with
  | nil => simp at more
  | cons m ms ih =>
    by_cases slot : m = placeholder
    · subst m
      cases n with
      | zero => exact ⟨[], ms, rfl, rfl⟩
      | succ n =>
        obtain ⟨front, back, split, count⟩ := ih (n := n) (by simpa using more)
        exact ⟨placeholder :: front, back, by rw [split]; rfl, by simp [count]⟩
    · rw [List.count_cons_of_ne slot] at more
      obtain ⟨front, back, split, count⟩ := ih more
      exact ⟨m :: front, back, by rw [split]; rfl, by rw [List.count_cons_of_ne slot, count]⟩

/-- A filled mask ends with the last character of the value if there are more slots, or if the last
one stands at its end. -/
theorem fillSlots_ends_on_slot {placeholder : Char} {pattern v : Text} {x : Char}
    (fits : (v ++ [x]).length ≤ pattern.count placeholder)
    (ends : (v ++ [x]).length < pattern.count placeholder ∨ pattern.getLast? = some placeholder) :
    ∃ front back, pattern = front ++ placeholder :: back ∧ v.length = front.count placeholder ∧
      fillSlots placeholder pattern (v ++ [x]) = fillSlots placeholder front v ++ [x] := by
  rw [List.length_append, List.length_singleton] at fits ends
  have more : v.length < pattern.count placeholder := by omega
  obtain ⟨front, back, rfl, count⟩ := exists_eq_append_slot more
  refine ⟨front, back, rfl, count.symm, ?_⟩
  rw [fillSlots_append count.symm _ _ fun _ => List.cons_ne_nil x [], fillSlots_slot]
  rw [List.count_append, count, List.count_cons_self] at ends
  have nothing : fillSlots placeholder back [] = [] := by
    by_cases more : placeholder ∈ back
    · exact fillSlots_nil_of_mem more
    · -- All slots are filled, so that the last one stands at the end.
      rw [List.count_eq_zero.mpr more] at ends
      have last := ends.resolve_left (Nat.lt_irrefl _)
      cases back with
      | nil => rfl
      | cons m ms =>
        rw [List.getLast?_append_of_ne_nil _ (List.cons_ne_nil _ _), List.getLast?_cons_cons] at last
        exact absurd (List.mem_of_getLast? last) more
  rw [nothing]

theorem length_fillSlots {placeholder : Char} {pattern v : Text}
    (full : pattern.count placeholder ≤ v.length) :
    (fillSlots placeholder pattern v).length = pattern.length := by
  induction pattern, v using fillSlots_induction with
  | nil v => rfl
  | stop pattern slot =>
    exact absurd (List.count_pos_iff.mpr slot) (Nat.not_lt.mpr full)
  | slot x ms xs ih => rw [List.length_cons, List.length_cons, ih (by simpa using full)]
  | literal m ms v isLiteral ih =>
    rw [List.count_cons_of_ne isLiteral] at full
    rw [List.length_cons, List.length_cons, ih full]

/-- With nothing to fill in, nothing is written but what has no slots. -/
theorem mem_of_mem_fillSlots_nil {placeholder c : Char} {pattern : Text}
    (member : c ∈ fillSlots placeholder pattern []) : placeholder ∉ pattern ∧ c ∈ pattern := by
  by_cases slot : placeholder ∈ pattern
  · rw [fillSlots_nil_of_mem slot] at member
    simp at member
  · rw [fillSlots_of_not_mem slot] at member
    exact ⟨slot, member⟩

/-- What lies along a pattern is the beginning of the mask filled with what it has on the slots and
more. -/
theorem prefix_fillSlots {placeholder : Char} {pattern t : Text}
    (along : LiesAlong placeholder pattern t) {more : Text} (nonempty : more ≠ []) :
    t <+: fillSlots placeholder pattern (charsOnSlots placeholder pattern t ++ more) := by
  induction pattern generalizing t with
  | nil => cases t with
    | nil => exact List.nil_prefix
    | cons => exact along.elim
  | cons m ms ih =>
    cases t with
    | nil => exact List.nil_prefix
    | cons y ys =>
      obtain ⟨accepted, along⟩ := along
      by_cases slot : m = placeholder
      · subst m
        simpa [charsOnSlots_cons, Element.kept] using ih along
      · rw [Element.ofChar_literal slot] at accepted
        have same : y = m := by simpa [Element.accepts] using accepted
        have goes : charsOnSlots placeholder ms ys ++ more ≠ [] := by simp [nonempty]
        rw [charsOnSlots_cons, Element.ofChar_literal slot, Element.kept, List.nil_append,
          fillSlots_literal slot _ _ fun _ => goes, same, List.prefix_cons_inj]
        exact ih along

/-- If the mask filled with some letters is a piece of the bare pattern, the placeholder is one. -/
theorem placeholder_of_fillSlots_prefix {placeholder : Char} {pattern v : Text}
    (value : ∀ c ∈ v, Text.isAlphanumeric c = true) (nonempty : v ≠ [])
    (slot : placeholder ∈ pattern) (bare : fillSlots placeholder pattern v <+: pattern) :
    Text.isAlphanumeric placeholder = true := by
  obtain ⟨front, back, rfl, plain⟩ := List.eq_append_cons_of_mem slot
  rw [fillSlots_append_of_not_mem plain _ nonempty, List.prefix_append_right_inj] at bare
  cases v with
  | nil => exact absurd rfl nonempty
  | cons x xs =>
    rw [fillSlots_slot, List.cons_prefix_cons] at bare
    rw [← bare.1]
    exact value x (by simp)

/-- Characters beyond the last slot do not matter. -/
theorem fillSlots_take (placeholder : Char) (pattern v : Text) :
    fillSlots placeholder pattern (v.take (pattern.count placeholder)) =
      fillSlots placeholder pattern v := by
  induction pattern generalizing v with
  | nil => simp
  | cons m ms ih =>
    by_cases slot : m = placeholder
    · subst m
      cases v with
      | nil => simp
      | cons x xs =>
        rw [List.count_cons_self, List.take_succ_cons, fillSlots_slot, fillSlots_slot, ih]
    · have goes : placeholder ∈ ms → v ≠ [] → v.take (ms.count placeholder) ≠ [] := by
        intro more nonempty empty
        have positive := List.count_pos_iff.mpr more
        rcases List.take_eq_nil_iff.mp empty with none | none
        · omega
        · exact nonempty none
      rw [List.count_cons_of_ne slot]
      by_cases nonempty : placeholder ∈ ms → v ≠ []
      · rw [fillSlots_literal slot ms v nonempty,
          fillSlots_literal slot ms _ fun more => goes more (nonempty more), ih]
      · obtain ⟨-, empty⟩ : placeholder ∈ ms ∧ v = [] := by simpa using nonempty
        simp [empty]

theorem fillSlots_take_append (placeholder : Char) (pattern v w : Text) :
    fillSlots placeholder pattern (v.take (pattern.count placeholder) ++ w) =
      fillSlots placeholder pattern (v ++ w) := by
  have same : (v.take (pattern.count placeholder) ++ w).take (pattern.count placeholder) =
      (v ++ w).take (pattern.count placeholder) := by
    rw [List.take_append, List.take_append, List.take_take, List.length_take, Nat.min_self]
    congr 2
    omega
  rw [← fillSlots_take, same, fillSlots_take]

/-- Filling is rendering. -/
theorem Stencil.fillSlots_eq_rendering (st : Stencil)
    (count : st.slotCount = st.pattern.count st.placeholder) (v : Text) :
    fillSlots st.placeholder st.pattern v = st.rendering v := by
  rw [fillSlots_eq_overlay, rendering, count]

/-- Two of three slots are filled, and nothing stands behind them. -/
example : fillSlots '#' ['(', '#', '#', ')', '#'] ['1', '2'] = ['(', '1', '2'] := by decide

end MaskedInput
