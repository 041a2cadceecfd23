import MaskedInput.Proofs.Extraction.Reading
import Mathlib.Data.List.Chain

/-!
# Texts that lie along a mask

A text lies along a pattern if it starts where the pattern starts, ends no later, and has a letter
or digit on each slot and the literal itself on each literal. Such a text always has the shape of the
mask. Where no literal letter or digit stands beside a slot, reading it by pattern gives exactly the
characters on its slots, which is what reading by position gives; where the literals have no letter
or digit at all, reading any text gives all its letters and digits.
-/
namespace MaskedInput

/-- Whether the text has on each of its positions what the pattern wants there. -/
def LiesAlong (placeholder : Char) : Text → Text → Prop
  | _, [] => True
  | [], _ :: _ => False
  | m :: ms, y :: ys =>
    (Element.ofChar placeholder m).accepts y = true ∧ LiesAlong placeholder ms ys

instance decidableLiesAlong (placeholder : Char) :
    (pattern t : Text) → Decidable (LiesAlong placeholder pattern t)
  | [], [] | _ :: _, [] => .isTrue trivial
  | [], _ :: _ => .isFalse id
  | _ :: ms, _ :: ys =>
    have := decidableLiesAlong placeholder ms ys
    inferInstanceAs (Decidable (_ ∧ LiesAlong placeholder ms ys))

/-- The characters of a text that stand where the pattern has the placeholder. -/
def charsOnSlots (placeholder : Char) (pattern t : Text) : Text :=
  ((t.zip pattern).filter fun p => p.2 == placeholder).map Prod.fst

theorem Stencil.onSlots_eq (st : Stencil) (t : Text) :
    st.onSlots t = charsOnSlots st.placeholder st.pattern t := rfl

@[simp] theorem charsOnSlots_nil (placeholder : Char) (pattern : Text) :
    charsOnSlots placeholder pattern [] = [] := rfl

@[simp] theorem charsOnSlots_nil_pattern (placeholder : Char) (t : Text) :
    charsOnSlots placeholder [] t = [] := by simp [charsOnSlots]

theorem charsOnSlots_cons (placeholder m y : Char) (ms ys : Text) :
    charsOnSlots placeholder (m :: ms) (y :: ys) =
      (Element.ofChar placeholder m).kept [y] ++ charsOnSlots placeholder ms ys := by
  by_cases slot : m = placeholder
  · simp [charsOnSlots, slot, Element.kept]
  · simp [charsOnSlots, slot, Element.ofChar_literal slot, Element.kept]

theorem charsOnSlots_append {placeholder : Char} {front t : Text} (same : t.length = front.length)
    (pattern u : Text) : charsOnSlots placeholder (front ++ pattern) (t ++ u) =
      charsOnSlots placeholder front t ++ charsOnSlots placeholder pattern u := by
  simp [charsOnSlots, List.zip_append same]

theorem mem_of_mem_charsOnSlots {placeholder c : Char} {pattern t : Text}
    (member : c ∈ charsOnSlots placeholder pattern t) : c ∈ t := by
  obtain ⟨⟨d, m⟩, kept, rfl⟩ := List.mem_map.mp member
  exact (List.of_mem_zip (List.mem_filter.mp kept).1).1

theorem charsOnSlots_of_not_mem {placeholder : Char} {pattern : Text}
    (plain : placeholder ∉ pattern) (t : Text) : charsOnSlots placeholder pattern t = [] := by
  rw [charsOnSlots, List.map_eq_nil_iff, List.filter_eq_nil_iff]
  rintro ⟨c, m⟩ member slot
  exact plain (beq_iff_eq.mp slot ▸ (List.of_mem_zip member).2)

theorem charsOnSlots_sublist (placeholder : Char) (pattern t : Text) :
    (charsOnSlots placeholder pattern t).Sublist t := by
  induction pattern generalizing t with
  | nil => simp
  | cons m ms ih =>
    cases t with
    | nil => simp
    | cons y ys =>
      rw [charsOnSlots_cons]
      by_cases slot : m = placeholder
      · simpa [slot, Element.kept] using ih ys
      · simpa [Element.ofChar_literal slot, Element.kept] using (ih ys).cons y

theorem length_charsOnSlots_le (placeholder : Char) (pattern t : Text) :
    (charsOnSlots placeholder pattern t).length ≤ pattern.count placeholder := by
  induction pattern generalizing t with
  | nil => simp
  | cons m ms ih =>
    cases t with
    | nil => simp
    | cons y ys =>
      have later := ih ys
      rw [charsOnSlots_cons]
      by_cases slot : m = placeholder
      · simpa [slot, Element.kept] using later
      · simpa [Element.ofChar_literal slot, Element.kept, slot] using later

@[simp] theorem liesAlong_nil (placeholder : Char) (pattern : Text) :
    LiesAlong placeholder pattern [] := by cases pattern <;> exact trivial

/-- Each beginning of a text that lies along a pattern does so too. -/
theorem LiesAlong.beginning {placeholder : Char} {pattern t u : Text}
    (along : LiesAlong placeholder pattern (t ++ u)) : LiesAlong placeholder pattern t := by
  induction t generalizing pattern with
  | nil => exact liesAlong_nil placeholder pattern
  | cons y t ih =>
    cases pattern with
    | nil => exact along.elim
    | cons m ms => exact ⟨along.1, ih along.2⟩

/-- What lies along a beginning of a pattern lies along the pattern. -/
theorem LiesAlong.append {placeholder : Char} {front t : Text}
    (along : LiesAlong placeholder front t) (back : Text) :
    LiesAlong placeholder (front ++ back) t := by
  induction front generalizing t with
  | nil =>
    cases t with
    | nil => exact liesAlong_nil placeholder back
    | cons => exact along.elim
  | cons m ms ih =>
    cases t with
    | nil => exact liesAlong_nil placeholder _
    | cons y ys => exact ⟨along.1, ih along.2⟩

/-- On the slots of a text that lies along a pattern stand letters and digits. -/
theorem LiesAlong.charsOnSlots {placeholder : Char} {pattern t : Text}
    (along : LiesAlong placeholder pattern t) :
    ∀ c ∈ MaskedInput.charsOnSlots placeholder pattern t, Text.isAlphanumeric c = true := by
  induction pattern generalizing t with
  | nil => simp
  | cons m ms ih =>
    cases t with
    | nil => simp
    | cons y ys =>
      intro c member
      rw [charsOnSlots_cons, List.mem_append] at member
      rcases member with here | later
      · by_cases slot : m = placeholder
        · rw [slot, Element.ofChar_self] at here
          have accepted := along.1
          rw [slot, Element.ofChar_self] at accepted
          rwa [List.mem_singleton.mp here]
        · simp [Element.ofChar_literal slot, Element.kept] at here
      · exact ih along.2 c later

/-- A pattern whose placeholder is itself a letter or digit lies along itself. -/
theorem liesAlong_self {placeholder : Char} (letter : Text.isAlphanumeric placeholder = true)
    (pattern : Text) : LiesAlong placeholder pattern pattern := by
  induction pattern with
  | nil => exact trivial
  | cons m ms ih =>
    refine ⟨?_, ih⟩
    by_cases slot : m = placeholder
    · rw [slot, Element.ofChar_self]
      exact letter
    · rw [Element.ofChar_literal slot]
      exact Element.accepts_literal_self m

namespace Cut

/-- A text that lies along the pattern has the shape of the mask. -/
theorem value?_isSome_of_liesAlong {placeholder : Char} {pattern t : Text}
    (along : LiesAlong placeholder pattern t) :
    (value? (pattern.map (Element.ofChar placeholder)) t).isSome := by
  induction pattern generalizing t with
  | nil => cases t with
    | nil => rfl
    | cons => exact along.elim
  | cons m ms ih =>
    cases t with
    | nil => simp
    | cons y ys =>
      obtain ⟨accepted, along⟩ := along
      rw [List.map_cons, value?_cons, Option.isSome_map, List.dropWhile_cons, if_pos accepted]
      exact value?_suffix _ (List.dropWhile_suffix _) (ih along)

end Cut

/-- Whether two elements in this order can be told apart by their characters: no character that the
second takes belongs to the first as well, unless they are equal. -/
def Element.Apart (e next : Element) : Prop :=
  e = next ∨ ∀ c, next.accepts c = true → ¬e.accepts c = true

namespace Cut

/-- Reading past the element in front: a character that the next one takes is the next one's. -/
theorem value?_apart {e next : Element} (apart : e.Apart next) (es : List Element) (y : Char)
    (t : Text) (accepted : next.accepts y = true) :
    value? (e :: next :: es) (y :: t) = (value? (next :: es) t).map (next.kept [y] ++ ·) := by
  rw [← value?_cons_accepts _ _ _ _ accepted]
  rcases apart with rfl | foreign
  · rw [value?_repeat]
  · exact value?_cons_refuses _ _ _ _ (foreign y accepted)

/-- Along a mask whose neighbouring elements can be told apart, reading gives the characters on the
slots. The element in front stands for what has been read so far. -/
theorem value?_of_liesAlong {placeholder : Char} {pattern t : Text} {e : Element}
    (apart : (e :: pattern.map (Element.ofChar placeholder)).IsChain Element.Apart)
    (along : LiesAlong placeholder pattern t) :
    value? (e :: pattern.map (Element.ofChar placeholder)) t =
      some (charsOnSlots placeholder pattern t) := by
  induction pattern generalizing e t with
  | nil => cases t with
    | nil => simp
    | cons => exact along.elim
  | cons m ms ih =>
    cases t with
    | nil => simp
    | cons y ys =>
      rw [List.map_cons, List.isChain_cons_cons] at apart
      rw [List.map_cons, value?_apart apart.1 _ _ _ along.1, ih apart.2 along.2,
        charsOnSlots_cons]
      rfl

/-- Reading from the first element on. That it counts once or twice makes no difference. -/
theorem value?_pattern_of_liesAlong {placeholder : Char} {pattern t : Text}
    (apart : (pattern.map (Element.ofChar placeholder)).IsChain Element.Apart)
    (along : LiesAlong placeholder pattern t) :
    value? (pattern.map (Element.ofChar placeholder)) t =
      some (charsOnSlots placeholder pattern t) := by
  cases pattern with
  | nil => cases t with
    | nil => rfl
    | cons => exact along.elim
  | cons m ms =>
    have doubled : (Element.ofChar placeholder m ::
        (m :: ms).map (Element.ofChar placeholder)).IsChain Element.Apart :=
      List.isChain_cons_cons.mpr ⟨Or.inl rfl, apart⟩
    have read := value?_of_liesAlong doubled along
    rwa [List.map_cons, value?_repeat] at read

/-- Behind a text that takes up a first part of such a mask, reading goes on with the last element of
that part. -/
theorem value?_append_of_liesAlong {placeholder : Char} {front t : Text} {e : Element}
    (apart : (e :: front.map (Element.ofChar placeholder)).IsChain Element.Apart)
    (along : LiesAlong placeholder front t) (whole : t.length = front.length)
    (es : List Element) (u : Text) :
    value? (e :: (front.map (Element.ofChar placeholder) ++ es)) (t ++ u) =
      (value? ((front.map (Element.ofChar placeholder)).getLastD e :: es) u).map
        (charsOnSlots placeholder front t ++ ·) := by
  induction front generalizing e t with
  | nil =>
    rw [List.eq_nil_of_length_eq_zero whole]
    simp
  | cons m ms ih =>
    cases t with
    | nil => cases whole
    | cons y ys =>
      rw [List.map_cons, List.isChain_cons_cons] at apart
      rw [List.map_cons, List.cons_append, List.cons_append, value?_apart apart.1 _ _ _ along.1,
        ih apart.2 along.2 (Nat.succ.inj whole), charsOnSlots_cons, List.getLastD_cons,
        Option.map_map]
      congr 1
      funext v
      simp

/-- The first element of a mask counts once or twice, which makes no difference. -/
theorem value?_append_concat {placeholder m : Char} {front t : Text}
    (apart : ((front ++ [m]).map (Element.ofChar placeholder)).IsChain Element.Apart)
    (along : LiesAlong placeholder (front ++ [m]) t) (whole : t.length = (front ++ [m]).length)
    (es : List Element) (u : Text) :
    value? ((front ++ [m]).map (Element.ofChar placeholder) ++ es) (t ++ u) =
      (value? (Element.ofChar placeholder m :: es) u).map
        (charsOnSlots placeholder (front ++ [m]) t ++ ·) := by
  obtain ⟨d, ds, split⟩ := List.exists_cons_of_ne_nil (List.concat_ne_nil m front)
  have last : ((front ++ [m]).map (Element.ofChar placeholder)).getLastD
      (Element.ofChar placeholder d) = Element.ofChar placeholder m := by simp
  have doubled : (Element.ofChar placeholder d ::
      (front ++ [m]).map (Element.ofChar placeholder)).IsChain Element.Apart := by
    rw [split, List.map_cons] at apart ⊢
    exact List.isChain_cons_cons.mpr ⟨Or.inl rfl, apart⟩
  have read := value?_append_of_liesAlong doubled along whole es u
  rw [last] at read
  rw [← read, split, List.map_cons, List.cons_append, value?_repeat]

/-- Where no literal is a letter or digit, whatever can be read is all letters and digits. -/
theorem value?_eq_alphanumerics {es : List Element} {t v : Text}
    (plain : ∀ c, Element.literal c ∈ es → ¬Text.isAlphanumeric c = true)
    (read : value? es t = some v) : v = Text.alphanumerics t := by
  have letters : v.filter Text.isAlphanumeric = v :=
    List.filter_eq_self.mpr (value?_letters read)
  rw [← letters, value?_filter plain read, Text.alphanumerics]

end Cut
end MaskedInput
