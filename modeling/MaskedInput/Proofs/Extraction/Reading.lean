import MaskedInput.Extraction.Mode
import Mathlib.Data.List.Infix
import Mathlib.Data.List.TakeWhile

/-!
# Reading a value along a mask

What the greedy cut gives for the runs of slots, read one element and one character at a time. A run
of slots may be split into single slots without any effect on the value: the first of them takes all
there is, the others nothing. A text that has any cut along a mask has the greedy one, and so has
every end of it; this is what makes going back needless (`search_eq_scan`).
-/
namespace MaskedInput

/-- The element that one character of a pattern stands for on its own. -/
def Element.ofChar (placeholder c : Char) : Element :=
  if c = placeholder then .slots else .literal c

/-- What a piece adds to the value. -/
def Element.kept : Element → Text → Text
  | .slots, piece => piece
  | .literal _, _ => []

@[simp] theorem Element.ofChar_self (placeholder : Char) :
    Element.ofChar placeholder placeholder = .slots := if_pos rfl

theorem Element.ofChar_literal {placeholder c : Char} (literal : c ≠ placeholder) :
    Element.ofChar placeholder c = .literal c := if_neg literal

@[simp] theorem Element.accepts_literal_self (c : Char) : (Element.literal c).accepts c = true :=
  beq_self_eq_true c

theorem Element.accepts_slots (c : Char) : Element.slots.accepts c = Text.isAlphanumeric c := rfl

@[simp] theorem Element.kept_append (e : Element) (s t : Text) :
    e.kept (s ++ t) = e.kept s ++ e.kept t := by cases e <;> rfl

@[simp] theorem Element.kept_nil (e : Element) : e.kept [] = [] := by cases e <;> rfl

namespace Cut

/-- The value that the greedy cut of a text gives, if there is one. -/
def value? (es : List Element) (t : Text) : Option Text := (scan es t).map slotText

theorem value?_cons (e : Element) (es : List Element) (t : Text) :
    value? (e :: es) t =
      (value? es (t.dropWhile e.accepts)).map (e.kept (t.takeWhile e.accepts) ++ ·) := by
  unfold value?
  rw [scan]
  cases scan es (t.dropWhile e.accepts) with
  | none => rfl
  | some cut => cases e <;> simp [slotText, Element.kept]

@[simp] theorem value?_nil_text (es : List Element) : value? es [] = some [] := by
  induction es with
  | nil => rfl
  | cons e es ih => simp [value?_cons, ih]

theorem value?_cons_accepts (e : Element) (es : List Element) (y : Char) (t : Text)
    (accepted : e.accepts y = true) :
    value? (e :: es) (y :: t) = (value? (e :: es) t).map (e.kept [y] ++ ·) := by
  have split : e.kept (y :: t.takeWhile e.accepts) = e.kept [y] ++ e.kept (t.takeWhile e.accepts) :=
    e.kept_append [y] _
  simp only [value?_cons, List.takeWhile_cons, List.dropWhile_cons, accepted, if_true, split,
    Option.map_map]
  congr 1
  funext v
  simp

theorem value?_cons_refuses (e : Element) (es : List Element) (y : Char) (t : Text)
    (refused : ¬e.accepts y = true) : value? (e :: es) (y :: t) = value? es (y :: t) := by
  simp [value?_cons, refused]

/-- The second of two equal elements finds nothing left for it. -/
theorem value?_repeat (e : Element) (es : List Element) (t : Text) :
    value? (e :: e :: es) t = value? (e :: es) t := by
  induction t with
  | nil => simp
  | cons y t ih =>
    by_cases accepted : e.accepts y = true
    · rw [value?_cons_accepts _ _ _ _ accepted, value?_cons_accepts _ _ _ _ accepted, ih]
    · exact value?_cons_refuses _ _ _ _ accepted

/-- A run of slots reads as so many single slots. -/
theorem value?_ofPattern (placeholder : Char) (pattern t : Text) :
    value? (Element.ofPattern placeholder pattern) t =
      value? (pattern.map (Element.ofChar placeholder)) t := by
  induction pattern generalizing t with
  | nil => rfl
  | cons c rest ih =>
    have lifted (e : Element) : value? (e :: Element.ofPattern placeholder rest) t =
        value? (e :: rest.map (Element.ofChar placeholder)) t := by
      rw [value?_cons, value?_cons, ih]
    rw [Element.ofPattern, List.map_cons]
    split
    next slot =>
      subst c
      rw [Element.ofChar_self, ← lifted]
      split
      next more run => rw [run, value?_repeat]
      next => rfl
    next literal => rw [Element.ofChar_literal literal, lifted]

/-- If a text can be cut greedily, then so can every end of it. -/
theorem value?_suffix (es : List Element) {t r : Text} (suffix : r <:+ t)
    (fits : (value? es t).isSome) : (value? es r).isSome := by
  induction es generalizing t r with
  | nil =>
    have empty : t = [] := by
      cases t with
      | nil => rfl
      | cons => simp [value?, scan] at fits
    have : r = [] := by simpa [empty] using suffix
    simp [this]
  | cons e es ih =>
    rw [value?_cons, Option.isSome_map] at fits ⊢
    refine ih ?_ fits
    obtain ⟨front, rfl⟩ := suffix
    rw [List.dropWhile_append]
    split
    · exact List.suffix_rfl
    · exact (List.dropWhile_suffix _).trans (List.suffix_append _ r)

theorem scan_isSome_of_suffix (es : List Element) {t r : Text} (suffix : r <:+ t)
    (fits : (scan es t).isSome) : (scan es r).isSome := by
  simpa [value?] using value?_suffix es suffix (by simpa [value?] using fits)

/-- Letters and digits that no element before a run of slots takes are all on it. -/
theorem value?_behind_literals {front back : List Element} {t : Text}
    (letters : ∀ c ∈ t, Text.isAlphanumeric c = true)
    (foreign : ∀ e ∈ front, ∀ c ∈ t, ¬e.accepts c = true) :
    value? (front ++ .slots :: back) t = some t := by
  induction front with
  | nil =>
    have all : t.takeWhile Element.slots.accepts = t := List.takeWhile_eq_self_iff.mpr letters
    have none : t.dropWhile Element.slots.accepts = [] := List.dropWhile_eq_nil_iff.mpr letters
    rw [List.nil_append, value?_cons, all, none, value?_nil_text]
    simp [Element.kept]
  | cons e es ih =>
    cases t with
    | nil => exact value?_nil_text _
    | cons y t =>
      have refused := foreign e (by simp) y (by simp)
      rw [List.cons_append, value?_cons_refuses _ _ _ _ refused]
      exact ih fun e member => foreign e (List.mem_cons_of_mem _ member)

/-- A letter that a literal before all slots takes is not read into the value. -/
theorem value?_swallowed {front : List Element} (none : .slots ∉ front) (c : Char)
    (back : List Element) : value? (front ++ .literal c :: back) [c] = some [] := by
  have taken (d : Char) (es : List Element) (same : (Element.literal d).accepts c = true) :
      value? (.literal d :: es) [c] = some [] := by
    rw [value?_cons_accepts _ _ _ _ same, value?_nil_text]
    rfl
  induction front with
  | nil => exact taken c back (Element.accepts_literal_self c)
  | cons e es ih =>
    cases e with
    | slots => simp at none
    | literal d =>
      by_cases same : (Element.literal d).accepts c = true
      · exact taken d _ same
      · rw [List.cons_append, value?_cons_refuses _ _ _ _ same]
        exact ih fun member => none (List.mem_cons_of_mem _ member)

/-- Only letters and digits are read into the value. -/
theorem value?_letters {es : List Element} {t v : Text} (read : value? es t = some v) :
    ∀ c ∈ v, Text.isAlphanumeric c = true := by
  induction es generalizing t v with
  | nil => cases t with
    | nil =>
      have empty : v = [] := by simpa using read.symm
      simp [empty]
    | cons => simp [value?, scan] at read
  | cons e es ih =>
    rw [value?_cons, Option.map_eq_some_iff] at read
    obtain ⟨later, read, rfl⟩ := read
    intro c member
    rcases List.mem_append.mp member with here | there
    · cases e with
      | slots => exact List.mem_takeWhile_imp here
      | literal d => cases here
    · exact ih read c there

/-- Of what no literal takes, reading loses nothing and adds nothing. -/
theorem value?_filter {es : List Element} {t v : Text} {foreign : Char → Bool}
    (strange : ∀ c, Element.literal c ∈ es → ¬foreign c = true) (read : value? es t = some v) :
    v.filter foreign = t.filter foreign := by
  induction es generalizing t v with
  | nil => cases t with
    | nil =>
      have empty : v = [] := by simpa using read.symm
      rw [empty]
    | cons => simp [value?, scan] at read
  | cons e es ih =>
    rw [value?_cons, Option.map_eq_some_iff] at read
    obtain ⟨later, read, rfl⟩ := read
    have rest := ih (fun c member => strange c (List.mem_cons_of_mem _ member)) read
    have taken : (e.kept (t.takeWhile e.accepts)).filter foreign =
        (t.takeWhile e.accepts).filter foreign := by
      cases e with
      | slots => rfl
      | literal c =>
        -- The piece is dropped as a whole, but there is nothing in it except the literal.
        symm
        refine List.filter_eq_nil_iff.mpr fun x member => ?_
        have same : x = c := by simpa [Element.accepts] using List.mem_takeWhile_imp member
        rw [same]
        exact strange c (by simp)
    rw [List.filter_append, taken, rest, ← List.filter_append, List.takeWhile_append_dropWhile]

/-- The value stands in the text, character after character. -/
theorem value?_sublist {es : List Element} {t v : Text} (read : value? es t = some v) :
    v.Sublist t := by
  induction es generalizing t v with
  | nil => cases t with
    | nil =>
      have empty : v = [] := by simpa using read.symm
      rw [empty]
    | cons => simp [value?, scan] at read
  | cons e es ih =>
    rw [value?_cons, Option.map_eq_some_iff] at read
    obtain ⟨later, read, rfl⟩ := read
    have taken : (e.kept (t.takeWhile e.accepts)).Sublist (t.takeWhile e.accepts) := by
      cases e with
      | slots => exact List.Sublist.refl _
      | literal c => exact List.nil_sublist _
    simpa using taken.append (ih read)

/-- Without slots nothing is read into the value. -/
theorem value?_of_no_slots {es : List Element} {t v : Text} (none : .slots ∉ es)
    (read : value? es t = some v) : v = [] := by
  induction es generalizing t v with
  | nil => cases t with
    | nil => simpa using read.symm
    | cons => simp [value?, scan] at read
  | cons e es ih =>
    rw [value?_cons, Option.map_eq_some_iff] at read
    obtain ⟨later, read, rfl⟩ := read
    cases e with
    | slots => simp at none
    | literal c => simpa [Element.kept] using ih (fun member => none (by simp [member])) read

/-- Where the rest can be cut behind a shorter piece whenever it can behind a longer one only, the
longest piece decides. -/
private theorem longestFirst_eq (e : Element) (t : Text) (rest : Text → Option Cut)
    (closed : ∀ {t r : Text}, r <:+ t → (rest t).isSome → (rest r).isSome) (take : Nat) :
    longestFirst e t rest take = (rest (t.drop take)).map ((e, t.take take) :: ·) := by
  induction take with
  | zero => rfl
  | succ take ih =>
    rw [longestFirst]
    cases longer : rest (t.drop (take + 1)) with
    | some cut => rfl
    | none =>
      rw [ih]
      cases shorter : rest (t.drop take) with
      | none => rfl
      | some cut =>
        have ending : t.drop (take + 1) <:+ t.drop take := by
          rw [← List.drop_drop]
          exact List.drop_suffix _ _
        have cuttable := closed ending (by simp [shorter])
        simp [longer] at cuttable

/-- Going back over shorter pieces never finds a cut that taking the longest everywhere misses. -/
theorem search_eq_scan (es : List Element) : search es = scan es := by
  induction es with
  | nil => funext t; cases t <;> rfl
  | cons e es ih =>
    funext t
    have parts := List.takeWhile_append_dropWhile (p := e.accepts) (l := t)
    have back : t.drop (t.takeWhile e.accepts).length = t.dropWhile e.accepts := by
      conv_lhs => rw [← parts]
      exact List.drop_left' (by simp [parts])
    have front : t.take (t.takeWhile e.accepts).length = t.takeWhile e.accepts := by
      conv_lhs => rw [← parts]
      exact List.take_left' (by simp [parts])
    rw [search, ih, longestFirst_eq e t _ (scan_isSome_of_suffix es), back, front, scan]

end Cut
end MaskedInput
