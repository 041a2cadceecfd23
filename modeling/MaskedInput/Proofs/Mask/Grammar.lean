import MaskedInput.Mask.Element
import Mathlib.Data.List.Chain

/-!
# The grammar of extraction patterns

An extraction pattern is read back by a grammar of its own: between a circumflex and a dollar sign
stand classes of one character, which may have a backslash in front, and the group for a run of
slots. No two of these begin alike, whatever the character of a class is, so that a text is read in
one way at most. What is read from the extraction pattern of a mask is its literals and its maximal
runs of slots, in order.
-/
namespace MaskedInput
namespace Element

/-- The pattern is made up of the elements in order: its own character for a literal, and the
placeholder at least once, and as often as it stands there, for a run of slots. -/
inductive MakeUp (placeholder : Char) : List Element → Text → Prop where
  | nil : MakeUp placeholder [] []
  | literal (c : Char) {es : List Element} {t : Text} (isLiteral : c ≠ placeholder)
      (rest : MakeUp placeholder es t) : MakeUp placeholder (.literal c :: es) (c :: t)
  | run (n : Nat) {es : List Element} {t : Text} (maximal : t.head? ≠ some placeholder)
      (rest : MakeUp placeholder es t) :
      MakeUp placeholder (.slots :: es) (List.replicate (n + 1) placeholder ++ t)

/-- The ways to write an element. -/
inductive SpelledAs : Element → Text → Prop where
  | bare (c : Char) : SpelledAs (.literal c) ['[', c, ']', '*']
  | escaped (c : Char) : SpelledAs (.literal c) ['[', '\\', c, ']', '*']
  | group : SpelledAs .slots slotGroup

/-- The ways to write elements one after another. -/
inductive AllSpelledAs : List Element → Text → Prop where
  | nil : AllSpelledAs [] []
  | cons {e : Element} {es : List Element} {s t : Text} (first : SpelledAs e s)
      (rest : AllSpelledAs es t) : AllSpelledAs (e :: es) (s ++ t)

/-- Whether a text can be read as these elements, between its two anchors. -/
def ReadAs (t : Text) (es : List Element) : Prop :=
  ∃ body, t = ['^'] ++ body ++ ['$'] ∧ AllSpelledAs es body

section MakeUp

variable {placeholder : Char}

theorem head?_ofPattern_eq_slots_iff (t : Text) :
    (ofPattern placeholder t).head? = some .slots ↔ t.head? = some placeholder := by
  cases t with
  | nil => simp [ofPattern]
  | cons c t =>
    rw [ofPattern]
    by_cases slot : c = placeholder
    · rw [if_pos slot]
      split <;> simp [slot]
    · simp [slot]

/-- However long a run of slots is, it counts once. -/
theorem ofPattern_replicate_append (n : Nat) {t : Text} (maximal : t.head? ≠ some placeholder) :
    ofPattern placeholder (List.replicate (n + 1) placeholder ++ t) =
      .slots :: ofPattern placeholder t := by
  induction n with
  | zero =>
    have noRun := mt (head?_ofPattern_eq_slots_iff t).mp maximal
    rw [List.replicate_one, List.singleton_append, ofPattern, if_pos rfl]
    split
    next more run => exact absurd (by rw [run]; rfl) noRun
    next => rfl
  | succ n ih => rw [List.replicate_succ, List.cons_append, ofPattern, if_pos rfl, ih]

theorem makeUp_ofPattern (t : Text) : MakeUp placeholder (ofPattern placeholder t) t := by
  induction t with
  | nil => exact .nil
  | cons c t ih =>
    rw [ofPattern]
    by_cases slot : c = placeholder
    · rw [if_pos slot, slot]
      split
      next more run =>
        -- The run in front of the rest is one longer now.
        rw [run] at ih
        cases ih with
        | run n maximal rest => exact .run (n + 1) maximal rest
      next noRun =>
        refine .run 0 (fun first => ?_) ih
        rw [← head?_ofPattern_eq_slots_iff] at first
        obtain ⟨more, run⟩ := List.head?_eq_some_iff.mp first
        exact noRun more run
    · rw [if_neg slot]
      exact .literal c slot ih

/-- A pattern is made up of its elements and of no other ones. -/
theorem makeUp_iff {es : List Element} {t : Text} :
    MakeUp placeholder es t ↔ es = ofPattern placeholder t := by
  constructor
  · intro made
    induction made with
    | nil => rfl
    | literal c isLiteral rest ih => rw [ofPattern, if_neg isLiteral, ← ih]
    | run n maximal rest ih => rw [ofPattern_replicate_append n maximal, ← ih]
  · rintro rfl
    exact makeUp_ofPattern t

/-- Between two runs of slots stands a literal. -/
theorem MakeUp.isChain {es : List Element} {t : Text} (made : MakeUp placeholder es t) :
    es.IsChain fun e next => ¬(e = .slots ∧ next = .slots) := by
  induction made with
  | nil => exact .nil
  | literal c isLiteral rest ih => exact ih.cons (by simp)
  | run n maximal rest ih =>
    refine ih.cons fun next first both => maximal ?_
    rw [makeUp_iff.mp rest, both.2] at first
    exact (head?_ofPattern_eq_slots_iff _).mp first

end MakeUp

theorem spelledAs_regex (e : Element) : SpelledAs e e.regex := by
  cases e with
  | slots => exact .group
  | literal c =>
    rw [regex, Element.escaped]
    split
    · exact .escaped c
    · exact .bare c

/-- A group opens with a parenthesis and not, like a class, with a bracket. -/
theorem slotGroup_append_ne (t u : Text) : slotGroup ++ t ≠ '[' :: u := by
  intro same
  have opening : slotGroup.head? = some '(' := by decide
  have heads := congrArg List.head? same
  simp [List.head?_append, opening] at heads

/-- No way to write an element is the beginning of a way to write another one. A backslash that is
a literal itself is followed by a bracket and an asterisk, one in front of a literal by the literal
and a bracket. -/
theorem SpelledAs.unique {e f : Element} {s s' t t' : Text} (first : SpelledAs e s)
    (second : SpelledAs f s') (same : s ++ t = s' ++ t') : e = f ∧ t = t' := by
  cases first with
  | bare c => cases second with
    | bare d => simpa using same
    | escaped d => simp at same
    | group => exact absurd same.symm (slotGroup_append_ne _ _)
  | escaped c => cases second with
    | bare d => simp at same
    | escaped d => simpa using same
    | group => exact absurd same.symm (slotGroup_append_ne _ _)
  | group => cases second with
    | bare d => exact absurd same (slotGroup_append_ne _ _)
    | escaped d => exact absurd same (slotGroup_append_ne _ _)
    | group => exact ⟨rfl, List.append_cancel_left same⟩

theorem SpelledAs.ne_nil {e : Element} {s : Text} (spelled : SpelledAs e s) : s ≠ [] := by
  cases spelled with
  | bare c => exact List.cons_ne_nil _ _
  | escaped c => exact List.cons_ne_nil _ _
  | group => decide

theorem AllSpelledAs.unique {es fs : List Element} {t : Text} (first : AllSpelledAs es t)
    (second : AllSpelledAs fs t) : es = fs := by
  induction first generalizing fs with
  | nil =>
    generalize empty : ([] : Text) = t at second
    cases second with
    | nil => rfl
    | cons spelled rest => exact absurd (List.append_eq_nil_iff.mp empty.symm).1 spelled.ne_nil
  | @cons e es s t spelled rest ih =>
    generalize whole : s ++ t = u at second
    cases second with
    | nil => exact absurd (List.append_eq_nil_iff.mp whole).1 spelled.ne_nil
    | cons spelled' rest' =>
      obtain ⟨rfl, rfl⟩ := spelled.unique spelled' whole
      rw [ih rest']

theorem allSpelledAs_flatMap (es : List Element) : AllSpelledAs es (es.flatMap regex) := by
  induction es with
  | nil => exact .nil
  | cons e es ih => exact .cons (spelledAs_regex e) ih

/-- A text is read as one sequence of elements at most. -/
theorem ReadAs.unique {t : Text} {es fs : List Element} (first : ReadAs t es)
    (second : ReadAs t fs) : es = fs := by
  obtain ⟨body, rfl, spelled⟩ := first
  obtain ⟨body', same, spelled'⟩ := second
  have bodies : body = body' := List.append_cancel_left (List.append_cancel_right same)
  exact spelled.unique (bodies ▸ spelled')

/-- An expression is read as the elements it was written for, and as nothing else. -/
theorem readAs_expression_iff {es fs : List Element} : ReadAs (expression es) fs ↔ fs = es := by
  have written : ReadAs (expression es) es := ⟨_, rfl, allSpelledAs_flatMap es⟩
  exact ⟨fun read => read.unique written, fun same => same ▸ written⟩

/-- The extraction pattern of a mask tells the literals of the mask and its maximal runs of slots, in
order and nothing else: read by the grammar it gives the one sequence of elements that makes up the
mask, in which no run stands beside a run. Two masks, whatever their literals and placeholders are,
have the same extraction pattern exactly if they have the same sequence of elements. -/
theorem expression_unambiguous (placeholder : Char) (pattern : Text) :
    (∃ es, (∀ read, ReadAs (expression (ofPattern placeholder pattern)) read ↔ read = es) ∧
      (∀ made, MakeUp placeholder made pattern ↔ made = es) ∧
      es.IsChain fun e next => ¬(e = .slots ∧ next = .slots)) ∧
    ∀ (other : Char) (otherPattern : Text),
      expression (ofPattern placeholder pattern) = expression (ofPattern other otherPattern) ↔
        ∃ es, MakeUp placeholder es pattern ∧ MakeUp other es otherPattern := by
  refine ⟨⟨ofPattern placeholder pattern, fun read => readAs_expression_iff, fun made => makeUp_iff,
    (makeUp_ofPattern pattern).isChain⟩, fun other otherPattern => ⟨fun same => ?_, ?_⟩⟩
  · have read : ReadAs (expression (ofPattern other otherPattern)) (ofPattern placeholder pattern) :=
      same ▸ readAs_expression_iff.mpr rfl
    exact ⟨_, makeUp_ofPattern pattern, makeUp_iff.mpr (readAs_expression_iff.mp read)⟩
  · rintro ⟨es, made, otherMade⟩
    rw [← makeUp_iff.mp made, ← makeUp_iff.mp otherMade]

/-- A pattern whose literals all have a meaning in the grammar. -/
example : expression (ofPattern '#' ['[', '#', '#', ']', '\\', '^', '#']) =
    "^[\\[]*([\\p\x7bL\x7d\\p\x7bNd\x7d]*)[\\]]*[\\\\]*[\\^]*([\\p\x7bL\x7d\\p\x7bNd\x7d]*)$".toList := by
  decide

end Element
end MaskedInput
