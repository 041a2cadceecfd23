import MaskedInput.Regex.Parser

/-!
# Reading from the front of a text

What the reader of regular expressions does with a text that begins in a certain way, whatever
follows. Each elementary step is an equation that simplification knows. Of the larger parts only
those are described that occur in extraction patterns: escapes, sets that list single characters and
properties, a star, a group without a name, and the two anchors.
-/
namespace MaskedInput.Regex

/-- The cursor at a place with this text ahead, where blanks count and no group has a name. -/
def Cursor.inFront (p : Place) (t : Text) : Cursor :=
  { rest := (marks p t).1, finish := (marks p t).2 }

/-- The characters that have a meaning of their own in a set, at its beginning or anywhere. -/
def setSigns : List Char := ['^', '[', ']', '-', '&', '~']

theorem map_marks (p : Place) (t : Text) : (marks p t).1.map (·.1) = t := by
  induction t generalizing p with
  | nil => rfl
  | cons c t ih => exact congrArg (c :: ·) (ih (p.behind c))

theorem Cursor.ofPattern_eq (pattern : Text) : ofPattern pattern = inFront .start pattern := rfl

@[simp] theorem Cursor.length_rest_inFront (p : Place) (t : Text) :
    (inFront p t).rest.length = t.length := by
  have places := congrArg List.length (map_marks p t)
  rwa [List.length_map] at places

namespace Parse

@[simp] theorem ok_bind {α β : Type} (a : α) (next : α → Except Flaw β) :
    (Except.ok a >>= next) = next a := rfl

@[simp] theorem map_ok {α β : Type} (a : α) (f : α → β) :
    f <$> (Except.ok a : Except Flaw α) = .ok (f a) := rfl

@[simp] theorem pure_eq_ok {α : Type} (a : α) : (pure a : Except Flaw α) = .ok a := rfl

variable {p q : Place} {c d : Char} {s t : Text}

section Steps

@[simp] theorem run_get :
    (get : Parse Cursor).run (.inFront p t) = .ok (.inFront p t, .inFront p t) := rfl

@[simp] theorem run_place : place.run (.inFront p t) = .ok (p, .inFront p t) := by
  cases t <;> rfl

@[simp] theorem run_peek : peek.run (.inFront p t) = .ok (t.head?, .inFront p t) := by
  cases t <;> rfl

@[simp] theorem run_peekSecond : peekSecond.run (.inFront p t) = .ok (t[1]?, .inFront p t) := by
  rcases t with _ | ⟨_, _ | ⟨_, _⟩⟩ <;> rfl

@[simp] theorem run_peekBeyond : peekBeyond.run (.inFront p t) = .ok (t[1]?, .inFront p t) := by
  rcases t with _ | ⟨_, _ | ⟨_, _⟩⟩ <;> rfl

@[simp] theorem run_ahead : ahead.run (.inFront p t) = .ok (t, .inFront p t) := by
  simp [ahead, Cursor.inFront, map_marks]

@[simp] theorem run_skipSpace : skipSpace.run (.inFront p t) = .ok ((), .inFront p t) := rfl

@[simp] theorem run_bump :
    bump.run (.inFront p (c :: t)) = .ok ((), .inFront (p.behind c) t) := rfl

@[simp] theorem run_bumpSpace :
    bumpSpace.run (.inFront p (c :: t)) = .ok ((), .inFront (p.behind c) t) := rfl

@[simp] theorem run_atEnd : atEnd.run (.inFront p t) = .ok (t.isEmpty, .inFront p t) := by
  cases t <;> rfl

@[simp] theorem run_nextSpan :
    nextSpan.run (.inFront p (c :: t)) = .ok (⟨p, p.behind c⟩, .inFront p (c :: t)) := rfl

@[simp] theorem run_spanFrom (first : Place) :
    (spanFrom first).run (.inFront p t) = .ok (⟨first, p⟩, .inFront p t) := by
  cases t <;> rfl

@[simp] theorem run_here : here.run (.inFront p t) = .ok (.point p, .inFront p t) := by
  cases t <;> rfl

@[simp] theorem run_setSpaced : (setSpaced false).run (.inFront p t) = .ok ((), .inFront p t) := rfl

@[simp] theorem run_verbatim :
    verbatim.run (.inFront p (c :: t)) =
      .ok ({ span := ⟨p, p.behind c⟩, char := c }, .inFront (p.behind c) t) := by
  simp [verbatim]

/-- A text is not accepted where another character comes first. -/
theorem run_accept_other (other : t.head? ≠ some c) :
    (accept (c :: s)).run (.inFront p t) = .ok (false, .inFront p t) := by
  have noPrefix : (c :: s).isPrefixOf t = false := by
    cases t with
    | nil => rfl
    | cons d t =>
      have different : (c == d) = false := by simpa using fun same => other (by rw [same]; rfl)
      rw [List.isPrefixOf, different, Bool.false_and]
  rw [accept, StateT.run_bind, run_ahead, ok_bind, noPrefix]
  rfl

theorem exists_run_takeUpTo {takes : Char → Bool} (all : ∀ x ∈ s, takes x = true)
    (stop : takes c = false) {n : Nat} (enough : s.length < n) :
    ∃ q, (takeUpTo takes n).run (.inFront p (s ++ c :: t)) = .ok (s, .inFront q (c :: t)) := by
  induction s generalizing p n with
  | nil =>
    obtain ⟨n, rfl⟩ := Nat.exists_eq_succ_of_ne_zero (Nat.ne_zero_of_lt enough)
    exact ⟨p, by simp [takeUpTo, stop]⟩
  | cons x s ih =>
    obtain ⟨n, rfl⟩ := Nat.exists_eq_succ_of_ne_zero (Nat.ne_zero_of_lt enough)
    obtain ⟨first, others⟩ := List.forall_mem_cons.mp all
    obtain ⟨q, later⟩ := ih (p := p.behind x) others (Nat.lt_of_succ_lt_succ enough)
    exact ⟨q, by simp [takeUpTo, first, later]⟩

theorem exists_run_takeWhile {takes : Char → Bool} (all : ∀ x ∈ s, takes x = true)
    (stop : takes c = false) :
    ∃ q, (takeWhile takes).run (.inFront p (s ++ c :: t)) = .ok (s, .inFront q (c :: t)) := by
  have enough : s.length < (s ++ c :: t).length := by
    rw [List.length_append, List.length_cons]
    omega
  obtain ⟨q, taken⟩ := exists_run_takeUpTo (p := p) (t := t) all stop enough
  refine ⟨q, ?_⟩
  rw [takeWhile, StateT.run_bind, run_get, ok_bind, Cursor.length_rest_inFront, taken]

end Steps

section Sets

theorem run_simpleEscape_sign (start : Place) (sign : standsForItself c = true) :
    (simpleEscape start c).run (.inFront p t) =
      .ok (.literal { span := ⟨start, p⟩, char := c }, .inFront p t) := by
  rw [simpleEscape, StateT.run_bind, run_spanFrom, ok_bind, if_pos sign]
  rfl

/-- A sign stands for itself behind a backslash. -/
theorem run_escape_sign (sign : standsForItself c = true) :
    escape.run (.inFront p ('\\' :: c :: t)) =
      .ok (.literal { span := ⟨p, (p.behind '\\').behind c⟩, char := c },
        .inFront ((p.behind '\\').behind c) t) := by
  -- Digits and letters begin escapes of their own; a sign is none of them.
  have notAlphanumeric : c.isAlphanum = false := by
    simp only [standsForItself, Bool.and_eq_true, Bool.not_eq_true'] at sign
    exact sign.1.1.2
  have notDigit : c.isDigit = false := by
    rw [Char.isAlphanum, Bool.or_eq_false_iff] at notAlphanumeric
    exact notAlphanumeric.2
  have noLetter {x : Char} (letter : x.isAlphanum = true) : c ≠ x := by
    rintro rfl
    rw [notAlphanumeric] at letter
    cases letter
  have noNumber : ¬(c = 'x' ∨ c = 'u' ∨ c = 'U') :=
    not_or.mpr ⟨noLetter rfl, not_or.mpr ⟨noLetter rfl, noLetter rfl⟩⟩
  have noProperty : ¬(c = 'p' ∨ c = 'P') := not_or.mpr ⟨noLetter rfl, noLetter rfl⟩
  simp [escape, notDigit, noNumber, noProperty, run_simpleEscape_sign p sign]

/-- A property is known by what stands between its braces. -/
theorem exists_run_escape_property (name : Text) (closes : '}' ∉ name) :
    ∃ span q, escape.run (.inFront p ('\\' :: 'p' :: '{' :: (name ++ '}' :: t))) =
      .ok (.named (.property span (query name) false), .inFront q t) := by
  have all : ∀ x ∈ name, (x != '}') = true := by
    intro x member
    rw [bne_iff_ne]
    rintro rfl
    exact closes member
  obtain ⟨q, reading⟩ := exists_run_takeWhile (p := ((p.behind '\\').behind 'p').behind '{')
    (c := '}') (t := t) all (by decide)
  exact ⟨⟨p, q.behind '}'⟩, q.behind '}', by simp [escape, property, reading]⟩

theorem run_setPrimitive_escape :
    setPrimitive.run (.inFront p ('\\' :: t)) = escape.run (.inFront p ('\\' :: t)) := by
  simp [setPrimitive]

theorem run_setPrimitive_verbatim (notBackslash : c ≠ '\\') :
    setPrimitive.run (.inFront p (c :: t)) =
      .ok (.literal { span := ⟨p, p.behind c⟩, char := c }, .inFront (p.behind c) t) := by
  simp [setPrimitive, notBackslash]

/-- What no hyphen follows is an item by itself and not the lower bound of a range. -/
theorem run_rangeOrItem (opened : Span) {e : Primitive} {item : ClassSet}
    (reading : setPrimitive.run (.inFront p s) = .ok (e, .inFront q (d :: t)))
    (isItem : setItem e = pure item) (noRange : d ≠ '-') :
    (rangeOrItem opened).run (.inFront p s) = .ok (item, .inFront q (d :: t)) := by
  simp [rangeOrItem, reading, isItem, noRange]

theorem run_bracketOpening (plain : c ∉ setSigns) :
    bracketOpening.run (.inFront p ('[' :: c :: t)) =
      .ok ({ span := ⟨p, p.behind '['⟩, negated := false,
             items := { span := .point (p.behind '[') } }, .inFront (p.behind '[') (c :: t)) := by
  simp only [setSigns, List.mem_cons, List.not_mem_nil, or_false, not_or] at plain
  obtain ⟨notCaret, -, notBracket, notHyphen, -⟩ := plain
  simp [bracketOpening, leadingHyphens, notCaret, notBracket, notHyphen]

theorem run_setSign?_none (plain : c ∉ setSigns) :
    setSign?.run (.inFront p (c :: t)) = .ok (none, .inFront p (c :: t)) := by
  simp only [setSigns, List.mem_cons, List.not_mem_nil, or_false, not_or] at plain
  obtain ⟨-, -, -, notHyphen, notAmpersand, notTilde⟩ := plain
  simp only [setSign?, StateT.run_bind, run_peek, run_peekSecond, ok_bind, List.head?_cons]
  split
  · rfl
  · simp [notHyphen, notAmpersand, notTilde]

theorem run_setItems_item {n : Nat} {opened : Span} {u : Items} {pending : Pending}
    {item : ClassSet} (plain : c ∉ setSigns)
    (reading : (rangeOrItem opened).run (.inFront p (c :: s)) = .ok (item, .inFront q t)) :
    (setItems (n + 1) opened u pending).run (.inFront p (c :: s)) =
      (setItems n opened (u.push item) pending).run (.inFront q t) := by
  have noSign := run_setSign?_none (p := p) (t := s) plain
  simp only [setSigns, List.mem_cons, List.not_mem_nil, or_false, not_or] at plain
  obtain ⟨-, notOpening, notClosing, -⟩ := plain
  simp [setItems, noSign, reading]

theorem run_setItems_closed {n : Nat} {opened : Span} {u : Items} {pending : Pending} :
    (setItems (n + 1) opened u pending).run (.inFront p (']' :: t)) =
      .ok (pending.combine u.toSet, .inFront p (']' :: t)) := by
  simp [setItems]

theorem exists_run_setItems_property (name : Text) (closes : '}' ∉ name) (noRange : d ≠ '-') :
    ∃ span q, ∀ n opened u pending, (setItems (n + 1) opened u pending).run
        (.inFront p ('\\' :: 'p' :: '{' :: (name ++ '}' :: d :: t))) =
      (setItems n opened (u.push (.named (.property span (query name) false))) pending).run
        (.inFront q (d :: t)) := by
  obtain ⟨span, q, escape⟩ := exists_run_escape_property (p := p) (t := d :: t) name closes
  refine ⟨span, q, fun n opened u pending => run_setItems_item (by decide) ?_⟩
  exact run_rangeOrItem opened (run_setPrimitive_escape.trans escape) rfl noRange

/-- A set of one item. -/
theorem exists_run_bracketed {item : ClassSet} (plain : c ∉ setSigns)
    (reading : ∀ opened, (rangeOrItem opened).run (.inFront (p.behind '[') (c :: s)) =
      .ok (item, .inFront q (']' :: t))) :
    ∃ set q, bracketed.run (.inFront p ('[' :: c :: s)) =
      .ok (.bracketed set false item, .inFront q t) := by
  refine ⟨⟨p, q.behind ']'⟩, q.behind ']', ?_⟩
  simp [bracketed, run_bracketOpening plain, run_setItems_item plain (reading _),
    run_setItems_closed, Items.push, Items.toSet, Pending.combine]

end Sets

section Levels

variable {n : Nat} {paren : Option Span} {l : Level} {e : Expression}

theorem run_level_set (reading : bracketed.run (.inFront p ('[' :: s)) = .ok (e, .inFront q t)) :
    (level (n + 1) paren l).run (.inFront p ('[' :: s)) =
      (level n paren (l.push e)).run (.inFront q t) := by
  simp [level, reading]

/-- A star repeats a set; a question mark behind it would belong to it. -/
theorem run_level_star {span : Span} {set : ClassSet} (greedy : t.head? ≠ some '?') :
    (level (n + 1) paren (l.push (.bracketed span false set))).run (.inFront p ('*' :: t)) =
      (level n paren (l.push (.repeated ⟨span.first, p.behind '*'⟩ 0 none
        (.bracketed span false set)))).run (.inFront (p.behind '*') t) := by
  simp [level, Level.push, repetition, repeatable, passQuestionMark, run_accept_other greedy,
    Expression.span]

theorem run_level_closed {span : Span} :
    (level (n + 1) (some span) l).run (.inFront p (')' :: t)) =
      .ok (l.toExpression p, .inFront p (')' :: t)) := by
  simp [level]

/-- A parenthesis opens a group that captures, unless a question mark follows it. -/
theorem run_opening (plain : c ≠ '?') :
    opening.run (.inFront p ('(' :: c :: t)) =
      .ok (.group ⟨p, p.behind '('⟩ true [], .inFront (p.behind '(') (c :: t)) := by
  have noSign (sign : Text) : (accept ('?' :: sign)).run (.inFront (p.behind '(') (c :: t)) =
      .ok (false, .inFront (p.behind '(') (c :: t)) := run_accept_other (by simpa using plain)
  simp [opening, lookArounds, noSign]

theorem run_level_group (plain : c ≠ '?')
    (inside : (level n (some ⟨p, p.behind '('⟩) (.opened (p.behind '('))).run
      (.inFront (p.behind '(') (c :: s)) = .ok (e, .inFront q (')' :: t))) :
    (level (n + 1) paren l).run (.inFront p ('(' :: c :: s)) =
      (level n paren (l.push (.group ⟨p, q.behind ')'⟩ true [] e))).run
        (.inFront (q.behind ')') t) := by
  -- The group changes no flags, so that blanks count inside it and behind it as they did before.
  have notSpaced : (Cursor.inFront (p.behind '(') (c :: s)).spaced = false := rfl
  simp [level, run_opening plain, inside, notSpaced, spacedAfter]

theorem run_level_circumflex :
    (level (n + 1) paren l).run (.inFront p ('^' :: t)) =
      (level n paren (l.push (.primitive (.assertion ⟨p, p.behind '^'⟩ .lineStart)))).run
        (.inFront (p.behind '^') t) := by
  simp [level, primitive]

theorem run_level_dollar :
    (level (n + 1) paren l).run (.inFront p ('$' :: t)) =
      (level n paren (l.push (.primitive (.assertion ⟨p, p.behind '$'⟩ .lineStop)))).run
        (.inFront (p.behind '$') t) := by
  simp [level, primitive]

theorem run_level_end :
    (level (n + 1) none l).run (.inFront p []) = .ok (l.toExpression p, .inFront p []) := by
  simp [level]

end Levels

end Parse
end MaskedInput.Regex
