import MaskedInput.Mask.Element
import MaskedInput.Proofs.Regex.Reading
import Mathlib.Data.List.Forall2

/-!
# The capturing groups of an extraction pattern

The extraction pattern of a mask is a regular expression, whatever the literals are: read by the
rules of regular expressions it is a sequence of one part for each element, between the two anchors.
A literal stands there as a set of its own character, repeated, and a run of slots as a capturing
group of letters and digits, so that there are as many capturing groups as runs of slots.
-/
namespace MaskedInput

namespace Regex

mutual

/-- The capturing groups of an expression. -/
def Expression.captures : Expression → Nat
  | .empty _ | .flags .. | .primitive _ | .bracketed .. => 0
  | .repeated _ _ _ sub => sub.captures
  | .group _ captures _ sub => (if captures then 1 else 0) + sub.captures
  | .alternation _ parts | .sequence _ parts => Expression.allCaptures parts

def Expression.allCaptures : List Expression → Nat
  | [] => 0
  | e :: rest => e.captures + Expression.allCaptures rest

end

theorem Expression.allCaptures_append (front back : List Expression) :
    allCaptures (front ++ back) = allCaptures front + allCaptures back := by
  induction front with
  | nil => rw [List.nil_append, allCaptures, Nat.zero_add]
  | cons e front ih => rw [List.cons_append, allCaptures, allCaptures, ih, Nat.add_assoc]

end Regex

namespace Element

open Regex (Place Span Cursor Level Expression setSigns)
open Regex.Parse

/-- The regular expressions that stand for an element, wherever their parts are written. -/
inductive RepresentedBy : Element → Expression → Prop where
  | literal (c : Char) (whole set char : Span) :
      RepresentedBy (.literal c)
        (.repeated whole 0 none (.bracketed set false (.literal { span := char, char := c })))
  | slots (group whole set items letters digits : Span) :
      RepresentedBy .slots
        (.group group true [] (.repeated whole 0 none (.bracketed set false (.union items
          [.named (.property letters (.named ['L']) false),
            .named (.property digits (.named ['N', 'd']) false)]))))

variable {p : Place} {t : Text}

/-- The character of a literal is alone in its set, also if it has a meaning of its own there. -/
theorem exists_run_bracketed_literal (c : Char) :
    ∃ set char q, bracketed.run (.inFront p ('[' :: (escaped c ++ ']' :: t))) =
      .ok (.bracketed set false (.literal { span := char, char := c }), .inFront q t) := by
  rw [escaped]
  split
  next sign =>
    have signs : metaCharacters.all standsForItself = true := by decide
    have escape := run_escape_sign (p := p.behind '[') (t := ']' :: t)
      (List.all_eq_true.mp signs c (List.contains_iff_mem.mp sign))
    obtain ⟨set, q, reading⟩ := exists_run_bracketed (c := '\\') (by decide) fun opened =>
      run_rangeOrItem opened (run_setPrimitive_escape.trans escape) rfl (by decide)
    exact ⟨set, _, q, reading⟩
  next noSign =>
    have absent : c ∉ metaCharacters := mt List.contains_iff_mem.mpr noSign
    have plain : c ∉ setSigns := by
      have signs : setSigns.all metaCharacters.contains = true := by decide
      exact fun sign => noSign (List.all_eq_true.mp signs c sign)
    have notBackslash : c ≠ '\\' := by
      rintro rfl
      exact absent (by decide)
    obtain ⟨set, q, reading⟩ := exists_run_bracketed plain fun opened =>
      run_rangeOrItem opened (run_setPrimitive_verbatim notBackslash) rfl (by decide)
    exact ⟨set, _, q, reading⟩

/-- The set of a run of slots lists letters and decimal digits. -/
theorem exists_run_bracketed_slots :
    ∃ set items letters digits q,
      bracketed.run (.inFront p ('[' :: '\\' :: 'p' :: '{' :: 'L' :: '}' ::
          '\\' :: 'p' :: '{' :: 'N' :: 'd' :: '}' :: ']' :: t)) =
        .ok (.bracketed set false (.union items
            [.named (.property letters (.named ['L']) false),
              .named (.property digits (.named ['N', 'd']) false)]), .inFront q t) := by
  obtain ⟨letters, q, first⟩ := exists_run_setItems_property (p := p.behind '[') (d := '\\')
    (t := 'p' :: '{' :: 'N' :: 'd' :: '}' :: ']' :: t) ['L'] (by decide) (by decide)
  obtain ⟨digits, r, second⟩ := exists_run_setItems_property (p := q) (d := ']') (t := t)
    ['N', 'd'] (by decide) (by decide)
  have plain : '\\' ∉ setSigns := by decide
  simp only [List.cons_append, List.nil_append] at first second
  refine ⟨⟨p, r.behind ']'⟩, ⟨letters.first, digits.stop⟩, letters, digits, r.behind ']', ?_⟩
  simp [bracketed, run_bracketOpening plain, first, second, run_setItems_closed]
  rfl

theorem slotGroup_eq :
    slotGroup =
      ['(', '[', '\\', 'p', '{', 'L', '}', '\\', 'p', '{', 'N', 'd', '}', ']', '*', ')'] := by
  decide

section Levels

variable {n : Nat} (paren : Option Span) (l : Level)

theorem exists_level_literal (c : Char) (greedy : t.head? ≠ some '?') :
    ∃ part q, RepresentedBy (.literal c) part ∧
      (level (n + 2) paren l).run (.inFront p (regex (.literal c) ++ t)) =
        (level n paren (l.push part)).run (.inFront q t) := by
  have text : regex (.literal c) ++ t = '[' :: (escaped c ++ ']' :: '*' :: t) := by
    simp [regex]
  obtain ⟨set, char, q, reading⟩ := exists_run_bracketed_literal (p := p) (t := '*' :: t) c
  refine ⟨_, q.behind '*', .literal c ⟨set.first, q.behind '*'⟩ set char, ?_⟩
  rw [text, run_level_set reading, run_level_star greedy]

theorem exists_level_slots :
    ∃ part q, RepresentedBy .slots part ∧
      (level (n + 4) paren l).run (.inFront p (regex .slots ++ t)) =
        (level (n + 3) paren (l.push part)).run (.inFront q t) := by
  have text : regex .slots ++ t = '(' :: '[' :: '\\' :: 'p' :: '{' :: 'L' :: '}' ::
      '\\' :: 'p' :: '{' :: 'N' :: 'd' :: '}' :: ']' :: '*' :: ')' :: t := by
    rw [regex, slotGroup_eq]
    rfl
  obtain ⟨set, items, letters, digits, q, reading⟩ :=
    exists_run_bracketed_slots (p := p.behind '(') (t := '*' :: ')' :: t)
  have inside (paren : Span) :=
    calc (level (n + 3) (some paren) (.opened (p.behind '('))).run _
      _ = _ := run_level_set reading
      _ = _ := run_level_star (p := q) (t := ')' :: t) (by simp)
      _ = _ := run_level_closed
  refine ⟨_, (q.behind '*').behind ')', .slots ⟨p, (q.behind '*').behind ')'⟩
    ⟨set.first, q.behind '*'⟩ set items letters digits, ?_⟩
  rw [text]
  exact run_level_group (by decide) (inside _)

/-- Whatever was read before, an element is read next as an expression that represents it. The steps
that are left are still more than the characters. -/
theorem exists_level_element (e : Element) (greedy : t.head? ≠ some '?')
    (enough : (e.regex ++ t).length < n) :
    ∃ part m q, e.RepresentedBy part ∧ t.length < m ∧
      (level n paren l).run (.inFront p (e.regex ++ t)) =
        (level m paren (l.push part)).run (.inFront q t) := by
  cases e with
  | literal c =>
    have longer : t.length + 2 < n := by
      simp only [regex, List.length_append, List.length_cons] at enough
      omega
    obtain ⟨m, rfl⟩ : ∃ m, n = m + 2 := ⟨n - 2, by omega⟩
    obtain ⟨part, q, represented, read⟩ := exists_level_literal (n := m) (p := p) paren l c
      greedy
    exact ⟨part, m, q, represented, by omega, read⟩
  | slots =>
    have longer : t.length + 4 < n := by
      rw [List.length_append, regex, slotGroup_eq] at enough
      simp only [List.length_cons] at enough
      omega
    obtain ⟨m, rfl⟩ : ∃ m, n = m + 4 := ⟨n - 4, by omega⟩
    obtain ⟨part, q, represented, read⟩ := exists_level_slots (n := m) (p := p) (t := t) paren l
    exact ⟨part, m + 3, q, represented, by omega, read⟩

/-- No element is written with a question mark first. -/
theorem head?_flatMap_regex (es : List Element) (plain : t.head? ≠ some '?') :
    (es.flatMap regex ++ t).head? ≠ some '?' := by
  cases es with
  | nil => exact plain
  | cons e es =>
    cases e with
    | literal c => simp [regex]
    | slots => simp [regex, slotGroup_eq]

/-- Elements one after another are read as expressions that represent them, in order. -/
theorem exists_level_elements (es : List Element) (greedy : t.head? ≠ some '?')
    (enough : (es.flatMap regex ++ t).length < n) :
    ∃ parts m q, List.Forall₂ RepresentedBy es parts ∧ t.length < m ∧
      (level n paren l).run (.inFront p (es.flatMap regex ++ t)) =
        (level m paren { l with parts := l.parts ++ parts }).run (.inFront q t) := by
  -- What carries the induction is that more steps are left than characters.
  induction es generalizing p n l with
  | nil => exact ⟨[], n, p, .nil, enough, by rw [List.append_nil]; rfl⟩
  | cons e es ih =>
    rw [List.flatMap_cons, List.append_assoc] at enough ⊢
    obtain ⟨part, m, q, represented, stepsLeft, first⟩ := exists_level_element (p := p) paren l
      e (head?_flatMap_regex es greedy) enough
    obtain ⟨parts, k, r, others, stillLeft, later⟩ := ih (p := q) (l.push part) stepsLeft
    refine ⟨part :: parts, k, r, .cons represented others, stillLeft, ?_⟩
    rw [first, later, Level.push, List.append_assoc, List.singleton_append]

end Levels

/-- An extraction pattern is the sequence of its elements between the two anchors. -/
theorem exists_ofPattern_expression (es : List Element) :
    ∃ span first last parts, Expression.ofPattern (expression es) =
        .ok (.sequence span (.primitive (.assertion first .lineStart) ::
          (parts ++ [.primitive (.assertion last .lineStop)]))) ∧
      List.Forall₂ RepresentedBy es parts := by
  let start : Place := .start
  let before : Expression := .primitive (.assertion ⟨start, start.behind '^'⟩ .lineStart)
  let opened : Level := (Level.opened start).push before
  -- The reader takes one step for each character at most, and here one is spent on the circumflex.
  have enough : (es.flatMap regex ++ ['$']).length < (expression es).length :=
    Nat.lt_succ_self _
  obtain ⟨parts, m, q, represented, stepsLeft, body⟩ := exists_level_elements
    (p := start.behind '^') none opened es (by decide) enough
  obtain ⟨m, rfl⟩ : ∃ k, m = k + 2 := by
    rw [List.length_singleton] at stepsLeft
    exact ⟨m - 2, by omega⟩
  let behind : Expression := .primitive (.assertion ⟨q, q.behind '$'⟩ .lineStop)
  let closed : Level := { opened with parts := before :: parts ++ [behind] }
  have all : closed.toExpression (q.behind '$') =
      .sequence ⟨start, q.behind '$'⟩ (before :: (parts ++ [behind])) := by
    cases parts <;> rfl
  have read :=
    calc (level ((expression es).length + 1) none (.opened start)).run
          (.inFront start (expression es))
      _ = (level (expression es).length none opened).run
            (.inFront (start.behind '^') (es.flatMap regex ++ ['$'])) := run_level_circumflex
      _ = (level (m + 2) none { opened with parts := opened.parts ++ parts }).run
            (.inFront q ['$']) := body
      _ = (level (m + 1) none closed).run (.inFront (q.behind '$') []) := run_level_dollar
      _ = .ok (closed.toExpression (q.behind '$'), .inFront (q.behind '$') []) := run_level_end
  refine ⟨⟨start, q.behind '$'⟩, ⟨start, start.behind '^'⟩, ⟨q, q.behind '$'⟩, parts, ?_,
    represented⟩
  rw [Expression.ofPattern, Cursor.ofPattern_eq, read, all]
  rfl

theorem RepresentedBy.captures {e : Element} {part : Expression}
    (represented : e.RepresentedBy part) : part.captures = if e = .slots then 1 else 0 := by
  cases represented <;> rfl

theorem allCaptures_of_represented {es : List Element} {parts : List Expression}
    (represented : List.Forall₂ RepresentedBy es parts) :
    Expression.allCaptures parts = es.count .slots := by
  induction represented with
  | nil => rfl
  | @cons e part es parts first others ih =>
    rw [Expression.allCaptures, first.captures, ih, List.count_cons, Nat.add_comm]
    simp

/-- Every extraction pattern is a regular expression, with one capturing group for each run of slots
and no other ones. -/
theorem exists_captures_expression (es : List Element) :
    ∃ e, Expression.ofPattern (expression es) = .ok e ∧ e.captures = es.count .slots := by
  obtain ⟨span, first, last, parts, read, represented⟩ := exists_ofPattern_expression es
  refine ⟨_, read, ?_⟩
  simp [Expression.captures, Expression.allCaptures, Expression.allCaptures_append,
    allCaptures_of_represented represented]

end Element
end MaskedInput
