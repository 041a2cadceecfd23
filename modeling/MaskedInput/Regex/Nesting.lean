import MaskedInput.Regex.Expression
import MaskedInput.Regex.Flaw

/-!
# Nesting

Expressions and sets may not stand inside one another without end. What counts is everything that is
made up of parts: groups, repetitions, alternatives, sequences, and sets with their lists and
combinations. The first one that stands too deep is at fault.
-/
namespace MaskedInput.Regex

mutual

/-- The first set that stands too deep, if so many more may stand inside one another. -/
def ClassSet.tooDeep? (room : Nat) : ClassSet → Option Span
  | .nothing _ | .literal _ | .named _ | .range .. | .ascii .. => none
  | .bracketed span _ set =>
    match room with
    | 0 => some span
    | room + 1 => set.tooDeep? room
  | .union span items =>
    match room with
    | 0 => some span
    | room + 1 => ClassSet.anyTooDeep? room items
  | .combined span _ lhs rhs =>
    match room with
    | 0 => some span
    | room + 1 => lhs.tooDeep? room <|> rhs.tooDeep? room

def ClassSet.anyTooDeep? (room : Nat) : List ClassSet → Option Span
  | [] => none
  | item :: rest => item.tooDeep? room <|> ClassSet.anyTooDeep? room rest

end

mutual

/-- The first expression that stands too deep, if so many more may stand inside one another. -/
def Expression.tooDeep? (room : Nat) : Expression → Option Span
  | .empty _ | .flags .. | .primitive _ => none
  | .bracketed span _ set =>
    match room with
    | 0 => some span
    | room + 1 => set.tooDeep? room
  | .repeated span _ _ sub | .group span _ _ sub =>
    match room with
    | 0 => some span
    | room + 1 => sub.tooDeep? room
  | .alternation span parts | .sequence span parts =>
    match room with
    | 0 => some span
    | room + 1 => Expression.anyTooDeep? room parts

def Expression.anyTooDeep? (room : Nat) : List Expression → Option Span
  | [] => none
  | e :: rest => e.tooDeep? room <|> Expression.anyTooDeep? room rest

end

/-- Refuses an expression that is nested too deep. -/
def Expression.checkNesting (e : Expression) : Except Flaw Unit :=
  match e.tooDeep? maxNesting with
  | some span => .error { fault := .nestingTooDeep, span }
  | none => .ok ()

end MaskedInput.Regex
