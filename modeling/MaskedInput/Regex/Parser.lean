import MaskedInput.Regex.Bracket
import MaskedInput.Regex.GroupOpening
import MaskedInput.Regex.Repetition

/-!
# From a pattern to an expression

A pattern is read once from its beginning to its end. What has been read of the innermost group that
is still open is kept as its finished alternatives and the parts of the last one.
-/
namespace MaskedInput.Regex

/-- What has been read of a group, or of the whole pattern. -/
structure Level where
  /-- Where the first alternative starts. -/
  first : Place
  branches : List Expression := []
  /-- Where the last alternative starts. -/
  start : Place
  parts : List Expression := []

namespace Level

/-- A level of which nothing has been read. -/
def opened (p : Place) : Level := { first := p, start := p }

def push (l : Level) (e : Expression) : Level := { l with parts := l.parts ++ [e] }

/-- The finished alternatives and the last one, which stops at a place. -/
def branchesAt (l : Level) (stop : Place) : List Expression :=
  l.branches ++ [.ofParts ⟨l.start, stop⟩ l.parts]

/-- The level behind a sign between alternatives, which stands between the two places. -/
def nextBranch (l : Level) (stop start : Place) : Level :=
  { l with branches := l.branchesAt stop, start, parts := [] }

/-- All that has been read, as an expression that stops at a place. -/
def toExpression (l : Level) (stop : Place) : Expression :=
  .ofBranches ⟨l.first, stop⟩ (l.branchesAt stop)

end Level

namespace Parse

/-- Whether blanks and comments are passed over after a change of flags. -/
def spacedAfter (spaced : Bool) (changes : FlagChanges) : Bool :=
  (changes.lookup .spaced).getD spaced

/-- Reads the rest of a level: up to the parenthesis that closes the group, or to the end of the
pattern. The first argument bounds the number of steps. -/
def level : Nat → Option Span → Level → Parse Expression
  | 0, _, l => return l.toExpression (← place)
  | n + 1, paren, l => do
    skipSpace
    match ← peek with
    | none =>
      match paren with
      | some span => fail span .groupUnclosed
      | none => return l.toExpression (← place)
    | some ')' =>
      match paren with
      | some _ => return l.toExpression (← place)
      | none => fail (← nextSpan) .groupUnopened
    | some '(' =>
      match ← opening with
      | .flags span changes =>
        setSpaced (spacedAfter (← get).spaced changes)
        level n paren (l.push (.flags span changes))
      | .group span captures changes =>
        let outer := (← get).spaced
        setSpaced (spacedAfter outer changes)
        let sub ← level n (some span) (.opened (← place))
        setSpaced outer
        bump
        level n paren (l.push (.group (← spanFrom span.first) captures changes sub))
    | some '|' =>
      let stop ← place
      bump
      level n paren (l.nextBranch stop (← place))
    | some '[' => level n paren (l.push (← bracketed))
    | some c =>
      if ['?', '*', '+', '{'].contains c then
        level n paren { l with parts := ← repetition l.parts }
      else level n paren (l.push (.primitive (← primitive)))

end Parse

/-- The expression that a pattern is, as far as its form goes. -/
def Expression.ofPattern (pattern : Text) : Except Flaw Expression :=
  (·.1) <$> (Parse.level (pattern.length + 1) none (.opened .start)).run (.ofPattern pattern)

end MaskedInput.Regex
