import MaskedInput.Text.Basic

/-!
# Places in a pattern

A pattern can have several lines. A place lies in front of one of its characters, or behind the last
one, and is known by the number of characters before it and by its line and column. A span reaches
from one place up to another.
-/
namespace MaskedInput.Regex

structure Place where
  /-- The number of characters before it. -/
  index : Nat
  /-- The line, counted from one. -/
  line : Nat
  /-- The column in the line, counted from one. -/
  column : Nat
  deriving DecidableEq, Repr

namespace Place

/-- The place in front of a pattern. -/
def start : Place := ⟨0, 1, 1⟩

/-- The place behind a character that stands at the place. -/
def behind (p : Place) (c : Char) : Place :=
  if c = '\n' then ⟨p.index + 1, p.line + 1, 1⟩ else ⟨p.index + 1, p.line, p.column + 1⟩

end Place

structure Span where
  first : Place
  /-- The place behind the last character. -/
  stop : Place
  deriving DecidableEq, Repr

namespace Span

/-- The span at a place that holds no character. -/
def point (p : Place) : Span := ⟨p, p⟩

def isOneLine (s : Span) : Bool := s.first.line == s.stop.line

/-- Whether a span comes no later than another: by where they start, then by where they stop. -/
def notAfter (s t : Span) : Bool :=
  s.first.index < t.first.index ||
    (s.first.index == t.first.index && s.stop.index ≤ t.stop.index)

end Span

/-- A character with the place at which it stands. -/
abbrev Mark := Char × Place

/-- The characters of a text with their places, from a place on, and the place behind them. -/
def marks (p : Place) : Text → List Mark × Place
  | [] => ([], p)
  | c :: rest =>
    let (more, stop) := marks (p.behind c) rest
    ((c, p) :: more, stop)

end MaskedInput.Regex
