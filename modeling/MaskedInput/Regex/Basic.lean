import MaskedInput.Unicode.CodeSet

/-!
# Regular expressions

A regular expression describes pieces of a text. It says which characters the piece consists of, and
may put conditions on the neighbours of a position between two characters.
-/
namespace MaskedInput

namespace Regex

/-- A condition on a position, as far as words go: a word reaches up to it or not, and goes on from
it or not. -/
inductive WordEdge where
  | boundary
  | interior
  | start
  | stop
  /-- No word reaches up to the position. -/
  | startHalf
  /-- No word goes on from the position. -/
  | stopHalf
  deriving DecidableEq, Repr

/-- A condition on a position. -/
inductive Look where
  | textStart
  | textStop
  /-- A line starts. Lines end in a line feed, or if `returns` holds in a carriage return, in a line
  feed, or in the one with the other behind it. -/
  | lineStart (returns : Bool)
  | lineStop (returns : Bool)
  /-- An edge of a word, of words in ASCII alone or of words in all scripts. -/
  | word (edge : WordEdge) (ofAllScripts : Bool)
  deriving DecidableEq, Repr

end Regex

open Unicode (CodeSet)

inductive Regex where
  /-- The empty piece. -/
  | empty
  /-- One character of a set. -/
  | oneOf (characters : CodeSet)
  /-- The empty piece at a position with a condition. -/
  | look (l : Regex.Look)
  | seq (r s : Regex)
  | either (r s : Regex)
  /-- Pieces in a row, at least and at most so many. -/
  | repeated (least : Nat) (most : Option Nat) (r : Regex)
  /-- A piece that is set apart by parentheses. -/
  | capture (r : Regex)
  deriving DecidableEq, Repr

namespace Regex

/-- Whether the expression describes no piece that holds a character. -/
def describesEmptyOnly : Regex → Bool
  | empty | look _ => true
  | oneOf _ => false
  | seq r s | either r s => r.describesEmptyOnly && s.describesEmptyOnly
  | repeated _ most r => most == some 0 || r.describesEmptyOnly
  | capture r => r.describesEmptyOnly

/-- Whether the expression may describe the empty piece. -/
def mayBeEmpty : Regex → Bool
  | empty | look _ => true
  | oneOf _ => false
  | seq r s => r.mayBeEmpty && s.mayBeEmpty
  | either r s => r.mayBeEmpty || s.mayBeEmpty
  | repeated least _ r => least == 0 || r.mayBeEmpty
  | capture r => r.mayBeEmpty

/-- Two pieces in a row, of which an empty one is left out. -/
def append : Regex → Regex → Regex
  | empty, s => s
  | r, empty => r
  | r, s => seq r s

/-- One of two pieces; two characters make one set. -/
def orElse : Regex → Regex → Regex
  | oneOf s, oneOf t => oneOf (s ∪ t)
  | r, s => either r s

/-- Pieces in a row. A piece that can only be empty need not stand there more than once. -/
def times (r : Regex) (least : Nat) (most : Option Nat) : Regex :=
  let (least, most) :=
    if r.describesEmptyOnly then (min least 1, some (min (most.getD 1) 1)) else (least, most)
  if most = some 0 then empty
  else if least = 1 ∧ most = some 1 then r
  else repeated least most r

end Regex

end MaskedInput
