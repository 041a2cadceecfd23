import MaskedInput.Regex.Basic
import MaskedInput.Regex.CharacterClass
import MaskedInput.Regex.Span

/-!
# Expressions as they are written

A regular expression as a tree in which every part still knows its span in the pattern. The spans
are needed until it is settled that the expression has a meaning.
-/
namespace MaskedInput.Regex

open Unicode (PropertyQuery)

inductive Flag where
  | ignoreCase
  | multiLine
  | dotMatchesLineFeed
  | swapGreed
  | unicode
  /-- Lines may end in a carriage return and a line feed. -/
  | returns
  /-- Blanks and comments in the pattern do not count. -/
  | spaced
  deriving DecidableEq, Repr

/-- The flags that a group of flags sets or takes back. -/
abbrev FlagChanges := List (Flag × Bool)

structure Literal where
  span : Span
  char : Char
  /-- Whether it is written as the number of a byte: `\x` and two digits. -/
  isByte : Bool := false
  deriving DecidableEq, Repr

/-- A class of characters that an escape names. -/
inductive NamedClass where
  | shorthand (span : Span) (kind : Shorthand) (negated : Bool)
  | property (span : Span) (query : PropertyQuery) (negated : Bool)
  deriving DecidableEq, Repr

def NamedClass.span : NamedClass → Span
  | shorthand span _ _ | property span _ _ => span

inductive Assertion where
  | lineStart
  | lineStop
  | textStart
  | textStop
  | word (edge : WordEdge)
  deriving DecidableEq, Repr

/-- What an escape or a single character stands for. -/
inductive Primitive where
  | literal (l : Literal)
  | named (c : NamedClass)
  | dot (span : Span)
  | assertion (span : Span) (a : Assertion)
  deriving DecidableEq, Repr

def Primitive.span : Primitive → Span
  | literal l => l.span
  | named c => c.span
  | dot span | assertion span _ => span

inductive SetOperation where
  | intersection
  | difference
  | symmetricDifference
  deriving DecidableEq, Repr

/-- What stands between square brackets. -/
inductive ClassSet where
  | nothing (span : Span)
  | literal (l : Literal)
  | named (c : NamedClass)
  | range (span : Span) (first last : Literal)
  | ascii (span : Span) (kind : AsciiClass) (negated : Bool)
  | bracketed (span : Span) (negated : Bool) (set : ClassSet)
  | union (span : Span) (items : List ClassSet)
  | combined (span : Span) (operation : SetOperation) (lhs rhs : ClassSet)
  deriving Repr

def ClassSet.span : ClassSet → Span
  | literal l => l.span
  | named c => c.span
  | nothing span | range span _ _ | ascii span _ _ | bracketed span _ _ | union span _
  | combined span _ _ _ => span

inductive Expression where
  | empty (span : Span)
  | flags (span : Span) (changes : FlagChanges)
  | primitive (p : Primitive)
  | bracketed (span : Span) (negated : Bool) (set : ClassSet)
  | repeated (span : Span) (least : Nat) (most : Option Nat) (sub : Expression)
  | group (span : Span) (captures : Bool) (changes : FlagChanges) (sub : Expression)
  | alternation (span : Span) (branches : List Expression)
  | sequence (span : Span) (parts : List Expression)
  deriving Repr

namespace Expression

def span : Expression → Span
  | primitive p => p.span
  | empty span | flags span _ | bracketed span _ _ | repeated span _ _ _ | group span _ _ _
  | alternation span _ | sequence span _ => span

/-- Parts one after another; a single part stands for itself. -/
def ofParts (span : Span) : List Expression → Expression
  | [] => empty span
  | [e] => e
  | parts => sequence span parts

/-- Alternatives; a single one stands for itself. -/
def ofBranches (span : Span) : List Expression → Expression
  | [e] => e
  | branches => alternation span branches

end Expression

end MaskedInput.Regex
