import MaskedInput.Regex.Basic
import MaskedInput.Regex.CharacterClass

/-!
# Whether a text holds a piece

All pieces are followed at once. Between and around the characters of a text are its gaps. An
expression leads from a set of gaps, at which pieces may start, to the set of gaps at which they may
stop. A text holds a piece if starting anywhere leads somewhere.
-/
namespace MaskedInput.Regex

open Unicode (CodeSet)

/-- A gap, known by the characters on its two sides. -/
structure Gap where
  before : Option Char
  after : Option Char
  deriving DecidableEq, Repr

/-- The gaps of a text, from one on that has the given character before it. -/
def gapsFrom (before : Option Char) : Text → List Gap
  | [] => [⟨before, none⟩]
  | c :: rest => ⟨before, some c⟩ :: gapsFrom (some c) rest

def gaps (t : Text) : List Gap := gapsFrom none t

namespace WordEdge

/-- Whether there is such an edge where a word reaches up to a gap or does not, and goes on from it
or does not. -/
def holds (reaches goesOn : Bool) : WordEdge → Bool
  | boundary => reaches != goesOn
  | interior => reaches == goesOn
  | start => !reaches && goesOn
  | stop => reaches && !goesOn
  | startHalf => !reaches
  | stopHalf => !goesOn

end WordEdge

/-- Whether the condition holds at a gap. -/
def Look.holds (g : Gap) : Look → Bool
  | textStart => g.before.isNone
  | textStop => g.after.isNone
  | lineStart returns =>
    g.before.isNone || g.before == some '\n' ||
      (returns && g.before == some '\r' && g.after != some '\n')
  | lineStop returns =>
    if returns then
      g.after.isNone || g.after == some '\r' || (g.after == some '\n' && g.before != some '\r')
    else g.after.isNone || g.after == some '\n'
  | word edge ofAllScripts =>
    let characters := Shorthand.word.members ofAllScripts
    edge.holds (g.before.any characters.holds) (g.after.any characters.holds)

/-- Which gaps of a text are in a set of them, in order. -/
abbrev GapSet := List Bool

namespace GapSet

def isEmpty (s : GapSet) : Bool := !s.contains true

def union (s t : GapSet) : GapSet := s.zipWith (· || ·) t

def diff (s t : GapSet) : GapSet := s.zipWith (fun a b => a && !b) t

/-- The gaps behind those that have a character of a set after them. -/
def pass (gaps : List Gap) (characters : CodeSet) (s : GapSet) : GapSet :=
  let passed := s.zipWith (fun live g => live && g.after.any characters.holds) gaps
  false :: passed.dropLast

/-- The gaps at which a condition holds. -/
def keep (gaps : List Gap) (l : Look) (s : GapSet) : GapSet :=
  s.zipWith (fun live g => live && l.holds g) gaps

/-- Exactly so many steps. Once a step changes nothing, no further one does. -/
def exactly (step : GapSet → GapSet) : Nat → GapSet → GapSet
  | 0, s => s
  | n + 1, s =>
    let next := step s
    if next == s then s else exactly step n next

/-- At most so many steps from the newest gaps of a set. -/
def atMost (step : GapSet → GapSet) : Nat → GapSet → GapSet → GapSet
  | 0, seen, _ => seen
  | n + 1, seen, newest =>
    if isEmpty newest then seen
    else
      let next := (step newest).diff seen
      atMost step n (seen.union next) next

end GapSet

/-- The gaps at which pieces may stop that start at the given ones. More steps than there are gaps
lead nowhere else, since every step either stays at a gap or goes forward. -/
def advance (gaps : List Gap) : Regex → GapSet → GapSet
  | empty, s => s
  | oneOf characters, s => s.pass gaps characters
  | look l, s => s.keep gaps l
  | seq r t, s => advance gaps t (advance gaps r s)
  | either r t, s => (advance gaps r s).union (advance gaps t s)
  | repeated least most r, s =>
    let start := GapSet.exactly (advance gaps r) (min least gaps.length) s
    let more := match most with
      | some most => min (most - least) gaps.length
      | none => gaps.length
    GapSet.atMost (advance gaps r) more start start
  | capture r, s => advance gaps r s

/-- Whether the text holds a piece that the expression describes. -/
def matchesIn (r : Regex) (t : Text) : Bool :=
  let gaps := gaps t
  (advance gaps r (gaps.map fun _ => true)).contains true

end MaskedInput.Regex
