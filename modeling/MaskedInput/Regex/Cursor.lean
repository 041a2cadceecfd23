import MaskedInput.Regex.Expression
import MaskedInput.Regex.Flaw
import MaskedInput.Text.Blank

/-!
# Reading a pattern

A cursor stands in a pattern: what is left of it, whether blanks and comments are passed over, and
the names that groups have taken. Reading moves the cursor and ends early at a flaw.
-/
namespace MaskedInput.Regex

structure Cursor where
  rest : List Mark
  /-- The place behind the pattern. -/
  finish : Place
  /-- Whether blanks and comments are passed over. -/
  spaced : Bool := false
  /-- The names of groups, each with the span where it was given. -/
  names : List (Text × Span) := []

/-- A cursor in front of a pattern. -/
def Cursor.ofPattern (pattern : Text) : Cursor :=
  let (rest, finish) := marks Place.start pattern
  { rest, finish }

/-- What is left behind blanks and comments; a comment goes from a hash sign to the end of its
line. -/
def passSpace (inComment : Bool) : List Mark → List Mark
  | [] => []
  | (c, p) :: rest =>
    if inComment then passSpace (c != '\n') rest
    else if Text.isBlank c then passSpace false rest
    else if c = '#' then passSpace true rest
    else (c, p) :: rest

/-- The first mark behind a character that is looked for from there: blanks are passed over, and so
is one hash sign. -/
def passAhead (marks : List Mark) : List Mark :=
  let blank (m : Mark) : Bool := Text.isBlank m.1
  match marks.dropWhile blank with
  | ('#', _) :: rest => rest.dropWhile blank
  | rest => rest

abbrev Parse := StateT Cursor (Except Flaw)

namespace Parse

def fail {α : Type} (span : Span) (fault : Fault) : Parse α := throw { fault, span }

/-- The place where the cursor stands. -/
def place : Parse Place := do
  let c ← get
  match c.rest with
  | (_, p) :: _ => return p
  | [] => return c.finish

/-- The next character. -/
def peek : Parse (Option Char) := return (← get).rest.head?.map (·.1)

/-- The characters ahead. -/
def ahead : Parse Text := return (← get).rest.map (·.1)

/-- The character after the next one. -/
def peekSecond : Parse (Option Char) := return ((← get).rest.drop 1).head?.map (·.1)

/-- The character after the next one and after blanks, if those do not count. -/
def peekBeyond : Parse (Option Char) := do
  let c ← get
  let rest := c.rest.drop 1
  return ((if c.spaced then passAhead rest else rest).head?).map (·.1)

/-- Passes over blanks and comments if they do not count. -/
def skipSpace : Parse Unit :=
  modify fun c => if c.spaced then { c with rest := passSpace false c.rest } else c

/-- Passes over the next character. -/
def bump : Parse Unit := modify fun c => { c with rest := c.rest.drop 1 }

/-- Passes over the next character and over blanks behind it that do not count. -/
def bumpSpace : Parse Unit := do
  bump
  skipSpace

def atEnd : Parse Bool := return (← get).rest.isEmpty

/-- The span of the next character. -/
def nextSpan : Parse Span := do
  let p ← place
  match ← peek with
  | some c => return ⟨p, p.behind c⟩
  | none => return .point p

/-- The span from a place up to the cursor. -/
def spanFrom (first : Place) : Parse Span := return ⟨first, ← place⟩

/-- The empty span at the cursor. -/
def here : Parse Span := return .point (← place)

/-- Passes over a text if it is the next one. -/
def accept (t : Text) : Parse Bool := do
  if t.isPrefixOf (← ahead) then
    modify fun c => { c with rest := c.rest.drop t.length }
    return true
  else return false

/-- Passes over the next characters while they pass a test, whether blanks count or not. -/
def dropWhile (p : Char → Bool) : Parse Unit :=
  modify fun c => { c with rest := c.rest.dropWhile fun m => p m.1 }

/-- The next characters that pass a test, with blanks between them that do not count; the first
argument bounds their number. -/
def takeUpTo (p : Char → Bool) : Nat → Parse Text
  | 0 => return []
  | n + 1 => do
    match ← peek with
    | some c =>
      if p c then
        bumpSpace
        return c :: (← takeUpTo p n)
      else return []
    | none => return []

def takeWhile (p : Char → Bool) : Parse Text := do takeUpTo p (← get).rest.length

def setSpaced (spaced : Bool) : Parse Unit := modify fun c => { c with spaced }

end Parse

end MaskedInput.Regex
