import MaskedInput.Regex.Expression
import MaskedInput.Regex.Flaw

/-!
# What an expression means

An expression means a regular expression, unless it asks for characters that are not known, or for
text that may not be UTF-8. Flags hold from where they are changed to the end of the group.
-/
namespace MaskedInput.Regex

open Unicode

/-- The flags that have a say in what an expression means. -/
structure Modes where
  ignoreCase : Bool := false
  multiLine : Bool := false
  dotMatchesLineFeed : Bool := false
  returns : Bool := false
  /-- Whether characters of all scripts are meant, and not bytes. -/
  unicode : Bool := true
  deriving DecidableEq, Repr

abbrev Reading := Except Flaw

def refuse {α : Type} (span : Span) (fault : Fault) : Reading α := .error { fault, span }

namespace Modes

def set (m : Modes) : Flag × Bool → Modes
  | (.ignoreCase, b) => { m with ignoreCase := b }
  | (.multiLine, b) => { m with multiLine := b }
  | (.dotMatchesLineFeed, b) => { m with dotMatchesLineFeed := b }
  | (.returns, b) => { m with returns := b }
  | (.unicode, b) => { m with unicode := b }
  | (.swapGreed, _) | (.spaced, _) => m

def change (m : Modes) (changes : FlagChanges) : Modes := changes.foldl set m

/-- A set with the case variants of its characters, if case does not count. -/
def fold (m : Modes) (s : CodeSet) : CodeSet :=
  if m.ignoreCase then
    if m.unicode then CaseFolding.close s else CaseFolding.closeAscii s
  else s

/-- A set or what it leaves out. Of bytes nothing may be left out, since the rest need not be
UTF-8. -/
def negate (m : Modes) (span : Span) (negated : Bool) (s : CodeSet) : Reading CodeSet :=
  if !negated then .ok s
  else if m.unicode then .ok s.compl
  else refuse span .invalidUtf8

end Modes

/-- The character that a literal stands for. A byte that is not in ASCII is none. -/
def Literal.read (m : Modes) (l : Literal) : Reading Char :=
  if !m.unicode && l.isByte && 0x7F < l.char.toNat then refuse l.span .invalidUtf8 else .ok l.char

/-- The character that a literal in a set stands for. In a set of bytes it is in ASCII. -/
def Literal.readInSet (m : Modes) (l : Literal) : Reading Char := do
  let c ← l.read m
  if !m.unicode && 0x7F < c.toNat then refuse l.span .unicodeNotAllowed else return c

def NamedClass.members (m : Modes) : NamedClass → Reading CodeSet
  | shorthand span kind negated => m.negate span negated (kind.members m.unicode)
  | property span query negated =>
    if !m.unicode then refuse span .unicodeNotAllowed
    else
      match query.members with
      | .ok s => m.negate span negated (m.fold s)
      | .error .property => refuse span .propertyNotFound
      | .error .value => refuse span .propertyValueNotFound

def SetOperation.apply : SetOperation → CodeSet → CodeSet → CodeSet
  | intersection, s, t => s ∩ t
  | difference, s, t => s \ t
  | symmetricDifference, s, t => s.symmDiff t

mutual

/-- The characters of a set. -/
def ClassSet.members (m : Modes) : ClassSet → Reading CodeSet
  | .nothing _ => return .empty
  | .literal l => return .single (← l.readInSet m).toNat
  | .named c => c.members m
  | .range _ first last =>
    return .range (← first.readInSet m).toNat (← last.readInSet m).toNat
  | .ascii span kind negated => m.negate span negated (m.fold kind.members)
  | .bracketed span negated set => do m.negate span negated (m.fold (← set.members m))
  | .union _ items => ClassSet.membersOfAll m items
  | .combined _ operation lhs rhs => do
    let s ← lhs.members m
    let t ← rhs.members m
    return operation.apply (m.fold s) (m.fold t)

def ClassSet.membersOfAll (m : Modes) : List ClassSet → Reading CodeSet
  | [] => return .empty
  | item :: rest => return (← item.members m) ∪ (← ClassSet.membersOfAll m rest)

end

def Assertion.look (m : Modes) : Assertion → Look
  | lineStart => if m.multiLine then .lineStart m.returns else .textStart
  | lineStop => if m.multiLine then .lineStop m.returns else .textStop
  | textStart => .textStart
  | textStop => .textStop
  | word edge => .word edge m.unicode

/-- The characters that a dot stands for. -/
def Modes.dot (m : Modes) : CodeSet :=
  if m.dotMatchesLineFeed then .all
  else if m.returns then .compl (.read "A D")
  else .compl (.read "A")

def Primitive.meaning (m : Modes) : Primitive → Reading Regex
  | literal l => return .oneOf (m.fold (.single (← l.read m).toNat))
  | named c => return .oneOf (← c.members m)
  | dot span => if m.unicode then .ok (.oneOf m.dot) else refuse span .invalidUtf8
  | assertion _ a => .ok (.look (a.look m))

mutual

/-- What an expression means under flags, and the flags for what follows it. -/
def Expression.meaning (m : Modes) : Expression → Reading (Regex × Modes)
  | .empty _ => return (.empty, m)
  | .flags _ changes => return (.empty, m.change changes)
  | .primitive p => return (← p.meaning m, m)
  | .bracketed span negated set =>
    return (.oneOf (← m.negate span negated (m.fold (← set.members m))), m)
  | .repeated _ least most sub => do
    let (r, m) ← sub.meaning m
    return (r.times least most, m)
  | .group _ captures changes sub => do
    let (r, _) ← sub.meaning (m.change changes)
    return (if captures then .capture r else r, m)
  | .alternation _ branches => Expression.meaningOfEither m branches
  | .sequence _ parts => Expression.meaningInOrder m parts

/-- What expressions mean one after another. -/
def Expression.meaningInOrder (m : Modes) : List Expression → Reading (Regex × Modes)
  | [] => return (.empty, m)
  | e :: rest => do
    let (r, m) ← e.meaning m
    let (s, m) ← Expression.meaningInOrder m rest
    return (r.append s, m)

/-- What expressions mean of which one is enough; no expression describes no piece. -/
def Expression.meaningOfEither (m : Modes) : List Expression → Reading (Regex × Modes)
  | [] => return (.oneOf .empty, m)
  | [e] => e.meaning m
  | e :: rest => do
    let (r, m) ← e.meaning m
    let (s, m) ← Expression.meaningOfEither m rest
    return (r.orElse s, m)

end

end MaskedInput.Regex
