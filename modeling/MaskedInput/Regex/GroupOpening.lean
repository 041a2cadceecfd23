import MaskedInput.Regex.Cursor
import MaskedInput.Text.Alphabetic

/-!
# Openings of groups

What an opening parenthesis begins: a group that captures, with or without a name, a group that does
not and may change flags inside, or a change of flags for what follows.
-/
namespace MaskedInput.Regex

inductive Opening where
  /-- A change of flags, which ends with its own closing parenthesis. -/
  | flags (span : Span) (changes : FlagChanges)
  /-- A group, known by the span of its parenthesis. -/
  | group (span : Span) (captures : Bool) (changes : FlagChanges)

namespace Parse

def flagLetters : List (Char × Flag) := [
  ('i', .ignoreCase), ('m', .multiLine), ('s', .dotMatchesLineFeed), ('U', .swapGreed),
  ('u', .unicode), ('R', .returns), ('x', .spaced)]

/-- The flags that were read, each with the span of its letter. -/
structure FlagsRead where
  changes : List (Flag × Bool × Span) := []
  /-- The hyphen behind which flags are taken back. -/
  negation : Option Span := none
  /-- Whether the hyphen is the last thing read. -/
  dangling : Bool := false

/-- Takes in the next letter or hyphen of a group of flags. -/
def nextFlag (r : FlagsRead) (c : Char) : Parse FlagsRead := do
  let span ← nextSpan
  if c = '-' then
    match r.negation with
    | some earlier => throw { fault := .flagRepeatedNegation, span, earlier := some earlier }
    | none => return { r with negation := some span, dangling := true }
  else
    match flagLetters.lookup c with
    | none => fail span .flagUnrecognized
    | some flag =>
      match r.changes.lookup flag with
      | some (_, earlier) => throw { fault := .flagDuplicate, span, earlier := some earlier }
      | none =>
        return { r with
          changes := r.changes ++ [(flag, r.negation.isNone, span)]
          dangling := false }

/-- Reads flags up to the colon or closing parenthesis behind them; the first argument bounds their
number. -/
def flagsUpTo (r : FlagsRead) : Nat → Parse FlagsRead
  | 0 => return r
  | n + 1 => do
    match ← peek with
    | none => fail (← here) .flagUnexpectedEnd
    | some c =>
      if c = ':' ∨ c = ')' then
        match r.dangling, r.negation with
        | true, some span => fail span .flagDanglingNegation
        | _, _ => return r
      else
        let r ← nextFlag r c
        bump
        flagsUpTo r n

/-- A group of flags, and the sign that ends it. -/
def flagGroup (paren : Span) (inner : Span) : Parse Opening := do
  if ← atEnd then fail paren .groupUnclosed
  let r ← flagsUpTo {} ((← get).rest.length + 1)
  let closes := (← peek) == some ')'
  bump
  let changes := r.changes.map fun (flag, value, _) => (flag, value)
  if !closes then return .group paren false changes
  if changes.isEmpty then fail inner .repetitionMissing
  return .flags (← spanFrom paren.first) changes

def isNameStart (c : Char) : Bool := c == '_' || Text.isAlphabetic c

def isNameCharacter (c : Char) : Bool :=
  ['_', '.', '[', ']'].contains c || Text.isAlphabeticOrNumeral c

/-- Gives a name to a group, unless an earlier one has it. -/
def addName (name : Text) (span : Span) : Parse Unit := do
  let c ← get
  match c.names.lookup name with
  | some earlier => throw { fault := .groupNameDuplicate, span, earlier := some earlier }
  | none => set { c with names := (name, span) :: c.names }

/-- The name of a group, up to the sign behind it. -/
def groupName : Parse Unit := do
  let first ← place
  let before ← ahead
  let rest := match before with
    | c :: rest => if isNameStart c then rest.dropWhile isNameCharacter else before
    | [] => []
  let name := before.take (before.length - rest.length)
  modify fun c => { c with rest := c.rest.drop name.length }
  match ← peek with
  | none => fail (← here) .groupNameUnexpectedEnd
  | some '>' =>
    let span ← spanFrom first
    bump
    if name.isEmpty then fail span .groupNameEmpty
    addName name span
  | some _ => fail (← nextSpan) .groupNameInvalid

/-- The beginnings of groups that look at what is around them, which are not supported. -/
def lookArounds : List String := ["?=", "?!", "?<=", "?<!"]

/-- What begins at a parenthesis. -/
def opening : Parse Opening := do
  let paren ← nextSpan
  bumpSpace
  for beginning in lookArounds do
    if ← accept beginning.toList then fail (← spanFrom paren.first) .lookAround
  let inner ← here
  if ← accept "?P<".toList then
    groupName
    return .group paren true []
  if ← accept "?<".toList then
    groupName
    return .group paren true []
  if ← accept "?".toList then flagGroup paren inner
  else return .group paren true []

end Parse

end MaskedInput.Regex
