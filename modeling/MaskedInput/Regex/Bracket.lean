import MaskedInput.Regex.Escape

/-!
# Sets between square brackets

A set lists characters, ranges, classes and further sets. Lists can be combined by the signs `&&`,
`--` and `~~`, which all bind alike and group to the left. A hyphen or a closing bracket at the very
beginning stands for itself.
-/
namespace MaskedInput.Regex

/-- The items of a set that were read so far, and the span from the first to the last of them. -/
structure Items where
  span : Span
  items : List ClassSet := []

namespace Items

def push (u : Items) (item : ClassSet) : Items where
  span := ⟨if u.items.isEmpty then item.span.first else u.span.first, item.span.stop⟩
  items := u.items ++ [item]

/-- The items as one set. -/
def toSet (u : Items) : ClassSet :=
  match u.items with
  | [] => .nothing u.span
  | [item] => item
  | items => .union u.span items

end Items

/-- A sign between two lists of items, and what stands to its left. -/
abbrev Pending := Option (SetOperation × ClassSet)

/-- What stands to the left of a sign, combined with what stands to its right. -/
def Pending.combine (p : Pending) (rhs : ClassSet) : ClassSet :=
  match p with
  | none => rhs
  | some (operation, lhs) =>
    .combined ⟨lhs.span.first, rhs.span.stop⟩ operation lhs rhs

namespace Parse

/-- A class with its name between colons and brackets, if that is what comes next. -/
def asciiClass? : Parse (Option ClassSet) := do
  let cursor ← get
  let start ← place
  if !(← accept "[:".toList) then return none
  let negated ← accept ['^']
  let name := (← ahead).takeWhile (· != ':')
  dropWhile (· != ':')
  match AsciiClass.named.lookup (Text.toString name), ← accept ":]".toList with
  | some kind, true => return some (.ascii (← spanFrom start) kind negated)
  | _, _ =>
    set cursor
    return none

/-- What an opening bracket begins. -/
structure BracketOpening where
  /-- The bracket with the signs behind it that have been read. -/
  span : Span
  negated : Bool
  items : Items

/-- The hyphens at the beginning of a set; the last argument bounds their number. -/
def leadingHyphens (start : Place) (u : Items) : Nat → Parse Items
  | 0 => return u
  | n + 1 => do
    if (← peek) == some '-' then
      let u := u.push (.literal { span := ← nextSpan, char := '-' })
      bumpSpace
      if ← atEnd then fail (.point start) .classUnclosed
      leadingHyphens start u n
    else return u

/-- Reads an opening bracket, and the signs that have a meaning of their own behind it. -/
def bracketOpening : Parse BracketOpening := do
  let start ← place
  bumpSpace
  if ← atEnd then fail (← spanFrom start) .classUnclosed
  let negated := (← peek) == some '^'
  if negated then
    bumpSpace
    if ← atEnd then fail (← spanFrom start) .classUnclosed
  let u ← leadingHyphens start { span := ← here } (← get).rest.length
  if u.items.isEmpty && (← peek) == some ']' then
    let u := u.push (.literal { span := ← nextSpan, char := ']' })
    bumpSpace
    if ← atEnd then fail (← spanFrom start) .classUnclosed
    return { span := ← spanFrom start, negated, items := u }
  else return { span := ← spanFrom start, negated, items := u }

/-- What a character or an escape in a set stands for. -/
def setPrimitive : Parse Primitive := do
  if (← peek) == some '\\' then escape else return .literal (← verbatim)

/-- A primitive as an item of a set. -/
def setItem : Primitive → Parse ClassSet
  | .literal l => return .literal l
  | .named c => return .named c
  | .dot span | .assertion span _ => fail span .classEscapeInvalid

/-- A primitive as the bound of a range. -/
def rangeBound : Primitive → Parse Literal
  | .literal l => return l
  | p => fail p.span .classRangeLiteral

/-- A character, a class or a range; the span is that of the set in which it stands. -/
def rangeOrItem (opened : Span) : Parse ClassSet := do
  let lower ← setPrimitive
  skipSpace
  if ← atEnd then fail opened .classUnclosed
  let beyond ← peekBeyond
  if (← peek) != some '-' || beyond == some ']' || beyond == some '-' then setItem lower
  else
    bumpSpace
    if ← atEnd then fail opened .classUnclosed
    let upper ← setPrimitive
    let span : Span := ⟨lower.span.first, upper.span.stop⟩
    let first ← rangeBound lower
    let last ← rangeBound upper
    if last.char < first.char then fail span .classRangeInvalid
    return .range span first last

/-- The sign between two lists that comes next, if one does. -/
def setSign? : Parse (Option SetOperation) := do
  let next ← peek
  if next != (← peekSecond) then return none
  return match next with
    | some '&' => some .intersection
    | some '-' => some .difference
    | some '~' => some .symmetricDifference
    | _ => none

/-- The items of a set up to its closing bracket. The first argument bounds the number of steps. -/
def setItems : Nat → Span → Items → Pending → Parse ClassSet
  | 0, _, u, pending => return pending.combine u.toSet
  | n + 1, opened, u, pending => do
    skipSpace
    match ← peek with
    | none => fail opened .classUnclosed
    | some ']' => return pending.combine u.toSet
    | some '[' =>
      match ← asciiClass? with
      | some item => setItems n opened (u.push item) pending
      | none =>
        let o ← bracketOpening
        let set ← setItems n o.span o.items none
        bump
        let item := .bracketed (← spanFrom o.span.first) o.negated set
        setItems n opened (u.push item) pending
    | some _ =>
      match ← setSign? with
      | some operation =>
        let lhs := pending.combine u.toSet
        bump
        bump
        setItems n opened { span := ← here } (some (operation, lhs))
      | none => setItems n opened (u.push (← rangeOrItem opened)) pending

/-- A set between square brackets. -/
def bracketed : Parse Expression := do
  let bound := (← get).rest.length
  let o ← bracketOpening
  let set ← setItems bound o.span o.items none
  bump
  return .bracketed (← spanFrom o.span.first) o.negated set

end Parse

end MaskedInput.Regex
