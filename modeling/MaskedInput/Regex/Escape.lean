import MaskedInput.Regex.Cursor

/-!
# Escapes

What a backslash and the characters behind it stand for. A character without a meaning of its own
stands for itself behind a backslash too, unless it is a letter, a digit or not in ASCII.
-/
namespace MaskedInput.Regex.Parse

open Unicode (PropertyQuery CodeSet)

def isHexDigit (c : Char) : Bool := (CodeSet.hexDigit? c).isSome

/-- The character with a number, if there is one. -/
def scalar? (n : Nat) : Option Char := if n.isValidChar then some (Char.ofNat n) else none

/-- Exactly so many hexadecimal digits; blanks that do not count may stand between them. -/
def hexDigits : Nat → Parse Text
  | 0 => return []
  | n + 1 => do
    match ← peek with
    | none => fail (← here) .escapeUnexpectedEnd
    | some c =>
      if isHexDigit c then
        bumpSpace
        return c :: (← hexDigits n)
      else fail (← nextSpan) .escapeHexInvalidDigit

/-- A character by its number in so many digits. -/
def fixedHex (start : Place) (count : Nat) : Parse Literal := do
  let first ← place
  let digits ← hexDigits count
  match scalar? (CodeSet.hexValue digits) with
  | none => fail (← spanFrom first) .escapeHexInvalid
  | some char => return { span := ← spanFrom start, char, isByte := count == 2 }

/-- A character by its number between braces. -/
def bracedHex (start : Place) : Parse Literal := do
  let brace ← place
  let first := (← nextSpan).stop
  bumpSpace
  let digits ← takeWhile isHexDigit
  match ← peek with
  | none => fail (← spanFrom brace) .escapeUnexpectedEnd
  | some '}' =>
    let stop ← place
    bumpSpace
    if digits.isEmpty then fail (← spanFrom brace) .escapeHexEmpty
    match scalar? (CodeSet.hexValue digits) with
    | none => fail ⟨first, stop⟩ .escapeHexInvalid
    | some char => return { span := ← spanFrom start, char }
  | some _ => fail (← nextSpan) .escapeHexInvalidDigit

/-- A character by its number; a letter in front says how many digits it has. -/
def hex (start : Place) (letter : Char) : Parse Literal := do
  bumpSpace
  match ← peek with
  | none => fail (← here) .escapeUnexpectedEnd
  | some '{' => bracedHex start
  | some _ => fixedHex start (if letter = 'x' then 2 else if letter = 'u' then 4 else 8)

/-- The first place at which a text stands in another, as what is before it and behind it. -/
def cutAt? (sign : Text) : Text → Option (Text × Text)
  | [] => none
  | c :: rest =>
    if sign.isPrefixOf (c :: rest) then some ([], (c :: rest).drop sign.length)
    else (cutAt? sign rest).map fun (before, behind) => (c :: before, behind)

/-- The query that stands between braces: a name, or a name and a value. -/
def query (t : Text) : PropertyQuery :=
  match cutAt? ['!', '='] t <|> cutAt? [':'] t <|> cutAt? ['='] t with
  | some (name, value) => .valued name value
  | none => .named t

/-- A class of characters with a property. -/
def property (start : Place) (negated : Bool) : Parse NamedClass := do
  bumpSpace
  match ← peek with
  | none => fail (← here) .escapeUnexpectedEnd
  | some '{' =>
    bumpSpace
    let name ← takeWhile (· != '}')
    if ← atEnd then fail (← here) .escapeUnexpectedEnd
    bump
    return .property (← spanFrom start) (query name) negated
  | some '\\' => fail (← nextSpan) .unicodeClassInvalid
  | some c =>
    bumpSpace
    return .property (← spanFrom start) (.named [c]) negated

/-- The edges of words with names of their own. -/
def wordEdges : List (String × WordEdge) :=
  [("start", .start), ("end", .stop), ("start-half", .startHalf), ("end-half", .stopHalf)]

def isEdgeCharacter (c : Char) : Bool := c.isAlpha || c == '-'

/-- The name of an edge between braces, unless what stands in them begins as a count does. -/
def namedEdge? (start : Place) : Parse (Option WordEdge) := do
  let cursor ← get
  let brace ← place
  bumpSpace
  match ← peek with
  | none => fail (← spanFrom start) .wordBoundaryUnexpectedEnd
  | some c =>
    if !isEdgeCharacter c then
      set cursor
      return none
    let first ← place
    let name ← takeWhile isEdgeCharacter
    if (← peek) != some '}' then fail (← spanFrom brace) .wordBoundaryUnclosed
    let contents ← spanFrom first
    bump
    match wordEdges.lookup (Text.toString name) with
    | some edge => return some edge
    | none => fail contents .wordBoundaryUnrecognized

/-- Letters that stand for a control behind a backslash. -/
def controlLetters : List (Char × Char) :=
  [('a', '\x07'), ('f', '\x0C'), ('t', '\t'), ('n', '\n'), ('r', '\r'), ('v', '\x0B')]

/-- Letters and signs that stand for a condition behind a backslash. -/
def assertionSigns : List (Char × Assertion) := [
  ('A', .textStart), ('z', .textStop), ('B', .word .interior), ('<', .word .start),
  ('>', .word .stop)]

def shorthands : List (Char × Shorthand) := [('d', .digit), ('s', .space), ('w', .word)]

/-- Whether the character stands for itself behind a backslash. -/
def standsForItself (c : Char) : Bool :=
  c.toNat < 128 && !c.isAlphanum && c != '<' && c != '>'

/-- What an escape of one character stands for; the cursor is behind it. -/
def simpleEscape (start : Place) (c : Char) : Parse Primitive := do
  let span ← spanFrom start
  if standsForItself c then return .literal { span, char := c }
  match controlLetters.lookup c, assertionSigns.lookup c, shorthands.lookup c.toLower with
  | some char, _, _ => return .literal { span, char }
  | _, some a, _ => return .assertion span a
  | _, _, some kind => return .named (.shorthand span kind c.isUpper)
  | none, none, none =>
    if c = 'b' then
      if (← peek) == some '{' then
        match ← namedEdge? start with
        | some edge => return .assertion (← spanFrom start) (.word edge)
        | none => return .assertion span (.word .boundary)
      else return .assertion span (.word .boundary)
    else fail span .escapeUnrecognized

/-- What an escape stands for; the cursor is in front of its backslash. -/
def escape : Parse Primitive := do
  let start ← place
  bump
  match ← peek with
  | none => fail (← spanFrom start) .escapeUnexpectedEnd
  | some c =>
    if c.isDigit then fail ⟨start, (← nextSpan).stop⟩ .backreference
    else if ['x', 'u', 'U'].contains c then return .literal (← hex start c)
    else if ['p', 'P'].contains c then return .named (← property start (c == 'P'))
    else
      bump
      simpleEscape start c

/-- A character that stands for itself. -/
def verbatim : Parse Literal := do
  let span ← nextSpan
  let char := (← peek).getD ' '
  bump
  return { span, char }

/-- What the next character or escape stands for outside of brackets. -/
def primitive : Parse Primitive := do
  match ← peek with
  | some '\\' => escape
  | some c =>
    let l ← verbatim
    return match c with
      | '.' => .dot l.span
      | '^' => .assertion l.span .lineStart
      | '$' => .assertion l.span .lineStop
      | _ => .literal l
  | none => return .literal (← verbatim)

end MaskedInput.Regex.Parse
