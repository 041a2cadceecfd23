import MaskedInput.Text.Alphabetic
import MaskedInput.Text.Blank

/-!
# Environment files

An environment file sets variables, one a line: a name, an equals sign and a value, perhaps with the
word `export` in front. A value stands bare or between quotes. Between single quotes everything
stands for itself; elsewhere a backslash escapes and a dollar sign names a variable whose value is
put in. Quotes may run over line ends; a hash sign behind a blank starts a comment.

A variable that is set already keeps its value. The first line that cannot be read ends the file.
-/
namespace MaskedInput.Cli

/-- Variables and their values. -/
abbrev Variables := List (Text × Text)

namespace DotEnv

/-- Where in a line the reader is, as far as the end of the line depends on it. -/
inductive Position where
  | plain
  /-- Right behind a blank that stands in plain text. -/
  | blank
  | escaped
  | strong
  | strongEscaped
  | weak
  | weakEscaped
  /-- At a hash sign that starts a comment. -/
  | comment
  deriving DecidableEq, Repr

/-- Where the reader is behind a character that opens nothing and is not escaped. -/
def Position.behind (c : Char) : Position :=
  if c = '\\' then .escaped else if c = '"' then .weak else if c = '\'' then .strong else .plain

def Position.next : Position → Char → Position
  | .plain, c =>
    if Text.isBlank c && c != '\n' && c != '\r' then .blank else behind c
  | .blank, c => if c = '#' then .comment else behind c
  | .escaped, _ => .plain
  | .strong, c => if c = '\\' then .strongEscaped else if c = '\'' then .plain else .strong
  | .strongEscaped, _ => .strong
  | .weak, c => if c = '\\' then .weakEscaped else if c = '"' then .plain else .weak
  | .weakEscaped, _ => .weak
  | .comment, _ => .comment

/-- Where the reader is at the end of a line, and what stands in front of a comment. -/
def scanLine : Position → Text → Position × Text
  | p, [] => (p, [])
  | p, c :: rest =>
    match p.next c with
    | .comment => (.comment, [])
    | q =>
      let (final, kept) := scanLine q rest
      (final, c :: kept)

/-- The text in pieces that each end with a line feed, except perhaps the last. -/
def physicalLines : Text → List Text
  | [] => []
  | c :: rest =>
    if c = '\n' then [c] :: physicalLines rest
    else match physicalLines rest with
      | [] => [[c]]
      | line :: lines => (c :: line) :: lines

/-- The text without a line end. -/
def dropLineEnd (t : Text) : Text :=
  if t.getLast? = some '\n' then
    let t := t.dropLast
    if t.getLast? = some '\r' then t.dropLast else t
  else t

/-- The lines of a file, with those joined whose quotes run over the line end. A line that is never
completed is given as none. `start` is what has been read of a line at whose end the reader is at
`p`. -/
def logicalLines : List Text → Text → Position → List (Option Text)
  | [], _, .plain => []
  | [], _, _ => [none]
  | line :: lines, start, p =>
    let whole := start ++ line
    if (whole.dropWhile Text.isBlank).head? = some '#' then some [] :: logicalLines lines [] .plain
    else
      match scanLine p line with
      | (.plain, _) => some (dropLineEnd whole) :: logicalLines lines [] .plain
      | (.comment, kept) => some (start ++ kept) :: logicalLines lines [] .plain
      | (q, _) => logicalLines lines whole q

/-- Where in a value the reader is; `inQuotes` tells whether to go on between double quotes. -/
inductive ValuePosition where
  | bare
  | strong
  | weak
  | escaped (inQuotes : Bool)
  /-- Behind a blank, where only a comment may follow. -/
  | ended
  /-- In a name behind a dollar sign. -/
  | reference (inQuotes : Bool) (name : Text)
  /-- In a name between braces behind a dollar sign. -/
  | braced (inQuotes : Bool) (name : Text)
  deriving DecidableEq, Repr

def ValuePosition.resume (inQuotes : Bool) : ValuePosition := if inQuotes then .weak else .bare

/-- Reads a value, given the values of other variables. None if an escape is unknown, if something
else than a comment follows the value, or if a quote or a brace is not closed. -/
def readValue (lookup : Text → Text) : ValuePosition → Text → Option Text
  | .bare, [] | .ended, [] | .escaped false, [] => some []
  | .reference false name, [] => some (lookup name)
  | _, [] => none
  | .ended, c :: rest =>
    if c = ' ' ∨ c = '\t' then readValue lookup .ended rest
    else if c = '#' then some [] else none
  | .escaped inQuotes, c :: rest =>
    let continued := readValue lookup (.resume inQuotes) rest
    if ['\\', '\'', '"', '$', ' '].contains c then continued.map (c :: ·)
    else if c = 'n' then continued.map ('\n' :: ·) else none
  | .strong, c :: rest =>
    if c = '\'' then readValue lookup .bare rest
    else (readValue lookup .strong rest).map (c :: ·)
  | .reference inQuotes name, c :: rest =>
    if Text.isAlphabeticOrNumeral c then readValue lookup (.reference inQuotes (name ++ [c])) rest
    else if c = '{' && name.isEmpty then readValue lookup (.braced inQuotes []) rest
    else if c = '$' then
      (readValue lookup (.reference inQuotes []) rest).map (lookup name ++ ·)
    else (readValue lookup (.resume inQuotes) rest).map (lookup name ++ c :: ·)
  | .braced inQuotes name, c :: rest =>
    if c = '}' then (readValue lookup (.resume inQuotes) rest).map (lookup name ++ ·)
    else readValue lookup (.braced inQuotes (name ++ [c])) rest
  | .weak, c :: rest =>
    if c = '$' then readValue lookup (.reference true []) rest
    else if c = '"' then readValue lookup .bare rest
    else if c = '\\' then readValue lookup (.escaped true) rest
    else (readValue lookup .weak rest).map (c :: ·)
  | .bare, c :: rest =>
    if c = '$' then readValue lookup (.reference false []) rest
    else if c = '\'' then readValue lookup .strong rest
    else if c = '"' then readValue lookup .weak rest
    else if c = '\\' then readValue lookup (.escaped false) rest
    else if c = ' ' ∨ c = '\t' then readValue lookup .ended rest
    else (readValue lookup .bare rest).map (c :: ·)

/-- What a line says. -/
inductive Line where
  /-- A blank line or a comment. -/
  | nothing
  | binding (name value : Text)
  | malformed
  deriving DecidableEq, Repr

def startsName (c : Char) : Bool := c.isAlpha || c == '_'

def continuesName (c : Char) : Bool := c.isAlphanum || c == '_' || c == '.'

def skipBlanks (t : Text) : Text := t.dropWhile Text.isBlank

/-- A name, and what follows it and the blanks behind it. -/
def readName? (t : Text) : Option (Text × Text) :=
  match t with
  | c :: _ =>
    if startsName c then some (t.takeWhile continuesName, skipBlanks (t.dropWhile continuesName))
    else none
  | [] => none

/-- Reads a name and what follows its equals sign. `export` may be a name itself. -/
def readBinding? (t : Text) : Option (Text × Text) :=
  match readName? t with
  | none => none
  | some (name, '=' :: rest) => some (name, rest)
  | some (name, rest) =>
    if name = "export".toList then
      match readName? rest with
      | some (name, '=' :: rest) => some (name, rest)
      | _ => none
    else none

def readLine (lookup : Text → Text) (line : Text) : Line :=
  match skipBlanks (Text.trimEnd line) with
  | [] | '#' :: _ => .nothing
  | t =>
    match readBinding? t with
    | none => .malformed
    | some (name, rest) =>
      match skipBlanks rest with
      | [] | '#' :: _ => .binding name []
      | value =>
        match readValue lookup .bare value with
        | some v => .binding name v
        | none => .malformed

/-- The variables after the lines of a file; those that were set before keep their values. -/
def applyLines (vars : Variables) : List (Option Text) → Variables
  | [] | none :: _ => vars
  | some line :: lines =>
    match readLine (fun name => (vars.lookup name).getD []) line with
    | .nothing => applyLines vars lines
    | .binding name value =>
      applyLines (if (vars.lookup name).isSome then vars else vars ++ [(name, value)]) lines
    | .malformed => vars

/-- The file without a byte order mark in front. -/
def dropMark (file : Text) : Text :=
  match file with
  | '\ufeff' :: rest => rest
  | _ => file

/-- The variables after a file has been read. -/
def apply (vars : Variables) (file : Text) : Variables :=
  applyLines vars (logicalLines (physicalLines (dropMark file)) [] .plain)

end DotEnv

end MaskedInput.Cli
