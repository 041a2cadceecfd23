import MaskedInput.Log.Entry
import MaskedInput.Regex.Compile
import MaskedInput.Regex.Match

/-!
# Log filters

A filter says which entries are written. It is a list of directives with commas between them, each a
level, a target, or a target with a level behind an equals sign; behind a slash may stand a regular
expression that describes a piece of every message to be written. A directive holds for all targets
that begin as it does; of several the longest decides. A directive or an expression that cannot be
read is left out with a warning.
-/
namespace MaskedInput.Log

structure Directive where
  /-- The beginning of the targets that the directive is about; all of them if there is none. -/
  target : Option Text
  /-- The most talkative level that is let through; none lets nothing through. -/
  level : Option Level
  deriving DecidableEq, Repr

/-- How much of a target a directive names, in bytes. -/
def Directive.size (d : Directive) : Nat := (d.target.map Text.utf8Size).getD 0

def Directive.concerns (d : Directive) (target : Text) : Bool :=
  match d.target with
  | some beginning => beginning.isPrefixOf target
  | none => true

structure Filter where
  directives : List Directive := []
  /-- What a message has to hold a piece of. -/
  piece : Option Regex := none
  deriving DecidableEq, Repr

namespace Filter

/-- The names of the levels in a filter; letters may be of either case. -/
def levelNames : List (String × Option Level) := [
  ("OFF", none), ("ERROR", some .error), ("WARN", some .warn), ("INFO", some .info),
  ("DEBUG", some .debug), ("TRACE", some .trace)]

def level? (t : Text) : Option (Option Level) :=
  levelNames.lookup (Text.toString (t.map Char.toUpper))

/-- A directive, or the part of it that cannot be read. -/
def readDirective (t : Text) : Except Text Directive :=
  match Text.splitAtChar '=' t with
  | [only] =>
    match level? only with
    | some level => .ok { target := none, level }
    | none => .ok { target := some only, level := some .trace }
  | [target, level] =>
    match Text.trim level with
    | [] => .ok { target := some target, level := some .trace }
    | name =>
      match level? name with
      | some level => .ok { target := some target, level }
      | none => .error name
  | _ => .error t

/-- Replaces the directive about the same targets, or adds the directive at the end. -/
def insertInto (d : Directive) : List Directive → List Directive
  | [] => [d]
  | e :: rest => if e.target = d.target then d :: rest else e :: insertInto d rest

def insert (f : Filter) (d : Directive) : Filter :=
  { f with directives := insertInto d f.directives }

/-- The warning about a part of a filter that cannot be read. -/
def warning (what : String) : String := "warning: invalid " ++ what ++ ", ignoring it\n"

/-- The warning about directives that cannot be read. -/
def directiveWarning (directives note : String) : String :=
  warning ("logging spec '" ++ directives ++ "'" ++ note)

/-- Reads the directives, and collects the warnings. -/
def readDirectives (t : Text) : Filter × List String :=
  let parts := ((Text.splitAtChar ',' t).map Text.trim).filter fun part => !part.isEmpty
  parts.foldl (fun (f, warnings) part =>
    match readDirective part with
    | .ok d => (f.insert d, warnings)
    | .error bad => (f, warnings ++ [directiveWarning bad.toString ""])) ({}, [])

/-- Reads the expression behind the slash, and adds the warning if it is refused. -/
def readPiece (pattern : Text) : Filter × List String → Filter × List String
  | (f, warnings) =>
    match Regex.ofPattern pattern with
    | .ok r => ({ f with piece := some r }, warnings)
    | .error refusal => (f, warnings ++ [warning ("regex filter - " ++ refusal.message)])

/-- Reads a filter, and collects the warnings. -/
def read (t : Text) : Filter × List String :=
  match Text.splitAtChar '/' t with
  | [directives] => readDirectives directives
  | [directives, pattern] => readPiece pattern (readDirectives directives)
  | _ => ({}, [directiveWarning t.toString " (too many '/'s)"])

/-- The level for a target: of the directives about it the longest decides, and of equally long ones
the last. A filter without directives lets errors through. -/
def levelFor (f : Filter) (target : Text) : Option Level :=
  if f.directives.isEmpty then some .error
  else
    let best := f.directives.foldl (fun best d =>
      if d.concerns target && (best.map Directive.size).getD 0 ≤ d.size then some d else best)
      (none : Option Directive)
    best.bind Directive.level

/-- Whether an entry with this message is written. -/
def passes (f : Filter) (e : Entry) (message : Text) : Bool :=
  (match f.levelFor e.target.name.toList with
    | some level => e.level.verbosity ≤ level.verbosity
    | none => false) &&
  f.piece.all fun r => r.matchesIn message

end Filter

/-- The name of a level in a column of five characters. -/
def Level.column (l : Level) : String :=
  l.name ++ Text.toString (List.replicate (5 - l.name.length) ' ')

/-- A message whose further lines are indented. -/
def indented (message : Text) : Text :=
  message.flatMap fun c => if c = '\n' then "\n    ".toList else [c]

/-- An entry as a line of the log. -/
def line (privacy : Privacy) (e : Entry) : String :=
  "[" ++ e.level.column ++ " " ++ e.target.name ++ "] " ++
    (indented (e.message privacy).toList).toString ++ "\n"

/-- The lines of the entries that pass a filter. -/
def write (f : Filter) (privacy : Privacy) (entries : List Entry) : String :=
  String.join ((entries.filter fun e => f.passes e (e.message privacy).toList).map (line privacy))

end MaskedInput.Log
