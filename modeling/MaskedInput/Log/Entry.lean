import MaskedInput.Text.Basic

/-!
# Log entries

An entry is a level, a target (the part of the library that speaks) and a message in parts. A part
is either fixed wording or a value that a user typed. Values are shown only where the privacy
setting allows it; otherwise an entry tells no more of a value than its size in bytes.
-/
namespace MaskedInput.Log

inductive Level where
  | error | warn | info | debug | trace
  deriving DecidableEq, Repr

def Level.name : Level → String
  | .error => "ERROR"
  | .warn => "WARN"
  | .info => "INFO"
  | .debug => "DEBUG"
  | .trace => "TRACE"

/-- How much a level lets through, from errors only to everything. -/
def Level.verbosity : Level → Nat
  | .error => 1
  | .warn => 2
  | .info => 3
  | .debug => 4
  | .trace => 5

/-- The part of the library that speaks. -/
inductive Target where
  | presets | compiler | formatter | live
  | options | commands | formatCommand | clearCommand | typeCommand
  deriving DecidableEq, Repr

/-- The name by which a log filter knows a target. -/
def Target.name : Target → String
  | .presets => "maskfmt_core::presets"
  | .compiler => "maskfmt_core::compiler"
  | .formatter => "maskfmt_core::formatter"
  | .live => "maskfmt_core::live_edit"
  | .options => "maskfmt::cli"
  | .commands => "maskfmt::commands"
  | .formatCommand => "maskfmt::commands::format"
  | .clearCommand => "maskfmt::commands::clear"
  | .typeCommand => "maskfmt::commands::type_cmd"

/-- A piece of a message: fixed wording, or a value that a user typed. -/
inductive Part where
  | wording (s : String)
  | value (t : Text)
  deriving DecidableEq, Repr

structure Entry where
  level : Level
  target : Target
  parts : List Part
  deriving DecidableEq, Repr

/-- Whether values that users typed may stand in messages. -/
inductive Privacy where
  | redacted | shown
  deriving DecidableEq, Repr

/-- Values of at most this many bytes are redacted without their size. -/
def maxUnsizedBytes : Nat := 8

/-- What stands for a value in a message that must not show it. -/
def redact (t : Text) : String :=
  let bytes := t.utf8Size
  if bytes ≤ maxUnsizedBytes then "[REDACTED]" else s!"[REDACTED: {bytes} chars]"

def Part.render : Privacy → Part → String
  | _, .wording s => s
  | .shown, .value t => t.toString
  | .redacted, .value t => redact t

/-- The message of an entry under a privacy setting. -/
def Entry.message (privacy : Privacy) (e : Entry) : String :=
  String.join (e.parts.map (Part.render privacy))

/-- The values that the entry holds, in order. -/
def Entry.values (e : Entry) : List Text :=
  e.parts.filterMap fun
    | .wording _ => none
    | .value t => some t

end MaskedInput.Log
