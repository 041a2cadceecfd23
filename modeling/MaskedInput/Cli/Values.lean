import MaskedInput.Cli.MaskChoice
import MaskedInput.Json
import MaskedInput.Text.Lines

/-!
# Formatting and clearing values

The values are the arguments, or the lines of the standard input if there are none. Each is written
as a record of a JSON array or as a line.
-/
namespace MaskedInput.Cli

/-- The inputs given, or the lines of the standard input if there are none. -/
def inputValues (inputs : List Text) (stdin : ByteArray) : Attempt (List Text) :=
  if inputs.isEmpty then
    match Text.decode? stdin with
    | some t => pure (Text.lines t)
    | none => .fail .undecodableInput
  else pure inputs

/-- The texts, each on a line of its own. -/
def unlines (ts : List Text) : Text := ts.flatMap (· ++ ['\n'])

/-- The records as a JSON array, or a line for each. -/
def printRecords {α : Type} (json : Bool) (toJson : α → Json) (line : α → Text)
    (records : List α) : Text :=
  if json then Json.print 0 (.array (records.map toJson)) ++ ['\n']
  else unlines (records.map line)

structure FormattedValue where
  input : Text
  formatted : Text
  /-- The clean value of the result, if it was asked for. -/
  clean : Option Text
  deriving DecidableEq, Repr

namespace FormattedValue

def ofInput (spec : Spec) (showClean : Bool) (input : Text) : FormattedValue where
  input
  formatted := spec.format input
  clean := if showClean then some (spec.clearByPosition (spec.format input)) else none

def entries (spec : Spec) (showClean : Bool) (input : Text) : List Log.Entry :=
  let formatted := spec.format input
  (spec.formatOutcome input).entries input ++
    if showClean then (spec.clearOutcome .positional formatted).entries formatted else []

def toJson (v : FormattedValue) : Json :=
  .object ([("input", .string v.input), ("formatted", .string v.formatted)] ++
    (v.clean.map fun clean => ("clean", .string clean)).toList)

def line (v : FormattedValue) : Text :=
  match v.clean with
  | some clean => v.formatted ++ ['\t'] ++ clean
  | none => v.formatted

end FormattedValue

structure ClearedValue where
  input : Text
  clean : Text
  mode : ClearMode
  deriving DecidableEq, Repr

namespace ClearedValue

def ofInput (spec : Spec) (mode : ClearMode) (input : Text) : ClearedValue where
  input
  clean := spec.clearBy mode input
  mode

def toJson (v : ClearedValue) : Json := .object [
  ("input", .string v.input), ("clean", .string v.clean), ("mode", .string v.mode.name.toList)]

end ClearedValue

def formattingEntry (count : Nat) : Log.Entry :=
  { level := .info, target := .formatCommand, parts := [.wording s!"Formatting {count} value(s)."] }

/-- The entry for values about to be cleared, with a warning where alignment matters. -/
def clearingEntries (count : Nat) (mode : ClearMode) : List Log.Entry :=
  { level := .info
    target := .clearCommand
    parts := [.wording (s!"Clearing {count} value(s) with the " ++ mode.name ++ " engine.")] } ::
  match mode with
  | .pattern => []
  | .positional => [
    { level := .warn
      target := .clearCommand
      parts := [.wording "Positional extraction is only correct for fully formatted values."] }]

/-- What the command `format` prints. -/
def printFormatted (spec : Spec) (values : List Text) (showClean json : Bool) : Attempt Text := do
  .note (formattingEntry values.length :: values.flatMap (FormattedValue.entries spec showClean))
  return printRecords json FormattedValue.toJson FormattedValue.line
    (values.map (FormattedValue.ofInput spec showClean))

/-- What the command `clear` prints. -/
def printCleared (spec : Spec) (values : List Text) (mode : ClearMode) (json : Bool) :
    Attempt Text := do
  .note (clearingEntries values.length mode ++
    values.flatMap fun value => (spec.clearOutcome mode value).entries value)
  return printRecords json ClearedValue.toJson ClearedValue.clean
    (values.map (ClearedValue.ofInput spec mode))

end MaskedInput.Cli
