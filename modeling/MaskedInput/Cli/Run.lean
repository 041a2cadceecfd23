import MaskedInput.Cli.Typing
import MaskedInput.Mask.SpecJson

/-!
# Running a command

A command prints its whole output or fails with nothing printed. It fails if its preset is unknown,
if no mask is chosen or the mask cannot be used, or if the lines to read are not UTF-8, and the
first of these is reported.
-/
namespace MaskedInput.Cli

/-- A preset with all that belongs to it. -/
def presetJson (p : Preset) : Json := .object [
  ("name", .string p.name.toList), ("description", .string p.description.toList),
  ("spec", p.spec.toJson)]

/-- Names in a column wide enough for the longest, and descriptions behind them. -/
def presetTable (presets : List Preset) : Text :=
  let width := (presets.map fun p => p.name.length).foldl max 0
  unlines (presets.map fun p =>
    p.name.toList ++ List.replicate (width + 2 - p.name.length) ' ' ++ p.description.toList)

/-- What the command `presets` prints. -/
def printPresets (json : Bool) : Attempt Text := do
  if json then
    .note (Preset.all.map Preset.loadedEntry)
    return Json.print 0 (.array (Preset.all.map presetJson)) ++ ['\n']
  else return presetTable Preset.all

/-- Runs a command on the bytes of the standard input, which are looked at only if needed, and
answers what it prints. -/
def Command.run (stdin : ByteArray) : Command → Attempt Text
  | .format mask inputs showClean json => do
    let spec ← mask.usableSpec
    let values ← inputValues inputs stdin
    printFormatted spec values showClean json
  | .clear mask inputs mode json => do
    let spec ← mask.usableSpec
    let values ← inputValues inputs stdin
    printCleared spec values mode json
  | .type mask keys backspaces steps json => do
    let spec ← mask.usableSpec
    printTyped spec keys backspaces steps json
  | .presets json => printPresets json

end MaskedInput.Cli
