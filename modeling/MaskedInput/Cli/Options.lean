import MaskedInput.Extraction.Mode
import MaskedInput.Mask.Spec

/-!
# Commands and their options

What a user can ask for on the command line, once the arguments have been read.
-/
namespace MaskedInput.Cli

/-- The options that describe a mask. They are applied on top of a preset, if one is named. -/
structure MaskOptions where
  mask : Option Text := none
  preset : Option Text := none
  lead : Option Text := none
  leadOptional : Bool := false
  ignorable : List Text := []
  symbol : Option Char := none
  nonStrict : Bool := false
  deriving DecidableEq, Repr

inductive Command where
  /-- Formats each input, or each line of the standard input if there are none. -/
  | format (mask : MaskOptions) (inputs : List Text) (showClean json : Bool)
  /-- Recovers the clean value of each input, or of each line of the standard input. -/
  | clear (mask : MaskOptions) (inputs : List Text) (mode : ClearMode) (json : Bool)
  /-- Types keys into a live field, then presses backspace. -/
  | type (mask : MaskOptions) (keys : Text) (backspaces : Nat) (steps json : Bool)
  /-- Lists the presets. -/
  | presets (json : Bool)
  deriving DecidableEq, Repr

structure Invocation where
  quiet : Bool
  debug : Bool
  command : Command
  deriving DecidableEq, Repr

end MaskedInput.Cli
