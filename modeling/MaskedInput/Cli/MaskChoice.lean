import MaskedInput.Cli.Attempt
import MaskedInput.Cli.Options
import MaskedInput.Mask.Preset

/-!
# The choice of a mask

A command starts from a preset, if one is named, and applies its options on top. It fails if the
preset is unknown, if there is no mask then, or if the mask cannot be used.
-/
namespace MaskedInput.Cli

/-- A part that may be absent, as it stands in the description of a specification. -/
def describeOption {α : Type} (describe : α → Text) : Option α → Text
  | none => "None".toList
  | some a => "Some(".toList ++ describe a ++ [')']

def describeBool (b : Bool) : Text := if b then "true".toList else "false".toList

/-- A specification with all its parts by name. -/
def describeSpec (spec : Spec) : Text :=
  "MaskSpec \x7b pattern: ".toList ++ describeOption Text.quoted spec.pattern ++
  ", placeholder: ".toList ++ describeOption Text.quotedChar spec.placeholder ++
  ", prefix: ".toList ++ describeOption Text.quoted spec.lead ++
  ", prefix_necessary: ".toList ++ describeBool spec.leadFixed ++
  ", ignored_prefixes: [".toList ++ Text.join [',', ' '] (spec.ignorable.map Text.quoted) ++
  "], strict: ".toList ++ describeBool spec.strict ++ " \x7d".toList

/-- The entry for the specification that a command works with. -/
def chosenEntry (spec : Spec) : Log.Entry :=
  { level := .debug
    target := .options
    parts := [.wording ("Using mask spec " ++ (describeSpec spec).toString)] }

/-- The entry for a mask that is about to be compiled; a mask that is too long is not. -/
def compilingEntries (mask : Mask) : List Log.Entry :=
  if maxPatternLength < mask.pattern.length then []
  else
    let (placeholder, slots) := mask.slotting
    let expression := Element.expression (Element.ofPattern placeholder mask.pattern)
    [{ level := .debug
       target := .compiler
       parts := [.wording ("Compiling mask '" ++ mask.pattern.toString ++ "' (placeholder '" ++
         placeholder.toString ++ s!"', {slots} slots) into '" ++ expression.toString ++ "'")] }]

def compiledEntry (st : Stencil) : Log.Entry :=
  { level := .debug
    target := .commands
    parts := [.wording ("Mask compiled: placeholder '" ++ st.placeholder.toString ++
      s!"', {st.slotCount} slots")] }

namespace MaskOptions

/-- The specification with the options applied on top. -/
def applyTo (o : MaskOptions) (spec : Spec) : Spec where
  pattern := o.mask <|> spec.pattern
  placeholder := o.symbol <|> spec.placeholder
  lead := o.lead <|> spec.lead
  leadFixed := if o.leadOptional then false else spec.leadFixed
  ignorable := if o.ignorable.isEmpty then spec.ignorable else o.ignorable
  strict := if o.nonStrict then false else spec.strict

/-- The specification of the preset, or the default one if no preset is named. -/
def start (o : MaskOptions) : Attempt Spec :=
  match o.preset with
  | none => pure {}
  | some name =>
    match Preset.find name with
    | .error e => .fail (.preset e)
    | .ok preset => { log := [Preset.loadedEntry preset], result := .ok preset.spec }

/-- The specification that the options describe. -/
def choose (o : MaskOptions) : Attempt Spec := do
  let spec := o.applyTo (← o.start)
  if spec.pattern.isNone then .fail .noMask
  .note [chosenEntry spec]
  return spec

/-- The specification that the options describe, once its mask is known to be usable. -/
def usableSpec (o : MaskOptions) : Attempt Spec := do
  let spec ← o.choose
  .note (compilingEntries spec.mask)
  match spec.check with
  | .error e => .fail (.invalidMask e)
  | .ok st =>
    .note [compiledEntry st]
    return spec

end MaskOptions

end MaskedInput.Cli
