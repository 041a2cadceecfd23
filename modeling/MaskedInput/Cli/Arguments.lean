import MaskedInput.Cli.Options
import MaskedInput.Cli.Usage

/-!
# Arguments

Reading the command line. An argument is a long option (two hyphens, perhaps a value behind an
equals sign), a cluster of short options (one hyphen), or plain. The last option of a cluster may
have its value attached. Two hyphens alone make everything behind them plain.

An option that takes a value has the next plain argument as its value. It stays pending until the
next option or positional argument is taken, and only then is its value looked at; a mistake found
in between is reported first. Options of the environment stand in for those that were not given.
-/
namespace MaskedInput.Cli

/-- An option of any command. -/
inductive OptionName where
  | quiet | debug | help | version
  | mask | preset | lead | leadOptional | ignorePrefix | symbol | nonStrict
  | showClean | positional | json | backspace | steps
  deriving DecidableEq, Repr

/-- What an option takes and does. -/
inductive OptionKind where
  | help
  | version
  /-- Takes no value and may be given once. -/
  | flag
  /-- Takes one value that passes the test and may be given once. -/
  | value (accepts : Text → Bool)
  /-- Takes a list of values with commas between them, and may be given again to add more. -/
  | list

structure OptionRule where
  name : OptionName
  long : String
  short : Option Char := none
  kind : OptionKind := .flag

/-- What a command takes besides options. -/
inductive Positionals where
  | none
  /-- One argument, which is required. -/
  | one
  | many
  deriving DecidableEq, Repr

/-- What may stand on the command line at one level: in front of the command, or behind it. -/
structure Level where
  rules : List OptionRule
  positionals : Positionals := .none
  /-- The commands that may be named at this level. -/
  commands : List String := []

/-- The form of an argument. -/
inductive Word where
  /-- Two hyphens alone. -/
  | escape
  | long (name : Text) (value : Option Text)
  | shorts (cluster : Text)
  | plain
  deriving DecidableEq, Repr

def Word.ofText : Text → Word
  | ['-', '-'] => .escape
  | '-' :: '-' :: rest =>
    match rest.dropWhile (· != '=') with
    | _ :: value => .long (rest.takeWhile (· != '=')) (some value)
    | [] => .long rest none
  | '-' :: c :: rest => .shorts (c :: rest)
  | _ => .plain

/-- What has been read of a level so far. -/
structure Reading where
  /-- The options that were taken, with their values. -/
  given : List (OptionName × List Text) := []
  positionals : List Text := []
  /-- The option that was read last, with the value found for it, until it is taken. -/
  pending : Option (OptionRule × Option Text) := none
  /-- Whether two hyphens alone have been read. -/
  escaped : Bool := false

namespace Reading

def has (r : Reading) (name : OptionName) : Bool := r.given.any (·.1 = name)

/-- The values given for an option, all together. -/
def valuesOf (r : Reading) (name : OptionName) : List Text :=
  (r.given.filter (·.1 = name)).flatMap Prod.snd

def valueOf? (r : Reading) (name : OptionName) : Option Text := (r.valuesOf name).head?

def add (r : Reading) (name : OptionName) (values : List Text) : Reading :=
  { r with given := r.given ++ [(name, values)] }

/-- Takes an option with the value found for it. -/
def take (r : Reading) (rule : OptionRule) (value : Option Text) : Except Usage Reading :=
  match rule.kind, value with
  | .help, _ => .error .help
  | .version, _ => .error .version
  | .flag, _ => if r.has rule.name then .error .argumentConflict else .ok (r.add rule.name [])
  | .value _, none | .list, none => .error .invalidValue
  | .value accepts, some v =>
    if r.has rule.name then .error .argumentConflict
    else if accepts v then .ok (r.add rule.name [v])
    else .error .valueValidation
  | .list, some v => .ok (r.add rule.name (Text.splitAtChar ',' v))

/-- Takes the option that is pending. -/
def settle (r : Reading) : Except Usage Reading :=
  match r.pending with
  | none => .ok r
  | some (rule, value) => { r with pending := none }.take rule value

/-- Takes an option whose value, if it needs one, was attached to it, or lets it wait for one. -/
def takeOption (r : Reading) (rule : OptionRule) (attached : Option Text) :
    Except Usage Reading := do
  let r ← r.settle
  match rule.kind, attached with
  | .value _, none | .list, none => .ok { r with pending := some (rule, none) }
  | _, _ => r.take rule attached

/-- Whether the next plain argument is the value of an option. -/
def awaitsValue (r : Reading) : Bool :=
  match r.pending with
  | some (_, none) => !r.escaped
  | _ => false

/-- Gives the pending option its value. -/
def giveValue (r : Reading) (v : Text) : Reading :=
  { r with pending := r.pending.map fun (rule, _) => (rule, some v) }

end Reading

namespace OptionKind

def takesValue : OptionKind → Bool
  | .value _ | .list => true
  | .help | .version | .flag => false

end OptionKind

namespace Level

/-- Reads a long option. -/
def readLong (level : Level) (name : Text) (value : Option Text) (r : Reading) :
    Except Usage Reading :=
  match level.rules.find? (·.long.toList = name) with
  | none => .error .unknownArgument
  | some rule =>
    if value.isSome && !rule.kind.takesValue then .error .tooManyValues
    else r.takeOption rule value

/-- Reads a cluster of short options. What follows an option that takes a value is its value,
without an equals sign in front. -/
def readShorts (level : Level) : Text → Reading → Except Usage Reading
  | [], r => .ok r
  | c :: rest, r =>
    match level.rules.find? (·.short = some c) with
    | none => .error .unknownArgument
    | some rule =>
      if rule.kind.takesValue then
        r.takeOption rule <| match rest with
          | [] => none
          | '=' :: value => some value
          | value => some value
      else r.takeOption rule none >>= level.readShorts rest

/-- Reads a positional argument. -/
def readPositional (level : Level) (arg : Text) (r : Reading) : Except Usage Reading :=
  let taken : Except Usage Reading :=
    r.settle.map fun r => { r with positionals := r.positionals ++ [arg] }
  match level.positionals, r.positionals with
  | .many, _ | .one, [] => taken
  | .one, _ :: _ => .error .unknownArgument
  | .none, _ =>
    if level.commands.isEmpty || (r.escaped && level.commands.contains arg.toString) then
      .error .unknownArgument
    else .error .invalidSubcommand

/-- Reads arguments up to the end, or up to the name of a command, which is answered with the
arguments behind it. -/
def read (level : Level) :
    List Text → Reading → Except Usage (Reading × Option (String × List Text))
  | [], r => r.settle.map fun r => (r, none)
  | arg :: rest, r =>
    if r.escaped then level.readPositional arg r >>= level.read rest
    else if !r.awaitsValue && level.commands.contains arg.toString then
      .ok (r, some (arg.toString, rest))
    else
      match Word.ofText arg with
      | .escape => level.read rest { r with escaped := true }
      | .long name value => level.readLong name value r >>= level.read rest
      | .shorts cluster => level.readShorts cluster r >>= level.read rest
      | .plain =>
        if r.awaitsValue then level.read rest (r.giveValue arg)
        else level.readPositional arg r >>= level.read rest

end Level

/-! ### The commands -/

/-- A number written in decimal digits, perhaps with a plus sign in front, below 2 ^ 64. -/
def natural? (t : Text) : Option Nat :=
  let digits := match t with
    | '+' :: rest => rest
    | _ => t
  if digits.isEmpty || !digits.all Char.isDigit then none
  else
    let n := digits.foldl (fun n c => 10 * n + (c.toNat - '0'.toNat)) 0
    if n < UInt64.size then some n else none

/-- A text of exactly one character. -/
def char? : Text → Option Char
  | [c] => some c
  | _ => none

def anyText : Text → Bool := fun _ => true

/-- The options that may stand in front of a command and behind it. -/
def sharedRules : List OptionRule := [
  { name := .quiet, long := "quiet", short := some 'q' },
  { name := .debug, long := "debug", short := some 'd' },
  { name := .help, long := "help", short := some 'h', kind := .help }]

def maskRules : List OptionRule := [
  { name := .mask, long := "mask", short := some 'm', kind := .value anyText },
  { name := .preset, long := "preset", short := some 'p', kind := .value anyText },
  { name := .lead, long := "prefix", kind := .value anyText },
  { name := .leadOptional, long := "prefix-optional" },
  { name := .ignorePrefix, long := "ignore-prefix", kind := .list },
  { name := .symbol, long := "symbol", short := some 's', kind := .value (char? · |>.isSome) },
  { name := .nonStrict, long := "non-strict" }]

def jsonRule : OptionRule := { name := .json, long := "json" }

def topLevel : Level where
  rules := sharedRules ++
    [{ name := .version, long := "version", short := some 'V', kind := .version }]
  commands := ["format", "clear", "type", "presets", "help"]

def formatLevel : Level where
  rules := sharedRules ++ maskRules ++ [{ name := .showClean, long := "show-clean" }, jsonRule]
  positionals := .many

def clearLevel : Level where
  rules := sharedRules ++ maskRules ++ [{ name := .positional, long := "static" }, jsonRule]
  positionals := .many

def typeLevel : Level where
  rules := sharedRules ++ maskRules ++ [
    { name := .backspace, long := "backspace", short := some 'b',
      kind := .value (natural? · |>.isSome) },
    { name := .steps, long := "steps" },
    jsonRule]
  positionals := .one

def presetsLevel : Level where
  rules := sharedRules ++ [jsonRule]

/-- The values that the environment supplies for options that were not given. -/
structure Defaults where
  mask : Option Text := none
  lead : Option Text := none
  deriving DecidableEq, Repr

def Reading.maskOptions (r : Reading) (defaults : Defaults) : MaskOptions where
  mask := r.valueOf? .mask <|> defaults.mask
  preset := r.valueOf? .preset
  lead := r.valueOf? .lead <|> defaults.lead
  leadOptional := r.has .leadOptional
  ignorable := r.valuesOf .ignorePrefix
  symbol := r.valueOf? .symbol >>= char?
  nonStrict := r.has .nonStrict

/-- The command of a name, from what was read behind it. -/
def commandOf (name : String) (defaults : Defaults) (r : Reading) : Except Usage Command :=
  let mask := r.maskOptions defaults
  let json := r.has .json
  match name with
  | "format" => .ok (.format mask r.positionals (r.has .showClean) json)
  | "clear" =>
    let mode := if r.has .positional then .positional else .pattern
    .ok (.clear mask r.positionals mode json)
  | "type" =>
    match r.positionals with
    | [] => .error .missingRequiredArgument
    | keys :: _ =>
      let backspaces := (r.valueOf? .backspace >>= natural?).getD 0
      .ok (.type mask keys backspaces (r.has .steps) json)
  | _ => .ok (.presets json)

def levelOf : String → Level
  | "format" => formatLevel
  | "clear" => clearLevel
  | "type" => typeLevel
  | _ => presetsLevel

/-- Help on a command, which may be named. The commands have no commands of their own. -/
def helpOn : List Text → Usage
  | [] => .help
  | [name] => if topLevel.commands.contains name.toString then .help else .invalidSubcommand
  | _ :: _ :: _ => .invalidSubcommand

/-- Reads the arguments of the program. Mistakes behind the command come before those in front. -/
def readArguments (defaults : Defaults) (args : List Text) : Except Usage Invocation := do
  match ← topLevel.read args {} with
  | (r, none) =>
    .error (if r.given.isEmpty then .helpOnMissingArgument else .missingSubcommand)
  | (_, some ("help", rest)) => .error (helpOn rest)
  | (r, some (name, rest)) =>
    let (inner, _) ← (levelOf name).read rest {}
    let command ← commandOf name defaults inner
    .ok {
      quiet := r.has .quiet || inner.has .quiet
      debug := r.has .debug || inner.has .debug
      command }

end MaskedInput.Cli
