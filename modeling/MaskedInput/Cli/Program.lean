import MaskedInput.Cli.Arguments
import MaskedInput.Cli.DotEnv
import MaskedInput.Cli.Run
import MaskedInput.Cli.Status
import MaskedInput.Log.Filter

/-!
# The program

From arguments, variables and the standard input to what is written and the exit code. An
environment file adds variables first; they supply options, choose what is logged, and decide
whether the log may show what users typed.
-/
namespace MaskedInput.Cli

/-- What the program finds around it. -/
structure Surroundings where
  environment : Variables := []
  /-- The contents of the environment file, if there is one. -/
  dotEnv : Option Text := none
  stdin : ByteArray := .empty

/-- What the program leaves behind. -/
structure Ending where
  exit : Nat
  stdout : String := ""
  stderr : String := ""
  deriving DecidableEq, Repr

def versionText : String := "maskfmt 0.1.0\n"

def helpText : String :=
  "Formats text into input masks and recovers clean values.\n\n" ++
  "Usage: maskfmt [-q] [-d] <format|clear|type|presets> [options] [inputs]\n"

namespace Surroundings

/-- The variables with those of the environment file added. -/
def allVariables (s : Surroundings) : Variables :=
  match s.dotEnv with
  | some file => DotEnv.apply s.environment file
  | none => s.environment

end Surroundings

def Variables.value? (vars : Variables) (name : String) : Option Text := vars.lookup name.toList

/-- The options that variables supply. -/
def Variables.defaults (vars : Variables) : Defaults where
  mask := vars.value? "MASKFMT_MASK"
  lead := vars.value? "MASKFMT_PREFIX"

/-- Typed values are shown in the log only on explicit demand. -/
def Variables.privacy (vars : Variables) : Log.Privacy :=
  match vars.value? "MASKFMT_ALLOW_DEBUG_PII" with
  | some t => if t.map Char.toLower = "true".toList then .shown else .redacted
  | none => .redacted

/-- The filter that variables and options choose, and the warnings about it. Without a word about
it, warnings and errors are logged; to be quiet comes before debugging. -/
def logFilter (vars : Variables) (quiet debug : Bool) : Log.Filter × List String :=
  let (filter, warnings) := Log.Filter.read ((vars.value? "RUST_LOG").getD "warn".toList)
  if quiet then (filter.insert { target := none, level := none }, warnings)
  else if debug then (filter.insert { target := none, level := some .debug }, warnings)
  else (filter, warnings)

def Usage.ending : Usage → Ending
  | .help => { exit := 0, stdout := helpText }
  | .version => { exit := 0, stdout := versionText }
  | _ => { exit := 2, stderr := helpText }

/-- How an attempt ends, apart from its log. -/
def Attempt.ending (a : Attempt Text) : Ending :=
  match a.result with
  | .ok out => { exit := 0, stdout := out.toString }
  | .error e => { exit := 1, stderr := statusLine false .error e.message }

/-- Runs the program. -/
def runProgram (args : List Text) (s : Surroundings) : Ending :=
  let vars := s.allVariables
  match readArguments vars.defaults args with
  | .error usage => usage.ending
  | .ok invocation =>
    let attempt := invocation.command.run s.stdin
    let (filter, warnings) := logFilter vars invocation.quiet invocation.debug
    let ending := attempt.ending
    { ending with
      stderr := String.join warnings ++ Log.write filter vars.privacy attempt.log ++ ending.stderr }

end MaskedInput.Cli
