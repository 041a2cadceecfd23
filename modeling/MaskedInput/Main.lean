import MaskedInput.Cli.Program

/-!
# The executable

Gathers arguments, variables, the environment file and the standard input, runs the program, and
writes what it leaves behind.
-/
namespace MaskedInput.Main

open MaskedInput.Cli

/-- The variables that the program looks at. -/
def variableNames : List String :=
  ["MASKFMT_MASK", "MASKFMT_PREFIX", "MASKFMT_ALLOW_DEBUG_PII", "RUST_LOG"]

def readVariables : IO Variables := do
  variableNames.foldlM (fun vars name => do
    match ← IO.getEnv name with
    | some value => return vars ++ [(name.toList, value.toList)]
    | none => return vars) []

/-- The environment file of the working directory. -/
def readDotEnv : IO (Option Text) := do
  try return Text.decode? (← IO.FS.readBinFile ".env")
  catch _ => return none

/-- Whether a run of the program looks at the standard input. -/
def needsInput (args : List Text) (s : Surroundings) : Bool :=
  match readArguments s.allVariables.defaults args with
  | .ok { command := .format _ [] _ _, .. } | .ok { command := .clear _ [] _ _, .. } => true
  | _ => false

end MaskedInput.Main

open MaskedInput MaskedInput.Cli in
def main (args : List String) : IO UInt32 := do
  let args := args.map String.toList
  let around : Surroundings :=
    { environment := (← Main.readVariables), dotEnv := (← Main.readDotEnv) }
  let stdin ← if Main.needsInput args around then (← IO.getStdin).readBinToEnd else pure .empty
  let ending := runProgram args { around with stdin }
  (← IO.getStdout).putStr ending.stdout
  (← IO.getStderr).putStr ending.stderr
  return ending.exit.toUInt32
