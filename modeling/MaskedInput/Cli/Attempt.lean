import MaskedInput.Checked

/-!
# Attempts

An attempt is what a command comes to: a result or the cause of its failure, and the log entries
made on the way. After a failure nothing more happens.
-/
namespace MaskedInput.Cli

/-- Why a command failed. -/
inductive Failure where
  | preset (e : MaskError)
  | noMask
  | invalidMask (e : InvalidMask)
  | undecodableInput
  deriving DecidableEq, Repr

def Failure.message : Failure → String
  | .preset e => "Failed to load preset: " ++ e.message
  | .noMask => "Use --mask or --preset to choose a mask: " ++ MaskError.missingMask.message
  | .invalidMask e => e.message
  | .undecodableInput => "Failed to read input lines: stream did not contain valid UTF-8"

structure Attempt (α : Type) where
  log : List Log.Entry := []
  result : Except Failure α

namespace Attempt

variable {α β : Type}

def fail (e : Failure) : Attempt α := { result := .error e }

def note (entries : List Log.Entry) : Attempt Unit := { log := entries, result := .ok () }

/-- Goes on with a result, if there is one. -/
def andThen (a : Attempt α) (next : α → Attempt β) : Attempt β :=
  match a.result with
  | .error e => { log := a.log, result := .error e }
  | .ok x => { log := a.log ++ (next x).log, result := (next x).result }

instance : Monad Attempt where
  pure x := { result := .ok x }
  bind := andThen

end Attempt

end MaskedInput.Cli
