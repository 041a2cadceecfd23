import MaskedInput.Regex.Parser
import MaskedInput.Regex.Nesting
import MaskedInput.Regex.Meaning
import MaskedInput.Regex.Report
import MaskedInput.Regex.Size

/-!
# From a pattern to a regular expression

A pattern is refused if it has a flaw, or if its states would take too much room. Flaws of form are
found before all others, and nesting is looked at before meaning.
-/
namespace MaskedInput

namespace Regex

/-- The most bytes that the states of an expression may take. -/
def maxCompiledBytes : Nat := 10485760

inductive Refusal where
  | flawed (pattern : Text) (flaw : Flaw)
  | tooLarge
  deriving DecidableEq, Repr

def Refusal.message : Refusal → String
  | flawed pattern flaw => flaw.report pattern
  | tooLarge => s!"Compiled regex exceeds size limit of {maxCompiledBytes} bytes."

/-- What a pattern means. -/
def read (pattern : Text) : Except Flaw Regex := do
  let e ← Expression.ofPattern pattern
  e.checkNesting
  return (← e.meaning {}).1

/-- The regular expression that a pattern is. -/
def ofPattern (pattern : Text) : Except Refusal Regex :=
  match read pattern with
  | .error flaw => .error (.flawed pattern flaw)
  | .ok r => if maxCompiledBytes < r.compiledBytes then .error .tooLarge else .ok r

end Regex

end MaskedInput
