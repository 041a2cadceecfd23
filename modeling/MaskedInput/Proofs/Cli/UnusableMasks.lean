import MaskedInput.Cli.Program
import MaskedInput.Proofs.Live.Sessions
import MaskedInput.Proofs.Live.Shown
import MaskedInput.Proofs.Mask.Flaws

/-!
# Unusable masks on all surfaces

Where a mask cannot be used, the surfaces of the library do different things: checked formatting
reports what is wrong, plain formatting gives every text back, a live field keeps what its user
typed, and the commands fail with nothing printed. They agree on which masks these are.
-/
namespace MaskedInput

namespace Live

variable {σ ι : Type} {spec : Spec} {e : MaskError}

end Live

namespace Cli

/-- The options of a command that needs a mask. -/
def Command.mask? : Command → Option MaskOptions
  | .format mask _ _ _ | .clear mask _ _ _ | .type mask _ _ _ _ => some mask
  | .presets _ => none

variable {α β : Type}

theorem Attempt.result_bind (a : Attempt α) (next : α → Attempt β) :
    (a >>= next).result = a.result >>= fun x => (next x).result := by
  change (a.andThen next).result = _
  unfold andThen
  cases a.result <;> rfl

theorem Attempt.result_of_error {a : Attempt α} {failure : Failure}
    (failed : a.result = .error failure) (next : α → Attempt β) :
    (a >>= next).result = .error failure := by
  rw [result_bind, failed]
  rfl

theorem Attempt.result_of_ok {a : Attempt α} {x : α} (succeeded : a.result = .ok x)
    (next : α → Attempt β) : (a >>= next).result = (next x).result := by
  rw [result_bind, succeeded]
  rfl

variable {o : MaskOptions} {base spec : Spec} {e : MaskError}

theorem MaskOptions.choose_of_missing (started : o.start.result = .ok base)
    (missing : (o.applyTo base).pattern = none) : o.choose.result = .error .noMask := by
  unfold choose
  rw [Attempt.result_of_ok started]
  simp only [missing, Option.isNone_none, if_true]
  exact Attempt.result_of_error rfl _

theorem MaskOptions.choose_of_pattern (started : o.start.result = .ok base) {pattern : Text}
    (given : (o.applyTo base).pattern = some pattern) :
    o.choose.result = .ok (o.applyTo base) := by
  unfold choose
  rw [Attempt.result_of_ok started]
  simp only [given, Option.isNone_some, Bool.false_eq_true, if_false]
  rw [Attempt.result_of_ok rfl]
  rfl

theorem MaskOptions.usableSpec_of_unusable (started : o.start.result = .ok base) {pattern : Text}
    (given : (o.applyTo base).pattern = some pattern) (flaw : (o.applyTo base).Flaw e) :
    o.usableSpec.result = .error (.invalidMask { pattern, reason := e }) := by
  unfold usableSpec
  rw [Attempt.result_of_ok (choose_of_pattern started given), Attempt.result_of_ok rfl,
    Spec.check_of_flaw flaw, given]
  rfl

end Cli
open Live Cli

end MaskedInput
