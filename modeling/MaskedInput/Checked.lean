import MaskedInput.Formatting
import MaskedInput.Text.Quoted

/-!
# Checked formatting

Unlike formatting on its own, which leaves text alone if its mask cannot be used, these functions
report a missing or unusable mask.
-/
namespace MaskedInput

/-- A mask that was asked for and cannot be used, with the reason. -/
structure InvalidMask where
  /-- The pattern asked for; empty if there was none. -/
  pattern : Text
  reason : MaskError
  deriving DecidableEq, Repr

/-- The reason, with the pattern that it is about in front. -/
def InvalidMask.message (e : InvalidMask) : String :=
  "Invalid mask " ++ (Text.quoted e.pattern).toString ++ ": " ++ e.reason.message

namespace Spec

/-- The stencil, or what is wrong with the mask. -/
def check (spec : Spec) : Except InvalidMask Stencil :=
  match spec.stencil with
  | .ok st => .ok st
  | .error reason => .error { pattern := spec.pattern.getD [], reason }

/-- The text written into the mask, if the mask can be used. -/
def formatChecked (spec : Spec) (t : Text) : Except InvalidMask Text :=
  spec.check.map fun _ => spec.format t

/-- The clean value read in the given mode, if the mask can be used. -/
def clearChecked (spec : Spec) (mode : ClearMode) (t : Text) : Except InvalidMask Text :=
  spec.check.map fun _ => spec.clearBy mode t

end Spec

end MaskedInput
