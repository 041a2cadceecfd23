import MaskedInput.Text.Basic

/-!
# Masks and specifications

A mask is a pattern with slots and, perhaps, the character that marks them. A specification adds how
the mask is to be used: a prefix in front of every formatted result, texts to drop in front of raw
input, and whether input with more characters than slots is cut (strict) or left alone. Both are
plain data.
-/
namespace MaskedInput

structure Mask where
  pattern : Text
  /-- The character that marks the slots; without it, it is inferred from the pattern. -/
  placeholder : Option Char
  deriving DecidableEq, Repr

structure Spec where
  pattern : Option Text := none
  placeholder : Option Char := none
  /-- The prefix: a literal text in front of every formatted result. -/
  lead : Option Text := none
  /-- Whether the prefix stays in a live field that is otherwise empty. -/
  leadFixed : Bool := true
  /-- Texts dropped in front of raw input; only the first that matches, in this order. -/
  ignorable : List Text := []
  strict : Bool := true
  deriving DecidableEq, Repr

namespace Spec

/-- The specification with this pattern and all else by default. -/
def ofPattern (pattern : Text) : Spec := { pattern := some pattern }

/-- Whether there is no pattern, or an empty one. -/
def hasNoMask (spec : Spec) : Bool :=
  match spec.pattern with
  | none | some [] => true
  | some (_ :: _) => false

/-- The prefix, if it is set, not empty, and to stay in a live field. -/
def fixedLead? (spec : Spec) : Option Text :=
  match spec.lead with
  | some (c :: rest) => if spec.leadFixed then some (c :: rest) else none
  | _ => none

/-- The mask of the specification; a missing pattern counts as an empty one. -/
def mask (spec : Spec) : Mask :=
  { pattern := spec.pattern.getD [], placeholder := spec.placeholder }

end Spec

end MaskedInput
