import MaskedInput.Mask.Spec

/-!
# Placeholders

The placeholder of a mask is the character that marks its slots. Where none is set it is the most
frequent character of the pattern, and of several equally frequent ones the one seen first.
-/
namespace MaskedInput

/-- The placeholder of a pattern that has no character to infer one from. -/
def defaultPlaceholder : Char := '#'

namespace Placeholder

/-- Counts one more occurrence of a character; a character not seen before comes last. -/
def bump (c : Char) : List (Char × Nat) → List (Char × Nat)
  | [] => [(c, 1)]
  | (seen, n) :: rest => if seen = c then (seen, n + 1) :: rest else (seen, n) :: bump c rest

/-- The characters of the pattern in the order of their first occurrence, with their counts. -/
def tally (pattern : Text) : List (Char × Nat) :=
  pattern.foldl (fun counts c => bump c counts) []

/-- The first entry of the highest count, or the start value if no entry counts more. -/
def mostFrequent (start : Char × Nat) (counts : List (Char × Nat)) : Char × Nat :=
  counts.foldl (fun best entry => if best.2 < entry.2 then entry else best) start

/-- The placeholder inferred from the pattern, and how often it occurs. -/
def infer (pattern : Text) : Char × Nat :=
  mostFrequent (defaultPlaceholder, 0) (tally pattern)

end Placeholder

/-- The placeholder of the mask, explicit or inferred, and the number of its slots. -/
def Mask.slotting (mask : Mask) : Char × Nat :=
  match mask.placeholder with
  | some c => (c, mask.pattern.count c)
  | none => Placeholder.infer mask.pattern

end MaskedInput
