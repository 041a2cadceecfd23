import MaskedInput.Mask.Element
import MaskedInput.Mask.Error

/-!
# Stencils

A stencil is a mask ready for use: its placeholder is known and its slots are counted. Compiling a
mask to a stencil refuses a pattern that is too long or whose extraction pattern would grow too
large. A stencil knows the mask it was compiled from.
-/
namespace MaskedInput

/-- The most characters that a pattern may have. -/
def maxPatternLength : Nat := 500

/-- The most runs of slots that a pattern may have. A run stands for a class of well over a hundred
thousand characters, so that the compiled size of an extraction pattern is in effect the number of
its runs. -/
def maxSlotRuns : Nat := 22

structure Stencil where
  mask : Mask
  /-- The placeholder, explicit or inferred. -/
  placeholder : Char
  slotCount : Nat
  deriving DecidableEq, Repr

namespace Stencil

def pattern (st : Stencil) : Text := st.mask.pattern

def length (st : Stencil) : Nat := st.pattern.length

def elements (st : Stencil) : List Element := Element.ofPattern st.placeholder st.pattern

/-- The extraction pattern, written as a regular expression. -/
def expression (st : Stencil) : Text := Element.expression st.elements

/-- Whether the position holds a slot; no position beyond the pattern does. -/
def holdsSlot (st : Stencil) (index : Nat) : Bool := st.pattern[index]? == some st.placeholder

/-- Whether the position or a later one holds a slot. -/
def hasSlotAtOrAfter (st : Stencil) (index : Nat) : Bool :=
  (st.pattern.drop index).contains st.placeholder

end Stencil

/-- Compiles a mask. The length of the pattern is checked before anything else. -/
def Mask.compile (mask : Mask) : Except MaskError Stencil :=
  if maxPatternLength < mask.pattern.length then
    .error (.patternTooLong mask.pattern.length maxPatternLength)
  else
    let (placeholder, slotCount) := mask.slotting
    if maxSlotRuns < (Element.ofPattern placeholder mask.pattern).count .slots then
      .error (.patternTooComplex mask.pattern)
    else .ok { mask, placeholder, slotCount }

/-- The stencil of a specification. Without a pattern there is none; an empty one compiles. -/
def Spec.stencil (spec : Spec) : Except MaskError Stencil :=
  match spec.pattern with
  | none => .error .missingMask
  | some _ => spec.mask.compile

end MaskedInput
