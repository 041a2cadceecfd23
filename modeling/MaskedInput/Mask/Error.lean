import MaskedInput.Text.Basic

/-!
# Mask errors

The reasons for which a mask or a preset cannot be used. Formatting and clearing never report them:
they leave the text as it is. The surfaces that check a mask beforehand do.
-/
namespace MaskedInput

inductive MaskError where
  /-- The extraction pattern of the mask needs more room than a compiled pattern may take. -/
  | patternTooComplex (pattern : Text)
  | patternTooLong (length limit : Nat)
  | missingMask
  | unknownPreset (name : Text)
  deriving DecidableEq, Repr

/-- The most bytes that a compiled extraction pattern may take. -/
def maxCompiledBytes : Nat := 1048576

def MaskError.message : MaskError → String
  | .patternTooComplex pattern =>
    "Failed to compile extraction pattern for mask '" ++ pattern.toString ++
      s!"': Compiled regex exceeds size limit of {maxCompiledBytes} bytes."
  | .patternTooLong length limit => s!"Mask length ({length}) exceeds maximum allowed ({limit})"
  | .missingMask => "No mask has been configured"
  | .unknownPreset name => "Unknown mask preset '" ++ name.toString ++ "'"

end MaskedInput
