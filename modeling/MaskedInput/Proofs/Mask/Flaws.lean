import MaskedInput.Checked

/-!
# Masks that cannot be used

A mask is missing, too long, or too complex, and then compiling it says so. Whoever checks a mask
beforehand is told the reason and the pattern; whoever does not gets every text back as it was.
-/
namespace MaskedInput

/-- The runs of slots in the mask; its extraction pattern has a capturing group for each. -/
def Mask.slotRuns (mask : Mask) : Nat :=
  (Element.ofPattern mask.slotting.1 mask.pattern).count .slots

namespace Spec

/-- What can be wrong with the mask of a specification. A pattern that is too long is nothing else,
however many runs of slots it has. -/
inductive Flaw (spec : Spec) : MaskError → Prop where
  | missing (absent : spec.pattern = none) : Flaw spec .missingMask
  | tooLong (pattern : Text) (given : spec.pattern = some pattern)
      (long : maxPatternLength < pattern.length) :
      Flaw spec (.patternTooLong pattern.length maxPatternLength)
  | tooComplex (pattern : Text) (given : spec.pattern = some pattern)
      (short : pattern.length ≤ maxPatternLength) (complex : maxSlotRuns < spec.mask.slotRuns) :
      Flaw spec (.patternTooComplex pattern)

variable {spec : Spec} {e : MaskError}

theorem stencil_of_tooLong {pattern : Text} (given : spec.pattern = some pattern)
    (long : maxPatternLength < pattern.length) :
    spec.stencil = .error (.patternTooLong pattern.length maxPatternLength) := by
  have mask : spec.mask.pattern = pattern := by rw [Spec.mask, given, Option.getD_some]
  simp only [stencil, given, Mask.compile, mask, if_pos long]

theorem stencil_of_short {pattern : Text} (given : spec.pattern = some pattern)
    (short : pattern.length ≤ maxPatternLength) :
    spec.stencil =
      if maxSlotRuns < spec.mask.slotRuns then .error (.patternTooComplex pattern)
      else .ok
        { mask := spec.mask, placeholder := spec.mask.slotting.1, slotCount := spec.mask.slotting.2 } := by
  have mask : spec.mask.pattern = pattern := by rw [Spec.mask, given, Option.getD_some]
  simp only [stencil, given, Mask.compile, Mask.slotRuns, mask, if_neg (Nat.not_lt.mpr short)]

/-- Compiling fails with a flaw of the mask, and with nothing else. -/
theorem stencil_eq_error_iff : spec.stencil = .error e ↔ spec.Flaw e := by
  constructor
  · intro failed
    cases given : spec.pattern with
    | none =>
      rw [stencil, given] at failed
      cases failed
      exact .missing given
    | some pattern =>
      rcases Nat.lt_or_ge maxPatternLength pattern.length with long | short
      · rw [stencil_of_tooLong given long] at failed
        cases failed
        exact .tooLong pattern given long
      · rw [stencil_of_short given short] at failed
        split at failed
        · next complex =>
          cases failed
          exact .tooComplex pattern given short complex
        · cases failed
  · rintro (absent | ⟨pattern, given, long⟩ | ⟨pattern, given, short, complex⟩)
    · rw [stencil, absent]
    · exact stencil_of_tooLong given long
    · rw [stencil_of_short given short, if_pos complex]

theorem exists_stencil (flawless : ∀ e, ¬spec.Flaw e) : ∃ st, spec.stencil = .ok st := by
  cases compiled : spec.stencil with
  | ok st => exact ⟨st, rfl⟩
  | error e => exact absurd (stencil_eq_error_iff.mp compiled) (flawless e)

theorem check_of_flaw (flaw : spec.Flaw e) :
    spec.check = .error { pattern := spec.pattern.getD [], reason := e } := by
  rw [check, stencil_eq_error_iff.mpr flaw]

end Spec
end MaskedInput
