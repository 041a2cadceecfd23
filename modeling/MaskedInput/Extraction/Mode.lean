import MaskedInput.Extraction.Cut
import MaskedInput.Mask.Stencil

/-!
# Extraction of the clean value

There are two ways to read a value out of text in the shape of a mask. By pattern, the pieces of the
runs of slots are joined; this also suits half-typed text. By position, the characters that stand
where the mask has slots are kept; this is right only for text that is aligned with the mask. Both
refuse text that does not have the shape of the mask.
-/
namespace MaskedInput

/-- How a clean value is read. -/
inductive ClearMode where
  | pattern | positional
  deriving DecidableEq, Repr

def ClearMode.name : ClearMode → String
  | .pattern => "pattern"
  | .positional => "positional"

namespace Stencil

/-- The cut of the text along the mask that the extraction pattern prefers. -/
def cut? (st : Stencil) (t : Text) : Option Cut := Cut.scan st.elements t

/-- Whether the text has the shape of the mask. -/
def fits (st : Stencil) (t : Text) : Bool := (st.cut? t).isSome

/-- The characters of a text that stand where the mask has slots. -/
def onSlots (st : Stencil) (t : Text) : Text :=
  ((t.zip st.pattern).filter fun p => p.2 == st.placeholder).map Prod.fst

/-- The clean value of a text, or none if the text does not have the shape of the mask. -/
def extract (st : Stencil) : ClearMode → Text → Option Text
  | .pattern, t => (st.cut? t).map Cut.slotText
  | .positional, t => if st.fits t then some (st.onSlots t) else none

end Stencil

end MaskedInput
