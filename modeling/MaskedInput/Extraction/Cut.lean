import MaskedInput.Mask.Element
import MaskedInput.Text.Alphanumeric

/-!
# Cutting a text along a mask

A text has the shape of a mask if it can be cut into consecutive pieces, one for each element in
order. There may be many such cuts: neighbouring literals may be equal, and a letter may belong to a
literal or to the run of slots beside it. The one that counts is the preferred one: each element,
from left to right, takes as much as it can, and gives characters back only if the rest of the mask
could not be matched otherwise. `search` finds it by trying all lengths of a piece from the longest
down; `scan` takes the longest piece everywhere and never goes back.
-/
namespace MaskedInput

/-- The characters of which the element takes any number. -/
def Element.accepts : Element → Char → Bool
  | .literal c, x => x == c
  | .slots, x => Text.isAlphanumeric x

/-- A cut of a text: the elements of a mask, each with its piece. -/
abbrev Cut := List (Element × Text)

namespace Cut

def elements (cut : Cut) : List Element := cut.map Prod.fst

/-- The text that was cut. -/
def text (cut : Cut) : Text := cut.flatMap Prod.snd

/-- The pieces of the runs of slots, joined. -/
def slotText : Cut → Text
  | [] => []
  | (.slots, piece) :: rest => piece ++ slotText rest
  | (.literal _, _) :: rest => slotText rest

/-- Whether each piece consists of characters that its element takes. -/
def Fits (cut : Cut) : Prop := ∀ p ∈ cut, ∀ c ∈ p.2, p.1.accepts c = true

/-- Whether the cut is one of the text along the elements. -/
def IsCutOf (cut : Cut) (elements : List Element) (t : Text) : Prop :=
  cut.elements = elements ∧ cut.text = t ∧ cut.Fits

/-- Tries `take` characters for the first element, then one less, down to none, and keeps the first
length for which the rest of the text can be cut as well. -/
def longestFirst (e : Element) (t : Text) (rest : Text → Option Cut) : Nat → Option Cut
  | 0 => (rest t).map ((e, []) :: ·)
  | take + 1 =>
    match rest (t.drop (take + 1)) with
    | some cut => some ((e, t.take (take + 1)) :: cut)
    | none => longestFirst e t rest take

/-- The preferred cut, found by going back over shorter and shorter pieces. -/
def search : List Element → Text → Option Cut
  | [], [] => some []
  | [], _ :: _ => none
  | e :: es, t => longestFirst e t (search es) (t.takeWhile e.accepts).length

/-- The cut in which each element takes the longest piece it can, if that uses up the text. -/
def scan : List Element → Text → Option Cut
  | [], [] => some []
  | [], _ :: _ => none
  | e :: es, t => (scan es (t.dropWhile e.accepts)).map ((e, t.takeWhile e.accepts) :: ·)

end Cut

end MaskedInput
