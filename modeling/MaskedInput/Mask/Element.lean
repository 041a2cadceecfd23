import MaskedInput.Mask.Placeholder

/-!
# Elements of a mask

For extraction a mask is a sequence of elements: each literal character is one, and each maximal run
of slots is one, however long it is. In text that has the shape of the mask a literal stands any
number of times, so that half-typed input fits too, and a run of slots is any number of letters and
digits. The extraction pattern writes this sequence down as a regular expression over the whole
text, with one capturing group for each run of slots.
-/
namespace MaskedInput

inductive Element where
  | literal (c : Char)
  /-- A maximal run of slots. -/
  | slots
  deriving DecidableEq, Repr

namespace Element

/-- The elements of a pattern whose slots are marked by the placeholder. -/
def ofPattern (placeholder : Char) : Text → List Element
  | [] => []
  | c :: rest =>
    if c = placeholder then
      match ofPattern placeholder rest with
      | .slots :: more => .slots :: more
      | more => .slots :: more
    else .literal c :: ofPattern placeholder rest

/-- The characters that have a meaning of their own in a regular expression. -/
def metaCharacters : List Char :=
  ['\\', '.', '+', '*', '?', '(', ')', '|', '[', ']', '{', '}', '^', '$', '#', '&', '-', '~']

/-- A character with a backslash in front if it has a meaning of its own. -/
def escaped (c : Char) : Text := if metaCharacters.contains c then ['\\', c] else [c]

/-- The capturing group for a run of slots. -/
def slotGroup : Text := "([\\p\x7bL\x7d\\p\x7bNd\x7d]*)".toList

/-- The regular expression of one element. -/
def regex : Element → Text
  | .literal c => ['['] ++ escaped c ++ [']', '*']
  | .slots => slotGroup

/-- The regular expression of a whole mask, anchored at both ends of the text. -/
def expression (elements : List Element) : Text :=
  ['^'] ++ elements.flatMap regex ++ ['$']

end Element

end MaskedInput
