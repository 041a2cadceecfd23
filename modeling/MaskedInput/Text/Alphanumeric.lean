import MaskedInput.Text.Basic
import MaskedInput.Text.AlphanumericTable

/-!
# Letters and digits

The characters that may fill a slot of a mask: letters of every script and decimal digits. Below
U+0080 these are the ASCII letters and digits.
-/
namespace MaskedInput.Text

/-- Whether the character is a letter or a decimal digit. -/
def isAlphanumeric (c : Char) : Bool :=
  if c.toNat < 128 then c.isAlphanum else CodeRange.covers AlphanumericTable.ranges c.toNat

/-- The letters and digits of the text, in order. -/
def alphanumerics (t : Text) : Text := t.filter isAlphanumeric

@[simp] theorem alphanumerics_append (s t : Text) :
    alphanumerics (s ++ t) = alphanumerics s ++ alphanumerics t :=
  List.filter_append s t

end MaskedInput.Text
