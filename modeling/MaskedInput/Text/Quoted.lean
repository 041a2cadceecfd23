import MaskedInput.Text.Basic
import MaskedInput.Text.UnprintableTable

/-!
# Quoted text

A text between double quotes, or a character between single quotes, on one line and with every
character visible: the backslash and the enclosing quote are escaped, a few controls have letters,
and what cannot be seen on its own is shown by its number in hexadecimal.
-/
namespace MaskedInput.Text

/-- Lower-case hexadecimal digits of a number, without leading zeros. -/
def hex (n : Nat) : Text := Nat.toDigits 16 n

def isUnprintable (c : Char) : Bool := CodeRange.covers UnprintableTable.ranges c.toNat

/-- A character as it stands between quotes of the kind given. -/
def escapeIn (quote : Char) (c : Char) : Text :=
  if c = '\x00' then ['\\', '0']
  else if c = '\t' then ['\\', 't']
  else if c = '\n' then ['\\', 'n']
  else if c = '\r' then ['\\', 'r']
  else if c = '\\' ∨ c = quote then ['\\', c]
  else if isUnprintable c then ['\\', 'u', '{'] ++ hex c.toNat ++ ['}']
  else [c]

/-- The text between double quotes. -/
def quoted (t : Text) : Text := ['"'] ++ t.flatMap (escapeIn '"') ++ ['"']

/-- The character between single quotes. -/
def quotedChar (c : Char) : Text := ['\''] ++ escapeIn '\'' c ++ ['\'']

end MaskedInput.Text
