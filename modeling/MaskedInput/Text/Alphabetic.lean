import MaskedInput.Text.AlphabeticTable
import MaskedInput.Text.NumeralTable

/-!
# Alphabetic characters and numerals

The characters of which names may consist. There are more of them than letters and digits: marks
that stand for vowels, letter-like symbols, fractions and circled digits are among them.
-/
namespace MaskedInput.Text

/-- Whether the character has the property Alphabetic. -/
def isAlphabetic (c : Char) : Bool := CodeRange.covers AlphabeticTable.ranges c.toNat

/-- Whether the character is a numeral of any kind. -/
def isNumeral (c : Char) : Bool := CodeRange.covers NumeralTable.ranges c.toNat

def isAlphabeticOrNumeral (c : Char) : Bool := isAlphabetic c || isNumeral c

end MaskedInput.Text
