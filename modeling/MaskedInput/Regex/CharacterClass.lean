import MaskedInput.Unicode.Property
import MaskedInput.Unicode.CaseFolding

/-!
# Classes of characters

The classes that patterns name by one letter behind a backslash, for ASCII alone or for all scripts,
and those that they name between colons, which lie in ASCII.
-/
namespace MaskedInput.Regex

open Unicode

inductive Shorthand where
  | digit
  | space
  | word
  deriving DecidableEq, Repr

/-- The characters of words in ASCII. -/
def asciiWord : CodeSet := .read "30-39 41-5A 5F 61-7A"

/-- The characters of words in all scripts. -/
def unicodeWord : CodeSet :=
  BinaryProperty.alphabetic ∪ GeneralCategory.mark ∪ GeneralCategory.decimalNumber ∪
    GeneralCategory.connectorPunctuation ∪ BinaryProperty.joinControl

def Shorthand.members (ofAllScripts : Bool) : Shorthand → CodeSet
  | digit => if ofAllScripts then GeneralCategory.decimalNumber else .read "30-39"
  | space => if ofAllScripts then BinaryProperty.whiteSpace else .read "9-D 20"
  | word => if ofAllScripts then unicodeWord else asciiWord

inductive AsciiClass where
  | alnum
  | alpha
  | ascii
  | blank
  | cntrl
  | digit
  | graph
  | lower
  | print
  | punct
  | space
  | upper
  | word
  | xdigit
  deriving DecidableEq, Repr

namespace AsciiClass

/-- The classes by their names. -/
def named : List (String × AsciiClass) := [
  ("alnum", alnum), ("alpha", alpha), ("ascii", ascii), ("blank", blank), ("cntrl", cntrl),
  ("digit", digit), ("graph", graph), ("lower", lower), ("print", print), ("punct", punct),
  ("space", space), ("upper", upper), ("word", word), ("xdigit", xdigit)]

def members : AsciiClass → CodeSet
  | alnum => .read "30-39 41-5A 61-7A"
  | alpha => .read "41-5A 61-7A"
  | ascii => .read "0-7F"
  | blank => .read "9 20"
  | cntrl => .read "0-1F 7F"
  | digit => .read "30-39"
  | graph => .read "21-7E"
  | lower => .read "61-7A"
  | print => .read "20-7E"
  | punct => .read "21-2F 3A-40 5B-60 7B-7E"
  | space => .read "9-D 20"
  | upper => .read "41-5A"
  | word => asciiWord
  | xdigit => .read "30-39 41-46 61-66"

end AsciiClass

end MaskedInput.Regex
