/-!
# Text

A text is a list of characters (Unicode scalar values). Every position, length and caret of the
library counts characters of such a list; the size in UTF-8 bytes is needed only where a rule of the
library says so.
-/
namespace MaskedInput

/-- A text, character by character. -/
abbrev Text := List Char

namespace Text

/-- The number of bytes of the text in UTF-8. -/
def utf8Size (t : Text) : Nat := t.foldr (fun c size => c.utf8Size + size) 0

/-- The text as a string. -/
def toString (t : Text) : String := String.ofList t

/-- What follows the beginning `p` in a text, if it begins so. -/
def afterPrefix? : Text → Text → Option Text
  | [], t => some t
  | _ :: _, [] => none
  | p :: ps, c :: t => if p = c then afterPrefix? ps t else none

/-- The text without the longest run at its end whose characters all satisfy the test. -/
def dropEndWhile (p : Char → Bool) (t : Text) : Text := (t.reverse.dropWhile p).reverse

/-- Puts a character in front of the first part; a separator begins a new part instead. -/
def splitStep (sep c : Char) : List Text → List Text
  | [] => if c = sep then [[], []] else [[c]]
  | part :: parts => if c = sep then [] :: part :: parts else (c :: part) :: parts

/-- The parts between the separators, with empty parts kept; a text without separator is one
part. -/
def splitAtChar (sep : Char) (t : Text) : List Text := t.foldr (splitStep sep) [[]]

/-- The texts one after another, with the separator between each two. -/
def join (sep : Text) : List Text → Text
  | [] => []
  | [t] => t
  | t :: ts => t ++ sep ++ join sep ts

end Text

end MaskedInput
