import MaskedInput.Text.Basic

/-!
# Lines

Text as it comes from a stream of bytes: UTF-8, in lines. A line ends at a line feed; one carriage
return in front of it belongs to the end. What follows the last line feed is a line if it is not
empty, and keeps its carriage returns.
-/
namespace MaskedInput.Text

/-- The text of a stream of bytes, unless they are not UTF-8. -/
def decode? (bytes : ByteArray) : Option Text := (String.fromUTF8? bytes).map String.toList

/-- The text without one carriage return at its end. -/
def dropReturn (t : Text) : Text := if t.getLast? = some '\r' then t.dropLast else t

/-- The lines of a text. -/
def lines (t : Text) : List Text :=
  let parts := splitAtChar '\n' t
  parts.dropLast.map dropReturn ++
    match parts.getLast? with
    | none | some [] => []
    | some (c :: rest) => [c :: rest]

end MaskedInput.Text
