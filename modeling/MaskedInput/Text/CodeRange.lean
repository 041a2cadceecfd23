/-!
# Tables of code points

A table is a list of closed ranges of code points in increasing order. Looking a code point up stops
at the first range that starts beyond it.
-/
namespace MaskedInput.Text.CodeRange

/-- Whether the code point lies in a range of the table. -/
def covers : List (Nat × Nat) → Nat → Bool
  | [], _ => false
  | (first, last) :: rest, n =>
    if n < first then false else if n ≤ last then true else covers rest n

end MaskedInput.Text.CodeRange
