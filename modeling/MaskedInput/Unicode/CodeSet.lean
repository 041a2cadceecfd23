import MaskedInput.Text.Basic
import MaskedInput.Text.CodeRange

/-!
# Sets of code points

A set of code points is a list of closed ranges in increasing order that leave a gap between each
two. Everything but the union is said through the complement. Surrogates are no characters: a
complement leaves them out.

A set is written down as its ranges in hexadecimal with blanks between them: `41` is one code point,
`41-5A` is a range, and `100-104/2` is every second code point of a range, here three of them.
-/
namespace MaskedInput.Unicode

structure CodeSet where
  ranges : List (Nat × Nat)
  deriving DecidableEq, Repr, Inhabited

namespace CodeSet

/-- The last code point. -/
def lastCode : Nat := 0x10FFFF

def empty : CodeSet := ⟨[]⟩

def single (n : Nat) : CodeSet := ⟨[(n, n)]⟩

def range (first last : Nat) : CodeSet := ⟨[(first, last)]⟩

def surrogates : CodeSet := range 0xD800 0xDFFF

def contains (s : CodeSet) (n : Nat) : Bool := Text.CodeRange.covers s.ranges n

def holds (s : CodeSet) (c : Char) : Bool := s.contains c.toNat

/-- The ranges with a range in front, which takes in those that it meets. -/
def absorb (first last : Nat) : List (Nat × Nat) → List (Nat × Nat)
  | [] => [(first, last)]
  | (a, b) :: rest =>
    if a ≤ last + 1 then absorb first (max last b) rest else (first, last) :: absorb a b rest

/-- The set that is made up of ranges in the order of where they start. -/
def ofSorted : List (Nat × Nat) → CodeSet
  | [] => empty
  | (a, b) :: rest => ⟨absorb a b rest⟩

/-- Whether a range starts no later than another. -/
def startsBy (r s : Nat × Nat) : Bool := r.1 ≤ s.1

/-- The set that is made up of any ranges. -/
def ofRanges (ranges : List (Nat × Nat)) : CodeSet := ofSorted (ranges.mergeSort startsBy)

def union (s t : CodeSet) : CodeSet := ofSorted (s.ranges.merge t.ranges startsBy)

/-- The gaps between the ranges, from a code point on. -/
def gapsFrom (next : Nat) : List (Nat × Nat) → List (Nat × Nat)
  | [] => if next ≤ lastCode then [(next, lastCode)] else []
  | (a, b) :: rest => (if next < a then [(next, a - 1)] else []) ++ gapsFrom (b + 1) rest

/-- The characters that are not in the set. -/
def compl (s : CodeSet) : CodeSet := ⟨gapsFrom 0 (s.union surrogates).ranges⟩

def inter (s t : CodeSet) : CodeSet := (s.compl.union t.compl).compl

/-- What is in the first set and not in the second. -/
def diff (s t : CodeSet) : CodeSet := (s.compl.union t).compl

instance : Union CodeSet := ⟨union⟩
instance : Inter CodeSet := ⟨inter⟩
instance : SDiff CodeSet := ⟨diff⟩

/-- What is in one of the two sets and not in both. -/
def symmDiff (s t : CodeSet) : CodeSet := (s ∪ t) \ (s ∩ t)

/-- All characters. -/
def all : CodeSet := empty.compl

/-! ### Written sets -/

/-- The value of a hexadecimal digit, unless the character is none. -/
def hexDigit? (c : Char) : Option Nat :=
  if c.isDigit then some (c.toNat - 0x30)
  else if 'A' ≤ c ∧ c ≤ 'F' then some (c.toNat - 0x37)
  else if 'a' ≤ c ∧ c ≤ 'f' then some (c.toNat - 0x57)
  else none

/-- The number that hexadecimal digits stand for. -/
def hexValue (digits : Text) : Nat := digits.foldl (fun n c => 16 * n + (hexDigit? c).getD 0) 0

/-- Every code point of a range that a whole number of steps leads to, each as a range. -/
def stepped (first last step : Nat) : List (Nat × Nat) :=
  (List.range ((last - first) / step + 1)).map fun k => (first + k * step, first + k * step)

/-- One range of a written set. -/
def readRange (t : Text) : List (Nat × Nat) :=
  match Text.splitAtChar '-' t with
  | [first, last] =>
    match Text.splitAtChar '/' last with
    | [last, step] => stepped (hexValue first) (hexValue last) (hexValue step)
    | _ => [(hexValue first, hexValue last)]
  | _ => [(hexValue t, hexValue t)]

/-- A written set. -/
def read (written : String) : CodeSet :=
  ⟨(Text.splitAtChar ' ' written.toList).flatMap readRange⟩

end CodeSet

end MaskedInput.Unicode
