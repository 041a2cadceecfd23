import MaskedInput.Regex.Basic

/-!
# The size of a compiled expression

An expression is compiled to two networks of states that read UTF-8, one forwards and one backwards.
Their sizes in bytes are counted without building them. A state takes the same room whatever it is,
and a state with several ways out takes room for each. Repetitions copy the states of what they
repeat.

A set of characters that is not in ASCII alone is compiled from the sequences of byte ranges that
encode it. Forwards, states with the same continuations are one; backwards, sequences share what
they have in common at their beginning.
-/
namespace MaskedInput.Regex

open Unicode (CodeSet)

/-- The room that a state takes. -/
def stateBytes : Nat := 32

/-- The room that a way out of a state takes if it is bound to bytes. -/
def transitionBytes : Nat := 8

/-- The room that a way out of a state takes if it is free. -/
def branchBytes : Nat := 4

/-! ### Sequences of byte ranges -/

abbrev ByteRange := Nat × Nat

/-- The numbers from one to another as sequences of ranges of digits to the base 64, of which so
many follow the first. In a sequence all digits behind one that varies run through all values. -/
def digitSequences : Nat → Nat → Nat → List (List ByteRange)
  | 0, lo, hi => [[(lo, hi)]]
  | n + 1, lo, hi =>
    let block := 64 ^ (n + 1)
    let a := lo / block
    let b := hi / block
    if a = b then (digitSequences n (lo % block) (hi % block)).map ((a, a) :: ·)
    else
      let a' := if lo % block = 0 then a else a + 1
      let b' := if hi % block = block - 1 then b + 1 else b
      let lower :=
        if lo % block = 0 then []
        else (digitSequences n (lo % block) (block - 1)).map ((a, a) :: ·)
      let middle := if a' < b' then [(a', b' - 1) :: List.replicate (n + 1) (0, 63)] else []
      let upper :=
        if hi % block = block - 1 then []
        else (digitSequences n 0 (hi % block)).map ((b, b) :: ·)
      lower ++ middle ++ upper

/-- The code points that so many bytes behind the first one encode, without the surrogates, and what
is added to the first digit. -/
def encodings : List (Nat × Nat × Nat × Nat) := [
  (0, 0x0, 0x7F, 0), (1, 0x80, 0x7FF, 0xC0), (2, 0x800, 0xD7FF, 0xE0), (2, 0xE000, 0xFFFF, 0xE0),
  (3, 0x10000, 0x10FFFF, 0xF0)]

/-- A sequence of digits as bytes. -/
def toBytes (lead : Nat) : List ByteRange → List ByteRange
  | [] => []
  | (a, b) :: rest => (a + lead, b + lead) :: rest.map fun (c, d) => (c + 0x80, d + 0x80)

/-- The sequences of byte ranges that encode the code points of a range. -/
def sequencesOfRange (first last : Nat) : List (List ByteRange) :=
  encodings.flatMap fun (n, lo, hi, lead) =>
    if max first lo ≤ min last hi then
      (digitSequences n (max first lo) (min last hi)).map (toBytes lead)
    else []

def sequences (s : CodeSet) : List (List ByteRange) :=
  s.ranges.flatMap fun (a, b) => sequencesOfRange a b

/-! ### Sets -/

/-- Sequences by their first range; equal ones stand side by side. -/
def byHead : List (List ByteRange) → List (ByteRange × List (List ByteRange))
  | [] => []
  | [] :: rest => byHead rest
  | (r :: tail) :: rest =>
    match byHead rest with
    | (r', tails) :: more =>
      if r = r' then (r, tail :: tails) :: more else (r, [tail]) :: (r', tails) :: more
    | [] => [(r, [tail])]

/-- The sets of sequences that are left over after any beginning; the first argument bounds the
length of the sequences. -/
def continuations : Nat → List (List ByteRange) → List (List (List ByteRange))
  | 0, _ => []
  | n + 1, sequences =>
    match byHead sequences with
    | [] => []
    | heads => sequences :: heads.flatMap fun (_, tails) => continuations n tails

/-- The longest sequence of bytes that encodes a character. -/
def maxEncodedLength : Nat := 4

/-- The room for the states of a set that is read forwards. -/
def forwardBytes (sequences : List (List ByteRange)) : Nat :=
  let states := (continuations maxEncodedLength sequences).eraseDups
  states.foldr (fun s bytes => stateBytes + transitionBytes * (byHead s).length + bytes) stateBytes

/-- How many ranges at the beginning two sequences have in common. -/
def commonLength : List ByteRange → List ByteRange → Nat
  | r :: rs, s :: ss => if r = s then commonLength rs ss + 1 else 0
  | _, _ => 0

/-- The number of different beginnings of sequences that come behind a given one. -/
def beginnings (previous : List ByteRange) : List (List ByteRange) → Nat
  | [] => 0
  | s :: rest => (s.length - commonLength previous s) + beginnings s rest

/-- The room for the states of a set that is read backwards. -/
def backwardBytes (sequences : List (List ByteRange)) : Nat :=
  stateBytes * (beginnings [] sequences + 2) + branchBytes * sequences.length

inductive Direction where
  | forward
  | backward
  deriving DecidableEq, Repr

/-- The room for the states of one character of a set. -/
def setBytes (d : Direction) (s : CodeSet) : Nat :=
  match s.ranges with
  | [(a, b)] =>
    if a = b then stateBytes * (Char.ofNat a).utf8Size else bytesOf s
  | _ => bytesOf s
where
  bytesOf (s : CodeSet) : Nat :=
    if s.ranges.all fun r => r.2 < 0x80 then
      2 * stateBytes + transitionBytes * s.ranges.length
    else
      match d with
      | .forward => forwardBytes (sequences s)
      | .backward => backwardBytes (sequences s)

/-! ### Expressions -/

/-- The room for a state with two free ways out. -/
def forkBytes : Nat := stateBytes + 2 * branchBytes

/-- The room for a repetition, given the room for what is repeated. -/
def repeatedBytes (least : Nat) (most : Option Nat) (mayBeEmpty : Bool) (bytes : Nat) : Nat :=
  match least, most with
  | 0, none => if mayBeEmpty then bytes + 2 * forkBytes + stateBytes else bytes + forkBytes
  | least, none => least * bytes + forkBytes
  | 0, some 1 => bytes + forkBytes + stateBytes
  | least, some most =>
    let required := if least = 0 then stateBytes else least * bytes
    if most ≤ least then required
    else required + stateBytes + (most - least) * (bytes + forkBytes)

/-- The room for the states of an expression: alone, and as one of several alternatives. -/
def bytes (d : Direction) : Regex → Nat × Nat
  | empty | look _ => (stateBytes, stateBytes + branchBytes)
  | oneOf s => let n := setBytes d s; (n, n + branchBytes)
  | seq r s => let n := (bytes d r).1 + (bytes d s).1; (n, n + branchBytes)
  | either r s =>
    let n := (bytes d r).2 + (bytes d s).2
    (2 * stateBytes + n, n)
  | repeated least most r =>
    let n := repeatedBytes least most r.mayBeEmpty (bytes d r).1
    (n, n + branchBytes)
  | capture r =>
    let n := (bytes d r).1 + (match d with | .forward => 2 * stateBytes | .backward => 0)
    (n, n + branchBytes)

/-- The room for the states in front of an expression, which pass over what it does not start at,
and for the one behind it. -/
def frameBytes : Nat := forkBytes + (2 * stateBytes + transitionBytes) + stateBytes

/-- The size of the larger of the two networks of states. -/
def compiledBytes (r : Regex) : Nat :=
  frameBytes + max (bytes .forward (capture r)).1 (bytes .backward r).1

end MaskedInput.Regex
