import MaskedInput.Regex.Cursor

/-!
# Repetitions

How often the expression in front of a repetition sign stands: the signs `?`, `*` and `+`, and
counts between braces. A question mark behind a repetition makes it take as little as it can, which
is passed over, since it does not matter to whether a text matches.
-/
namespace MaskedInput.Regex.Parse

/-- The largest count. -/
def maxCount : Nat := UInt32.size - 1

/-- Passes over a question mark behind a repetition. -/
def passQuestionMark : Parse Unit := do
  let _ ← accept ['?']

/-- The expression that a repetition is about: the last one in front of it. -/
def repeatable (parts : List Expression) : Parse (List Expression × Expression) := do
  match parts.getLast? with
  | none | some (.empty _) | some (.flags _ _) => fail (← here) .repetitionMissing
  | some e => return (parts.dropLast, e)

/-- A number in decimal, with blanks around it; none if there is no digit. -/
def count : Parse (Except Flaw Nat) := do
  dropWhile Text.isBlank
  let first ← place
  let digits ← takeWhile Char.isDigit
  let span ← spanFrom first
  let n := digits.foldl (fun n c => 10 * n + (c.toNat - '0'.toNat)) 0
  let result : Except Flaw Nat :=
    if digits.isEmpty then .error { fault := .repetitionCountEmpty, span }
    else if n ≤ maxCount then .ok n
    else .error { fault := .decimalInvalid, span }
  passBlanks (← get).rest.length
  return result
where
  /-- Passes over blanks, and over what does not count behind each. -/
  passBlanks : Nat → Parse Unit
    | 0 => return
    | n + 1 => do
      match ← peek with
      | some c => if Text.isBlank c then do bumpSpace; passBlanks n else return
      | none => return

/-- The least and the largest count between braces; the cursor is in front of them, and afterwards
behind the closing one. -/
def counts : Parse (Nat × Option Nat) := do
  let start ← place
  bumpSpace
  if ← atEnd then fail (← spanFrom start) .repetitionCountUnclosed
  let least ← count
  if ← atEnd then fail (← spanFrom start) .repetitionCountUnclosed
  let range ←
    if (← peek) == some ',' then
      bumpSpace
      if ← atEnd then fail (← spanFrom start) .repetitionCountUnclosed
      if (← peek) == some '}' then pure (← least, none)
      else
        let least ← least
        let most ← count
        pure (least, some (← most))
    else
      let n ← least
      pure (n, some n)
  if (← peek) != some '}' then fail (← spanFrom start) .repetitionCountUnclosed
  bumpSpace
  passQuestionMark
  if range.2.any (· < range.1) then fail (← spanFrom start) .repetitionCountInvalid
  return range

/-- The expression with the repetition that follows it. -/
def repetition (parts : List Expression) : Parse (List Expression) := do
  let (before, e) ← repeatable parts
  let range ←
    match ← peek with
    | some '{' => counts
    | sign =>
      bump
      passQuestionMark
      pure <| match sign with
        | some '?' => (0, some 1)
        | some '+' => (1, none)
        | _ => (0, none)
  return before ++ [.repeated (← spanFrom e.span.first) range.1 range.2 e]

end MaskedInput.Regex.Parse
