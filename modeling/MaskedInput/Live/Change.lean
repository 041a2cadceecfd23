import MaskedInput.Text.Alphanumeric

/-!
# Changes of a field

What a field tells of a change, what it has to do once an update is over, and which keystrokes a
masked field lets through. Positions count characters.
-/
namespace MaskedInput.Live

/-- The characters from `start` on, `removed` in number, gave way to `inserted` new ones. -/
structure Change where
  start : Nat
  removed : Nat
  inserted : Nat
  deriving DecidableEq, Repr

/-- The change as it stands in log entries. -/
def Change.describe (change : Change) : String :=
  s!"ChangeRange \x7b start: {change.start}, removed: {change.removed}, " ++
    s!"inserted: {change.inserted} \x7d"

/-- A move of the caret that waits until the update of a field is complete. -/
structure CaretMove where
  position : Nat
  deriving DecidableEq, Repr

/-- Drops the last character of an insertion if it is no letter or digit. A keystroke inserts one
character; text pasted in keeps its inner punctuation, which formatting drops anyway. -/
def accepted (typed : Text) : Text :=
  match typed.getLast? with
  | some c => if Text.isAlphanumeric c then typed else typed.dropLast
  | none => typed

end MaskedInput.Live
