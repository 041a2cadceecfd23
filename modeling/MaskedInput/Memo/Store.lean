import MaskedInput.Mask.Stencil

/-!
# Remembered stencils

A mask is compiled once and its stencil kept, at two levels: a store shared by all users, bounded in
size and emptied when it is full, and for each user the stencil used last. Neither shows in a
result: what comes out is the stencil compiled from the mask asked for, and a mask that does not
compile leaves both as they were.
-/
namespace MaskedInput.Memo

/-- The number of stencils that the shared store holds before it is emptied. -/
def capacity : Nat := 256

/-- The shared store. -/
structure Store where
  entries : List (Mask × Stencil) := []
  deriving DecidableEq, Repr

namespace Store

def find? (store : Store) (mask : Mask) : Option Stencil := store.entries.lookup mask

/-- Adds a stencil; a full store is emptied first. -/
def insert (store : Store) (mask : Mask) (st : Stencil) : Store :=
  let kept := if capacity ≤ store.entries.length then [] else store.entries
  { entries := (mask, st) :: kept }

/-- The stencil stored for the mask, or the one compiled from it, which is then stored. -/
def obtain (store : Store) (mask : Mask) : Except MaskError Stencil × Store :=
  match store.find? mask with
  | some st => (.ok st, store)
  | none =>
    match mask.compile with
    | .ok st => (.ok st, store.insert mask st)
    | .error e => (.error e, store)

end Store

/-- Room for the stencil used last. -/
structure Last where
  stencil : Option Stencil := none
  deriving DecidableEq, Repr

namespace Last

/-- The stencil used last, if it is the mask's; else the one from the shared store, which takes its
place. -/
def obtain (last : Last) (store : Store) (mask : Mask) :
    Except MaskError Stencil × Last × Store :=
  match last.stencil.filter (·.mask = mask) with
  | some st => (.ok st, last, store)
  | none =>
    match store.obtain mask with
    | (.ok st, store) => (.ok st, { stencil := some st }, store)
    | (.error e, store) => (.error e, last, store)

end Last

end MaskedInput.Memo
