import MaskedInput.Formatting
import MaskedInput.Memo.Store

/-!
# Formatters

A formatter is a specification with room for its stencil. It compiles lazily, through the shared
store, and forgets the stencil when its pattern or placeholder changes. All its answers are those of
the specification alone; operations return the formatter and the store that they leave behind.
-/
namespace MaskedInput.Memo

structure Formatter where
  spec : Spec := {}
  last : Last := {}
  deriving DecidableEq, Repr

namespace Formatter

def ofSpec (spec : Spec) : Formatter := { spec }

/-- The stencil. Without a pattern there is none, and nothing is compiled. -/
def stencil (f : Formatter) (store : Store) : Except MaskError Stencil × Formatter × Store :=
  match f.spec.pattern with
  | none => (.error .missingMask, f, store)
  | some _ =>
    let (result, last, store) := f.last.obtain store f.spec.mask
    (result, { f with last }, store)

/-- Runs an operation that needs the stencil unless there is nothing to do. -/
def run (f : Formatter) (store : Store) (t : Text)
    (operation : Spec → Except MaskError Stencil → Text → Outcome) : Outcome × Formatter × Store :=
  if f.spec.hasNoMask || t.isEmpty then (.untouched, f, store)
  else
    let (result, f, store) := f.stencil store
    (operation f.spec result t, f, store)

def format (f : Formatter) (store : Store) (t : Text) : Outcome × Formatter × Store :=
  f.run store t Spec.formatUsing

def clearBy (f : Formatter) (store : Store) (mode : ClearMode) (t : Text) :
    Outcome × Formatter × Store :=
  f.run store t fun spec stencil t => spec.clearUsing stencil mode t

/-- The placeholder, explicit or inferred. -/
def placeholder (f : Formatter) (store : Store) : Except MaskError Char × Formatter × Store :=
  let (result, f, store) := f.stencil store
  (result.map Stencil.placeholder, f, store)

/-- The number of slots. -/
def slotCount (f : Formatter) (store : Store) : Except MaskError Nat × Formatter × Store :=
  let (result, f, store) := f.stencil store
  (result.map Stencil.slotCount, f, store)

/-- Sets the pattern and forgets the stencil. -/
def withPattern (f : Formatter) (pattern : Text) : Formatter :=
  { spec := { f.spec with pattern := some pattern } }

/-- Sets or unsets the placeholder and forgets the stencil. -/
def withPlaceholder (f : Formatter) (placeholder : Option Char) : Formatter :=
  { spec := { f.spec with placeholder } }

def withLead (f : Formatter) (lead : Option Text) : Formatter :=
  { f with spec := { f.spec with lead } }

def withLeadFixed (f : Formatter) (leadFixed : Bool) : Formatter :=
  { f with spec := { f.spec with leadFixed } }

def withIgnorable (f : Formatter) (ignorable : List Text) : Formatter :=
  { f with spec := { f.spec with ignorable } }

def withStrict (f : Formatter) (strict : Bool) : Formatter :=
  { f with spec := { f.spec with strict } }

end Formatter

end MaskedInput.Memo
