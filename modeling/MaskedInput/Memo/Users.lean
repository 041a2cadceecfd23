import MaskedInput.Memo.Formatter

/-!
# Users of the shared store

Any number of formatters and of free-standing rooms for a stencil, all of which use one store. Each
operation concerns one of them, by its number, or the store alone; a number that is not taken is
answered with nothing. A copy starts with the stencil that its model has just then, and goes its own
way.
-/
namespace MaskedInput.Memo

/-- A part of a specification that is set anew. -/
inductive Setting where
  | pattern (pattern : Text)
  | placeholder (placeholder : Option Char)
  | lead (lead : Option Text)
  | leadFixed (leadFixed : Bool)
  | ignorable (ignorable : List Text)
  | strict (strict : Bool)
  deriving DecidableEq, Repr

def Formatter.set (f : Formatter) : Setting → Formatter
  | .pattern pattern => f.withPattern pattern
  | .placeholder placeholder => f.withPlaceholder placeholder
  | .lead lead => f.withLead lead
  | .leadFixed leadFixed => f.withLeadFixed leadFixed
  | .ignorable ignorable => f.withIgnorable ignorable
  | .strict strict => f.withStrict strict

/-- A question to a formatter. -/
inductive Query where
  | format (t : Text)
  | clear (mode : ClearMode) (t : Text)
  | stencil
  | placeholder
  | slotCount
  deriving DecidableEq, Repr

inductive Operation where
  | newFormatter (spec : Spec)
  | copyFormatter (user : Nat)
  | set (user : Nat) (setting : Setting)
  | ask (user : Nat) (query : Query)
  | newRoom
  | copyRoom (room : Nat)
  | obtain (room : Nat) (mask : Mask)
  | forget (room : Nat)
  /-- Asks the store itself. -/
  | obtainShared (mask : Mask)
  deriving DecidableEq, Repr

inductive Answer where
  | nothing
  /-- A text that was formatted or cleared, with the log entries of that. -/
  | text (result : Text) (entries : List Log.Entry)
  | stencil (result : Except MaskError Stencil)
  | placeholder (result : Except MaskError Char)
  | slotCount (result : Except MaskError Nat)

/-- The answer that an outcome gives to a question about the text `t`. -/
def Answer.ofOutcome (t : Text) (outcome : Outcome) : Answer :=
  .text (outcome.text t) (outcome.entries t)

def Query.answer (f : Formatter) (store : Store) : Query → Answer × Formatter × Store
  | .format t =>
    let (outcome, left) := f.format store t
    (.ofOutcome t outcome, left)
  | .clear mode t =>
    let (outcome, left) := f.clearBy store mode t
    (.ofOutcome t outcome, left)
  | .stencil =>
    let (result, left) := f.stencil store
    (.stencil result, left)
  | .placeholder =>
    let (result, left) := f.placeholder store
    (.placeholder result, left)
  | .slotCount =>
    let (result, left) := f.slotCount store
    (.slotCount result, left)

/-- The store and all its users. -/
structure Users where
  store : Store := {}
  formatters : List Formatter := []
  rooms : List Last := []
  deriving DecidableEq, Repr

namespace Users

def perform (users : Users) : Operation → Answer × Users
  | .newFormatter spec =>
    (.nothing, { users with formatters := users.formatters ++ [.ofSpec spec] })
  | .copyFormatter user =>
    (.nothing, { users with formatters := users.formatters ++ users.formatters[user]?.toList })
  | .set user setting =>
    (.nothing, { users with formatters := users.formatters.modify user (·.set setting) })
  | .ask user query =>
    match users.formatters[user]? with
    | some f =>
      let (answer, f, store) := query.answer f users.store
      (answer, { users with store, formatters := users.formatters.set user f })
    | none => (.nothing, users)
  | .newRoom => (.nothing, { users with rooms := users.rooms ++ [{}] })
  | .copyRoom room => (.nothing, { users with rooms := users.rooms ++ users.rooms[room]?.toList })
  | .obtain room mask =>
    match users.rooms[room]? with
    | some last =>
      let (result, last, store) := last.obtain users.store mask
      (.stencil result, { users with store, rooms := users.rooms.set room last })
    | none => (.nothing, users)
  | .forget room => (.nothing, { users with rooms := users.rooms.set room {} })
  | .obtainShared mask =>
    let (result, store) := users.store.obtain mask
    (.stencil result, { users with store })

/-- All answers, in order, and the users that are left. -/
def run (users : Users) : List Operation → List Answer × Users
  | [] => ([], users)
  | operation :: rest =>
    let (answer, users) := users.perform operation
    let (answers, users) := users.run rest
    (answer :: answers, users)

end Users

end MaskedInput.Memo
