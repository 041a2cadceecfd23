import MaskedInput.Live.Host

/-!
# Text buffers

A buffer is a field in memory with a caret. It applies keystrokes, reports every change, those by
the controller included, and moves the caret as the controller asks once an update is complete. A
buffer that is not controlled is a plain text with a caret.
-/
namespace MaskedInput.Live

structure Buffer where
  text : Text := []
  caret : Nat := 0
  /-- Whether changes are reported to a controller. -/
  controlled : Bool := false
  /-- The caret moves that wait for the end of the update, in order. -/
  postponed : List CaretMove := []
  deriving DecidableEq, Repr

namespace Buffer

/-- Puts the caret at a position, or at the end of a text that is shorter. -/
def moveCaret (b : Buffer) (position : Nat) : Buffer :=
  { b with caret := min position b.text.length }

/-- Replaces characters and puts the caret behind the new ones. -/
def exchange (b : Buffer) (start removed : Nat) (inserted : Text) : Buffer :=
  { b with
    text := b.text.take start ++ inserted ++ b.text.drop (start + removed)
    caret := start + inserted.length }

/-- Makes the caret moves that wait, in order. -/
def settle (b : Buffer) : Buffer :=
  b.postponed.foldl (fun b move => b.moveCaret move.position) { b with postponed := [] }

def postpone (b : Buffer) : Option CaretMove → Buffer
  | some move => { b with postponed := b.postponed ++ [move] }
  | none => b

end Buffer

/-- A buffer among the fields of a host. -/
abbrev BufferPlace (σ ι : Type) := Place σ ι Buffer

namespace BufferPlace

variable {σ ι : Type} (place : BufferPlace σ ι)

/-- Replaces characters and reports it: before, while and after the text changes. -/
def exchange (start removed : Nat) (inserted : Text) (fields : σ) : Script σ ι :=
  let change : Change := { start, removed, inserted := inserted.length }
  let exchanged := place.update (·.exchange start removed inserted)
  let buffer := place.get fields
  if buffer.controlled then
    .ask fields (.before buffer.text change) fun fields _ =>
      let fields := exchanged fields
      .ask fields (.during (place.get fields).text change) fun fields _ =>
        .ask fields (.after place.name) fun fields move =>
          .done (place.update (·.postpone move) fields)
  else .done (exchanged fields)

/-- Overwrites the whole text. Caret moves are left waiting. -/
def overwrite (t : Text) (fields : σ) : Script σ ι :=
  let whole (t : Text) (fields : σ) := place.exchange 0 (place.get fields).text.length t fields
  if (place.get fields).controlled then .ask fields (.accept t) fun fields t => whole t fields
  else whole t fields

variable (host : Host σ ι)

def settle (s : Stage σ) : Stage σ := s.withFields (place.update (·.settle) s.fields)

/-- Replaces characters as a user does, and makes the caret moves that were put off. -/
def edit (start removed : Nat) (inserted : Text) (s : Stage σ) : Stage σ :=
  let (s, finished) := host.runScript (place.exchange start removed inserted s.fields) s
  if finished then place.settle s else s

/-- Inserts at the caret what is accepted of the user's input. If that is nothing, no change is
reported. -/
def insert (typed : Text) (s : Stage σ) : Stage σ :=
  let buffer := place.get s.fields
  let inserted := if buffer.controlled then s.controller.accept typed else typed
  if inserted.isEmpty then s else place.edit host buffer.caret 0 inserted s

/-- Inserts the characters one by one. -/
def type (keys : Text) (s : Stage σ) : Stage σ :=
  keys.foldl (fun s key => place.insert host [key] s) s

/-- Deletes the character in front of the caret. -/
def backspace (s : Stage σ) : Stage σ :=
  match (place.get s.fields).caret with
  | 0 => s
  | before + 1 => place.edit host before 1 [] s

/-- Attaches the controller to the buffer and makes the caret moves that were put off. -/
def connect (s : Stage σ) : Stage σ :=
  match host.attach place.name s with
  | (s, some move) => place.settle (s.withFields (place.update (·.postpone move) s.fields))
  | (s, none) => s

end BufferPlace

namespace Buffer

/-- The place of a buffer that is the only field. -/
def alone : BufferPlace Buffer Unit where
  name := ()
  get := id
  put b _ := b

/-- The host whose only field is a buffer. -/
def host : Host Buffer Unit where
  text _ b := b.text
  overwrite _ t b := alone.overwrite t b

/-- A fresh buffer with a controller of its own, which is attached. -/
def opened (spec : Spec) : Stage Buffer :=
  alone.connect host { controller := { spec }, fields := { controlled := true } }

end Buffer

end MaskedInput.Live
