import MaskedInput.Live.Host

/-!
# Controllers whose parts are lent out

The session and the formatted text of a controller lie in cells of their own. A cell is lent to any
number of readers or to one writer; whoever asks for it against this rule is refused, and a call
that cannot do without it breaks off. Here each call is carried out loan by loan: a reader keeps the
session from before a field is reformatted until afterwards, in which time the host may call again.
The state of a session is the one thing that the holder of a reader's loan may change.

This is a second account of `Live.Host`, which knows no loans. It does not bound how deeply calls
stand inside one another: what a reformatting inside another one would do is left open.
-/
namespace MaskedInput.Live

/-- A value that is lent to readers or to one writer. -/
structure Cell (α : Type) where
  value : α
  readers : Nat := 0
  writer : Bool := false
  deriving DecidableEq, Repr

namespace Cell

variable {α : Type}

/-- Lends the value to one more reader. -/
def lend? (c : Cell α) : Option (Cell α) :=
  if c.writer then none else some { c with readers := c.readers + 1 }

def giveBack (c : Cell α) : Cell α := { c with readers := c.readers - 1 }

/-- Lends the value to a writer, who must be the only one to have it. -/
def lendToWriter? (c : Cell α) : Option (Cell α) :=
  if c.writer || decide (0 < c.readers) then none else some { c with writer := true }

/-- The writer puts a value back. -/
def writeBack (c : Cell α) (value : α) : Cell α := { c with value, writer := false }

end Cell

/-- How a call ends. -/
inductive Result (α : Type) where
  | returned (a : α)
  | hostFailed
  /-- A loan that the call cannot do without was refused. -/
  | loanRefused
  deriving DecidableEq, Repr

/-- A call that the host made in the middle of a write, with the session that it met and left. -/
structure NestedCall (ι : Type) where
  call : Call ι
  result : Result call.Answer
  met : Option Session
  left : Option Session

/-- A controller with its cells, the fields of its host, the log, and two records: what the host was
asked to write, and which calls it made meanwhile. -/
structure LentStage (σ ι : Type) where
  spec : Spec
  session : Cell (Option Session)
  formatted : Cell Text
  fields : σ
  log : List Log.Entry
  writes : List (ι × Text)
  calls : List (NestedCall ι)

/-- A reformatting of a field, for a caller that has the session as a reader. -/
abbrev Reformat (σ ι : Type) := ι → LentStage σ ι → LentStage σ ι × Result (Option CaretMove)

namespace LentStage

variable {σ ι : Type}

/-- The stage as it is without loans and records. -/
def stage (w : LentStage σ ι) : Stage σ where
  controller := { spec := w.spec, session := w.session.value, formatted := w.formatted.value }
  fields := w.fields
  log := w.log

/-- No part is lent out. -/
def AtRest (w : LentStage σ ι) : Prop :=
  w.session = { value := w.session.value } ∧ w.formatted = { value := w.formatted.value }

def note (w : LentStage σ ι) (entries : List Log.Entry) : LentStage σ ι :=
  { w with log := w.log ++ entries }

def withFields (w : LentStage σ ι) (fields : σ) : LentStage σ ι := { w with fields }

/-- Changes the state of the session, if there is one. -/
def withState (w : LentStage σ ι) (state : Session) : LentStage σ ι :=
  { w with session := { w.session with value := w.session.value.map fun _ => state } }

/-- Whether there is a session that waits, unless a writer has it. -/
def waits? (w : LentStage σ ι) : Option Bool :=
  w.session.lend?.map fun lent => lent.value == some .waiting

def noteChange (w : LentStage σ ι) (entry : Log.Entry) : LentStage σ ι × Result Unit :=
  match w.waits? with
  | none => (w, .loanRefused)
  | some waits => (w.note (if waits then [entry] else []), .returned ())

/-- The notification after a change. The session stays lent while the field is reformatted. -/
def after (reformat : Reformat σ ι) (field : ι) (w : LentStage σ ι) :
    LentStage σ ι × Result (Option CaretMove) :=
  match w.session.lend? with
  | none => (w, .loanRefused)
  | some lent =>
    match lent.value with
    | none => (w.note [Notice.notAttached], .returned none)
    | some .writing => (w.note [Notice.selfTriggered], .returned none)
    | some .waiting =>
      let (w, result) := reformat field { w with session := lent }
      ({ w with session := w.session.giveBack }, result)

/-- Attaching does without a session that is lent out. -/
def attach (reformat : Reformat σ ι) (field : ι) (w : LentStage σ ι) :
    LentStage σ ι × Result (Option CaretMove) :=
  match w.session.lendToWriter? with
  | none => (w.note [Notice.attachRefused], .returned none)
  | some lent =>
    ({ w with session := lent.writeBack (some .waiting) }.note [Notice.attached]).after
      reformat field

def detach (w : LentStage σ ι) : LentStage σ ι :=
  match w.session.lendToWriter? with
  | none => w.note [Notice.detachRefused]
  | some lent => { w with session := lent.writeBack none }

/-- Reads a cell for the length of one question. -/
def question {α β : Type} (w : LentStage σ ι) (cell : Cell α) (read : α → β) :
    LentStage σ ι × Result β :=
  match cell.lend? with
  | none => (w, .loanRefused)
  | some lent => (w, .returned (read lent.value))

/-- Carries out a call. -/
def answer (reformat : Reformat σ ι) (w : LentStage σ ι) :
    (call : Call ι) → LentStage σ ι × Result call.Answer
  | .before old change => w.noteChange (Notice.beforeChange old change)
  | .during new change => w.noteChange (Notice.duringChange new change)
  | .after field => w.after reformat field
  | .attach field => w.attach reformat field
  | .detach => (w.detach, .returned ())
  | .accept typed =>
    w.question w.session fun session => if session == some .waiting then accepted typed else typed
  | .session => w.question w.session id
  | .attached => w.question w.session Option.isSome
  | .formatted => w.question w.formatted id
  | .clean =>
    match w.formatted.lend? with
    | none => (w, .loanRefused)
    | some lent => (w.note (clearEntries w.spec lent.value), .returned (w.spec.clear lent.value))

/-- Puts a call on record. -/
def record (w : LentStage σ ι) (met : Option Session) (call : Call ι)
    (result : Result call.Answer) : LentStage σ ι :=
  { w with calls := w.calls ++ [{ call, result, met, left := w.session.value }] }

end LentStage

/-- Runs a script to its end, or to the first call that breaks off. -/
def Script.runLent {σ ι : Type} (reformat : Reformat σ ι) :
    Script σ ι → LentStage σ ι → LentStage σ ι × Result Unit
  | .done fields, w => (w.withFields fields, .returned ())
  | .fail fields, w => (w.withFields fields, .hostFailed)
  | .ask fields call next, w =>
    match (w.withFields fields).answer reformat call with
    | (left, .returned a) =>
      (next left.fields a).runLent reformat (left.record w.session.value call (.returned a))
    | (left, .hostFailed) => (left.record w.session.value call .hostFailed, .hostFailed)
    | (left, .loanRefused) => (left.record w.session.value call .loanRefused, .loanRefused)

/-- The controller begins to write to a field with the text `current`. -/
def LentStage.begun {σ ι : Type} (w : LentStage σ ι) (current : Text) : LentStage σ ι :=
  ((w.note (clearEntries w.spec current)).withState .writing).note (formatEntries w.spec current)

/-- Has the host write what a field with the text `current` should show, if that is another text. -/
def Host.writeLent {σ ι : Type} (host : Host σ ι) (reformat : Reformat σ ι) (field : ι)
    (current : Text) (w : LentStage σ ι) : LentStage σ ι × Result Unit :=
  if fieldText w.spec current = current then (w, .returned ())
  else (host.overwrite field (fieldText w.spec current) w.fields).runLent reformat
    { w with writes := w.writes ++ [(field, fieldText w.spec current)] }

/-- Reformats a field. Once the host has been through with the write, well or not, the session waits
again; only if all went well is the formatted text taken over. -/
def Host.reformat {σ ι : Type} (host : Host σ ι) (nested : Reformat σ ι) : Reformat σ ι :=
  fun field w =>
    let current := host.text field w.fields
    match host.writeLent nested field current (w.begun current) with
    | (written, .hostFailed) => (written.withState .waiting, .hostFailed)
    | (written, .loanRefused) => (written.withState .waiting, .loanRefused)
    | (written, .returned ()) =>
      let ended := (written.withState .waiting).note
        [Notice.reshaped current (fieldText w.spec current)]
      match ended.formatted.lendToWriter? with
      | none => (ended, .loanRefused)
      | some lent =>
        ({ ended with formatted := lent.writeBack (fieldText w.spec current) },
          .returned (caretMove w.spec (host.text field ended.fields)))

end MaskedInput.Live
