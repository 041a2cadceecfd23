import MaskedInput.Live.Controller

/-!
# Hosts and notifications

A host owns fields and reports their changes. A controller that reshapes a field asks the host to
overwrite its text, and in the middle of that the host may call the controller again, in any way and
any number of times: it runs a script, a finite tree of calls that goes on with each answer. It may
also fail, which ends the notification at once.

A controller that writes does not wait for changes, and whatever it is called with meanwhile starts
no second reshaping; so one level of reshaping is all there is, however the host behaves.
-/
namespace MaskedInput.Live

/-- A call of the controller; `ι` names the fields. -/
inductive Call (ι : Type) where
  /-- A field is about to change. -/
  | before (old : Text) (change : Change)
  /-- A field changes. -/
  | during (new : Text) (change : Change)
  /-- A field has changed. -/
  | after (field : ι)
  | attach (field : ι)
  | detach
  | accept (typed : Text)
  | session
  | attached
  | formatted
  | clean
  deriving DecidableEq, Repr

/-- What a call is answered with. -/
def Call.Answer {ι : Type} : Call ι → Type
  | .before _ _ | .during _ _ | .detach => Unit
  | .after _ | .attach _ => Option CaretMove
  | .accept _ | .formatted | .clean => Text
  | .session => Option Session
  | .attached => Bool

/-- What a host does when its text is overwritten; `σ` holds the state of all fields. -/
inductive Script (σ ι : Type) : Type where
  | done (fields : σ)
  /-- The host fails, and leaves its fields so. -/
  | fail (fields : σ)
  /-- The host calls the controller and goes on with the fields and the answer it finds. -/
  | ask (fields : σ) (call : Call ι) (next : σ → call.Answer → Script σ ι)

structure Host (σ ι : Type) where
  text : ι → σ → Text
  overwrite : ι → Text → σ → Script σ ι

/-- Where a field with a state of type `α` stands among the fields of a host, and its name there. -/
structure Place (σ ι α : Type) where
  name : ι
  get : σ → α
  put : α → σ → σ

def Place.update {σ ι α : Type} (place : Place σ ι α) (f : α → α) (fields : σ) : σ :=
  place.put (f (place.get fields)) fields

/-- A controller, the fields of its host, and the log so far. -/
structure Stage (σ : Type) where
  controller : Controller
  fields : σ
  log : List Log.Entry := []

/-- The reshaping of a field: a caret move to be made later, or nothing if the host failed. -/
abbrev Reshape (σ ι : Type) := ι → Stage σ → Stage σ × Option (Option CaretMove)

namespace Stage

variable {σ ι : Type}

def note (s : Stage σ) (entries : List Log.Entry) : Stage σ := { s with log := s.log ++ entries }

def withFields (s : Stage σ) (fields : σ) : Stage σ := { s with fields }

def withSession (s : Stage σ) (session : Option Session) : Stage σ :=
  { s with controller := { s.controller with session } }

def withFormatted (s : Stage σ) (formatted : Text) : Stage σ :=
  { s with controller := { s.controller with formatted } }

/-- Changes are noted only while the controller waits for them. -/
def noteChange (s : Stage σ) (entry : Log.Entry) : Stage σ :=
  s.note (if s.controller.waits then [entry] else [])

/-- The notification after a change. A session that waits reshapes the field. -/
def after (reshape : Reshape σ ι) (field : ι) (s : Stage σ) :
    Stage σ × Option (Option CaretMove) :=
  match s.controller.session with
  | none => (s.note [Notice.notAttached], some none)
  | some .writing => (s.note [Notice.selfTriggered], some none)
  | some .waiting => reshape field s

/-- Begins a new session, and takes up the field as after a change. Refused while a field is
reshaped. -/
def attach (reshape : Reshape σ ι) (field : ι) (s : Stage σ) :
    Stage σ × Option (Option CaretMove) :=
  match s.controller.session with
  | some .writing => (s.note [Notice.attachRefused], some none)
  | none | some .waiting =>
    ((s.withSession (some .waiting)).note [Notice.attached]).after reshape field

/-- Ends the session. Refused while a field is reshaped. -/
def detach (s : Stage σ) : Stage σ :=
  match s.controller.session with
  | some .writing => s.note [Notice.detachRefused]
  | none | some .waiting => s.withSession none

/-- Answers a call, or does not if the host failed on the way. -/
def answer (reshape : Reshape σ ι) (s : Stage σ) : (call : Call ι) → Stage σ × Option call.Answer
  | .before old change => (s.noteChange (Notice.beforeChange old change), some ())
  | .during new change => (s.noteChange (Notice.duringChange new change), some ())
  | .after field => s.after reshape field
  | .attach field => s.attach reshape field
  | .detach => (s.detach, some ())
  | .accept typed => (s, some (s.controller.accept typed))
  | .session => (s, some s.controller.session)
  | .attached => (s, some s.controller.attached)
  | .formatted => (s, some s.controller.formatted)
  | .clean =>
    (s.note (clearEntries s.controller.spec s.controller.formatted), some s.controller.clean)

end Stage

/-- Runs a script to its end, and tells whether it came through without failing. -/
def Script.run {σ ι : Type} (reshape : Reshape σ ι) : Script σ ι → Stage σ → Stage σ × Bool
  | .done fields, s => (s.withFields fields, true)
  | .fail fields, s => (s.withFields fields, false)
  | .ask fields call next, s =>
    match (s.withFields fields).answer reshape call with
    | (s, none) => (s, false)
    | (s, some a) => (next s.fields a).run reshape s

namespace Host

variable {σ ι : Type}

/-- Reshapes a field. The session does not wait from before the clean value is formatted until the
host has overwritten the text, also if the host fails; the formatted text is taken over only when it
has not failed. The text is overwritten only if it differs. `depth` bounds how many reshapings may
stand inside one another; beyond it nothing is reshaped. -/
def reshapeWithin (host : Host σ ι) : Nat → Reshape σ ι
  | 0, _, s => (s, some none)
  | depth + 1, field, s =>
    let spec := s.controller.spec
    let current := host.text field s.fields
    let formatted := fieldText spec current
    let begun := ((s.note (clearEntries spec current)).withSession (some .writing)).note
      (formatEntries spec current)
    let (written, finished) :=
      if formatted = current then (begun, true)
      else (host.overwrite field formatted begun.fields).run (host.reshapeWithin depth) begun
    let ended := written.withSession (some .waiting)
    if finished then
      let result := (ended.note [Notice.reshaped current formatted]).withFormatted formatted
      (result, some (caretMove spec (host.text field result.fields)))
    else (ended, none)

/-- Reshapes a field. No reshaping ever stands inside another, so a depth of one is enough. -/
def reshape (host : Host σ ι) : Reshape σ ι := host.reshapeWithin 1

/-- The notification after a change of a field. -/
def after (host : Host σ ι) (field : ι) (s : Stage σ) : Stage σ × Option (Option CaretMove) :=
  s.after host.reshape field

/-- Attaches the controller to a field. -/
def attach (host : Host σ ι) (field : ι) (s : Stage σ) : Stage σ × Option (Option CaretMove) :=
  s.attach host.reshape field

/-- Runs a script from outside of any notification. -/
def runScript (host : Host σ ι) (script : Script σ ι) (s : Stage σ) : Stage σ × Bool :=
  script.run host.reshape s

end Host

end MaskedInput.Live
