import MaskedInput.Proofs.Log.Redaction
import MaskedInput.Proofs.Live.Sessions

/-!
# What the log of a controller depends on

A run takes turns: a call is heard or not, finds the controller attached or not, clearing and
formatting meet one case or another, the host calls again in the middle of a write. Apart from the
values in them, the entries that a run leaves in the log follow from the turns that it takes and
from the specification. So where values must not be shown, two runs that take the same turns cannot
be told apart by their logs, except by the sizes of the values.
-/
namespace MaskedInput.Live

variable {σ ι : Type}

/-- A turn that a run takes. Nothing in it comes from a text but the range of a change. -/
inductive Turn where
  /-- A change that was announced or reported while the controller did not wait for it. -/
  | unheard
  | heardBefore (change : Change)
  | heardDuring (change : Change)
  | notAttached
  | selfTriggered
  | attached
  | attachRefused
  | detached
  | detachRefused
  | cleared (course : Outcome.Course)
  | formatted (course : Outcome.Course)
  | reshaped
  /-- The host failed in the middle of a write. -/
  | failed
  deriving DecidableEq, Repr

/-- The entries of a turn, without the values. -/
def Turn.entries (spec : Spec) : Turn → List Log.Entry
  | .unheard | .detached | .failed => []
  | .heardBefore change => [(Notice.beforeChange [] change).blank]
  | .heardDuring change => [(Notice.duringChange [] change).blank]
  | .notAttached => [Notice.notAttached.blank]
  | .selfTriggered => [Notice.selfTriggered.blank]
  | .attached => [Notice.attached.blank]
  | .attachRefused => [Notice.attachRefused.blank]
  | .detachRefused => [Notice.detachRefused.blank]
  | .cleared course | .formatted course => course.entries spec.stencil .pattern
  | .reshaped => [(Notice.reshaped [] []).blank]

/-- The turns of a call in the middle of a write; `old` is the text last taken over. Questions are
no turns unless their answer is logged. -/
def Call.turnsWhileWriting (spec : Spec) (old : Text) : Call ι → List Turn
  | .before _ _ | .during _ _ => [.unheard]
  | .after _ => [.selfTriggered]
  | .attach _ => [.attachRefused]
  | .detach => [.detachRefused]
  | .clean => [.cleared (spec.clearOutcome .pattern old).course]
  | .accept _ | .session | .attached | .formatted => []

/-- The turns of a script in the middle of a write. -/
def Script.turnsWhileWriting (spec : Spec) (old : Text) : Script σ ι → List Turn
  | .done _ | .fail _ => []
  | .ask fields call next =>
    call.turnsWhileWriting spec old ++
      (next fields (call.answerWhileWriting spec old)).turnsWhileWriting spec old

/-- The turns of reshaping a field: clearing, formatting, whatever the host does with a text that
differs, and the end. -/
def Host.reshapeTurns (host : Host σ ι) (field : ι) (s : Stage σ) : List Turn :=
  let spec := s.controller.spec
  let current := host.text field s.fields
  [.cleared (spec.clearOutcome .pattern current).course,
    .formatted (spec.formatOutcome (spec.clear current)).course] ++
  (if fieldText spec current = current then []
    else (host.overwrite field (fieldText spec current) s.fields).turnsWhileWriting spec
      s.controller.formatted) ++
  [if (host.refill s.controller field s.fields).2 then .reshaped else .failed]

namespace Stage

/-- The turns of a notification after a change. -/
def afterTurns (host : Host σ ι) (field : ι) (s : Stage σ) : List Turn :=
  match s.controller.session with
  | none => [.notAttached]
  | some .writing => [.selfTriggered]
  | some .waiting => host.reshapeTurns field s

/-- The turns of a call. -/
def turns (host : Host σ ι) (s : Stage σ) : Call ι → List Turn
  | .before _ change => [if s.controller.waits then .heardBefore change else .unheard]
  | .during _ change => [if s.controller.waits then .heardDuring change else .unheard]
  | .after field => s.afterTurns host field
  | .attach field =>
    match s.controller.session with
    | some .writing => [.attachRefused]
    | none | some .waiting => .attached :: (s.withSession (some .waiting)).afterTurns host field
  | .detach =>
    match s.controller.session with
    | some .writing => [.detachRefused]
    | none | some .waiting => [.detached]
  | .clean => [.cleared (s.controller.spec.clearOutcome .pattern s.controller.formatted).course]
  | .accept _ | .session | .attached | .formatted => []

/-- From one stage to a later one these turns were taken: the log goes on with their entries, into
which only values are filled. -/
structure Told (s s' : Stage σ) (turns : List Turn) : Prop where
  spec : s'.controller.spec = s.controller.spec
  log : ∃ entries, s'.log = s.log ++ entries ∧
    entries.map Log.Entry.blank = turns.flatMap (Turn.entries s.controller.spec)

theorem Told.silent {s s' : Stage σ} (spec : s'.controller.spec = s.controller.spec)
    (log : s'.log = s.log) : s.Told s' [] :=
  ⟨spec, [], by rw [log, List.append_nil], rfl⟩

theorem Told.trans {s₁ s₂ s₃ : Stage σ} {first second : List Turn} (told : s₁.Told s₂ first)
    (later : s₂.Told s₃ second) : s₁.Told s₃ (first ++ second) := by
  obtain ⟨entries, log, blank⟩ := told.log
  obtain ⟨more, moreLog, moreBlank⟩ := later.log
  refine ⟨later.spec.trans told.spec, entries ++ more, ?_, ?_⟩
  · rw [moreLog, log, List.append_assoc]
  · rw [List.map_append, List.flatMap_append, blank, moreBlank, told.spec]

theorem told_note (s : Stage σ) {entries : List Log.Entry} {turns : List Turn}
    (blank : entries.map Log.Entry.blank = turns.flatMap (Turn.entries s.controller.spec)) :
    s.Told (s.note entries) turns :=
  ⟨rfl, entries, rfl, blank⟩

end Stage

theorem blank_clear (spec : Spec) (t : Text) :
    (clearEntries spec t).map Log.Entry.blank =
      [Turn.cleared (spec.clearOutcome .pattern t).course].flatMap (Turn.entries spec) := by
  rw [List.flatMap_singleton]
  exact spec.blank_clearEntries .pattern t

theorem blank_format (spec : Spec) (t : Text) :
    (formatEntries spec t).map Log.Entry.blank =
      [Turn.formatted (spec.formatOutcome (spec.clear t)).course].flatMap (Turn.entries spec) := by
  rw [List.flatMap_singleton]
  exact spec.blank_formatEntries (spec.clear t)

theorem Call.blank_entriesWhileWriting (spec : Spec) (old : Text) (call : Call ι) :
    (call.entriesWhileWriting spec old).map Log.Entry.blank =
      (call.turnsWhileWriting spec old).flatMap (Turn.entries spec) := by
  cases call with
  | clean => exact blank_clear spec old
  | before old change => rfl
  | during new change => rfl
  | after field => rfl
  | attach field => rfl
  | detach => rfl
  | accept typed => rfl
  | session => rfl
  | attached => rfl
  | formatted => rfl

/-- In the middle of a write a script tells its turns, whatever reshaping would do. -/
theorem Script.told_writing (reshape : Reshape σ ι) (script : Script σ ι) (s : Stage σ)
    (writing : s.controller.session = some .writing) :
    s.Told (script.run reshape s).1
      (script.turnsWhileWriting s.controller.spec s.controller.formatted) := by
  induction script generalizing s with
  | done fields => exact .silent rfl rfl
  | fail fields => exact .silent rfl rfl
  | ask fields call next ih =>
    have state : (s.withFields fields).controller.session = some .writing := writing
    rw [run, Stage.answer_writing reshape _ state call]
    have called := (s.withFields fields).told_note
      (call.blank_entriesWhileWriting s.controller.spec s.controller.formatted)
    have onward := ih fields (call.answerWhileWriting s.controller.spec s.controller.formatted)
      ((s.withFields fields).note
        (call.entriesWhileWriting s.controller.spec s.controller.formatted)) state
    exact ⟨onward.spec, (called.trans onward).log⟩

theorem Host.told_write (host : Host σ ι) (reshape : Reshape σ ι) (field : ι) (current : Text)
    (s : Stage σ) (writing : s.controller.session = some .writing) :
    s.Told (host.write reshape field current s).1
      (if fieldText s.controller.spec current = current then []
        else (host.overwrite field (fieldText s.controller.spec current) s.fields).turnsWhileWriting
          s.controller.spec s.controller.formatted) := by
  unfold Host.write
  split
  · exact .silent rfl rfl
  · exact Script.told_writing reshape _ s writing

theorem Stage.told_begun (s : Stage σ) (current : Text) :
    s.Told (s.begun current)
      [.cleared (s.controller.spec.clearOutcome .pattern current).course,
        .formatted (s.controller.spec.formatOutcome (s.controller.spec.clear current)).course] := by
  have cleared := s.told_note (blank_clear s.controller.spec current)
  have noted := ((s.note (clearEntries s.controller.spec current)).withSession
    (some .writing)).told_note (blank_format s.controller.spec current)
  exact (show s.Told ((s.note (clearEntries s.controller.spec current)).withSession
    (some .writing)) _ from ⟨cleared.spec, cleared.log⟩).trans noted

theorem Host.told_reshape (host : Host σ ι) (depth : Nat) (field : ι) (s : Stage σ) :
    s.Told (host.reshapeWithin (depth + 1) field s).1 (host.reshapeTurns field s) := by
  obtain ⟨entries, ends⟩ := host.write_begun (host.reshapeWithin depth) field s
  have written := (s.told_begun (host.text field s.fields)).trans
    (host.told_write (host.reshapeWithin depth) field (host.text field s.fields)
      (s.begun (host.text field s.fields)) rfl)
  rw [reshapeWithin_eq, reshapeTurns, ← congrArg Prod.snd ends]
  refine written.trans ?_
  cases host.write (host.reshapeWithin depth) field (host.text field s.fields)
      (s.begun (host.text field s.fields)) with
  | mk left finished =>
    cases finished with
    | false => exact ⟨rfl, [], (List.append_nil _).symm, rfl⟩
    | true => exact ⟨rfl, [_], rfl, rfl⟩

namespace Stage

variable (host : Host σ ι) (s : Stage σ)

theorem told_after (field : ι) : s.Told (host.after field s).1 (s.afterTurns host field) := by
  cases session : s.controller.session with
  | none =>
    simp only [Host.after, after, afterTurns, session]
    exact s.told_note rfl
  | some state =>
    cases state with
    | writing =>
      simp only [Host.after, after, afterTurns, session]
      exact s.told_note rfl
    | waiting =>
      simp only [Host.after, after, afterTurns, session]
      exact host.told_reshape 0 field s

theorem told_noteChange {entry : Log.Entry} {heard : Turn}
    (blank : [entry.blank] = heard.entries s.controller.spec) :
    s.Told (s.noteChange entry) [if s.controller.waits then heard else .unheard] := by
  refine s.told_note ?_
  cases s.controller.waits with
  | false => rfl
  | true => exact blank.trans (List.flatMap_singleton _ _).symm

/-- A call tells its turns. -/
theorem told_answer (call : Call ι) :
    s.Told (s.answer host.reshape call).1 (s.turns host call) := by
  cases call with
  | before old change => exact s.told_noteChange rfl
  | during new change => exact s.told_noteChange rfl
  | after field => exact s.told_after host field
  | attach field =>
    -- Whether the session begins now or had begun before does not show in the log.
    have begun : (s.withSession (some .waiting)).Told
        ((s.withSession (some .waiting)).note [Notice.attached]) [.attached] := told_note _ rfl
    have onward := begun.trans (told_after host _ field)
    cases session : s.controller.session with
    | none =>
      simp only [answer, attach, turns, session]
      exact ⟨onward.spec, onward.log⟩
    | some state =>
      cases state with
      | writing =>
        simp only [answer, attach, turns, session]
        exact s.told_note rfl
      | waiting =>
        simp only [answer, attach, turns, session]
        exact ⟨onward.spec, onward.log⟩
  | detach =>
    cases session : s.controller.session with
    | none =>
      simp only [answer, detach, turns, session]
      exact ⟨rfl, [], (List.append_nil _).symm, rfl⟩
    | some state =>
      cases state with
      | writing =>
        simp only [answer, detach, turns, session]
        exact s.told_note rfl
      | waiting =>
        simp only [answer, detach, turns, session]
        exact ⟨rfl, [], (List.append_nil _).symm, rfl⟩
  | accept typed => exact .silent rfl rfl
  | session => exact .silent rfl rfl
  | attached => exact .silent rfl rfl
  | formatted => exact .silent rfl rfl
  | clean => exact s.told_note (blank_clear s.controller.spec s.controller.formatted)

end Stage

/-- The turns of a script that is run from outside of any notification. -/
def Script.turns (host : Host σ ι) : Script σ ι → Stage σ → List Turn
  | .done _, _ | .fail _, _ => []
  | .ask fields call next, s =>
    (s.withFields fields).turns host call ++
      match (s.withFields fields).answer host.reshape call with
      | (_, none) => []
      | (left, some a) => (next left.fields a).turns host left

theorem Script.told (host : Host σ ι) (script : Script σ ι) (s : Stage σ) :
    s.Told (host.runScript script s).1 (script.turns host s) := by
  unfold Host.runScript
  induction script generalizing s with
  | done fields => exact .silent rfl rfl
  | fail fields => exact .silent rfl rfl
  | ask fields call next ih =>
    have answered := (s.withFields fields).told_answer host call
    rw [run, turns]
    cases found : (s.withFields fields).answer host.reshape call with
    | mk left a =>
      rw [found] at answered
      cases a with
      | none =>
        simp only [List.append_nil]
        exact ⟨answered.spec, answered.log⟩
      | some a =>
        have onward := answered.trans (ih left.fields a left)
        exact ⟨onward.spec, onward.log⟩

namespace BufferPlace

variable (place : BufferPlace σ ι) (host : Host σ ι)

/-- The turns of an insertion. -/
def insertTurns (typed : Text) (s : Stage σ) : List Turn :=
  let buffer := place.get s.fields
  let inserted := if buffer.controlled then s.controller.accept typed else typed
  if inserted.isEmpty then [] else (place.exchange buffer.caret 0 inserted s.fields).turns host s

/-- The turns of inserting characters one by one. -/
def typeTurns : Text → Stage σ → List Turn
  | [], _ => []
  | key :: keys, s => place.insertTurns host [key] s ++ typeTurns keys (place.insert host [key] s)

/-- The turns of deleting the character in front of the caret. -/
def backspaceTurns (s : Stage σ) : List Turn :=
  match (place.get s.fields).caret with
  | 0 => []
  | before + 1 => (place.exchange before 1 [] s.fields).turns host s

variable (s : Stage σ)

theorem told_edit (start removed : Nat) (inserted : Text) :
    s.Told (place.edit host start removed inserted s)
      ((place.exchange start removed inserted s.fields).turns host s) := by
  have ran := (place.exchange start removed inserted s.fields).told host s
  unfold edit
  simp only
  split
  · exact ⟨ran.spec, ran.log⟩
  · exact ran

theorem told_insert (typed : Text) :
    s.Told (place.insert host typed s) (place.insertTurns host typed s) := by
  unfold insert insertTurns
  simp only
  generalize (if (place.get s.fields).controlled = true then s.controller.accept typed
    else typed) = inserted
  split
  · exact .silent rfl rfl
  · exact place.told_edit host s _ 0 inserted

theorem told_type (keys : Text) : s.Told (place.type host keys s) (place.typeTurns host keys s) := by
  unfold type
  induction keys generalizing s with
  | nil => exact .silent rfl rfl
  | cons key keys ih => exact (place.told_insert host s [key]).trans (ih (place.insert host [key] s))

theorem told_backspace : s.Told (place.backspace host s) (place.backspaceTurns host s) := by
  cases caret : (place.get s.fields).caret with
  | zero =>
    simp only [backspace, backspaceTurns, caret]
    exact .silent rfl rfl
  | succ before =>
    simp only [backspace, backspaceTurns, caret]
    exact place.told_edit host s before 1 []

end BufferPlace

/-- The entries that were added to the log from one stage to a later one. -/
def Stage.added (s s' : Stage σ) : List Log.Entry := s'.log.drop s.log.length

theorem Stage.Told.added {s s' : Stage σ} {turns : List Turn} (told : s.Told s' turns) :
    s'.log = s.log ++ s.added s' ∧
      (s.added s').map Log.Entry.blank = turns.flatMap (Turn.entries s.controller.spec) := by
  obtain ⟨entries, log, blank⟩ := told.log
  have added : s.added s' = entries := by rw [Stage.added, log, List.drop_left]
  rw [added]
  exact ⟨log, blank⟩

/-- Two runs that take the same turns, with values of the same sizes. -/
theorem Stage.Told.lines {σ' : Type} {s left : Stage σ} {s' left' : Stage σ'} {turns : List Turn}
    (told : s.Told left turns) (told' : s'.Told left' turns)
    (spec : s.controller.spec = s'.controller.spec)
    (sizes : Log.valueSizes (s.added left) = Log.valueSizes (s'.added left')) :
    Log.redactedLines (s.added left) = Log.redactedLines (s'.added left') := by
  refine Log.redactedLines_congr ?_ sizes
  rw [told.added.2, told'.added.2, spec]

namespace Event

/-- The turns of an event in a buffer. -/
def turns (s : Stage Buffer) : Event → List Turn
  | .keystroke (.insert typed) => Buffer.alone.insertTurns Buffer.host typed s
  | .keystroke (.type keys) => Buffer.alone.typeTurns Buffer.host keys s
  | .keystroke .backspace => Buffer.alone.backspaceTurns Buffer.host s
  | .keystroke (.moveCaret _) | .settle => []
  | .overwrite t => (Buffer.alone.overwrite t s.fields).turns Buffer.host s
  | .detach => s.turns Buffer.host .detach
  | .attach => s.turns Buffer.host (.attach ())

theorem told (s : Stage Buffer) (event : Event) : s.Told (event.apply s) (event.turns s) := by
  cases event with
  | keystroke stroke =>
    cases stroke with
    | insert typed => exact Buffer.alone.told_insert Buffer.host s typed
    | type keys => exact Buffer.alone.told_type Buffer.host s keys
    | backspace => exact Buffer.alone.told_backspace Buffer.host s
    | moveCaret position => exact .silent rfl rfl
  | overwrite t => exact (Buffer.alone.overwrite t s.fields).told Buffer.host s
  | settle => exact .silent rfl rfl
  | detach => exact s.told_answer Buffer.host .detach
  | attach => exact s.told_answer Buffer.host (.attach ())

/-- The turns of each event of a run. -/
def courses : Stage Buffer → List Event → List (List Turn)
  | _, [] => []
  | s, event :: events => event.turns s :: courses (event.apply s) events

/-- The entries that each event of a run adds to the log. -/
def journal : Stage Buffer → List Event → List (List Log.Entry)
  | _, [] => []
  | s, event :: events => s.added (event.apply s) :: journal (event.apply s) events

/-- Step by step, the logs of two runs read alike that take the same turns with values of the same
sizes. -/
theorem journal_lines {s s' : Stage Buffer} {events events' : List Event}
    (spec : s.controller.spec = s'.controller.spec)
    (turns : courses s events = courses s' events')
    (sizes : (journal s events).map Log.valueSizes = (journal s' events').map Log.valueSizes) :
    (journal s events).map Log.redactedLines = (journal s' events').map Log.redactedLines := by
  induction events generalizing s s' events' with
  | nil =>
    cases events' with
    | nil => rfl
    | cons event' events' => cases turns
  | cons event events ih =>
    cases events' with
    | nil => cases turns
    | cons event' events' =>
      obtain ⟨turn, turns⟩ := List.cons.inj turns
      obtain ⟨size, sizes⟩ := List.cons.inj sizes
      -- The events may differ, and so may the stages, as long as the turns are the same.
      have told := event.told s
      have told' := event'.told s'
      rw [← turn] at told'
      have later : (event.apply s).controller.spec = (event'.apply s').controller.spec := by
        rw [told.spec, told'.spec, spec]
      exact List.cons_eq_cons.mpr ⟨told.lines told' spec size, ih later turns sizes⟩

end Event

/-- Where values must not be shown, the log tells nothing of them but their sizes. Two runs read
alike that met the same cases with values of the same sizes: of formatting, of clearing in either
mode, of any call of a controller with any host, with all that the host calls meanwhile, and, step
by step, of any events in two buffers. -/
theorem redacted_logs_read_alike :
    (∀ (spec : Spec) (t t' : Text),
      let entries := (spec.formatOutcome t).entries t
      let entries' := (spec.formatOutcome t').entries t'
      (spec.formatOutcome t).course = (spec.formatOutcome t').course →
      Log.valueSizes entries = Log.valueSizes entries' →
      Log.redactedLines entries = Log.redactedLines entries') ∧
    (∀ (spec : Spec) (mode : ClearMode) (t t' : Text),
      let entries := (spec.clearOutcome mode t).entries t
      let entries' := (spec.clearOutcome mode t').entries t'
      (spec.clearOutcome mode t).course = (spec.clearOutcome mode t').course →
      Log.valueSizes entries = Log.valueSizes entries' →
      Log.redactedLines entries = Log.redactedLines entries') ∧
    (∀ (σ ι σ' ι' : Type) (host : Host σ ι) (host' : Host σ' ι') (s : Stage σ) (s' : Stage σ')
        (call : Call ι) (call' : Call ι'),
      let entries := s.added (s.answer host.reshape call).1
      let entries' := s'.added (s'.answer host'.reshape call').1
      s.controller.spec = s'.controller.spec →
      s.turns host call = s'.turns host' call' →
      Log.valueSizes entries = Log.valueSizes entries' →
      Log.redactedLines entries = Log.redactedLines entries') ∧
    (∀ (s s' : Stage Buffer) (events events' : List Event),
      s.controller.spec = s'.controller.spec →
      Event.courses s events = Event.courses s' events' →
      (Event.journal s events).map Log.valueSizes = (Event.journal s' events').map Log.valueSizes →
      (Event.journal s events).map Log.redactedLines =
        (Event.journal s' events').map Log.redactedLines) := by
  refine ⟨fun spec t t' => ?_, fun spec mode t t' => ?_,
    fun σ ι σ' ι' host host' s s' call call' => ?_, fun s s' events events' => Event.journal_lines⟩
  · intro entries entries' course sizes
    refine Log.redactedLines_congr ?_ sizes
    rw [spec.blank_formatEntries t, spec.blank_formatEntries t', course]
  · intro entries entries' course sizes
    refine Log.redactedLines_congr ?_ sizes
    rw [spec.blank_clearEntries mode t, spec.blank_clearEntries mode t', course]
  · intro entries entries' spec turns sizes
    have told := s.told_answer host call
    have told' := s'.told_answer host' call'
    rw [← turns] at told'
    exact told.lines told' spec sizes

/-- Two buffers with the mask `##-##`, in which different keys are typed and the last one deleted. The
third key makes the controller write a hyphen, of which it is told by the buffer. -/
theorem other_digits_read_alike :
    let s := Buffer.opened (Spec.ofPattern ['#', '#', '-', '#', '#'])
    let typed (keys : Text) : List Event := [.keystroke (.type keys), .keystroke .backspace]
    let events := typed ['1', '2', 'a']
    let events' := typed ['9', 'x', '7']
    (Event.courses s events = Event.courses s events' ∧
      (Event.journal s events).map Log.valueSizes = (Event.journal s events').map Log.valueSizes) ∧
    (Event.journal s events).map List.length = [13, 5] ∧
    (Event.journal s events).map Log.redactedLines =
      (Event.journal s events').map Log.redactedLines := by
  intro s typed events events'
  have turns : Event.courses s events = Event.courses s events' := by decide +kernel
  have sizes : (Event.journal s events).map Log.valueSizes =
    (Event.journal s events').map Log.valueSizes := by decide +kernel
  exact ⟨⟨turns, sizes⟩, by decide +kernel,
    redacted_logs_read_alike.2.2.2 s s events events' rfl turns sizes⟩

end MaskedInput.Live
