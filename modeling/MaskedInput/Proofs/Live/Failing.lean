import MaskedInput.Proofs.Live.Pasts
import MaskedInput.Proofs.Live.Reentrancy

/-!
# Hosts that fail

A host may fail in the middle of a write, after it has called the controller in any way and any
number of times. The call from outside fails with it, but the controller is left as it was: it
waits, it knows the text that it knew before, and every part that was lent out is back. What has
happened remains in the log and in the records only, and nothing that a controller does later
depends on these. So whatever is done next is done as if the host had never been asked to write.
-/
namespace MaskedInput.Live

variable {σ ι : Type}

/-- Between two calls from outside: no part is lent out, and no field is written to. -/
structure LentStage.Ready (w : LentStage σ ι) : Prop where
  rest : w.AtRest
  idle : w.session.value ≠ some .writing

/-- The stage with a past: the log and the records of `past` come first. -/
def LentStage.behind (w past : LentStage σ ι) : LentStage σ ι :=
  { w with
    log := past.log ++ w.log
    writes := past.writes ++ w.writes
    calls := past.calls ++ w.calls }

theorem LentStage.writing_begun (w : LentStage σ ι) (current : Text)
    (session : w.session = { value := some .waiting, readers := 1 })
    (formatted : w.formatted = { value := w.formatted.value }) : (w.begun current).Writing := by
  refine ⟨?_, formatted⟩
  simp only [begun, note, withState, session]
  rfl

theorem Host.reformat_of_failure {host : Host σ ι} {nested : Reformat σ ι} {field : ι}
    {w written : LentStage σ ι}
    (write : host.writeLent nested field (host.text field w.fields)
      (w.begun (host.text field w.fields)) = (written, .hostFailed)) :
    host.reformat nested field w = (written.withState .waiting, .hostFailed) := by
  unfold reformat
  simp only [write]

theorem LentStage.after_detached (reformat : Reformat σ ι) (field : ι) (w : LentStage σ ι)
    (session : w.session = { value := none }) :
    w.after reformat field = (w.note [Notice.notAttached], .returned none) := by
  simp only [after, session]
  rfl

theorem LentStage.detach_of_rest (w : LentStage σ ι) (rest : w.AtRest) :
    w.detach = { w with session := { value := none } } := by
  rw [detach, rest.1]
  rfl

/-- A controller that has just begun a session is ready. -/
theorem LentStage.ready_begun (w : LentStage σ ι)
    (formatted : w.formatted = { value := w.formatted.value }) (entries : List Log.Entry) :
    (LentStage.note { w with session := { value := some .waiting } } entries).Ready :=
  ⟨⟨rfl, formatted⟩, by simp [note]⟩

/-- The stage without what has happened so far. -/
def LentStage.withoutPast (w : LentStage σ ι) : LentStage σ ι :=
  { w with log := [], writes := [], calls := [] }

/-- Two stages that differ in the past only. -/
theorem LentStage.eq_behind {w past : LentStage σ ι} (spec : past.spec = w.spec)
    (session : past.session = w.session) (formatted : past.formatted = w.formatted)
    (fields : past.fields = w.fields) : past = w.withoutPast.behind past := by
  simp only [withoutPast, behind, List.append_nil, ← spec, ← session, ← formatted, ← fields]

section Past

variable (w past : LentStage σ ι)

theorem LentStage.note_behind (entries : List Log.Entry) :
    (w.behind past).note entries = (w.note entries).behind past := by
  simp only [note, behind, List.append_assoc]

theorem LentStage.record_behind (met : Option Session) (call : Call ι)
    (result : Result call.Answer) :
    (w.behind past).record met call result = (w.record met call result).behind past := by
  simp only [record, behind, List.append_assoc]

/-- In the middle of a write a script does not depend on the past. -/
theorem Script.runLent_behind_writing (reformat : Reformat σ ι) (script : Script σ ι)
    (writing : w.Writing) :
    script.runLent reformat (w.behind past) =
      ((script.runLent reformat w).1.behind past, (script.runLent reformat w).2) := by
  induction script generalizing w with
  | done fields => rfl
  | fail fields => rfl
  | ask fields call next ih =>
    -- The answer follows from what is lent out, so it is the same with the past and without.
    have moved : (w.withFields fields).Writing := ⟨writing.session, writing.formatted⟩
    have movedBehind : ((w.behind past).withFields fields).Writing :=
      ⟨writing.session, writing.formatted⟩
    have kept := w.kept_of_call writing fields call
    rw [runLent, runLent, LentStage.answer_writing reformat _ moved call,
      LentStage.answer_writing reformat _ movedBehind call]
    have onward := ih fields (call.answerWhileWriting w.spec w.formatted.value)
      (((w.withFields fields).note (call.entriesWhileWriting w.spec w.formatted.value)).record
        w.session.value call (.returned (call.answerWhileWriting w.spec w.formatted.value)))
      ⟨kept.session.trans writing.session, writing.formatted⟩
    rw [← LentStage.record_behind, ← LentStage.note_behind] at onward
    exact onward

theorem Host.writeLent_behind (host : Host σ ι) (nested : Reformat σ ι) (field : ι)
    (current : Text) (writing : w.Writing) :
    host.writeLent nested field current (w.behind past) =
      ((host.writeLent nested field current w).1.behind past,
        (host.writeLent nested field current w).2) := by
  have unpast : host.writeLent nested field current (w.behind past) =
      if fieldText w.spec current = current then (w.behind past, .returned ())
      else (host.overwrite field (fieldText w.spec current) w.fields).runLent nested
        { w.behind past with
          writes := (w.behind past).writes ++ [(field, fieldText w.spec current)] } := rfl
  rw [unpast, writeLent]
  split
  · rfl
  · have onward := Script.runLent_behind_writing
      { w with writes := w.writes ++ [(field, fieldText w.spec current)] } past nested
      (host.overwrite field (fieldText w.spec current) w.fields)
      ⟨writing.session, writing.formatted⟩
    simp only [LentStage.behind, ← List.append_assoc] at onward ⊢
    exact onward

theorem LentStage.begun_behind (current : Text) :
    (w.behind past).begun current = (w.begun current).behind past := by
  change (((w.behind past).note (clearEntries w.spec current)).withState .writing).note
    (formatEntries w.spec current) = _
  rw [note_behind]
  exact ((w.note _).withState .writing).note_behind past _

theorem LentStage.reshaped_behind (spec : Spec) (current : Text) :
    (w.behind past).reshaped spec current = (w.reshaped spec current).behind past := by
  have noted := (w.withState .waiting).note_behind past
    [Notice.reshaped current (fieldText spec current)]
  exact congrArg
    (fun left : LentStage σ ι => { left with formatted := { value := fieldText spec current } }) noted

/-- The reformatting of a field by a caller that has lent the session does not depend on the past. -/
theorem Host.reformat_behind (host : Host σ ι) (nested : Reformat σ ι) (field : ι)
    (session : w.session = { value := some .waiting, readers := 1 })
    (formatted : w.formatted = { value := w.formatted.value }) :
    host.reformat nested field (w.behind past) =
      ((host.reformat nested field w).1.behind past, (host.reformat nested field w).2) := by
  have writing := w.writing_begun (host.text field w.fields) session formatted
  obtain ⟨written, kept, ends, -⟩ := host.writeLent_refill nested field _ writing
  have free : written.formatted = { value := w.formatted.value } := kept.formatted.trans formatted
  obtain ⟨finished, ends⟩ : ∃ finished : Bool, host.writeLent nested field (host.text field w.fields)
      (w.begun (host.text field w.fields)) =
        (written, if finished then .returned () else .hostFailed) := ⟨_, ends⟩
  have behind := Host.writeLent_behind _ past host nested field (host.text field w.fields) writing
  rw [← LentStage.begun_behind, ends] at behind
  cases finished with
  | true =>
    rw [Host.reformat_of_write ends free, Host.reformat_of_write behind free]
    exact Prod.ext (written.reshaped_behind past _ _) rfl
  | false =>
    rw [Host.reformat_of_failure ends, Host.reformat_of_failure behind]
    rfl

/-- Reading a cell for the length of one question does not depend on the past. -/
theorem LentStage.question_behind {α β : Type} (cell : Cell α) (read : α → β) :
    (w.behind past).question cell read =
      ((w.question cell read).1.behind past, (w.question cell read).2) := by
  unfold question
  cases cell.lend? <;> rfl

theorem LentStage.noteChange_behind (entry : Log.Entry) :
    (w.behind past).noteChange entry =
      ((w.noteChange entry).1.behind past, (w.noteChange entry).2) := by
  have waits : (w.behind past).waits? = w.waits? := rfl
  unfold noteChange
  rw [waits]
  cases w.waits? with
  | none => rfl
  | some waits => exact Prod.ext (w.note_behind past _) rfl

theorem LentStage.detach_behind : (w.behind past).detach = w.detach.behind past := by
  have session : (w.behind past).session = w.session := rfl
  unfold detach
  rw [session]
  cases w.session.lendToWriter? with
  | none => exact w.note_behind past _
  | some lent => rfl

section Outer

variable (host : Host σ ι) (nested : Reformat σ ι)

theorem LentStage.after_behind (ready : w.Ready) (field : ι) :
    (w.behind past).after (host.reformat nested) field =
      ((w.after (host.reformat nested) field).1.behind past,
        (w.after (host.reformat nested) field).2) := by
  obtain ⟨⟨session, formatted⟩, idle⟩ := ready
  cases found : w.session.value with
  | none =>
    rw [found] at session
    rw [after_detached _ field w session, after_detached _ field (w.behind past) session]
    exact Prod.ext (w.note_behind past _) rfl
  | some state =>
    cases state with
    | writing => exact absurd found idle
    | waiting =>
      rw [found] at session
      have reformatted := Host.reformat_behind
        { w with session := { value := some .waiting, readers := 1 } } past host nested field rfl
        formatted
      rw [after_waiting _ field w session, after_waiting _ field (w.behind past) session]
      exact congrArg (fun r : LentStage σ ι × Result (Option CaretMove) =>
        (({ r.1 with session := r.1.session.giveBack } : LentStage σ ι), r.2)) reformatted

theorem LentStage.attach_behind (ready : w.Ready) (field : ι) :
    (w.behind past).attach (host.reformat nested) field =
      ((w.attach (host.reformat nested) field).1.behind past,
        (w.attach (host.reformat nested) field).2) := by
  have begun := LentStage.note_behind { w with session := { value := some .waiting } } past
    [Notice.attached]
  have waits := w.ready_begun ready.rest.2 [Notice.attached]
  rw [((w.behind past).attach_eq_after ready.rest ready.idle _ host.reshape field).1,
    (w.attach_eq_after ready.rest ready.idle _ host.reshape field).1,
    ← after_behind _ past host nested waits]
  exact congrArg (fun left => left.after (host.reformat nested) field) begun

/-- A call from outside does not depend on the past. -/
theorem LentStage.answer_behind (ready : w.Ready) (call : Call ι) :
    (w.behind past).answer (host.reformat nested) call =
      ((w.answer (host.reformat nested) call).1.behind past,
        (w.answer (host.reformat nested) call).2) := by
  cases call with
  | before old change => exact w.noteChange_behind past _
  | during new change => exact w.noteChange_behind past _
  | after field => exact w.after_behind past host nested ready field
  | attach field => exact w.attach_behind past host nested ready field
  | detach => exact Prod.ext (w.detach_behind past) rfl
  | accept typed =>
    exact w.question_behind past w.session
      fun session => if session == some .waiting then accepted typed else typed
  | session => exact w.question_behind past w.session id
  | attached => exact w.question_behind past w.session Option.isSome
  | formatted => exact w.question_behind past w.formatted id
  | clean =>
    have formatted : (w.behind past).formatted = w.formatted := rfl
    simp only [answer]
    rw [formatted]
    cases w.formatted.lend? with
    | none => rfl
    | some lent => exact Prod.ext (w.note_behind past _) rfl

/-- How a call from outside ends if the host fails in the middle of the write: nothing is taken over,
what the host has done to its fields stays done, and the calls that it made before it failed were
answered as a controller that writes must. `lone` is the end of the call in the account without
loans. -/
structure LentStage.CameToNothing (host : Host σ ι) (field : ι) (w : LentStage σ ι)
    (r : LentStage σ ι × Result (Option CaretMove))
    (lone : Stage σ × Option (Option CaretMove)) : Prop where
  result : r.2 = .hostFailed
  spec : r.1.spec = w.spec
  session : r.1.session = { value := some .waiting }
  formatted : r.1.formatted = w.formatted
  fields : r.1.fields = (host.refill w.stage.controller field w.fields).1
  writes : r.1.writes = w.writes ++ [(field, fieldText w.spec (host.text field w.fields))]
  calls : ∃ made, r.1.calls = w.calls ++ made ∧ ∀ c ∈ made, c.Deaf w.spec w.formatted.value
  agrees : lone = (r.1.stage, none)

/-- Only a host that is asked to write can fail. -/
theorem Host.differs_of_refill {k : Controller} {field : ι} {fields : σ}
    (fails : (host.refill k field fields).2 = false) :
    fieldText k.spec (host.text field fields) ≠ host.text field fields := by
  intro same
  rw [Host.refill, if_pos same] at fails
  cases fails

/-- A change of a field, notified to a controller that waits, if the host fails. -/
theorem LentStage.after_cameToNothing (field : ι)
    (session : w.session = { value := some .waiting })
    (formatted : w.formatted = { value := w.formatted.value }) (depth : Nat)
    (fails : (host.refill w.stage.controller field w.fields).2 = false) :
    CameToNothing host field w (w.after (host.reformat nested) field)
      (w.stage.after (host.reshapeWithin (depth + 1)) field) := by
  obtain ⟨written, write⟩ := w.exists_writeEnds host nested field formatted
  have ends := write.ends
  have agrees := write.agrees (host.reshapeWithin depth)
  rw [fails] at ends agrees
  have after : w.after (host.reformat nested) field =
      ({ written with session := { value := some .waiting } }, .hostFailed) := by
    rw [after_waiting _ field w session, Host.reformat_of_failure ends]
    simp only [LentStage.withState, write.session, Cell.giveBack]
    rfl
  have state : w.stage.controller.session = some .waiting := by
    change w.session.value = _
    rw [session]
  have asks := write.writes.trans
    (congrArg (w.writes ++ ·) (if_neg (host.differs_of_refill fails)))
  rw [after]
  refine ⟨rfl, write.spec, rfl, write.formatted.trans formatted.symm, write.fields, asks,
    write.calls, ?_⟩
  simp only [Stage.after, state]
  rw [Host.reshapeWithin_eq, agrees]
  rfl

theorem LentStage.after_ready (ready : w.Ready) (field : ι) :
    (w.after (host.reformat nested) field).1.Ready := by
  have session := ready.rest.1
  have formatted := ready.rest.2
  cases found : w.session.value with
  | none =>
    rw [found] at session
    rw [after_detached _ field w session]
    exact ⟨ready.rest, ready.idle⟩
  | some state =>
    cases state with
    | writing => exact absurd found ready.idle
    | waiting =>
      rw [found] at session
      have waits {r : LentStage σ ι} (left : r.session = { value := some .waiting })
          (text : r.formatted = { value := r.formatted.value }) : r.Ready :=
        ⟨⟨by rw [left], text⟩, by rw [left]; simp⟩
      cases through : (host.refill w.stage.controller field w.fields).2 with
      | true =>
        have tookUp := w.after_tookUp host nested field session formatted 0 through
        exact waits tookUp.session (by rw [tookUp.formatted])
      | false =>
        have nothing := w.after_cameToNothing host nested field session formatted 0 through
        exact waits nothing.session (by rw [nothing.formatted]; exact formatted)

theorem LentStage.question_ready {α β : Type} (ready : w.Ready) (cell : Cell α) (read : α → β) :
    (w.question cell read).1.Ready := by
  unfold question
  cases cell.lend? <;> exact ready

/-- No call from outside leaves a part lent out or a write unfinished, also if the host fails. -/
theorem LentStage.answer_ready (ready : w.Ready) (call : Call ι) :
    (w.answer (host.reformat nested) call).1.Ready := by
  have noted (entries : List Log.Entry) : (w.note entries).Ready := ⟨ready.rest, ready.idle⟩
  have told (entry : Log.Entry) : (w.noteChange entry).1.Ready := by
    unfold noteChange
    cases w.waits? with
    | none => exact ready
    | some waits => exact noted _
  cases call with
  | before old change => exact told _
  | during new change => exact told _
  | after field => exact w.after_ready host nested ready field
  | attach field =>
    rw [answer, (w.attach_eq_after ready.rest ready.idle _ host.reshape field).1]
    exact after_ready _ host nested (w.ready_begun ready.rest.2 _) field
  | detach =>
    rw [answer, w.detach_of_rest ready.rest]
    exact ⟨⟨rfl, ready.rest.2⟩, by simp⟩
  | accept typed =>
    exact w.question_ready ready w.session
      fun session => if session == some .waiting then accepted typed else typed
  | session => exact w.question_ready ready w.session id
  | attached => exact w.question_ready ready w.session Option.isSome
  | formatted => exact w.question_ready ready w.formatted id
  | clean =>
    simp only [answer]
    cases w.formatted.lend? with
    | none => exact ready
    | some lent => exact noted _

/-- Whatever is called from outside, in the end the controller is ready for the next call. -/
theorem Script.runLent_ready (script : Script σ ι) (ready : w.Ready) :
    (script.runLent (host.reformat nested) w).1.Ready := by
  induction script generalizing w with
  | done fields => exact ⟨ready.rest, ready.idle⟩
  | fail fields => exact ⟨ready.rest, ready.idle⟩
  | ask fields call next ih =>
    have answered := LentStage.answer_ready (w.withFields fields) host nested
      ⟨ready.rest, ready.idle⟩ call
    rw [runLent]
    cases found : (w.withFields fields).answer (host.reformat nested) call with
    | mk left result =>
      rw [found] at answered
      cases result with
      | returned a => exact ih left.fields a _ ⟨answered.rest, answered.idle⟩
      | hostFailed => exact ⟨answered.rest, answered.idle⟩
      | loanRefused => exact ⟨answered.rest, answered.idle⟩

/-- Calls from outside do not depend on the past. -/
theorem Script.runLent_behind (script : Script σ ι) (ready : w.Ready) :
    script.runLent (host.reformat nested) (w.behind past) =
      ((script.runLent (host.reformat nested) w).1.behind past,
        (script.runLent (host.reformat nested) w).2) := by
  induction script generalizing w with
  | done fields => rfl
  | fail fields => rfl
  | ask fields call next ih =>
    have placed : (w.withFields fields).Ready := ⟨ready.rest, ready.idle⟩
    have behind := LentStage.answer_behind (w.withFields fields) past host nested placed call
    have answered := LentStage.answer_ready (w.withFields fields) host nested placed call
    change ((w.behind past).withFields fields).answer (host.reformat nested) call = _ at behind
    rw [runLent, runLent, behind]
    cases found : (w.withFields fields).answer (host.reformat nested) call with
    | mk left result =>
      rw [found] at answered
      have recorded := left.record_behind past w.session.value call result
      cases result with
      | returned a =>
        have onward := ih left.fields a (left.record w.session.value call (.returned a))
          ⟨answered.rest, answered.idle⟩
        rw [← recorded] at onward
        exact onward
      | hostFailed => exact Prod.ext recorded rfl
      | loanRefused => exact Prod.ext recorded rfl

end Outer

end Past

/-- Every call is taken again: the controller waits with the text `old`, filters what the user
inserts, and neither attaching nor detaching is refused. -/
structure LentStage.TakesCalls (w : LentStage σ ι) (old : Text) : Prop where
  session (reformat : Reformat σ ι) : w.answer reformat .session = (w, .returned (some .waiting))
  attached (reformat : Reformat σ ι) : w.answer reformat .attached = (w, .returned true)
  formatted (reformat : Reformat σ ι) : w.answer reformat .formatted = (w, .returned old)
  filters (reformat : Reformat σ ι) (typed : Text) :
    w.answer reformat (.accept typed) = (w, .returned (accepted typed))
  attaches (reformat : Reformat σ ι) (field : ι) :
    w.answer reformat (.attach field) = (w.note [Notice.attached]).after reformat field
  detaches (reformat : Reformat σ ι) :
    w.answer reformat .detach = ({ w with session := { value := none } }, .returned ())

theorem LentStage.takesCalls {w : LentStage σ ι} {old : Text}
    (session : w.session = { value := some .waiting }) (formatted : w.formatted = { value := old }) :
    w.TakesCalls old := by
  have rest : w.AtRest := ⟨by rw [session], by rw [formatted]⟩
  refine ⟨fun _ => ?_, fun _ => ?_, fun _ => ?_, fun _ _ => ?_, fun _ _ => ?_, fun _ => ?_⟩
  · simp only [answer, question, session]; rfl
  · simp only [answer, question, session]; rfl
  · simp only [answer, question, formatted]; rfl
  · simp only [answer, question, session]; rfl
  · rw [answer, attach, session]
    change (LentStage.note { w with session := { value := some .waiting } } _).after _ _ = _
    rw [← session]
  · rw [answer, w.detach_of_rest rest]

/-- The failure of a call does not show later: whatever is called from outside then, with whatever
host, ends as it would if the call had not been made, with the same answers, the same writes, the
same calls by the host, the same fields, the same controller and the same new entries in the log, and
the controller is ready again. `later` says so with loans, `laterLone` without. -/
structure LentStage.ForgottenLater (w : LentStage σ ι) (left : LentStage σ ι) (lone : Stage σ) :
    Prop where
  later (other : Host σ ι) (nested : Reformat σ ι) (script : Script σ ι) : ∃ more result,
    LentStage.Ready more ∧
      script.runLent (other.reformat nested) left = (LentStage.behind more left, result) ∧
      script.runLent (other.reformat nested) (w.withFields left.fields) =
        (LentStage.behind more w, result)
  laterLone (other : Host σ ι) (depth : Nat) (script : Script σ ι) : ∃ more finished,
    script.run (other.reshapeWithin depth) lone = (Stage.behind more lone.log, finished) ∧
      script.run (other.reshapeWithin depth) (w.stage.withFields lone.fields) =
        (Stage.behind more w.log, finished)

/-- How a call comes to nothing is the same whether the session had begun before it or begins with it,
and whatever was logged before. -/
theorem LentStage.CameToNothing.elsewhere {host : Host σ ι} {field : ι} {w : LentStage σ ι}
    {r : LentStage σ ι × Result (Option CaretMove)} {lone : Stage σ × Option (Option CaretMove)}
    (nothing : CameToNothing host field w r lone) (session : Cell (Option Session))
    (log : List Log.Entry) : CameToNothing host field { w with session, log } r lone :=
  ⟨nothing.result, nothing.spec, nothing.session, nothing.formatted, nothing.fields, nothing.writes,
    nothing.calls, nothing.agrees⟩

theorem LentStage.CameToNothing.forgottenLater {host : Host σ ι} {field : ι} {w : LentStage σ ι}
    {r : LentStage σ ι × Result (Option CaretMove)} {lone : Stage σ × Option (Option CaretMove)}
    (nothing : CameToNothing host field w r lone) (session : w.session = { value := some .waiting })
    (formatted : w.formatted = { value := w.formatted.value }) :
    ForgottenLater w r.1 lone.1 := by
  -- The stage after the failure and the one without the call are the same stage, each behind its own
  -- past, so that both go on as this one does.
  let fresh := (w.withFields r.1.fields).withoutPast
  have ready : fresh.Ready :=
    ⟨⟨by change w.session = { value := w.session.value }; rw [session], formatted⟩,
      by change w.session.value ≠ _; rw [session]; simp⟩
  have failed : r.1 = fresh.behind r.1 :=
    LentStage.eq_behind nothing.spec (nothing.session.trans session.symm) nothing.formatted rfl
  have uncalled : w.withFields r.1.fields = fresh.behind w :=
    LentStage.eq_behind rfl rfl rfl rfl
  constructor
  · intro other nested script
    have behind (past : LentStage σ ι) := script.runLent_behind fresh past other nested ready
    exact ⟨_, _, script.runLent_ready fresh other nested ready,
      (congrArg (script.runLent _) failed).trans (behind r.1),
      (congrArg (script.runLent _) uncalled).trans (behind w)⟩
  · intro other depth script
    have behind (past : List Log.Entry) :=
      script.run_behind (other.forgetful_reshapeWithin depth) fresh.stage past
    rw [nothing.agrees]
    exact ⟨_, _, (congrArg (fun w => script.run _ (LentStage.stage w)) failed).trans (behind r.1.log),
      (congrArg (fun w => script.run _ (LentStage.stage w)) uncalled).trans (behind w.log)⟩

theorem LentStage.after_hostFailed_iff (host : Host σ ι) (nested : Reformat σ ι) (field : ι)
    (w : LentStage σ ι) (session : w.session = { value := some .waiting })
    (formatted : w.formatted = { value := w.formatted.value }) :
    (w.after (host.reformat nested) field).2 = .hostFailed ↔
      (host.refill w.stage.controller field w.fields).2 = false := by
  constructor
  · intro failed
    cases through : (host.refill w.stage.controller field w.fields).2 with
    | false => rfl
    | true =>
      have tookUp := w.after_tookUp host nested field session formatted 0 through
      rw [tookUp.result] at failed
      cases failed
  · intro fails
    exact (w.after_cameToNothing host nested field session formatted 0 fails).result

/-- A call from outside ends with the failure of the host exactly if the host fails on the way that it
takes, each of its own calls answered as a controller that writes does. Then nothing is taken over
and no part stays lent out, every call is taken again, and what is done later is done as if the call
had not been made. For a field that the controller is to be attached to, the comparison is with a
controller that is attached already. The account without loans comes to the same end. -/
theorem LentStage.failed_call_forgotten (host : Host σ ι) (nested : Reformat σ ι) (field : ι)
    (w : LentStage σ ι) (rest : w.AtRest) (depth : Nat) :
    (w.session.value = some .waiting →
      let r := w.after (host.reformat nested) field
      let lone := w.stage.after (host.reshapeWithin (depth + 1)) field
      (r.2 = .hostFailed ↔ (host.refill w.stage.controller field w.fields).2 = false) ∧
      (r.2 = .hostFailed →
        CameToNothing host field w r lone ∧ r.1.TakesCalls w.formatted.value ∧
          ForgottenLater w r.1 lone.1)) ∧
    (w.session.value ≠ some .writing →
      let r := w.attach (host.reformat nested) field
      let lone := w.stage.attach (host.reshapeWithin (depth + 1)) field
      (r.2 = .hostFailed ↔ (host.refill w.stage.controller field w.fields).2 = false) ∧
      (r.2 = .hostFailed →
        CameToNothing host field w r lone ∧ r.1.TakesCalls w.formatted.value ∧
          ForgottenLater { w with session := { value := some .waiting } } r.1 lone.1)) := by
  refine ⟨fun waits => ?_, fun idle => ?_⟩
  · have session := rest.1
    rw [waits] at session
    have exactly := w.after_hostFailed_iff host nested field session rest.2
    refine ⟨exactly, fun failed => ?_⟩
    have nothing := w.after_cameToNothing host nested field session rest.2 depth (exactly.mp failed)
    exact ⟨nothing, LentStage.takesCalls nothing.session (nothing.formatted.trans rest.2),
      nothing.forgottenLater session rest.2⟩
  · let begun := LentStage.note { w with session := { value := some .waiting } } [Notice.attached]
    obtain ⟨lent, lone⟩ := w.attach_eq_after rest idle (host.reformat nested)
      (host.reshapeWithin (depth + 1)) field
    have exactly := begun.after_hostFailed_iff host nested field rfl rest.2
    intro r l
    change r = begun.after (host.reformat nested) field at lent
    change l = begun.stage.after (host.reshapeWithin (depth + 1)) field at lone
    rw [lent, lone]
    refine ⟨exactly, fun failed => ?_⟩
    have nothing := begun.after_cameToNothing host nested field rfl rest.2 depth (exactly.mp failed)
    exact ⟨nothing.elsewhere w.session w.log,
      LentStage.takesCalls nothing.session (nothing.formatted.trans rest.2),
      (nothing.elsewhere { value := some .waiting } w.log).forgottenLater rfl rest.2⟩

/-- A host with two fields that calls the controller in the middle of a write, writes a piece of the
text and fails. -/
def quitter : Host (Text × Text) Bool where
  text field fields := if field then fields.1 else fields.2
  overwrite field t fields :=
    .ask fields (.after !field) fun fields _ =>
      .ask fields .detach fun fields _ =>
        .ask fields (.accept ['-']) fun fields (typed : Text) =>
          .fail (if field then (t.take 1 ++ typed, fields.2) else (fields.1, t.take 1 ++ typed))

/-- The host fails while it is to show `12-a`: the piece that it wrote stays, and the controller still
waits with `12`. -/
theorem quitter_forgotten :
    let w : LentStage (Text × Text) Bool :=
      { spec := Spec.ofPattern ['#', '#', '-', '#'], session := { value := some .waiting }
        formatted := { value := ['1', '2'] }, fields := (['1', '2', 'a'], []), log := []
        writes := [], calls := [] }
    let r := w.after (quitter.reformat fun _ w => (w, .loanRefused)) true
    (w.AtRest ∧ w.session.value = some .waiting ∧ r.2 = .hostFailed) ∧
      r.1.calls.length = 3 ∧ r.1.fields = (['1', '-'], []) ∧
      r.1.session = { value := some .waiting } ∧ r.1.formatted = { value := ['1', '2'] } ∧
      r.1.answer (quitter.reformat fun _ w => (w, .loanRefused)) (.accept ['-']) =
        (r.1, .returned []) := by
  intro w r
  have fails : quitter.refill w.stage.controller true w.fields = ((['1', '-'], []), false) := by
    decide +kernel
  obtain ⟨exactly, forgotten⟩ := (w.failed_call_forgotten quitter (fun _ w => (w, .loanRefused)) true
    ⟨rfl, rfl⟩ 0).1 rfl
  have failed := exactly.mpr (by rw [fails])
  obtain ⟨nothing, takes, -⟩ := forgotten failed
  refine ⟨⟨⟨rfl, rfl⟩, rfl, failed⟩, by decide +kernel, ?_, nothing.session, nothing.formatted,
    takes.filters _ _⟩
  rw [nothing.fields, fails]

end MaskedInput.Live
