import MaskedInput.Proofs.Live.Lending
import MaskedInput.Proofs.Live.Reshaping

/-!
# Calls in the middle of a write

While a controller writes to a field the host may call it in any way and any number of times. Every
such call is answered as a controller that writes must answer it, whatever a second reformatting
would do, because none is begun: the session is lent out and does not wait. So the account with
loans and the one without agree, no loan is ever refused where that would matter, and after the
write the controller waits again with the text that it meant to write.

Here the host comes through with every write; `Proofs.Live.Failing` is about hosts that fail.
-/
namespace MaskedInput.Live

variable {σ ι : Type}

/-- A controller that writes: its session is lent to a reader, its text is not lent out. -/
structure LentStage.Writing (w : LentStage σ ι) : Prop where
  session : w.session = { value := some .writing, readers := 1 }
  formatted : w.formatted = { value := w.formatted.value }

/-- A call in the middle of a write is answered as without loans, and no loan is refused. -/
theorem LentStage.answer_writing (reformat : Reformat σ ι) (w : LentStage σ ι)
    (writing : w.Writing) (call : Call ι) :
    w.answer reformat call =
      (w.note (call.entriesWhileWriting w.spec w.formatted.value),
        .returned (call.answerWhileWriting w.spec w.formatted.value)) := by
  have session := writing.session
  have formatted := writing.formatted
  have same : w = w.note [] := by simp [note]
  have deaf : w.waits? = some false := by rw [waits?, session]; rfl
  cases call with
  | before old change => simp only [answer, noteChange, deaf]; rfl
  | during new change => simp only [answer, noteChange, deaf]; rfl
  | after field => simp only [answer, after, session]; rfl
  | attach field => simp only [answer, attach, session]; rfl
  | detach => simp only [answer, detach, session]; rfl
  | accept typed =>
    rw [Call.entriesWhileWriting, ← same]
    simp only [answer, question, session]; rfl
  | session =>
    rw [Call.entriesWhileWriting, ← same]
    simp only [answer, question, session]; rfl
  | attached =>
    rw [Call.entriesWhileWriting, ← same]
    simp only [answer, question, session]; rfl
  | formatted =>
    rw [Call.entriesWhileWriting, ← same]
    simp only [answer, question]
    rw [formatted]; rfl
  | clean =>
    simp only [answer]
    rw [formatted]; rfl

/-- A nested call that met a controller that writes, left it so, and was answered accordingly. -/
def NestedCall.Deaf (spec : Spec) (old : Text) (c : NestedCall ι) : Prop :=
  c.met = some .writing ∧ c.left = some .writing ∧
    c.result = .returned (c.call.answerWhileWriting spec old)

/-- From one point to a later one in the middle of a write: nothing was written, every cell is as it
was, and all calls made meanwhile were answered as a controller that writes must. -/
structure LentStage.Kept (w w' : LentStage σ ι) : Prop where
  spec : w'.spec = w.spec
  session : w'.session = w.session
  formatted : w'.formatted = w.formatted
  writes : w'.writes = w.writes
  calls : ∃ made, w'.calls = w.calls ++ made ∧ ∀ c ∈ made, c.Deaf w.spec w.formatted.value

theorem LentStage.Kept.trans {w₁ w₂ w₃ : LentStage σ ι} (first : w₁.Kept w₂) (second : w₂.Kept w₃) :
    w₁.Kept w₃ := by
  obtain ⟨before, earlier, deafBefore⟩ := first.calls
  obtain ⟨after, later, deafAfter⟩ := second.calls
  refine ⟨second.spec.trans first.spec, second.session.trans first.session,
    second.formatted.trans first.formatted, second.writes.trans first.writes,
    before ++ after, ?_, ?_⟩
  · rw [later, earlier, List.append_assoc]
  · intro c member
    rcases List.mem_append.mp member with inside | inside
    · exact deafBefore c inside
    · simpa only [first.spec, first.formatted] using deafAfter c inside

/-- One nested call, on record. -/
theorem LentStage.kept_of_call (w : LentStage σ ι) (writing : w.Writing) (fields : σ)
    (call : Call ι) :
    w.Kept (((w.withFields fields).note (call.entriesWhileWriting w.spec w.formatted.value)).record
      w.session.value call (.returned (call.answerWhileWriting w.spec w.formatted.value))) := by
  refine ⟨rfl, rfl, rfl, rfl, [_], rfl, ?_⟩
  intro c member
  rw [List.mem_singleton.mp member]
  have state : w.session.value = some .writing := by rw [writing.session]
  exact ⟨state, state, rfl⟩

/-- A script that runs in the middle of a write comes to the same end with loans and without, and
leaves the controller as it was, whatever reformatting would do. -/
theorem Script.runLent_writing (reformat : Reformat σ ι) (reshape : Reshape σ ι)
    (script : Script σ ι) (w : LentStage σ ι) (writing : w.Writing) :
    w.Kept (script.runLent reformat w).1 ∧
      (script.runLent reformat w).1.stage = (script.run reshape w.stage).1 ∧
      (script.runLent reformat w).2 =
        if (script.run reshape w.stage).2 then .returned () else .hostFailed := by
  induction script generalizing w with
  | done fields => exact ⟨⟨rfl, rfl, rfl, rfl, [], by simp [runLent, LentStage.withFields], by simp⟩,
      rfl, rfl⟩
  | fail fields => exact ⟨⟨rfl, rfl, rfl, rfl, [], by simp [runLent, LentStage.withFields], by simp⟩,
      rfl, rfl⟩
  | ask fields call next ih =>
    have state : (w.stage.withFields fields).controller.session = some .writing := by
      change w.session.value = _
      rw [writing.session]
    have moved : (w.withFields fields).Writing := ⟨writing.session, writing.formatted⟩
    have kept := w.kept_of_call writing fields call
    have onward := ih fields (call.answerWhileWriting w.spec w.formatted.value)
      (((w.withFields fields).note (call.entriesWhileWriting w.spec w.formatted.value)).record
        w.session.value call (.returned (call.answerWhileWriting w.spec w.formatted.value)))
      ⟨kept.session.trans writing.session, writing.formatted⟩
    rw [runLent, run, LentStage.answer_writing reformat _ moved call,
      Stage.answer_writing reshape _ state call]
    exact ⟨kept.trans onward.1, onward.2⟩

/-- What a call has the host write that takes up a field with the text `current`. -/
def LentStage.asked (spec : Spec) (field : ι) (current : Text) : List (ι × Text) :=
  if fieldText spec current = current then [] else [(field, fieldText spec current)]

/-- How a call from outside ends that took up a field: the text that the field should show is taken
over, it was written once if the field showed another text and not at all if it did not, and all
calls made meanwhile were answered as a controller that writes must. `lone` is the end of the call in
the account without loans. -/
structure LentStage.TookUp (host : Host σ ι) (field : ι) (w : LentStage σ ι)
    (r : LentStage σ ι × Result (Option CaretMove))
    (lone : Stage σ × Option (Option CaretMove)) : Prop where
  result : r.2 = .returned (caretMove w.spec (host.text field r.1.fields))
  spec : r.1.spec = w.spec
  session : r.1.session = { value := some .waiting }
  formatted : r.1.formatted = { value := fieldText w.spec (host.text field w.fields) }
  writes : r.1.writes = w.writes ++ LentStage.asked w.spec field (host.text field w.fields)
  calls : ∃ made, r.1.calls = w.calls ++ made ∧ ∀ c ∈ made, c.Deaf w.spec w.formatted.value
  agrees : lone = (r.1.stage, some (caretMove w.spec (host.text field r.1.fields)))

/-- The same with loans. -/
def LentStage.reshaped (w : LentStage σ ι) (spec : Spec) (current : Text) : LentStage σ ι :=
  { (w.withState .waiting).note [Notice.reshaped current (fieldText spec current)] with
    formatted := { value := fieldText spec current } }

theorem Host.reformat_of_write {host : Host σ ι} {nested : Reformat σ ι} {field : ι}
    {w written : LentStage σ ι} {old : Text}
    (write : host.writeLent nested field (host.text field w.fields)
      (w.begun (host.text field w.fields)) = (written, .returned ()))
    (free : written.formatted = { value := old }) :
    host.reformat nested field w =
      (written.reshaped w.spec (host.text field w.fields),
        .returned (caretMove w.spec (host.text field written.fields))) := by
  have freed : ((written.withState .waiting).note [Notice.reshaped (host.text field w.fields)
      (fieldText w.spec (host.text field w.fields))]).formatted.lendToWriter? =
        some { value := old, writer := true } := by
    change written.formatted.lendToWriter? = _
    rw [free]
    rfl
  unfold reformat
  simp only [write, freed]
  rfl

/-- The write of what a field should show comes to the same end with loans and without, whether the
host comes through or fails. -/
theorem Host.writeLent_refill (host : Host σ ι) (nested : Reformat σ ι) (field : ι)
    (w : LentStage σ ι) (writing : w.Writing) :
    ∃ written,
      LentStage.Kept
        { w with writes := w.writes ++ LentStage.asked w.spec field (host.text field w.fields) }
        written ∧
      host.writeLent nested field (host.text field w.fields) w = (written,
        if (host.refill w.stage.controller field w.fields).2 then .returned () else .hostFailed) ∧
      ∀ reshape, host.write reshape field (host.text field w.fields) w.stage =
        (written.stage, (host.refill w.stage.controller field w.fields).2) := by
  by_cases same : fieldText w.spec (host.text field w.fields) = host.text field w.fields
  · have through : host.refill w.stage.controller field w.fields = (w.fields, true) := if_pos same
    refine ⟨w, ?_, ?_, fun reshape => ?_⟩
    · rw [LentStage.asked, if_pos same, List.append_nil]
      exact ⟨rfl, rfl, rfl, rfl, [], by simp, by simp⟩
    · rw [through]
      exact if_pos same
    · rw [through]
      exact if_pos same
  · have state : w.stage.controller.session = some .writing := by
      change w.session.value = _
      rw [writing.session]
    have run (reshape : Reshape σ ι) := Script.runLent_writing nested reshape
      (host.overwrite field (fieldText w.spec (host.text field w.fields)) w.fields)
      { w with writes := w.writes ++ [(field, fieldText w.spec (host.text field w.fields))] }
      ⟨writing.session, writing.formatted⟩
    have asks (reshape : Reshape σ ι) : host.write reshape field (host.text field w.fields) w.stage =
        (host.overwrite field (fieldText w.spec (host.text field w.fields)) w.fields).run reshape
          w.stage := if_neg same
    have through (reshape : Reshape σ ι) :
        (host.write reshape field (host.text field w.fields) w.stage).2 =
          (host.refill w.stage.controller field w.fields).2 := by
      obtain ⟨entries, ends⟩ := host.write_of_refill reshape field w.stage state
      exact congrArg Prod.snd ends
    rw [LentStage.asked, if_neg same]
    refine ⟨_, (run host.reshape).1, ?_, fun reshape => ?_⟩
    · rw [writeLent, if_neg same, ← through host.reshape, asks]
      exact Prod.ext rfl (run host.reshape).2.2
    · rw [← through reshape, asks]
      exact Prod.ext (run reshape).2.1.symm rfl

/-- A controller that waits lends its session for as long as the field is reformatted. -/
theorem LentStage.after_waiting (reformat : Reformat σ ι) (field : ι) (w : LentStage σ ι)
    (session : w.session = { value := some .waiting }) :
    w.after reformat field =
      let r := reformat field { w with session := { value := some .waiting, readers := 1 } }
      ({ r.1 with session := r.1.session.giveBack }, r.2) := by
  simp only [after, session, Cell.lend?, Bool.false_eq_true, if_false, Nat.zero_add]

/-- How the write ends with which a controller that waits takes up a field. Its session is lent then;
whether the host comes through or fails follows from the field, with loans and without. -/
structure LentStage.WriteEnds (host : Host σ ι) (nested : Reformat σ ι) (field : ι)
    (w written : LentStage σ ι) : Prop where
  spec : written.spec = w.spec
  session : written.session = { value := some .writing, readers := 1 }
  formatted : written.formatted = { value := w.formatted.value }
  fields : written.fields = (host.refill w.stage.controller field w.fields).1
  writes : written.writes = w.writes ++ LentStage.asked w.spec field (host.text field w.fields)
  calls : ∃ made, written.calls = w.calls ++ made ∧ ∀ c ∈ made, c.Deaf w.spec w.formatted.value
  ends : host.writeLent nested field (host.text field w.fields)
      (LentStage.begun { w with session := { value := some .waiting, readers := 1 } }
        (host.text field w.fields)) =
    (written, if (host.refill w.stage.controller field w.fields).2 then .returned () else .hostFailed)
  agrees (reshape : Reshape σ ι) : host.write reshape field (host.text field w.stage.fields)
      (w.stage.begun (host.text field w.stage.fields)) =
    (written.stage, (host.refill w.stage.controller field w.fields).2)

theorem LentStage.exists_writeEnds (host : Host σ ι) (nested : Reformat σ ι) (field : ι)
    (w : LentStage σ ι) (formatted : w.formatted = { value := w.formatted.value }) :
    ∃ written, w.WriteEnds host nested field written := by
  obtain ⟨written, kept, ends, agrees⟩ := host.writeLent_refill nested field
    (LentStage.begun { w with session := { value := some .waiting, readers := 1 } }
      (host.text field w.fields)) ⟨rfl, formatted⟩
  obtain ⟨entries, refilled⟩ := host.write_begun host.reshape field w.stage
  have fields := congrArg (fun r : Stage σ × Bool => r.1.fields)
    ((agrees host.reshape).symm.trans refilled)
  exact ⟨written, kept.spec, kept.session, kept.formatted.trans formatted, fields, kept.writes,
    kept.calls, ends, agrees⟩

/-- A change of a field, notified to a controller that waits, if the host comes through. -/
theorem LentStage.after_tookUp (host : Host σ ι) (nested : Reformat σ ι) (field : ι)
    (w : LentStage σ ι) (session : w.session = { value := some .waiting })
    (formatted : w.formatted = { value := w.formatted.value }) (depth : Nat)
    (through : (host.refill w.stage.controller field w.fields).2 = true) :
    TookUp host field w (w.after (host.reformat nested) field)
      (w.stage.after (host.reshapeWithin (depth + 1)) field) := by
  obtain ⟨written, write⟩ := w.exists_writeEnds host nested field formatted
  have ends := write.ends
  have agrees := write.agrees (host.reshapeWithin depth)
  rw [through] at ends agrees
  have after : w.after (host.reformat nested) field =
      ({ written.reshaped w.spec (host.text field w.fields) with
          session := { value := some .waiting } },
        .returned (caretMove w.spec (host.text field written.fields))) := by
    rw [after_waiting _ field w session, Host.reformat_of_write ends write.formatted]
    simp only [LentStage.reshaped, LentStage.withState, LentStage.note, write.session,
      Cell.giveBack]
    rfl
  have state : w.stage.controller.session = some .waiting := by
    change w.session.value = _
    rw [session]
  rw [after]
  refine ⟨rfl, write.spec, rfl, rfl, write.writes, write.calls, ?_⟩
  simp only [Stage.after, state]
  rw [Host.reshapeWithin_of_write agrees]
  rfl

/-- Attaching to a field is noted and, unless the controller writes, the same as waiting and being
told of a change. -/
theorem LentStage.attach_eq_after (w : LentStage σ ι) (rest : w.AtRest)
    (idle : w.session.value ≠ some .writing) (reformat : Reformat σ ι) (reshape : Reshape σ ι)
    (field : ι) :
    w.attach reformat field =
        ({ w with session := { value := some .waiting } }.note [Notice.attached]).after
          reformat field ∧
      w.stage.attach reshape field =
        ({ w with session := { value := some .waiting } }.note [Notice.attached]).stage.after
          reshape field := by
  constructor
  · rw [attach, rest.1]
    rfl
  · cases found : w.session.value with
    | none => simp only [Stage.attach, stage, found]; rfl
    | some state =>
      cases state with
      | waiting => simp only [Stage.attach, stage, found]; rfl
      | writing => exact absurd found idle

/-- Whatever a host does in the middle of a write, a call from outside that takes up a field writes
at most once, and ends with the session waiting and the text taken over that the field should show;
meanwhile no call is refused a loan, and none has an effect. The account without loans comes to the
same end, and how deeply it lets reformattings stand inside one another makes no difference. -/
theorem LentStage.outer_call_tookUp (host : Host σ ι) (returns : host.Returns)
    (nested : Reformat σ ι) (field : ι) (w : LentStage σ ι) (rest : w.AtRest) (depth : Nat) :
    (w.session.value = some .waiting →
      TookUp host field w (w.after (host.reformat nested) field)
        (w.stage.after (host.reshapeWithin (depth + 1)) field)) ∧
    (w.session.value ≠ some .writing →
      TookUp host field w (w.attach (host.reformat nested) field)
        (w.stage.attach (host.reshapeWithin (depth + 1)) field)) := by
  have through (w : LentStage σ ι) : (host.refill w.stage.controller field w.fields).2 = true :=
    returns.refill _ field w.fields
  refine ⟨fun waits => ?_, fun idle => ?_⟩
  · have session := rest.1
    rw [waits] at session
    exact after_tookUp host nested field w session rest.2 depth (through w)
  · have fresh := after_tookUp host nested field
      ({ w with session := { value := some .waiting } }.note [Notice.attached]) rfl rest.2 depth
      (through _)
    obtain ⟨lent, lone⟩ := w.attach_eq_after rest idle (host.reformat nested)
      (host.reshapeWithin (depth + 1)) field
    rw [lent, lone]
    exact ⟨fresh.result, fresh.spec, fresh.session, fresh.formatted, fresh.writes, fresh.calls,
      fresh.agrees⟩

/-- A host with two fields that makes every kind of call in the middle of a write, and then keeps
only the first character of the text. -/
def meddler : Host (Text × Text) Bool where
  text field fields := if field then fields.1 else fields.2
  overwrite field t fields :=
    .ask fields (.before fields.1 { start := 0, removed := 0, inserted := t.length }) fun fields _ =>
      .ask fields (.during t { start := 0, removed := 0, inserted := t.length }) fun fields _ =>
        .ask fields (.after field) fun fields _ =>
          .ask fields (.after !field) fun fields _ =>
            .ask fields (.attach !field) fun fields _ =>
              .ask fields .detach fun fields _ =>
                .ask fields (.accept ['-']) fun fields _ =>
                  .ask fields .session fun fields _ =>
                    .ask fields .formatted fun fields _ =>
                      .ask fields .clean fun fields _ =>
                        .done (if field then (t.take 1, fields.2) else (fields.1, t.take 1))

/-- Among all these calls a field that shows `12a` is asked once to show `12-a`. -/
theorem meddler_asked_once :
    let w : LentStage (Text × Text) Bool :=
      { spec := Spec.ofPattern ['#', '#', '-', '#'], session := { value := some .waiting }
        formatted := { value := ['1', '2'] }, fields := (['1', '2', 'a'], []), log := []
        writes := [], calls := [] }
    let r := w.after (meddler.reformat fun _ w => (w, .loanRefused)) true
    (meddler.Returns ∧ w.AtRest ∧ w.session.value = some .waiting) ∧
      r.1.calls.length = 10 ∧ r.1.writes = [(true, ['1', '2', '-', 'a'])] ∧
      r.1.session = { value := some .waiting } ∧
      r.1.formatted = { value := ['1', '2', '-', 'a'] } := by
  intro w r
  have returns : meddler.Returns := fun _ _ _ => by
    intro _ _ _ _ _ _ _ _ _ _ _ _ _ _ _ _ _ _ _ _
    trivial
  have shown : fieldText w.spec (meddler.text true w.fields) = ['1', '2', '-', 'a'] := by
    decide +kernel
  have tookUp := (w.outer_call_tookUp meddler returns (fun _ w => (w, .loanRefused)) true
    ⟨rfl, rfl⟩ 0).1 rfl
  refine ⟨⟨returns, ⟨rfl, rfl⟩, rfl⟩, by decide +kernel, ?_, tookUp.session, ?_⟩
  · rw [tookUp.writes, LentStage.asked, shown]
    rfl
  · rw [tookUp.formatted, shown]

end MaskedInput.Live
