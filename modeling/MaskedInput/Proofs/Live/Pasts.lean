import MaskedInput.Proofs.Live.Reshaping

/-!
# What was logged before

Nothing that a controller does depends on its log: whatever was logged before, a call is answered in
the same way, leaves the same controller and the same fields, and adds the same entries.
-/
namespace MaskedInput.Live

variable {σ ι : Type}

/-- The stage with a past, whose entries come first in the log. -/
def Stage.behind (s : Stage σ) (past : List Log.Entry) : Stage σ := { s with log := past ++ s.log }

/-- A reshaping that does not depend on what was logged before. -/
def Reshape.Forgetful (reshape : Reshape σ ι) : Prop :=
  ∀ field s past, reshape field (s.behind past) =
    ((reshape field s).1.behind past, (reshape field s).2)

namespace Stage

variable (s : Stage σ) (past : List Log.Entry)

theorem note_behind (entries : List Log.Entry) :
    (s.behind past).note entries = (s.note entries).behind past := by
  simp only [note, behind, List.append_assoc]

theorem noteChange_behind (entry : Log.Entry) :
    (s.behind past).noteChange entry = (s.noteChange entry).behind past := s.note_behind past _

variable {reshape : Reshape σ ι} (forgetful : reshape.Forgetful)
include forgetful

theorem after_behind (field : ι) :
    (s.behind past).after reshape field =
      ((s.after reshape field).1.behind past, (s.after reshape field).2) := by
  have session : (s.behind past).controller.session = s.controller.session := rfl
  unfold after
  rw [session]
  split
  · rw [note_behind]
  · rw [note_behind]
  · exact forgetful field s past

theorem attach_behind (field : ι) :
    (s.behind past).attach reshape field =
      ((s.attach reshape field).1.behind past, (s.attach reshape field).2) := by
  have session : (s.behind past).controller.session = s.controller.session := rfl
  have begun : ((s.behind past).withSession (some .waiting)).note [Notice.attached] =
      ((s.withSession (some .waiting)).note [Notice.attached]).behind past :=
    (s.withSession _).note_behind past _
  unfold attach
  rw [session]
  split
  · rw [note_behind]
  · rw [begun, after_behind _ _ forgetful]
  · rw [begun, after_behind _ _ forgetful]

omit forgetful in
theorem detach_behind : (s.behind past).detach = s.detach.behind past := by
  have session : (s.behind past).controller.session = s.controller.session := rfl
  unfold detach
  rw [session]
  split
  · exact s.note_behind past _
  · rfl
  · rfl

theorem answer_behind (call : Call ι) :
    (s.behind past).answer reshape call =
      ((s.answer reshape call).1.behind past, (s.answer reshape call).2) := by
  cases call with
  | before old change => rw [answer, answer, noteChange_behind]
  | during new change => rw [answer, answer, noteChange_behind]
  | after field => exact s.after_behind past forgetful field
  | attach field => exact s.attach_behind past forgetful field
  | detach => rw [answer, answer, detach_behind]
  | accept typed => rfl
  | session => rfl
  | attached => rfl
  | formatted => rfl
  | clean => exact Prod.ext (s.note_behind past _) rfl

end Stage

theorem Script.run_behind {reshape : Reshape σ ι} (forgetful : reshape.Forgetful)
    (script : Script σ ι) (s : Stage σ) (past : List Log.Entry) :
    script.run reshape (s.behind past) =
      ((script.run reshape s).1.behind past, (script.run reshape s).2) := by
  induction script generalizing s with
  | done fields => rfl
  | fail fields => rfl
  | ask fields call next ih =>
    -- The script goes on with the answer, which is the same with the past and without.
    have answered := (s.withFields fields).answer_behind past forgetful call
    change ((s.behind past).withFields fields).answer reshape call = _ at answered
    rw [run, run, answered]
    cases (s.withFields fields).answer reshape call with
    | mk left a =>
      cases a with
      | none => rfl
      | some a => exact ih left.fields a left

namespace Host

theorem write_behind (host : Host σ ι) {reshape : Reshape σ ι} (forgetful : reshape.Forgetful)
    (field : ι) (current : Text) (s : Stage σ) (past : List Log.Entry) :
    host.write reshape field current (s.behind past) =
      ((host.write reshape field current s).1.behind past,
        (host.write reshape field current s).2) := by
  have unpast : host.write reshape field current (s.behind past) =
      if fieldText s.controller.spec current = current then (s.behind past, true)
      else (host.overwrite field (fieldText s.controller.spec current) s.fields).run reshape
        (s.behind past) := rfl
  rw [unpast, write]
  split
  · rfl
  · exact Script.run_behind forgetful _ s past

theorem afterWrite_behind (host : Host σ ι) (field : ι) (spec : Spec) (current : Text)
    (written : Stage σ) (finished : Bool) (past : List Log.Entry) :
    host.afterWrite field spec current (written.behind past, finished) =
      ((host.afterWrite field spec current (written, finished)).1.behind past,
        (host.afterWrite field spec current (written, finished)).2) := by
  cases finished with
  | false => rfl
  | true =>
    have noted := (written.withSession (some .waiting)).note_behind past
      [Notice.reshaped current (fieldText spec current)]
    exact Prod.ext (congrArg (·.withFormatted (fieldText spec current)) noted) rfl

theorem begun_behind (s : Stage σ) (current : Text) (past : List Log.Entry) :
    (s.behind past).begun current = (s.begun current).behind past := by
  change (((s.behind past).note (clearEntries s.controller.spec current)).withSession
    (some .writing)).note (formatEntries s.controller.spec current) = _
  rw [Stage.note_behind]
  exact ((s.note _).withSession (some .writing)).note_behind past _

theorem forgetful_reshapeWithin (host : Host σ ι) (depth : Nat) :
    Reshape.Forgetful (host.reshapeWithin depth) := by
  induction depth with
  | zero => exact fun field s past => rfl
  | succ depth ih =>
    intro field s past
    have write := host.write_behind ih field (host.text field s.fields)
      (s.begun (host.text field s.fields)) past
    rw [reshapeWithin_eq, reshapeWithin_eq, ← afterWrite_behind, ← write, ← begun_behind]
    rfl

end Host

end MaskedInput.Live
