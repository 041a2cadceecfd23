import MaskedInput.Live.Host

/-!
# Reshaping a field

What reshaping a field comes to, said without the calls that the host makes meanwhile: a controller
that writes answers every call from what it knows and does nothing, so the write is the host's own
affair, and all that is left of it is how the host ends.
-/
namespace MaskedInput.Live

variable {σ ι : Type}

/-- What a controller that writes answers to a call; `old` is the text that it last took over. -/
def Call.answerWhileWriting (spec : Spec) (old : Text) : (call : Call ι) → call.Answer
  | .before _ _ | .during _ _ | .detach => ()
  | .after _ | .attach _ => none
  | .accept typed => typed
  | .session => some .writing
  | .attached => true
  | .formatted => old
  | .clean => spec.clear old

/-- What a controller that writes notes of a call. -/
def Call.entriesWhileWriting (spec : Spec) (old : Text) : Call ι → List Log.Entry
  | .after _ => [Notice.selfTriggered]
  | .attach _ => [Notice.attachRefused]
  | .detach => [Notice.detachRefused]
  | .clean => clearEntries spec old
  | .before _ _ | .during _ _ | .accept _ | .session | .attached | .formatted => []

/-- Whatever would be done to reshape a field, a call in the middle of a write only leaves its entries
in the log. -/
theorem Stage.answer_writing (reshape : Reshape σ ι) (s : Stage σ)
    (writing : s.controller.session = some .writing) (call : Call ι) :
    s.answer reshape call =
      (s.note (call.entriesWhileWriting s.controller.spec s.controller.formatted),
        some (call.answerWhileWriting s.controller.spec s.controller.formatted)) := by
  have deaf : s.controller.waits = false := by rw [Controller.waits, writing]; rfl
  have same : s = s.note [] := by simp [Stage.note]
  cases call with
  | before old change => simp only [answer, noteChange, deaf]; rfl
  | during new change => simp only [answer, noteChange, deaf]; rfl
  | after field => simp only [answer, after, writing]; rfl
  | attach field => simp only [answer, attach, writing]; rfl
  | detach => simp only [answer, detach, writing]; rfl
  | accept typed =>
    rw [Call.entriesWhileWriting, ← same]
    simp only [answer, Controller.accept, deaf]; rfl
  | session =>
    rw [Call.entriesWhileWriting, ← same]
    simp only [answer, writing]; rfl
  | attached =>
    rw [Call.entriesWhileWriting, ← same]
    simp only [answer, Controller.attached, writing]; rfl
  | formatted =>
    rw [Call.entriesWhileWriting, ← same]
    rfl
  | clean => rfl

/-- The fields that a script leaves in the middle of a write, and whether it came through. -/
def Script.endWhileWriting (spec : Spec) (old : Text) : Script σ ι → σ × Bool
  | .done fields => (fields, true)
  | .fail fields => (fields, false)
  | .ask fields call next =>
    (next fields (call.answerWhileWriting spec old)).endWhileWriting spec old

theorem Script.run_writing (reshape : Reshape σ ι) (script : Script σ ι) (s : Stage σ)
    (writing : s.controller.session = some .writing) {fields : σ} {finished : Bool}
    (ends : script.endWhileWriting s.controller.spec s.controller.formatted = (fields, finished)) :
    ∃ entries, script.run reshape s = ((s.withFields fields).note entries, finished) := by
  induction script generalizing s with
  | done left =>
    obtain ⟨rfl, rfl⟩ := Prod.mk.inj ends
    exact ⟨[], by simp [run, Stage.note]⟩
  | fail left =>
    obtain ⟨rfl, rfl⟩ := Prod.mk.inj ends
    exact ⟨[], by simp [run, Stage.note]⟩
  | ask left call next ih =>
    have state : (s.withFields left).controller.session = some .writing := writing
    rw [run, Stage.answer_writing reshape _ state call]
    obtain ⟨entries, after⟩ := ih left
      (call.answerWhileWriting s.controller.spec s.controller.formatted)
      ((s.withFields left).note
        (call.entriesWhileWriting s.controller.spec s.controller.formatted)) state ends
    refine ⟨call.entriesWhileWriting s.controller.spec s.controller.formatted ++ entries, ?_⟩
    simp only [Stage.note, Stage.withFields, List.append_assoc] at after ⊢
    exact after

/-- A script that does not fail, whatever it finds and whatever it is answered. -/
def Script.Returns : Script σ ι → Prop
  | .done _ => True
  | .fail _ => False
  | .ask _ _ next => ∀ fields a, (next fields a).Returns

/-- A host that comes through with whatever it is asked to write. -/
def Host.Returns (host : Host σ ι) : Prop :=
  ∀ field t fields, (host.overwrite field t fields).Returns

theorem Script.Returns.endWhileWriting {script : Script σ ι} (returns : script.Returns)
    (spec : Spec) (old : Text) : (script.endWhileWriting spec old).2 = true := by
  induction script with
  | done fields => rfl
  | fail fields => exact returns.elim
  | ask fields call next ih => exact ih _ _ (returns _ _)

/-- A stage whose controller has begun to write to a field with the text `current`. -/
def Stage.begun (s : Stage σ) (current : Text) : Stage σ :=
  ((s.note (clearEntries s.controller.spec current)).withSession (some .writing)).note
    (formatEntries s.controller.spec current)

/-- A stage whose controller waits again and takes over what a field with the text `current` should
show. -/
def Stage.reshaped (s : Stage σ) (spec : Spec) (current : Text) : Stage σ :=
  ((s.withSession (some .waiting)).note
    [Notice.reshaped current (fieldText spec current)]).withFormatted (fieldText spec current)

/-- What the host does with the write of a field with the text `current`; nothing is written if the
field shows what it should. -/
def Host.write (host : Host σ ι) (reshape : Reshape σ ι) (field : ι) (current : Text)
    (s : Stage σ) : Stage σ × Bool :=
  if fieldText s.controller.spec current = current then (s, true)
  else (host.overwrite field (fieldText s.controller.spec current) s.fields).run reshape s

/-- How reshaping a field with the text `current` ends, once it is known how the write ended. -/
def Host.afterWrite (host : Host σ ι) (field : ι) (spec : Spec) (current : Text) :
    Stage σ × Bool → Stage σ × Option (Option CaretMove)
  | (written, true) =>
    (written.reshaped spec current, some (caretMove spec (host.text field written.fields)))
  | (written, false) => (written.withSession (some .waiting), none)

theorem Host.reshapeWithin_eq (host : Host σ ι) (depth : Nat) (field : ι) (s : Stage σ) :
    host.reshapeWithin (depth + 1) field s =
      host.afterWrite field s.controller.spec (host.text field s.fields)
        (host.write (host.reshapeWithin depth) field (host.text field s.fields)
          (s.begun (host.text field s.fields))) := by
  have unfolded : host.reshapeWithin (depth + 1) field s =
      if (host.write (host.reshapeWithin depth) field (host.text field s.fields)
          (s.begun (host.text field s.fields))).2 then
        ((host.write (host.reshapeWithin depth) field (host.text field s.fields)
            (s.begun (host.text field s.fields))).1.reshaped s.controller.spec
              (host.text field s.fields),
          some (caretMove s.controller.spec (host.text field
            (host.write (host.reshapeWithin depth) field (host.text field s.fields)
              (s.begun (host.text field s.fields))).1.fields)))
      else ((host.write (host.reshapeWithin depth) field (host.text field s.fields)
        (s.begun (host.text field s.fields))).1.withSession (some .waiting), none) := rfl
  rw [unfolded]
  cases host.write (host.reshapeWithin depth) field (host.text field s.fields)
      (s.begun (host.text field s.fields)) with
  | mk written finished => cases finished <;> rfl

theorem Host.reshapeWithin_of_write {host : Host σ ι} {depth : Nat} {field : ι} {s written : Stage σ}
    (write : host.write (host.reshapeWithin depth) field (host.text field s.fields)
      (s.begun (host.text field s.fields)) = (written, true)) :
    host.reshapeWithin (depth + 1) field s =
      (written.reshaped s.controller.spec (host.text field s.fields),
        some (caretMove s.controller.spec (host.text field written.fields))) := by
  rw [reshapeWithin_eq, write]
  rfl

/-- What reshaping a field makes of the fields, and whether the host comes through. -/
def Host.refill (host : Host σ ι) (k : Controller) (field : ι) (fields : σ) : σ × Bool :=
  let shown := fieldText k.spec (host.text field fields)
  if shown = host.text field fields then (fields, true)
  else (host.overwrite field shown fields).endWhileWriting k.spec k.formatted

theorem Host.Returns.refill {host : Host σ ι} (returns : host.Returns) (k : Controller) (field : ι)
    (fields : σ) : (host.refill k field fields).2 = true := by
  unfold Host.refill
  simp only
  split
  · rfl
  · exact (returns field _ fields).endWhileWriting _ _

/-- In the middle of a write, the fields are left as `refill` says, whatever reshaping would do. -/
theorem Host.write_of_refill (host : Host σ ι) (reshape : Reshape σ ι) (field : ι) (s : Stage σ)
    (writing : s.controller.session = some .writing) :
    ∃ entries, host.write reshape field (host.text field s.fields) s =
      ((s.withFields (host.refill s.controller field s.fields).1).note entries,
        (host.refill s.controller field s.fields).2) := by
  unfold write refill
  by_cases same : fieldText s.controller.spec (host.text field s.fields) = host.text field s.fields
  · rw [if_pos same, if_pos same]
    exact ⟨[], by simp only [Stage.note, List.append_nil]; rfl⟩
  · rw [if_neg same, if_neg same]
    exact Script.run_writing reshape _ s writing rfl

/-- The write with which a field is reshaped. -/
theorem Host.write_begun (host : Host σ ι) (reshape : Reshape σ ι) (field : ι) (s : Stage σ) :
    ∃ entries, host.write reshape field (host.text field s.fields)
        (s.begun (host.text field s.fields)) =
      (((s.begun (host.text field s.fields)).withFields
          (host.refill s.controller field s.fields).1).note entries,
        (host.refill s.controller field s.fields).2) :=
  host.write_of_refill reshape field (s.begun (host.text field s.fields)) rfl

/-- Reshaping, if the host comes through. -/
theorem Host.reshapeWithin_of_refill {host : Host σ ι} {field : ι} {s : Stage σ} {fields : σ}
    (refill : host.refill s.controller field s.fields = (fields, true)) (depth : Nat) :
    ∃ log, host.reshapeWithin (depth + 1) field s =
      ({ controller :=
          { s.controller with
            session := some .waiting
            formatted := fieldText s.controller.spec (host.text field s.fields) },
          fields, log },
        some (caretMove s.controller.spec (host.text field fields))) := by
  obtain ⟨entries, written⟩ := host.write_begun (host.reshapeWithin depth) field s
  rw [refill] at written
  exact ⟨_, Host.reshapeWithin_of_write written⟩

end MaskedInput.Live
