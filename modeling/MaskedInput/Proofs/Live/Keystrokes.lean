import MaskedInput.Live.Buffer
import MaskedInput.Proofs.Live.Reshaping

/-!
# Keystrokes

A buffer that is the only field of an attached controller. Though each keystroke sends notifications
back and forth, among them those of the controller's own write, it comes to this: characters are
exchanged, and then the buffer shows what a field with its text should show. Between keystrokes the
controller waits, knows the text of the buffer, and no caret move is left over.
-/
namespace MaskedInput.Live
namespace Buffer

def rewritten (b : Buffer) (t : Text) : Buffer := { b with text := t, caret := t.length }

/-- The buffer with the text that it should show. -/
def shown (spec : Spec) (b : Buffer) : Buffer :=
  if fieldText spec b.text = b.text then b else b.rewritten (fieldText spec b.text)

/-- The buffer as an update leaves it, once the caret has been moved as well. -/
def updated (spec : Spec) (b : Buffer) : Buffer :=
  ((b.shown spec).postpone (caretMove spec (fieldText spec b.text))).settle

@[simp] theorem shown_text (spec : Spec) (b : Buffer) :
    (b.shown spec).text = fieldText spec b.text := by
  unfold shown
  split
  · next same => exact same.symm
  · rfl

@[simp] theorem shown_controlled (spec : Spec) (b : Buffer) :
    (b.shown spec).controlled = b.controlled := by
  unfold shown
  split <;> rfl

/-- What every caret move preserves holds once the caret moves that were left over are made. -/
theorem settle_preserves {p : Buffer → Prop} (move : ∀ b position, p b → p (b.moveCaret position))
    (b : Buffer) (now : p { b with postponed := [] }) : p b.settle := by
  unfold settle
  generalize { b with postponed := [] } = current at now
  induction b.postponed generalizing current with
  | nil => exact now
  | cons first moves ih => exact ih _ (move current first.position now)

/-- Caret moves move only the caret. -/
theorem settle_eq (b : Buffer) : ∃ caret, b.settle = { b with caret, postponed := [] } := by
  refine settle_preserves (p := fun c => ∃ caret, c = { b with caret, postponed := [] }) ?_ b
    ⟨b.caret, rfl⟩
  rintro _ position ⟨caret, rfl⟩
  exact ⟨_, rfl⟩

@[simp] theorem postpone_text (b : Buffer) (move : Option CaretMove) :
    (b.postpone move).text = b.text := by
  cases move <;> rfl

@[simp] theorem postpone_controlled (b : Buffer) (move : Option CaretMove) :
    (b.postpone move).controlled = b.controlled := by
  cases move <;> rfl

@[simp] theorem settle_text (b : Buffer) : b.settle.text = b.text := by
  obtain ⟨caret, settled⟩ := settle_eq b
  rw [settled]

@[simp] theorem settle_controlled (b : Buffer) : b.settle.controlled = b.controlled := by
  obtain ⟨caret, settled⟩ := settle_eq b
  rw [settled]

theorem settle_of_settled {b : Buffer} (settled : b.postponed = []) : b.settle = b := by
  obtain ⟨text, caret, controlled, postponed⟩ := b
  cases settled
  rfl

theorem settle_postpone (b : Buffer) (move : CaretMove) :
    (b.postpone (some move)).settle = b.settle.moveCaret move.position := by
  simp only [settle, postpone, List.foldl_append, List.foldl_cons, List.foldl_nil]

theorem updated_eq (spec : Spec) (b : Buffer) : ∃ caret, b.updated spec =
    { text := fieldText spec b.text, caret, controlled := b.controlled, postponed := [] } := by
  obtain ⟨caret, settled⟩ :=
    settle_eq ((b.shown spec).postpone (caretMove spec (fieldText spec b.text)))
  refine ⟨caret, settled.trans ?_⟩
  rw [← shown_text, ← shown_controlled spec b]
  cases caretMove spec (b.shown spec).text <;> rfl

@[simp] theorem updated_text (spec : Spec) (b : Buffer) :
    (b.updated spec).text = fieldText spec b.text := by
  obtain ⟨caret, updated⟩ := updated_eq spec b
  rw [updated]

theorem exchange_whole (b : Buffer) (t : Text) :
    b.exchange 0 b.text.length t = b.rewritten t := by
  simp [exchange, rewritten]

/-- Overwriting the text of a buffer while the controller writes. -/
theorem endWhileWriting_overwrite (spec : Spec) (old t : Text) (b : Buffer) :
    (alone.overwrite t b).endWhileWriting spec old = (b.rewritten t, true) := by
  cases controlled : b.controlled with
  | true =>
    simp only [BufferPlace.overwrite, BufferPlace.exchange, alone, Place.update, id, controlled,
      if_true, Script.endWhileWriting, Call.answerWhileWriting, postpone, exchange_whole]
  | false =>
    simp only [BufferPlace.overwrite, BufferPlace.exchange, alone, Place.update, id, controlled,
      Bool.false_eq_true, if_false, Script.endWhileWriting, exchange_whole]

theorem refill_alone (k : Controller) (b : Buffer) :
    host.refill k () b = (b.shown k.spec, true) := by
  unfold Host.refill shown
  by_cases same : fieldText k.spec b.text = b.text
  · rw [if_pos same]
    exact if_pos same
  · rw [if_neg same, ← endWhileWriting_overwrite k.spec k.formatted]
    exact if_neg same

/-- Reshaping a buffer that is the only field. -/
theorem reshape_alone (s : Stage Buffer) :
    ∃ log, host.reshape () s =
      ({ controller :=
          { s.controller with
            session := some .waiting
            formatted := fieldText s.controller.spec s.fields.text }
         fields := s.fields.shown s.controller.spec
         log },
        some (caretMove s.controller.spec (fieldText s.controller.spec s.fields.text))) := by
  obtain ⟨log, reshaped⟩ :=
    Host.reshapeWithin_of_refill (refill_alone s.controller s.fields) 0
  have text : host.text () (s.fields.shown s.controller.spec) =
      fieldText s.controller.spec s.fields.text := shown_text _ _
  rw [text] at reshaped
  exact ⟨log, reshaped⟩

/-- An attached controller that waits, and a buffer that reports to it. -/
structure Observed (spec : Spec) (s : Stage Buffer) : Prop where
  spec : s.controller.spec = spec
  session : s.controller.session = some .waiting
  controlled : s.fields.controlled = true

theorem Observed.waits {spec : Spec} {s : Stage Buffer} (observed : Observed spec s) :
    s.controller.waits = true := by
  rw [Controller.waits, observed.session]
  rfl

/-- Between keystrokes, with an attached controller. -/
structure Attached (spec : Spec) (s : Stage Buffer) : Prop where
  spec : s.controller.spec = spec
  session : s.controller.session = some .waiting
  formatted : s.controller.formatted = s.fields.text
  controlled : s.fields.controlled = true
  postponed : s.fields.postponed = []

theorem Attached.observed {spec : Spec} {s : Stage Buffer} (attached : Attached spec s) :
    Observed spec s := ⟨attached.spec, attached.session, attached.controlled⟩

/-- Between keystrokes the clean value is what clearing recovers from the text. -/
theorem Attached.clean_eq {spec : Spec} {s : Stage Buffer} (attached : Attached spec s) :
    s.controller.clean = spec.clear s.fields.text := by
  rw [Controller.clean, attached.spec, attached.formatted]

/-- The script of an edit, as a controller that waits answers it. -/
theorem runScript_exchange {spec : Spec} {s : Stage Buffer} (observed : Observed spec s)
    (start removed : Nat) (inserted : Text) :
    ∃ log, host.runScript (alone.exchange start removed inserted s.fields) s =
      ({ controller :=
          { spec
            session := some .waiting
            formatted := fieldText spec (s.fields.exchange start removed inserted).text }
         fields := ((s.fields.exchange start removed inserted).shown spec).postpone
          (caretMove spec (fieldText spec (s.fields.exchange start removed inserted).text))
         log }, true) := by
  obtain ⟨log, reshaped⟩ := reshape_alone
    { controller := s.controller
      fields := s.fields.exchange start removed inserted
      log := s.log ++
        [Notice.beforeChange s.fields.text { start, removed, inserted := inserted.length }] ++
        [Notice.duringChange (s.fields.exchange start removed inserted).text
          { start, removed, inserted := inserted.length }] }
  refine ⟨log, ?_⟩
  simp only [Host.runScript, BufferPlace.exchange, alone, Place.update, id, observed.controlled,
    if_true, Script.run, Stage.answer, Stage.noteChange, Stage.note, Stage.withFields,
    observed.waits, Stage.after, observed.session, reshaped, observed.spec]

/-- An edit exchanges characters and shows what the buffer should show then. -/
theorem Observed.edit {spec : Spec} {s : Stage Buffer} (observed : Observed spec s)
    (start removed : Nat) (inserted : Text) :
    Attached spec (alone.edit host start removed inserted s) ∧
      (alone.edit host start removed inserted s).fields =
        (s.fields.exchange start removed inserted).updated spec := by
  obtain ⟨log, ran⟩ := runScript_exchange observed start removed inserted
  obtain ⟨caret, updated⟩ := updated_eq spec (s.fields.exchange start removed inserted)
  have edited : alone.edit host start removed inserted s =
      { controller :=
          { spec
            session := some .waiting
            formatted := fieldText spec (s.fields.exchange start removed inserted).text }
        fields := (s.fields.exchange start removed inserted).updated spec
        log } := by
    unfold BufferPlace.edit
    change (let (s, finished) := host.runScript (alone.exchange start removed inserted s.fields) s
      if finished then alone.settle s else s) = _
    rw [ran]
    rfl
  rw [edited]
  exact ⟨⟨rfl, rfl, (updated_text _ _).symm, by rw [updated]; exact observed.controlled,
    by rw [updated]⟩, rfl⟩

theorem edit_attached {spec : Spec} {s : Stage Buffer} (attached : Attached spec s)
    (start removed : Nat) (inserted : Text) :
    Attached spec (alone.edit host start removed inserted s) ∧
      (alone.edit host start removed inserted s).fields =
        (s.fields.exchange start removed inserted).updated spec :=
  attached.observed.edit start removed inserted

theorem Observed.insert {spec : Spec} {s : Stage Buffer} (observed : Observed spec s)
    (typed : Text) :
    alone.insert host typed s =
      if accepted typed = [] then s
      else alone.edit host s.fields.caret 0 (accepted typed) s := by
  simp [BufferPlace.insert, alone, observed.controlled, Controller.accept, observed.waits]

/-- What is refused of an insertion does not change anything. -/
theorem insert_refused {spec : Spec} {s : Stage Buffer} (attached : Attached spec s) (typed : Text)
    (refused : accepted typed = []) : alone.insert host typed s = s := by
  rw [attached.observed.insert, if_pos refused]

theorem insert_accepted {spec : Spec} {s : Stage Buffer} (attached : Attached spec s) (typed : Text)
    (some : accepted typed ≠ []) :
    alone.insert host typed s = alone.edit host s.fields.caret 0 (accepted typed) s := by
  rw [attached.observed.insert, if_neg some]

theorem backspace_eq (s : Stage Buffer) (before : 0 < s.fields.caret) :
    alone.backspace host s = alone.edit host (s.fields.caret - 1) 1 [] s := by
  obtain ⟨caret, found⟩ := Nat.exists_eq_succ_of_ne_zero (Nat.ne_of_gt before)
  have place : (alone.get s.fields).caret = caret + 1 := found
  simp only [BufferPlace.backspace, place, found, Nat.succ_eq_add_one, Nat.add_sub_cancel]

/-- A fresh buffer shows what an empty one should. -/
theorem opened_attached (spec : Spec) : Attached spec (opened spec) ∧
    (opened spec).fields = updated spec { controlled := true } := by
  obtain ⟨log, reshaped⟩ := reshape_alone
    { controller := { spec, session := some .waiting }
      fields := { controlled := true }
      log := [Notice.attached] }
  obtain ⟨caret, updated⟩ := updated_eq spec { controlled := true }
  have opened : opened spec =
      { controller := { spec, session := some .waiting, formatted := fieldText spec [] }
        fields := Buffer.updated spec { controlled := true }
        log } := by
    unfold Buffer.opened BufferPlace.connect
    have attach : host.attach alone.name
        { controller := { spec }, fields := { controlled := true } } = _ := reshaped
    rw [attach]
    rfl
  have text := updated_text spec { controlled := true }
  rw [opened]
  exact ⟨⟨rfl, rfl, text.symm, by rw [updated], by rw [updated]⟩, rfl⟩

end Buffer

/-- What a user does with a buffer. -/
inductive Keystroke where
  | insert (typed : Text)
  | type (keys : Text)
  | backspace
  | moveCaret (position : Nat)
  deriving DecidableEq, Repr

namespace Keystroke

def apply (s : Stage Buffer) : Keystroke → Stage Buffer
  | .insert typed => Buffer.alone.insert Buffer.host typed s
  | .type keys => Buffer.alone.type Buffer.host keys s
  | .backspace => Buffer.alone.backspace Buffer.host s
  | .moveCaret position => s.withFields (s.fields.moveCaret position)

/-- A fresh buffer after these keystrokes. -/
def run (spec : Spec) (strokes : List Keystroke) : Stage Buffer :=
  strokes.foldl apply (Buffer.opened spec)

section

variable {p : Stage Buffer → Prop}
  (edit : ∀ s start removed inserted, start + removed = s.fields.caret → p s →
    p (Buffer.alone.edit Buffer.host start removed inserted s))
  (moveCaret : ∀ s position, p s → p (s.withFields (s.fields.moveCaret position)))
include edit

theorem insert_preserves (typed : Text) (s : Stage Buffer) (now : p s) :
    p (Buffer.alone.insert Buffer.host typed s) := by
  unfold BufferPlace.insert
  dsimp only
  generalize (if (Buffer.alone.get s.fields).controlled then s.controller.accept typed
    else typed) = inserted
  split
  · exact now
  · exact edit s _ 0 inserted rfl now

include moveCaret

/-- What every edit at the caret preserves, and every move of the caret, holds after a keystroke. -/
theorem apply_preserves (stroke : Keystroke) (s : Stage Buffer) (now : p s) :
    p (apply s stroke) := by
  cases stroke with
  | insert typed => exact insert_preserves edit typed s now
  | type keys =>
    unfold apply BufferPlace.type
    induction keys generalizing s with
    | nil => exact now
    | cons key keys ih => exact ih _ (insert_preserves edit [key] s now)
  | backspace =>
    unfold apply
    rcases Nat.eq_zero_or_pos s.fields.caret with front | before
    · have place : (Buffer.alone.get s.fields).caret = 0 := front
      simpa only [BufferPlace.backspace, place] using now
    · rw [Buffer.backspace_eq s before]
      exact edit s _ 1 _ (by omega) now
  | moveCaret position => exact moveCaret s position now

theorem run_preserves (spec : Spec) (opened : p (Buffer.opened spec))
    (strokes : List Keystroke) : p (run spec strokes) := by
  unfold run
  generalize Buffer.opened spec = s at opened
  induction strokes generalizing s with
  | nil => exact opened
  | cons stroke strokes ih => exact ih _ (apply_preserves edit moveCaret stroke s opened)

end

/-- Between keystrokes the controller is attached, and the buffer shows what some buffer should. -/
theorem run_attached (spec : Spec) (strokes : List Keystroke) :
    Buffer.Attached spec (run spec strokes) ∧
      ∃ t, (run spec strokes).fields.text = fieldText spec t := by
  apply run_preserves (p := fun s =>
    Buffer.Attached spec s ∧ ∃ t, s.fields.text = fieldText spec t)
  · intro s start removed inserted _ now
    obtain ⟨attached, fields⟩ := Buffer.edit_attached now.1 start removed inserted
    exact ⟨attached, _, by rw [fields, Buffer.updated_text]⟩
  · intro s position now
    obtain ⟨attached, shown⟩ := now
    exact ⟨⟨attached.spec, attached.session, attached.formatted, attached.controlled,
      attached.postponed⟩, shown⟩
  · obtain ⟨attached, fields⟩ := Buffer.opened_attached spec
    exact ⟨attached, _, by rw [fields, Buffer.updated_text]⟩

end Keystroke
end MaskedInput.Live
