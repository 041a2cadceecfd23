import MaskedInput.Proofs.Live.Keystrokes

/-!
# Attaching and detaching

A buffer with a controller of its own may be overwritten from outside, caret moves may be left over
from that, and the controller may come and go. Whatever happens, the caret stays inside the text.
While the controller is attached it waits and knows the text of the buffer; while it is detached the
buffer is edited as if nobody watched, and the controller keeps the text that it last knew.
-/
namespace MaskedInput.Live
namespace Buffer

/-- The caret is not behind the end of the text. -/
def Inside (b : Buffer) : Prop := b.caret ≤ b.text.length

theorem Inside.exchange {b : Buffer} {start removed : Nat}
    (bound : start + removed ≤ b.text.length) (inserted : Text) :
    (b.exchange start removed inserted).Inside := by
  simp only [Inside, Buffer.exchange, List.length_append, List.length_take, List.length_drop]
  omega

theorem inside_rewritten (b : Buffer) (t : Text) : (b.rewritten t).Inside := Nat.le_refl _

theorem Inside.shown {b : Buffer} (inside : b.Inside) (spec : Spec) : (b.shown spec).Inside := by
  unfold Buffer.shown
  split
  · exact inside
  · exact inside_rewritten b _

theorem Inside.postpone {b : Buffer} (inside : b.Inside) (move : Option CaretMove) :
    (b.postpone move).Inside := by
  cases move <;> exact inside

/-- A caret move ends inside the text, whatever the text was when the move was put off. -/
theorem inside_moveCaret (b : Buffer) (position : Nat) : (b.moveCaret position).Inside :=
  Nat.min_le_right _ _

theorem Inside.settle {b : Buffer} (inside : b.Inside) : b.settle.Inside :=
  settle_preserves (p := Inside) (fun b position _ => inside_moveCaret b position) b inside

theorem Inside.updated {b : Buffer} (inside : b.Inside) (spec : Spec) : (b.updated spec).Inside :=
  ((inside.shown spec).postpone _).settle

/-- A controlled buffer whose controller is detached. -/
structure Detached (s : Stage Buffer) : Prop where
  session : s.controller.session = none
  controlled : s.fields.controlled = true

theorem Detached.deaf {s : Stage Buffer} (detached : Detached s) : s.controller.waits = false := by
  rw [Controller.waits, detached.session]
  rfl

/-- The script of an edit, as a detached controller answers it. -/
theorem Detached.runScript_exchange {s : Stage Buffer} (detached : Detached s) (start removed : Nat)
    (inserted : Text) :
    ∃ log, host.runScript (alone.exchange start removed inserted s.fields) s =
      ({ controller := s.controller, fields := s.fields.exchange start removed inserted, log },
        true) := by
  refine ⟨s.log ++ [] ++ [] ++ [Notice.notAttached], ?_⟩
  simp only [Host.runScript, BufferPlace.exchange, alone, Place.update, id, detached.controlled,
    if_true, Script.run, Stage.answer, Stage.noteChange, Stage.note, Stage.withFields,
    detached.deaf, Stage.after, detached.session]
  rfl

theorem Detached.edit {s : Stage Buffer} (detached : Detached s) (start removed : Nat)
    (inserted : Text) :
    ∃ log, alone.edit host start removed inserted s =
      { controller := s.controller
        fields := (s.fields.exchange start removed inserted).settle
        log } := by
  obtain ⟨log, ran⟩ := detached.runScript_exchange start removed inserted
  refine ⟨log, ?_⟩
  unfold BufferPlace.edit
  change (let (s, finished) := host.runScript (alone.exchange start removed inserted s.fields) s
    if finished then alone.settle s else s) = _
  rw [ran]
  rfl

/-- An attached controller filters what the text is overwritten with from outside. The caret move
that may follow from it is left over. -/
theorem Observed.runScript_overwrite {spec : Spec} {s : Stage Buffer} (observed : Observed spec s)
    (t : Text) :
    ∃ log, host.runScript (alone.overwrite t s.fields) s =
      ({ controller :=
          { spec, session := some .waiting, formatted := fieldText spec (accepted t) }
         fields := ((s.fields.rewritten (accepted t)).shown spec).postpone
          (caretMove spec (fieldText spec (accepted t)))
         log }, true) := by
  have asks : host.runScript (alone.overwrite t s.fields) s =
      host.runScript (alone.exchange 0 s.fields.text.length (accepted t) s.fields) s := by
    simp only [Host.runScript, BufferPlace.overwrite, alone, id, observed.controlled, if_true,
      Script.run, Stage.answer, Controller.accept, Stage.withFields, observed.waits]
  obtain ⟨log, ran⟩ := Buffer.runScript_exchange observed 0 s.fields.text.length (accepted t)
  rw [exchange_whole] at ran
  exact ⟨log, asks.trans ran⟩

theorem Detached.runScript_overwrite {s : Stage Buffer} (detached : Detached s) (t : Text) :
    ∃ log, host.runScript (alone.overwrite t s.fields) s =
      ({ controller := s.controller, fields := s.fields.rewritten t, log }, true) := by
  have asks : host.runScript (alone.overwrite t s.fields) s =
      host.runScript (alone.exchange 0 s.fields.text.length t s.fields) s := by
    simp only [Host.runScript, BufferPlace.overwrite, alone, id, detached.controlled, if_true,
      Script.run, Stage.answer, Controller.accept, Stage.withFields, detached.deaf,
      Bool.false_eq_true, if_false]
  obtain ⟨log, ran⟩ := detached.runScript_exchange 0 s.fields.text.length t
  rw [exchange_whole] at ran
  exact ⟨log, asks.trans ran⟩

/-- A buffer into which something was typed while nobody watched; caret moves that were left over
are made then. -/
def put (b : Buffer) (typed : Text) : Buffer :=
  if typed = [] then b else (b.exchange b.caret 0 typed).settle

theorem put_text (b : Buffer) (typed : Text) :
    (b.put typed).text = b.text.take b.caret ++ typed ++ b.text.drop b.caret := by
  unfold put
  split
  · next empty => rw [empty, List.append_nil, List.take_append_drop]
  · exact settle_text _

/-- Without a caret move left over, the caret goes behind what was typed. -/
theorem put_caret {b : Buffer} (typed : Text) (settled : b.postponed = []) :
    (b.put typed).caret = b.caret + typed.length := by
  unfold put
  split
  · next empty => rw [empty, List.length_nil, Nat.add_zero]
  · rw [settle_of_settled (b := b.exchange b.caret 0 typed) settled]
    rfl

theorem put_controlled (b : Buffer) (typed : Text) :
    (b.put typed).controlled = b.controlled := by
  unfold put
  split
  · rfl
  · exact settle_controlled _

theorem Detached.insert {s : Stage Buffer} (detached : Detached s) (typed : Text) :
    ∃ log, alone.insert host typed s =
      { controller := s.controller, fields := s.fields.put typed, log } := by
  have inserts : alone.insert host typed s =
      if typed = [] then s else alone.edit host s.fields.caret 0 typed s := by
    simp [BufferPlace.insert, alone, detached.controlled, Controller.accept, detached.deaf]
  rw [inserts]
  unfold put
  by_cases empty : typed = []
  · exact ⟨s.log, by rw [if_pos empty, if_pos empty]⟩
  · obtain ⟨log, edited⟩ := detached.edit s.fields.caret 0 typed
    exact ⟨log, by rw [if_neg empty, if_neg empty, edited]⟩

theorem Detached.type {s : Stage Buffer} (detached : Detached s) (keys : Text) :
    ∃ log, alone.type host keys s =
      { controller := s.controller
        fields := keys.foldl (fun b key => b.put [key]) s.fields
        log } := by
  unfold BufferPlace.type
  induction keys generalizing s with
  | nil => exact ⟨s.log, rfl⟩
  | cons key keys ih =>
    obtain ⟨log, inserted⟩ := detached.insert [key]
    have still : Detached (alone.insert host [key] s) := by
      rw [inserted]
      exact ⟨detached.session, (put_controlled _ _).trans detached.controlled⟩
    obtain ⟨log', typed⟩ := ih still
    refine ⟨log', ?_⟩
    rw [List.foldl_cons, typed, inserted]
    rfl

end Buffer

/-- A keystroke in a buffer that nobody watches. -/
def Keystroke.plain (b : Buffer) : Keystroke → Buffer
  | .insert typed => b.put typed
  | .type keys => keys.foldl (fun b key => b.put [key]) b
  | .backspace => if b.caret = 0 then b else (b.exchange (b.caret - 1) 1 []).settle
  | .moveCaret position => b.moveCaret position

/-- What may happen to a buffer with a controller of its own. -/
inductive Event where
  | keystroke (stroke : Keystroke)
  /-- The whole text is overwritten from outside of any update. -/
  | overwrite (t : Text)
  /-- The caret moves that are left over are made. -/
  | settle
  | detach
  /-- The controller is attached. The caret move that it may ask for is another event. -/
  | attach
  deriving DecidableEq, Repr

namespace Event

def apply (s : Stage Buffer) : Event → Stage Buffer
  | .keystroke stroke => stroke.apply s
  | .overwrite t => (Buffer.host.runScript (Buffer.alone.overwrite t s.fields) s).1
  | .settle => Buffer.alone.settle s
  | .detach => s.detach
  | .attach => (Buffer.host.attach () s).1

/-- A fresh buffer, to which its controller is attached, after these events. -/
def run (spec : Spec) (events : List Event) : Stage Buffer :=
  events.foldl apply (Buffer.opened spec)

/-- The event in a buffer that nobody watches. -/
def plain (b : Buffer) : Event → Buffer
  | .keystroke stroke => stroke.plain b
  | .overwrite t => b.rewritten t
  | .settle => b.settle
  | .detach | .attach => b

end Event

namespace Buffer

/-- Detaching is refused only in the middle of a write. -/
theorem detach_of_idle {s : Stage Buffer} (idle : s.controller.session ≠ some .writing) :
    s.detach = s.withSession none := by
  cases session : s.controller.session with
  | none => simp only [Stage.detach, session]
  | some phase =>
    cases phase with
    | waiting => simp only [Stage.detach, session]
    | writing => exact absurd session idle

/-- A detached controller keeps as it is under any event but attaching, and the buffer is edited as
if nobody watched. -/
theorem Detached.apply {s : Stage Buffer} (detached : Detached s) (event : Event)
    (other : event ≠ .attach) :
    ∃ log, event.apply s =
      { controller := s.controller, fields := event.plain s.fields, log } := by
  cases event with
  | keystroke stroke =>
    cases stroke with
    | insert typed => exact detached.insert typed
    | type keys => exact detached.type keys
    | backspace =>
      simp only [Event.apply, Keystroke.apply, Event.plain, Keystroke.plain]
      by_cases front : s.fields.caret = 0
      · have place : (alone.get s.fields).caret = 0 := front
        refine ⟨s.log, ?_⟩
        simp only [BufferPlace.backspace, place, if_pos front]
      · obtain ⟨log, edited⟩ := detached.edit (s.fields.caret - 1) 1 []
        refine ⟨log, ?_⟩
        rw [backspace_eq s (Nat.pos_of_ne_zero front), edited, if_neg front]
    | moveCaret position => exact ⟨s.log, rfl⟩
  | overwrite t =>
    obtain ⟨log, ran⟩ := detached.runScript_overwrite t
    exact ⟨log, congrArg Prod.fst ran⟩
  | settle => exact ⟨s.log, rfl⟩
  | detach =>
    refine ⟨s.log, ?_⟩
    have idle : s.controller.session ≠ some .writing := by simp [detached.session]
    simp only [Event.apply, detach_of_idle idle, Stage.withSession, ← detached.session]
    rfl
  | attach => exact absurd rfl other

/-- Between events: the caret is inside the text, and the controller either is detached or waits and
knows the text. Caret moves may be left over. -/
structure Coherent (spec : Spec) (s : Stage Buffer) : Prop where
  spec : s.controller.spec = spec
  controlled : s.fields.controlled = true
  inside : s.fields.Inside
  agrees : s.controller.session = none ∨
    s.controller.session = some .waiting ∧ s.controller.formatted = s.fields.text

theorem Attached.coherent {spec : Spec} {s : Stage Buffer} (attached : Attached spec s)
    (inside : s.fields.Inside) : Coherent spec s where
  spec := attached.spec
  controlled := attached.controlled
  inside := inside
  agrees := .inr ⟨attached.session, attached.formatted⟩

theorem Coherent.cases {spec : Spec} {s : Stage Buffer} (coherent : Coherent spec s) :
    Detached s ∨ Observed spec s := by
  rcases coherent.agrees with none | waits
  · exact .inl ⟨none, coherent.controlled⟩
  · exact .inr ⟨coherent.spec, waits.1, coherent.controlled⟩

theorem Coherent.idle {spec : Spec} {s : Stage Buffer} (coherent : Coherent spec s) :
    s.controller.session ≠ some .writing := by
  rcases coherent.cases with detached | observed
  · simp [detached.session]
  · simp [observed.session]

theorem Coherent.edit {spec : Spec} {s : Stage Buffer} (coherent : Coherent spec s)
    {start removed : Nat} (here : start + removed = s.fields.caret) (inserted : Text) :
    Coherent spec (alone.edit host start removed inserted s) := by
  have exchanged : (s.fields.exchange start removed inserted).Inside := by
    apply Inside.exchange
    rw [here]
    exact coherent.inside
  rcases coherent.cases with detached | observed
  · obtain ⟨log, edited⟩ := detached.edit start removed inserted
    rw [edited]
    exact ⟨coherent.spec, (settle_controlled _).trans coherent.controlled, exchanged.settle,
      .inl detached.session⟩
  · obtain ⟨attached, fields⟩ := observed.edit start removed inserted
    apply attached.coherent
    rw [fields]
    exact exchanged.updated spec

/-- Attaching shows what the buffer should show, whether the controller was detached or not. -/
theorem attach_alone (s : Stage Buffer) (idle : s.controller.session ≠ some .writing) :
    ∃ log, host.attach () s =
      ({ controller :=
          { s.controller with
            session := some .waiting
            formatted := fieldText s.controller.spec s.fields.text }
         fields := s.fields.shown s.controller.spec
         log },
        some (caretMove s.controller.spec (fieldText s.controller.spec s.fields.text))) := by
  obtain ⟨log, reshaped⟩ :=
    reshape_alone ((s.withSession (some .waiting)).note [Notice.attached])
  have attaches : host.attach () s =
      host.reshape () ((s.withSession (some .waiting)).note [Notice.attached]) := by
    cases session : s.controller.session with
    | none => simp only [Host.attach, Stage.attach, session]; rfl
    | some phase =>
      cases phase with
      | waiting => simp only [Host.attach, Stage.attach, session]; rfl
      | writing => exact absurd session idle
  exact ⟨log, attaches.trans reshaped⟩

/-- What happens between two events leaves buffer and controller coherent. -/
theorem Coherent.apply {spec : Spec} {s : Stage Buffer} (coherent : Coherent spec s)
    (event : Event) : Coherent spec (event.apply s) := by
  cases event with
  | keystroke stroke =>
    refine Keystroke.apply_preserves (p := Coherent spec) ?_ ?_ stroke s coherent
    · intro s start removed inserted here now
      exact now.edit here inserted
    · intro s position now
      exact ⟨now.spec, now.controlled, inside_moveCaret s.fields position, now.agrees⟩
  | overwrite t =>
    rcases coherent.cases with detached | observed
    · obtain ⟨log, ran⟩ := detached.runScript_overwrite t
      simp only [Event.apply, ran]
      exact ⟨coherent.spec, coherent.controlled, inside_rewritten _ t, .inl detached.session⟩
    · obtain ⟨log, ran⟩ := observed.runScript_overwrite t
      simp only [Event.apply, ran]
      have shown := (inside_rewritten s.fields (accepted t)).shown spec
      refine ⟨rfl, ?_, shown.postpone _, .inr ⟨rfl, ?_⟩⟩
      · rw [postpone_controlled, shown_controlled]
        exact coherent.controlled
      · rw [postpone_text, shown_text]
        rfl
  | settle =>
    refine ⟨coherent.spec, (settle_controlled _).trans coherent.controlled, coherent.inside.settle,
      ?_⟩
    change _ ∨ _ ∧ s.controller.formatted = s.fields.settle.text
    rw [settle_text]
    exact coherent.agrees
  | detach =>
    rw [Event.apply, detach_of_idle coherent.idle]
    exact ⟨coherent.spec, coherent.controlled, coherent.inside, .inl rfl⟩
  | attach =>
    obtain ⟨log, attached⟩ := attach_alone s coherent.idle
    simp only [Event.apply, attached]
    exact ⟨coherent.spec, (shown_controlled _ _).trans coherent.controlled,
      coherent.inside.shown _, .inr ⟨rfl, (shown_text _ _).symm⟩⟩

end Buffer

namespace Event

/-- What holds of a fresh buffer, and what each of the events preserves, holds after all of them. -/
theorem run_preserves {p : Stage Buffer → Prop} (spec : Spec) (opened : p (Buffer.opened spec))
    (events : List Event) (step : ∀ event ∈ events, ∀ s, p s → p (event.apply s)) :
    p (run spec events) := by
  unfold run
  generalize Buffer.opened spec = s at opened
  induction events generalizing s with
  | nil => exact opened
  | cons event events ih =>
    have later : ∀ event ∈ events, ∀ s, p s → p (event.apply s) := fun event member =>
      step event (List.mem_cons_of_mem _ member)
    exact ih later _ (step event List.mem_cons_self s opened)

theorem run_coherent (spec : Spec) (events : List Event) :
    Buffer.Coherent spec (run spec events) := by
  refine run_preserves spec ?_ events fun event _ s now => now.apply event
  obtain ⟨attached, fields⟩ := Buffer.opened_attached spec
  apply attached.coherent
  rw [fields]
  have front : Buffer.Inside { controlled := true } := Nat.le_refl 0
  exact front.updated spec

/-- After any events the caret is inside the text. An attached controller waits and knows the text;
under a detached one each further event does to the buffer what it does to one that nobody watches,
and nothing to the controller. So what is typed then goes into the text at the caret as it is, and
the caret behind it, unless a caret move was left over. -/
theorem buffer_and_controller_agree (spec : Spec) (events : List Event) :
    let s := run spec events
    s.fields.caret ≤ s.fields.text.length ∧
    (s.controller.attached = true →
      s.controller.session = some .waiting ∧ s.controller.formatted = s.fields.text) ∧
    (s.controller.attached = false →
      (∀ event : Event, event ≠ .attach →
        (event.apply s).fields = event.plain s.fields ∧
        (event.apply s).controller = s.controller) ∧
      (∀ typed, let after := apply s (.keystroke (.insert typed))
        after.fields.text =
          s.fields.text.take s.fields.caret ++ typed ++ s.fields.text.drop s.fields.caret ∧
        (s.fields.postponed = [] → after.fields.caret = s.fields.caret + typed.length)) ∧
      (0 < s.fields.caret → let after := apply s (.keystroke .backspace)
        after.fields.text = s.fields.text.eraseIdx (s.fields.caret - 1) ∧
        (s.fields.postponed = [] → after.fields.caret = s.fields.caret - 1))) := by
  intro s
  have coherent : Buffer.Coherent spec s := run_coherent spec events
  refine ⟨coherent.inside, fun attached => ?_, fun gone => ?_⟩
  · rcases coherent.agrees with none | waits
    · rw [Controller.attached, none] at attached
      cases attached
    · exact waits
  · have unbound : s.controller.session = none := by
      simpa only [Controller.attached, Option.isSome_eq_false_iff, Option.isNone_iff_eq_none]
        using gone
    have detached : Buffer.Detached s := ⟨unbound, coherent.controlled⟩
    have unwatched (event : Event) (other : event ≠ .attach) :
        (event.apply s).fields = event.plain s.fields ∧
          (event.apply s).controller = s.controller := by
      obtain ⟨log, applied⟩ := detached.apply event other
      rw [applied]
      exact ⟨rfl, rfl⟩
    refine ⟨unwatched, fun typed => ?_, fun before => ?_⟩
    · intro after
      have inserted : after.fields = s.fields.put typed :=
        (unwatched (.keystroke (.insert typed)) (by simp)).1
      rw [inserted]
      exact ⟨Buffer.put_text _ typed, Buffer.put_caret typed⟩
    · intro after
      have deleted : after.fields = (s.fields.exchange (s.fields.caret - 1) 1 []).settle :=
        (unwatched (.keystroke .backspace) (by simp)).1.trans (if_neg (Nat.ne_of_gt before))
      rw [deleted, Buffer.settle_text, List.eraseIdx_eq_take_drop_succ]
      refine ⟨by rw [Buffer.exchange, List.append_nil], fun settled => ?_⟩
      rw [Buffer.settle_of_settled (b := s.fields.exchange (s.fields.caret - 1) 1 []) settled]
      rfl

/-- A dash is typed into a number after the controller has gone. It stays, and the controller still
knows the number. -/
theorem dash_typed_unwatched :
    let s := run (Spec.ofPattern ['#', '#', '#', ' ', '#', '#', '#'])
      [.keystroke (.type ['1', '2', '3', '4']), .detach]
    let after := apply s (.keystroke (.insert ['-']))
    s.controller.attached = false ∧ after.fields.text = ['1', '2', '3', ' ', '4', '-'] ∧
      after.controller.formatted = ['1', '2', '3', ' ', '4'] := by
  intro s after
  have gone : s.controller.attached = false := by decide +kernel
  have text : s.fields.text = ['1', '2', '3', ' ', '4'] := by decide +kernel
  have caret : s.fields.caret = 5 := by decide +kernel
  have formatted : s.controller.formatted = ['1', '2', '3', ' ', '4'] := by decide +kernel
  obtain ⟨unwatched, inserts, -⟩ := (buffer_and_controller_agree
    (Spec.ofPattern ['#', '#', '#', ' ', '#', '#', '#'])
    [.keystroke (.type ['1', '2', '3', '4']), .detach]).2.2 gone
  have inserted := (inserts ['-']).1
  have kept := (unwatched (.keystroke (.insert ['-'])) (by simp)).2
  change after.fields.text = s.fields.text.take s.fields.caret ++ ['-'] ++
    s.fields.text.drop s.fields.caret at inserted
  change after.controller = s.controller at kept
  refine ⟨gone, ?_, by rw [kept, formatted]⟩
  rw [inserted, text, caret]
  rfl

end Event
end MaskedInput.Live
