import MaskedInput.Proofs.Live.Reshaping
import MaskedInput.Proofs.Live.Shown
import Mathlib.Dynamics.FixedPoints.Basic

/-!
# Echoes

A field may report what the controller writes only once the write is over. Then the controller takes
its own write for a change by the user and reshapes the field again, which may lead to another
write. Where no literal is a letter or digit this comes to an end, with any prefix and any ignorable
texts, strict or not: each round leaves characters out of the clean value or leaves it as it is, and
in the second case the field shows what it should.
-/
namespace MaskedInput

section

variable {spec : Spec} {st : Stencil} (compiled : spec.stencil = .ok st)
  (usable : spec.hasNoMask = false) (plain : st.Plain)
include compiled usable plain

/-- What is cleared from a formatted text has no characters that were not formatted. A prefix that
the formatted text begins with by itself may take some away. -/
theorem Spec.clear_format_sublist (t : Text) : (spec.clear (spec.format t)).Sublist t := by
  by_cases nonempty : t = []
  · rw [nonempty, format_nil, clear, clearBy_nil]
  by_cases short : spec.strict = true ∨ t.length ≤ st.slotCount
  · rw [spec.format_eq st compiled usable t nonempty short]
    obtain ⟨stripped, strips⟩ : ∃ r, dropFirstMatching spec.ignorable t = r := ⟨_, rfl⟩
    obtain ⟨body, filled⟩ : ∃ r,
      fillSlots st.placeholder st.pattern (Text.alphanumerics stripped) = r := ⟨_, rfl⟩
    rw [strips, filled]
    have ending := dropLead_addLead_suffix spec st.pattern body
    have along : LiesAlong st.placeholder st.pattern body := filled ▸ st.liesAlong_fill stripped
    calc spec.clear (spec.addLead st.pattern body) =
          Text.alphanumerics (spec.dropLead (spec.addLead st.pattern body)) :=
          clear_of_liesAlong compiled usable plain along ending
      List.Sublist _ (Text.alphanumerics body) := ending.sublist.filter _
      List.Sublist _ (Text.alphanumerics stripped) := by
          rw [← filled, plain.alphanumerics_fillSlots _ (Text.alphanumerics_all _)]
          exact List.take_sublist _ _
      List.Sublist _ stripped := List.filter_sublist
      List.Sublist _ t := strips ▸ (dropFirstMatching_suffix spec.ignorable t).sublist
  · obtain ⟨lenient, long⟩ := not_or.mp short
    rw [spec.format_overlong st compiled (by simpa using lenient) t (Nat.not_le.mp long)]
    exact clear_sublist compiled usable plain t

end

namespace Live

/-- The text of a field that shows what it should. -/
abbrev Converged (spec : Spec) (t : Text) : Prop := Function.IsFixedPt (fieldText spec) t

theorem converged_of_hasNoMask {spec : Spec} (empty : spec.hasNoMask = true) (t : Text) :
    Converged spec (fieldText spec t) := by
  have shows (u : Text) := fieldText_of_hasNoMask empty u
  by_cases some : fieldText spec t = []
  · have nothing : t = [] := by
      by_contra other
      rw [shows, if_neg other] at some
      exact other some
    rw [nothing] at some ⊢
    exact congrArg (fieldText spec) some
  · exact (shows _).trans (if_neg some)

section

variable {spec : Spec} {st : Stencil} (compiled : spec.stencil = .ok st) (plain : st.Plain)
include compiled plain

/-- One more round leaves characters out of the clean value, or none. -/
theorem clear_fieldText_sublist (usable : spec.hasNoMask = false) (t : Text) :
    (spec.clear (fieldText spec t)).Sublist (spec.clear t) := by
  by_cases nothing : spec.format (spec.clear t) = []
  · rw [fieldText_of_format_nil nothing, clear_fieldText_nil compiled usable]
    exact List.nil_sublist _
  · rw [fieldText_of_format nothing]
    exact Spec.clear_format_sublist compiled usable plain _

/-- After at most one round more than the clean value has characters, no round changes the text. -/
theorem converged_iterate (usable : spec.hasNoMask = false) (rounds : Nat) (t : Text)
    (enough : (spec.clear t).length ≤ rounds) :
    Converged spec ((fieldText spec)^[rounds + 1] t) := by
  induction rounds generalizing t with
  | zero =>
    have fewer := (clear_fieldText_sublist compiled plain usable t).length_le
    have same : spec.clear (fieldText spec t) = spec.clear t := by
      rw [List.eq_nil_of_length_eq_zero (Nat.le_zero.mp enough),
        List.eq_nil_of_length_eq_zero (Nat.le_zero.mp (fewer.trans enough))]
    exact fieldText_congr same
  | succ rounds ih =>
    have fewer := clear_fieldText_sublist compiled plain usable t
    rw [Function.iterate_succ_apply]
    by_cases same : spec.clear (fieldText spec t) = spec.clear t
    · have converged : Converged spec (fieldText spec t) := fieldText_congr same
      rwa [converged.iterate (rounds + 1)]
    · have less : (spec.clear (fieldText spec t)).length < (spec.clear t).length :=
        Nat.lt_of_le_of_ne fewer.length_le fun equal => same (fewer.eq_of_length equal)
      exact ih (fieldText spec t) (by omega)

/-- However a field is reshaped again and again, its text does not change for ever. -/
theorem converged_rounds (t : Text) : Converged spec ((fieldText spec)^[t.length + 1] t) := by
  cases usable : spec.hasNoMask with
  | true =>
    have converged := converged_of_hasNoMask usable t
    rwa [Function.iterate_succ_apply, converged.iterate t.length]
  | false =>
    exact converged_iterate compiled plain usable t.length t
      (Spec.clear_sublist compiled usable plain t).length_le

end

/-- A field that stores what it is given, and for each write sends a notification later. -/
structure EchoField where
  text : Text := []
  /-- The texts written to it, in order. -/
  writes : List Text := []
  /-- How many notifications are still to be sent. -/
  due : Nat := 0
  deriving DecidableEq, Repr

namespace EchoField

def stored (f : EchoField) (t : Text) : EchoField :=
  { text := t, writes := f.writes ++ [t], due := f.due + 1 }

/-- The host whose only field is one with echoes. -/
def host : Host EchoField Unit where
  text _ f := f.text
  overwrite _ t f := .done (f.stored t)

/-- The field after one notification. -/
def notified (spec : Spec) (f : EchoField) : EchoField :=
  if fieldText spec f.text = f.text then f else f.stored (fieldText spec f.text)

@[simp] theorem notified_text (spec : Spec) (f : EchoField) :
    (f.notified spec).text = fieldText spec f.text := by
  unfold notified
  split
  · next same => exact same.symm
  · rfl

/-- Nothing is written to a field that shows what it should. -/
theorem notified_of_converged {spec : Spec} {f : EchoField} (converged : Converged spec f.text) :
    f.notified spec = f := if_pos converged

theorem notified_of_not_converged {spec : Spec} {f : EchoField}
    (other : ¬Converged spec f.text) : f.notified spec = f.stored (fieldText spec f.text) :=
  if_neg other

/-- An attached controller that waits. -/
structure Waits (spec : Spec) (s : Stage EchoField) : Prop where
  spec : s.controller.spec = spec
  session : s.controller.session = some .waiting

/-- A notification that a controller takes up. -/
theorem Waits.after {spec : Spec} {s : Stage EchoField} (waits : Waits spec s) :
    ∃ log, host.after () s =
      ({ controller :=
          { spec, session := some .waiting, formatted := fieldText spec s.fields.text }
         fields := s.fields.notified spec
         log }, some (caretMove spec (fieldText spec s.fields.text))) := by
  obtain ⟨rfl, session⟩ := waits
  have refill : host.refill s.controller () s.fields =
      (s.fields.notified s.controller.spec, true) := by
    unfold Host.refill notified
    by_cases same : fieldText s.controller.spec s.fields.text = s.fields.text
    · rw [if_pos same]
      exact if_pos same
    · rw [if_neg same]
      exact if_neg same
  obtain ⟨log, reshaped⟩ := Host.reshapeWithin_of_refill refill 0
  have taken : host.after () s = host.reshapeWithin 1 () s := by
    simp only [Host.after, Stage.after, session, Host.reshape]
  have text : host.text () (s.fields.notified s.controller.spec) =
      fieldText s.controller.spec s.fields.text := notified_text _ _
  rw [text] at reshaped
  exact ⟨log, taken.trans reshaped⟩

/-- Sends the next notification that is due, if there is one. -/
def deliver (s : Stage EchoField) : Stage EchoField :=
  match s.fields.due with
  | 0 => s
  | due + 1 => (host.after () (s.withFields { s.fields with due })).1

theorem deliver_of_none_due {s : Stage EchoField} (none : s.fields.due = 0) : deliver s = s := by
  unfold deliver
  rw [none]

/-- The field shows what it should, and the controller knows it. -/
structure Settled (spec : Spec) (s : Stage EchoField) : Prop where
  shows : fieldText spec s.fields.text = s.fields.text
  formatted : s.controller.formatted = s.fields.text

theorem Waits.deliver {spec : Spec} {s : Stage EchoField} (waits : Waits spec s) {due : Nat}
    (next : s.fields.due = due + 1) :
    Waits spec (deliver s) ∧
      (deliver s).fields = EchoField.notified spec { s.fields with due } ∧
      (deliver s).controller.formatted = (deliver s).fields.text := by
  have heard : Waits spec (s.withFields { s.fields with due }) := ⟨waits.spec, waits.session⟩
  obtain ⟨log, taken⟩ := heard.after
  have delivered : EchoField.deliver s =
      (host.after () (s.withFields { s.fields with due })).1 := by
    unfold EchoField.deliver
    rw [next]
  rw [delivered, taken]
  refine ⟨⟨rfl, rfl⟩, rfl, ?_⟩
  change _ = (notified spec { s.fields with due }).text
  rw [notified_text]
  rfl

/-- If reshaping the text a number of times is enough, then there are no more writes than that, and
all notifications can be sent. -/
theorem Waits.deliver_ends {spec : Spec} (total writes : Nat) (s : Stage EchoField)
    (waits : Waits spec s) (measure : writes + s.fields.due = total)
    (converges : Converged spec ((fieldText spec)^[writes] s.fields.text)) :
    ∃ rounds, (EchoField.deliver^[rounds] s).fields.due = 0 ∧
      (EchoField.deliver^[rounds] s).fields.writes.length ≤ s.fields.writes.length + writes ∧
      (0 < s.fields.due ∨ Settled spec s → Settled spec (EchoField.deliver^[rounds] s)) := by
  induction total generalizing writes s with
  | zero =>
    have none : s.fields.due = 0 := by omega
    exact ⟨0, none, Nat.le_add_right _ _, fun settled => settled.resolve_left (by omega)⟩
  | succ total ih =>
    cases next : s.fields.due with
    | zero => exact ⟨0, next, Nat.le_add_right _ _, fun settled => settled.resolve_left (by omega)⟩
    | succ due =>
      obtain ⟨still, fields, formatted⟩ := waits.deliver next
      by_cases shows : Converged spec s.fields.text
      · rw [notified_of_converged (f := { s.fields with due }) shows] at fields
        have settled : Settled spec (EchoField.deliver s) := ⟨by rw [fields]; exact shows, formatted⟩
        obtain ⟨rounds, none, most, ends⟩ := ih writes (EchoField.deliver s) still
          (by rw [fields]; change writes + due = total; omega)
          (by rw [fields]; exact converges)
        refine ⟨rounds + 1, none, ?_, fun _ => ends (.inr settled)⟩
        rw [fields] at most
        exact most
      · -- A write takes one of the rounds that the text still needs.
        rw [notified_of_not_converged (f := { s.fields with due }) shows] at fields
        cases writes with
        | zero => exact absurd converges shows
        | succ writes =>
          obtain ⟨rounds, none, most, ends⟩ := ih writes (EchoField.deliver s) still
            (by rw [fields]; change writes + (due + 1) = total; omega)
            (by rw [fields]; exact converges)
          refine ⟨rounds + 1, none, ?_, fun _ => ends (.inl (by rw [fields]; exact due.succ_pos))⟩
          have one : (EchoField.deliver s).fields.writes.length = s.fields.writes.length + 1 := by
            rw [fields]
            simp [stored]
          rw [one] at most
          exact most.trans (by omega)

/-- However many notifications are due, and whatever the field shows first: once all are sent, those
of the controller's own writes included, nothing changes any more. There are at most as many writes
as the first text has characters, and one. If there was anything to send at all, the field then
shows what it should. -/
theorem echoes_end (spec : Spec) (st : Stencil) (compiled : spec.stencil = .ok st)
    (plain : st.Plain) :
    (∀ t, Converged spec ((fieldText spec)^[t.length + 1] t)) ∧
    ∀ s, Waits spec s → ∃ rounds, let ended := deliver^[rounds] s
      ended.fields.due = 0 ∧ (∀ more, deliver^[more] ended = ended) ∧
      ended.fields.writes.length ≤ s.fields.writes.length + (s.fields.text.length + 1) ∧
      (0 < s.fields.due → Settled spec ended) := by
  have converges := converged_rounds compiled plain
  refine ⟨converges, fun s waits => ?_⟩
  obtain ⟨rounds, none, most, ends⟩ := waits.deliver_ends _ _ s rfl (converges s.fields.text)
  exact ⟨rounds, none, Function.iterate_fixed (deliver_of_none_due none), most,
    fun due => ends (.inl due)⟩

/-- Two ignorable digits are dropped one after another, and the prefix, which need not stay, is left
and disappears with the last echo. -/
theorem three_writes_for_two_sevens :
    let spec : Spec :=
      { pattern := some ['(', '#', '#', '#', ')'], lead := some ['+', '7', ' '], leadFixed := false
        ignorable := [['7']] }
    let st : Stencil := { mask := spec.mask, placeholder := '#', slotCount := 3 }
    let s : Stage EchoField :=
      { controller := { spec, session := some .waiting }
        fields := { text := ['7', '7'], due := 1 } }
    (spec.stencil = .ok st ∧ st.Plain ∧ Waits spec s) ∧
      (deliver^[3] s).fields.writes = [['+', '7', ' ', '(', '7'], ['+', '7', ' '], []] ∧
      ∃ rounds, (deliver^[rounds] s).fields.due = 0 ∧
        (deliver^[rounds] s).fields.writes.length ≤ 3 ∧ Settled spec (deliver^[rounds] s) := by
  intro spec st s
  have compiled : spec.stencil = .ok st := rfl
  have plain : st.Plain := by decide
  have waits : Waits spec s := ⟨rfl, rfl⟩
  obtain ⟨rounds, none, -, most, settled⟩ := (echoes_end spec st compiled plain).2 s waits
  exact ⟨⟨compiled, plain, waits⟩, by decide +kernel, rounds, none, most, settled (by decide)⟩

end EchoField
end Live
end MaskedInput
