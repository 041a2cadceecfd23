import MaskedInput.Formatting

/-!
# What redacted entries tell

Where values must not be shown, an entry is its wording with a size in place of each value. So two
series of entries that agree in all but the values read alike as soon as their values have the same
sizes. The entries of formatting and clearing are of this kind: all but their values follows from
the mask and from the case that was met.
-/
namespace MaskedInput

namespace Log

/-- The part without the value that it may hold. -/
def Part.blank : Part → Part
  | .wording s => .wording s
  | .value _ => .value []

/-- The entry without the values that it holds. -/
def Entry.blank (e : Entry) : Entry := { e with parts := e.parts.map Part.blank }

/-- How many bytes the values in these entries have, in order. -/
def valueSizes (entries : List Entry) : List Nat := (entries.flatMap Entry.values).map Text.utf8Size

/-- What can be read of these entries where values must not be shown. -/
def redactedLines (entries : List Entry) : List (Level × Target × String) :=
  entries.map fun e => (e.level, e.target, e.message .redacted)

theorem redact_congr {t t' : Text} (size : t.utf8Size = t'.utf8Size) : redact t = redact t' := by
  unfold redact
  rw [size]

theorem valueSizes_cons (e : Entry) (entries : List Entry) :
    valueSizes (e :: entries) = e.values.map Text.utf8Size ++ valueSizes entries := by
  simp only [valueSizes, List.flatMap_cons, List.map_append]

/-- The values of a message, by their sizes. -/
def partSizes (parts : List Part) : List Nat :=
  (parts.filterMap fun
    | .wording _ => none
    | .value t => some t).map Text.utf8Size

/-- Two messages with the same wording, whose values have the same sizes, read alike. `rest` are
the sizes of what comes behind. -/
theorem render_congr {parts parts' : List Part} {rest rest' : List Nat}
    (wording : parts.map Part.blank = parts'.map Part.blank)
    (sizes : partSizes parts ++ rest = partSizes parts' ++ rest') :
    parts.map (Part.render .redacted) = parts'.map (Part.render .redacted) ∧ rest = rest' := by
  induction parts generalizing parts' with
  | nil =>
    rw [List.map_nil, eq_comm, List.map_eq_nil_iff] at wording
    subst wording
    exact ⟨rfl, sizes⟩
  | cons part parts ih =>
    cases parts' with
    | nil => cases wording
    | cons part' parts' =>
      obtain ⟨head, tail⟩ := List.cons.inj wording
      -- The wording says which parts are values, and so which sizes belong together.
      cases part with
      | wording s =>
        cases part' with
        | value t => cases head
        | wording s' =>
          obtain ⟨same, left⟩ := ih tail sizes
          cases head
          exact ⟨congrArg (s :: ·) same, left⟩
      | value t =>
        cases part' with
        | wording s' => cases head
        | value t' =>
          obtain ⟨size, sizes⟩ := List.cons.inj sizes
          obtain ⟨same, left⟩ := ih tail sizes
          refine ⟨?_, left⟩
          rw [List.map_cons, List.map_cons, same]
          exact congrArg (· :: _) (redact_congr size)

/-- Entries that agree in all but the values read alike if their values have the same sizes. -/
theorem redactedLines_congr {entries entries' : List Entry}
    (alike : entries.map Entry.blank = entries'.map Entry.blank)
    (sizes : valueSizes entries = valueSizes entries') :
    redactedLines entries = redactedLines entries' := by
  induction entries generalizing entries' with
  | nil =>
    rw [List.map_nil, eq_comm, List.map_eq_nil_iff] at alike
    rw [alike]
  | cons e entries ih =>
    cases entries' with
    | nil => cases alike
    | cons e' entries' =>
      obtain ⟨head, tail⟩ := List.cons.inj alike
      rw [valueSizes_cons, valueSizes_cons] at sizes
      obtain ⟨level, target, wording⟩ := Entry.mk.inj head
      obtain ⟨parts, rest⟩ := render_congr wording sizes
      have message : e.message .redacted = e'.message .redacted := congrArg String.join parts
      have behind : redactedLines entries = redactedLines entries' := ih tail rest
      unfold redactedLines at behind ⊢
      rw [List.map_cons, List.map_cons, level, target, message, behind]

end Log

/-- The case that formatting or clearing met. -/
inductive Outcome.Course where
  | untouched | unusableMask | overlong | formatted | cleared | misfit
  deriving DecidableEq, Repr

namespace Outcome

def course : Outcome → Course
  | .untouched => .untouched
  | .unusableMask _ => .unusableMask
  | .overlong _ => .overlong
  | .formatted _ _ => .formatted
  | .cleared _ => .cleared
  | .misfit _ _ _ => .misfit

/-- The entries of a case, without the values. Only a usable mask has a number of slots and a shape
that may be missed, and only an unusable one has an error. -/
def Course.entries (stencil : Except MaskError Stencil) (mode : ClearMode) :
    Course → List Log.Entry
  | .untouched => Outcome.untouched.entries []
  | .cleared => (Outcome.cleared []).entries []
  | .formatted => (Outcome.formatted [] []).entries []
  | .unusableMask =>
    match stencil with
    | .error e => (Outcome.unusableMask e).entries []
    | .ok _ => []
  | .overlong =>
    match stencil with
    | .ok st => (Outcome.overlong st.slotCount).entries []
    | .error _ => []
  | .misfit =>
    match stencil with
    | .ok st => (Outcome.misfit [] st.pattern mode).entries []
    | .error _ => []

end Outcome

namespace Spec

variable (spec : Spec)

/-- Nothing but the values in the entries of formatting depends on the text. -/
theorem blank_formatEntries (t : Text) :
    ((spec.formatOutcome t).entries t).map Log.Entry.blank =
      (spec.formatOutcome t).course.entries spec.stencil .pattern := by
  unfold formatOutcome formatUsing
  split
  · rfl
  · cases spec.stencil with
    | error e => rfl
    | ok st =>
      simp only
      split <;> rfl

/-- Nothing but the values in the entries of clearing depends on the text. -/
theorem blank_clearEntries (mode : ClearMode) (t : Text) :
    ((spec.clearOutcome mode t).entries t).map Log.Entry.blank =
      (spec.clearOutcome mode t).course.entries spec.stencil mode := by
  unfold clearOutcome clearUsing
  split
  · rfl
  · cases spec.stencil with
    | error e => rfl
    | ok st =>
      simp only
      cases st.extract mode (spec.dropLead t) <;> rfl

end Spec

end MaskedInput
