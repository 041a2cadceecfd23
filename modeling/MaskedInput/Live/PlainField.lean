import MaskedInput.Live.Host

/-!
# Plain fields

A field that stores what it is given, up to a limit, and keeps a record of what was written to it.
In the middle of a write it may turn to the controller: report the change at once, try to attach or
to detach, or fail. A controller has to come through all of this unharmed.
-/
namespace MaskedInput.Live

/-- What a field does with the controller when its text is overwritten. -/
inductive WriteReaction where
  | quiet | notify | attach | detach | fail
  deriving DecidableEq, Repr

/-- What a field saw of the controller during a write. -/
inductive Seen where
  | nothing
  | values (formatted acceptedHyphen : Text)
  | move (answer : Option CaretMove)
  | attached (answer : Bool)
  deriving DecidableEq, Repr

/-- A write: the text given, the session of the controller just then, and what the field saw. -/
structure Write where
  text : Text
  during : Option Session
  seen : Seen
  deriving DecidableEq, Repr

structure PlainField where
  text : Text := []
  caret : Nat := 0
  /-- The most characters that the field keeps. -/
  limit : Option Nat := none
  reaction : WriteReaction := .quiet
  writes : List Write := []
  deriving DecidableEq, Repr

namespace PlainField

/-- What the field keeps of a text. -/
def kept (f : PlainField) (t : Text) : Text :=
  match f.limit with
  | some n => t.take n
  | none => t

def stored (f : PlainField) (t : Text) : PlainField := { f with text := t, caret := t.length }

def recorded (f : PlainField) (write : Write) : PlainField :=
  { f with writes := f.writes ++ [write] }

end PlainField

/-- A plain field among the fields of a host. -/
abbrev PlainFieldPlace (σ ι : Type) := Place σ ι PlainField

namespace PlainFieldPlace

variable {σ ι : Type} (place : PlainFieldPlace σ ι)

def overwrite (t : Text) (fields : σ) : Script σ ι :=
  .ask fields .session fun fields during =>
    let field := place.get fields
    let kept := field.kept t
    let store := place.update (·.stored kept)
    let record (seen : Seen) := place.update (·.recorded { text := t, during, seen })
    match field.reaction with
    | .quiet => .done (record .nothing (store fields))
    | .notify =>
      let change : Change := { start := 0, removed := field.text.length, inserted := kept.length }
      .ask fields (.before field.text change) fun fields _ =>
        .ask (store fields) (.during kept change) fun fields _ =>
          .ask fields .formatted fun fields formatted =>
            .ask fields (.accept ['-']) fun fields hyphen =>
              .ask fields (.after place.name) fun fields _ =>
                .done (record (.values formatted hyphen) fields)
    | .attach =>
      .ask (store fields) (.attach place.name) fun fields answer =>
        .done (record (.move answer) fields)
    | .detach =>
      .ask (store fields) .detach fun fields _ =>
        .ask fields .attached fun fields answer => .done (record (.attached answer) fields)
    | .fail => .fail (record .nothing fields)

end PlainFieldPlace

end MaskedInput.Live
