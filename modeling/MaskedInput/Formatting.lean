import MaskedInput.Extraction.Mode
import MaskedInput.Log.Entry

/-!
# Formatting and clearing

Formatting writes the letters and digits of a text into the slots of a mask; clearing reads them
back. Neither fails: what cannot be done leaves the text as it is. Each is given as an outcome,
which says what became of the text, and both the resulting text and the log entries are read off the
outcome.
-/
namespace MaskedInput

/-- Fills the slots of a pattern with the characters of a value, in order. The result ends at the
first slot that has no character left; literals after the last slot are written once every slot is
filled. -/
def fillSlots (placeholder : Char) : Text → Text → Text
  | [], _ => []
  | m :: ms, [] => if (m :: ms).contains placeholder then [] else m :: ms
  | m :: ms, x :: xs =>
    if m = placeholder then x :: fillSlots placeholder ms xs
    else m :: fillSlots placeholder ms (x :: xs)

/-- The text without the first of the given beginnings that it has. -/
def dropFirstMatching (beginnings : List Text) (t : Text) : Text :=
  (beginnings.findSome? fun b => Text.afterPrefix? b t).getD t

/-- What became of a text that was to be formatted or cleared. -/
inductive Outcome where
  /-- Nothing to do: there is no mask, or the text is empty. -/
  | untouched
  | unusableMask (e : MaskError)
  /-- The text is longer than a mask that is not strict. -/
  | overlong (slotCount : Nat)
  /-- Formatted, after the removal of an ignorable text. -/
  | formatted (stripped result : Text)
  | cleared (result : Text)
  /-- What is left without the prefix does not have the shape of the mask. -/
  | misfit (stripped pattern : Text) (mode : ClearMode)
  deriving DecidableEq, Repr

namespace Outcome

/-- The text that an operation on the text `t` returns. -/
def text (t : Text) : Outcome → Text
  | .untouched | .unusableMask _ | .overlong _ => t
  | .formatted _ result | .cleared result => result
  | .misfit stripped _ _ => stripped

/-- The log entries of an operation on the text `t`. -/
def entries (t : Text) : Outcome → List Log.Entry
  | .untouched | .cleared _ => []
  | .unusableMask e => [
    { level := .warn
      target := .formatter
      parts := [.wording ("Mask is unusable, input is passed through: " ++ e.message)] }]
  | .overlong slotCount => [
    { level := .debug
      target := .formatter
      parts := [.wording "Input ", .value t,
        .wording s!" exceeds {slotCount} slots in non-strict mode; left unformatted"] }]
  | .formatted stripped result => [
    { level := .debug
      target := .formatter
      parts := [.wording "Formatted ", .value stripped, .wording " into ", .value result] }]
  | .misfit stripped pattern mode => [
    { level := .debug
      target := .formatter
      parts := [.wording "Input ", .value stripped,
        .wording (" does not fit mask '" ++ pattern.toString ++ "' (" ++ mode.name ++
          " engine); returned as is")] }]

end Outcome

namespace Spec

/-- Puts the prefix in front, unless the text or the pattern starts with it. -/
def addLead (spec : Spec) (pattern body : Text) : Text :=
  match spec.lead with
  | some p => if p.isPrefixOf body || p.isPrefixOf pattern then body else p ++ body
  | none => body

/-- The text without the prefix. Of a prefix that is only half there nothing is left. -/
def dropLead (spec : Spec) (t : Text) : Text :=
  match spec.lead with
  | some p =>
    if t.length < p.length && t.isPrefixOf p then [] else (Text.afterPrefix? p t).getD t
  | none => t

/-- Formatting with the stencil given, which is looked at only if there is something to do. -/
def formatUsing (spec : Spec) (stencil : Except MaskError Stencil) (t : Text) : Outcome :=
  if spec.hasNoMask || t.isEmpty then .untouched
  else
    match stencil with
    | .error e => .unusableMask e
    | .ok st =>
      if !spec.strict && st.slotCount < t.length then .overlong st.slotCount
      else
        let stripped := dropFirstMatching spec.ignorable t
        let body := fillSlots st.placeholder st.pattern (Text.alphanumerics stripped)
        .formatted stripped (spec.addLead st.pattern body)

/-- Clearing with the stencil given, which is looked at only if there is something to do. -/
def clearUsing (spec : Spec) (stencil : Except MaskError Stencil) (mode : ClearMode) (t : Text) :
    Outcome :=
  if spec.hasNoMask || t.isEmpty then .untouched
  else
    match stencil with
    | .error e => .unusableMask e
    | .ok st =>
      let stripped := spec.dropLead t
      match st.extract mode stripped with
      | some clean => .cleared clean
      | none => .misfit stripped st.pattern mode

def formatOutcome (spec : Spec) (t : Text) : Outcome := spec.formatUsing spec.stencil t

def clearOutcome (spec : Spec) (mode : ClearMode) (t : Text) : Outcome :=
  spec.clearUsing spec.stencil mode t

/-- The text written into the mask. -/
def format (spec : Spec) (t : Text) : Text := (spec.formatOutcome t).text t

/-- The clean value read in the given mode. -/
def clearBy (spec : Spec) (mode : ClearMode) (t : Text) : Text :=
  (spec.clearOutcome mode t).text t

/-- The clean value read by pattern. It is not to be used for masks in which a literal letter or
digit stands beside a slot: the literal is read as part of the value. -/
def clear (spec : Spec) (t : Text) : Text := spec.clearBy .pattern t

/-- The clean value read by position, for fully formatted text only. -/
def clearByPosition (spec : Spec) (t : Text) : Text := spec.clearBy .positional t

end Spec

end MaskedInput
