import MaskedInput.Formatting
import MaskedInput.Live.Change

/-!
# Controllers

A controller keeps a field in the shape of a mask while its user types. While it is attached it has
a session, which waits for the user except while the controller writes to the field itself. This
module holds the state of a controller, what can be read off it, and its log entries.
-/
namespace MaskedInput.Live

inductive Session where
  /-- Waiting for the next change by the user. -/
  | waiting
  /-- Writing to the field; the changes that the field reports are the controller's own. -/
  | writing
  deriving DecidableEq, Repr

structure Controller where
  spec : Spec
  /-- The session; none while the controller is detached. -/
  session : Option Session := none
  /-- The text last written, or accepted, as formatted. -/
  formatted : Text := []
  deriving DecidableEq, Repr

namespace Controller

def attached (k : Controller) : Bool := k.session.isSome

/-- Attached, and not writing to a field. -/
def waits (k : Controller) : Bool := k.session == some .waiting

/-- The clean value behind the formatted text. -/
def clean (k : Controller) : Text := k.spec.clear k.formatted

/-- Filters what the user inserts. What the controller writes itself is never filtered. -/
def accept (k : Controller) (typed : Text) : Text := if k.waits then accepted typed else typed

end Controller

/-- What a field with this text should show: its clean value formatted again, and in place of an
empty result the prefix that is to stay. -/
def fieldText (spec : Spec) (current : Text) : Text :=
  match spec.format (spec.clear current) with
  | [] => spec.fixedLead?.getD []
  | c :: rest => c :: rest

/-- The entries of clearing the text of a field. -/
def clearEntries (spec : Spec) (current : Text) : List Log.Entry :=
  (spec.clearOutcome .pattern current).entries current

/-- The entries of formatting the clean value of a field. -/
def formatEntries (spec : Spec) (current : Text) : List Log.Entry :=
  let clean := spec.clear current
  (spec.formatOutcome clean).entries clean

/-- The caret goes behind a prefix that is to stay and is all that a field holds. -/
def caretMove (spec : Spec) (text : Text) : Option CaretMove :=
  match spec.fixedLead? with
  | some p => if text = p then some { position := p.length } else none
  | none => none

namespace Notice

def entry (level : Log.Level) (parts : List Log.Part) : Log.Entry :=
  { level, target := .live, parts }

def attached : Log.Entry := entry .debug [.wording "Attached to field"]

def attachRefused : Log.Entry :=
  entry .warn [.wording "attach() called during a notification; ignored"]

def detachRefused : Log.Entry :=
  entry .warn [.wording "detach() called during a notification; ignored"]

def notAttached : Log.Entry := entry .trace [.wording "Not attached; notification ignored"]

def selfTriggered : Log.Entry :=
  entry .trace [.wording "Self-triggered notification suppressed"]

def beforeChange (old : Text) (change : Change) : Log.Entry :=
  entry .trace [.wording ("before change " ++ change.describe ++ " of "), .value old]

def duringChange (new : Text) (change : Change) : Log.Entry :=
  entry .trace [.wording ("during change " ++ change.describe ++ " into "), .value new]

def reshaped (current formatted : Text) : Log.Entry :=
  entry .debug [.wording "Reformatted ", .value current, .wording " as ", .value formatted]

end Notice

end MaskedInput.Live
