import MaskedInput.Live.Buffer
import MaskedInput.Live.PlainField

/-!
# Forms

Several fields of different kinds that share one controller. The fields are named by their position.
-/
namespace MaskedInput.Live

inductive Widget where
  | buffer (b : Buffer)
  | plain (f : PlainField)
  deriving DecidableEq, Repr

namespace Widget

def text : Widget → Text
  | .buffer b => b.text
  | .plain f => f.text

/-- Puts the caret at a position; only a buffer minds the length of its text. -/
def moveCaret (position : Nat) : Widget → Widget
  | .buffer b => .buffer (b.moveCaret position)
  | .plain f => .plain { f with caret := position }

/-- Changes the text of a plain field without a word to the controller. -/
def setText (t : Text) : Widget → Widget
  | .buffer b => .buffer b
  | .plain f => .plain { f with text := t }

/-- Forgets the writes recorded so far. -/
def forgetWrites : Widget → Widget
  | .buffer b => .buffer b
  | .plain f => .plain { f with writes := [] }

end Widget

abbrev Form := List Widget

namespace Form

def textAt (i : Nat) (form : Form) : Text :=
  match form[i]? with
  | some w => w.text
  | none => []

/-- The place of a buffer; in place of another kind of field it shows an empty one. -/
def bufferAt (i : Nat) : BufferPlace Form Nat where
  name := i
  get form := match form[i]? with
    | some (.buffer b) => b
    | _ => {}
  put b form := form.set i (.buffer b)

/-- The place of a plain field; in place of another kind of field it shows an empty one. -/
def plainAt (i : Nat) : PlainFieldPlace Form Nat where
  name := i
  get form := match form[i]? with
    | some (.plain f) => f
    | _ => {}
  put f form := form.set i (.plain f)

def host : Host Form Nat where
  text := textAt
  overwrite i t form := match form[i]? with
    | some (.buffer _) => (bufferAt i).overwrite t form
    | some (.plain _) => (plainAt i).overwrite t form
    | none => .done form

/-- Overwrites the text of a field from outside of any notification. -/
def overwrite (i : Nat) (t : Text) (s : Stage Form) : Stage Form × Bool :=
  host.runScript (host.overwrite i t s.fields) s

end Form

end MaskedInput.Live
