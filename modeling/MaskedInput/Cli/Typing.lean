import MaskedInput.Cli.Values
import MaskedInput.Live.Buffer

/-!
# Typing into a field

Keys are typed into a fresh field one by one, then backspace is pressed a number of times. The
report tells what the field shows in the end, and after each keystroke if that is asked for.
-/
namespace MaskedInput.Cli

open Live

/-- Presses backspace a number of times; with nothing in front of the caret no more happens. -/
def pressBackspace : Nat → Stage Buffer → Stage Buffer
  | 0, s => s
  | n + 1, s =>
    if s.fields.caret = 0 then s
    else pressBackspace n (Buffer.alone.backspace Buffer.host s)

/-- The field after all keystrokes. -/
def replay (spec : Spec) (keys : Text) (backspaces : Nat) : Stage Buffer :=
  pressBackspace backspaces (Buffer.alone.type Buffer.host keys (Buffer.opened spec))

/-- The stages after each of the keystrokes, in order. -/
def stagesAfter : List (Stage Buffer → Stage Buffer) → Stage Buffer → List (Stage Buffer)
  | [], _ => []
  | press :: presses, s => press s :: stagesAfter presses (press s)

/-- What the field shows after each keystroke. -/
def replaySteps (spec : Spec) (keys : Text) (backspaces : Nat) : List Text :=
  let presses := keys.map (fun key => Buffer.alone.insert Buffer.host [key]) ++
    List.replicate backspaces (Buffer.alone.backspace Buffer.host)
  (stagesAfter presses (Buffer.opened spec)).map fun s => s.fields.text

structure FieldReport where
  text : Text
  caret : Nat
  clean : Text
  /-- What the field showed after each keystroke, if that was asked for. -/
  steps : List Text
  deriving DecidableEq, Repr

namespace FieldReport

def ofKeys (spec : Spec) (keys : Text) (backspaces : Nat) (steps : Bool) : FieldReport :=
  let final := replay spec keys backspaces
  { text := final.fields.text
    caret := final.fields.caret
    clean := final.controller.clean
    steps := if steps then replaySteps spec keys backspaces else [] }

def toJson (r : FieldReport) : Json :=
  .object ([("text", .string r.text), ("cursor", .number r.caret), ("clean", .string r.clean)] ++
    if r.steps.isEmpty then [] else [("steps", .array (r.steps.map .string))])

/-- The report in lines, with a rule between the keystrokes and the end. -/
def print (r : FieldReport) (steps : Bool) : Text :=
  unlines r.steps ++ (if steps then "---\n".toList else []) ++
    unlines ["text:   ".toList ++ r.text, "cursor: ".toList ++ (toString r.caret).toList,
      "clean:  ".toList ++ r.clean]

end FieldReport

def typingEntry (keys backspaces : Nat) : Log.Entry :=
  { level := .info
    target := .typeCommand
    parts := [.wording s!"Replaying {keys} keystroke(s) and {backspaces} backspace(s)."] }

/-- What the command `type` prints. -/
def printTyped (spec : Spec) (keys : Text) (backspaces : Nat) (steps json : Bool) :
    Attempt Text := do
  let final := replay spec keys backspaces
  .note (typingEntry keys.length backspaces :: final.log ++
    clearEntries spec final.controller.formatted)
  let report := FieldReport.ofKeys spec keys backspaces steps
  return if json then Json.print 0 report.toJson ++ ['\n'] else report.print steps

end MaskedInput.Cli
