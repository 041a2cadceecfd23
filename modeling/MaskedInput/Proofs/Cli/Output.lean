import MaskedInput.Proofs.Cli.UnusableMasks
import MaskedInput.Proofs.Text.Lines

/-!
# Output

Running a command answers all that it prints, or why it failed. Who watches its output sees it
written piece by piece, and what is written stays when the command fails later. Commands that treat
values leave nothing of that kind: whatever can be wrong with the mask or with the lines to read is
found before the first piece is written.
-/
namespace MaskedInput

theorem Preset.find_eq_error {name : Text}
    (unknown : ∀ preset ∈ all, sameIgnoringCase preset.name.toList (Text.trim name) = false) :
    find name = .error (.unknownPreset name) := by
  have none : all.find? (fun p => sameIgnoringCase p.name.toList (Text.trim name)) = none :=
    List.find?_eq_none.mpr fun preset listed => by simp [unknown preset listed]
  rw [find, none]

namespace Cli

variable {o : MaskOptions} {failure : Failure}

/-! ### Why a command fails -/

/-- What can be wrong with the mask that options describe. -/
inductive MaskOptions.Refused (o : MaskOptions) : Failure → Prop where
  | unknownPreset (name : Text) (named : o.preset = some name)
      (unknown : ∀ preset ∈ Preset.all,
        Preset.sameIgnoringCase preset.name.toList (Text.trim name) = false) :
      Refused o (.preset (.unknownPreset name))
  | noMask (base : Spec) (started : o.start.result = .ok base)
      (missing : (o.applyTo base).pattern = none) : Refused o .noMask
  | unusable (base : Spec) (started : o.start.result = .ok base) (pattern : Text)
      (given : (o.applyTo base).pattern = some pattern) (e : MaskError)
      (flaw : (o.applyTo base).Flaw e) : Refused o (.invalidMask { pattern, reason := e })

theorem MaskOptions.Refused.usableSpec_eq (refused : o.Refused failure) :
    o.usableSpec.result = .error failure := by
  cases refused with
  | unknownPreset name named unknown =>
    have start : o.start.result = .error (.preset (.unknownPreset name)) := by
      simp only [start, named, Preset.find_eq_error unknown]
      rfl
    exact Attempt.result_of_error (Attempt.result_of_error start _) _
  | noMask base started missing =>
    exact Attempt.result_of_error (choose_of_missing started missing) _
  | unusable base started pattern given e flaw => exact usableSpec_of_unusable started given flaw

theorem MaskOptions.start_eq_ok (known : ∀ failure, ¬o.Refused failure) :
    ∃ base, o.start.result = .ok base := by
  cases named : o.preset with
  | none => exact ⟨{}, by simp only [start, named]; rfl⟩
  | some name =>
    cases found : Preset.all.find? fun preset =>
      Preset.sameIgnoringCase preset.name.toList (Text.trim name) with
    | some preset => exact ⟨preset.spec, by simp only [start, named, Preset.find, found]⟩
    | none =>
      refine absurd (.unknownPreset name named fun preset listed => ?_) (known _)
      simpa using List.find?_eq_none.mp found preset listed

/-- Options are accepted if nothing is wrong with the mask that they describe. -/
theorem MaskOptions.exists_usableSpec (accepted : ∀ failure, ¬o.Refused failure) :
    ∃ base, o.start.result = .ok base ∧ o.usableSpec.result = .ok (o.applyTo base) := by
  obtain ⟨base, started⟩ := start_eq_ok accepted
  refine ⟨base, started, ?_⟩
  cases given : (o.applyTo base).pattern with
  | none => exact absurd (.noMask base started given) (accepted _)
  | some pattern =>
    obtain ⟨st, compiled⟩ := Spec.exists_stencil fun e flaw =>
      accepted _ (.unusable base started pattern given e flaw)
    unfold usableSpec
    rw [Attempt.result_of_ok (choose_of_pattern started given), Attempt.result_of_ok rfl, Spec.check,
      compiled]
    rfl

theorem MaskOptions.usableSpec_eq_error_iff :
    o.usableSpec.result = .error failure ↔ o.Refused failure := by
  refine ⟨fun failed => ?_, Refused.usableSpec_eq⟩
  by_cases accepted : ∀ failure, ¬o.Refused failure
  · obtain ⟨base, -, usable⟩ := exists_usableSpec accepted
    rw [failed] at usable
    cases usable
  · obtain ⟨cause, refused⟩ := not_forall_not.mp accepted
    rw [refused.usableSpec_eq] at failed
    cases failed
    exact refused

/-- Why a command that treats values fails. The standard input is read if no inputs are given, and
only with a mask that is accepted. -/
inductive Failing (o : MaskOptions) (inputs : List Text) (stdin : ByteArray) : Failure → Prop where
  | mask (failure : Failure) (refused : o.Refused failure) : Failing o inputs stdin failure
  | line (accepted : ∀ failure, ¬o.Refused failure) (reads : inputs = []) (chunk : List UInt8)
      (sent : chunk ∈ splitBehind 10 stdin.data.toList) (broken : Text.readLine? chunk = none) :
      Failing o inputs stdin .undecodableInput

/-! ### Writing piece by piece -/

/-- A run that writes to a stream and may fail. What was written before a failure stays. -/
abbrev Printing := ExceptT Failure (StateM Text)

namespace Printing

variable {α β : Type}

/-- How the run ends, and what is on the stream then, if it begins with this on the stream. -/
def onto (p : Printing α) (out : Text) : Except Failure α × Text := StateT.run (ExceptT.run p) out

def write (piece : Text) : Printing Unit := modify (· ++ piece)

/-- An answer that was found, or not, without writing. -/
def ofResult (result : Except Failure α) : Printing α := MonadExcept.ofExcept result

theorem onto_bind_write (piece : Text) (next : Unit → Printing α) (out : Text) :
    (write piece >>= next).onto out = (next ()).onto (out ++ piece) := rfl

theorem onto_bind_ofResult (result : Except Failure α) (next : α → Printing β) (out : Text) :
    (ofResult result >>= next).onto out =
      match result with
      | .ok x => (next x).onto out
      | .error failure => (.error failure, out) := by
  cases result <;> rfl

/-- Pieces are written one behind the other. -/
theorem onto_forM_write (pieces : List Text) (out : Text) :
    Printing.onto (forM pieces write) out = (.ok (), out ++ pieces.flatten) := by
  induction pieces generalizing out with
  | nil =>
    rw [List.flatten_nil, List.append_nil]
    rfl
  | cons piece pieces ih =>
    rw [List.forM_cons, onto_bind_write, ih, List.flatten_cons, List.append_assoc]

end Printing

/-- The pieces in which records are written: a line for each, or what stands around and between the
items of an array, and the items. -/
def piecesOf : Bool → List Text → List Text
  | false, records => records.map (· ++ ['\n'])
  | true, [] => [['[', ']', '\n']]
  | true, record :: records =>
    (['['] ++ Json.newLine 1 ++ record) :: records.map ([','] ++ Json.newLine 1 ++ ·) ++
      [Json.newLine 0 ++ [']', '\n']]

theorem printItems_eq (level : Nat) (items : List Json) :
    Json.printItems level items =
      (items.map fun item => [','] ++ Json.newLine level ++ Json.print level item).flatten := by
  induction items with
  | nil => simp [Json.printItems]
  | cons item items ih => simp [Json.printItems, ih]

theorem print_array_cons (level : Nat) (item : Json) (items : List Json) :
    Json.print level (.array (item :: items)) =
      ['['] ++ Json.newLine (level + 1) ++ Json.print (level + 1) item ++
        (items.map fun item =>
          [','] ++ Json.newLine (level + 1) ++ Json.print (level + 1) item).flatten ++
        Json.newLine level ++ [']'] := by
  rw [← printItems_eq]
  rfl

theorem printRecords_eq {α : Type} (json : Bool) (toJson : α → Json) (line : α → Text)
    (records : List α) :
    printRecords json toJson line records =
      (piecesOf json (records.map fun record =>
        if json then Json.print 1 (toJson record) else line record)).flatten := by
  cases json with
  | false => simp [printRecords, unlines, piecesOf, List.flatMap, Function.comp_def]
  | true =>
    cases records with
    | nil => rfl
    | cons record records =>
      simp [printRecords, piecesOf, print_array_cons, Function.comp_def]

/-- The values that a command treats: its inputs, or the lines of the standard input. -/
def supplied (inputs : List Text) (stdin : ByteArray) : Except Failure (List Text) :=
  if inputs = [] then
    match Text.readLines? stdin with
    | some lines => .ok lines
    | none => .error .undecodableInput
  else .ok inputs

theorem inputValues_eq (inputs : List Text) (stdin : ByteArray) :
    inputValues inputs stdin = { result := supplied inputs stdin } := by
  rw [inputValues, supplied, Text.readLines?_eq]
  by_cases reads : inputs = []
  · subst reads
    cases Text.decode? stdin <;> rfl
  · rw [if_neg reads, if_neg (by simpa using reads)]
    rfl

theorem supplied_eq_error_iff {inputs : List Text} {stdin : ByteArray} :
    supplied inputs stdin = .error failure ↔
      failure = .undecodableInput ∧ inputs = [] ∧
        ∃ chunk ∈ splitBehind 10 stdin.data.toList, Text.readLine? chunk = none := by
  rw [← Text.readLines?_eq_none_iff, supplied]
  split
  · next reads => cases Text.readLines? stdin <;> simp [reads, eq_comm]
  · next given => simp [given]

theorem supplied_of_sent {values : List Text} {t : Text} (sent : Text.SentAs values t)
    (fit : ∀ value ∈ values, Text.IsLine value) : supplied [] t.toString.toUTF8 = .ok values := by
  rw [supplied, if_pos rfl, Text.readLines?_eq, Text.decode?_toUTF8, Option.map_some,
    sent.lines_eq fit]

/-- Commands that treat each value by itself. -/
inductive Treatment where
  | format (showClean : Bool)
  | clear (mode : ClearMode)

namespace Treatment

def command (o : MaskOptions) (inputs : List Text) (json : Bool) : Treatment → Command
  | .format showClean => .format o inputs showClean json
  | .clear mode => .clear o inputs mode json

/-- The record of a value, as it stands in the output. -/
def record (spec : Spec) (json : Bool) (value : Text) : Treatment → Text
  | .format showClean =>
    let treated := FormattedValue.ofInput spec showClean value
    if json then Json.print 1 treated.toJson else treated.line
  | .clear mode =>
    let treated := ClearedValue.ofInput spec mode value
    if json then Json.print 1 treated.toJson else treated.clean

/-- The pieces in which the command writes what it prints for the values. -/
def pieces (treatment : Treatment) (spec : Spec) (json : Bool) (values : List Text) : List Text :=
  piecesOf json (values.map fun value => treatment.record spec json value)

/-- Runs the command step by step: the mask is checked, the values are collected, and then the
records are written one after another. -/
def execute (treatment : Treatment) (o : MaskOptions) (inputs : List Text) (json : Bool)
    (stdin : ByteArray) : Printing Unit := do
  let spec ← .ofResult o.usableSpec.result
  let values ← .ofResult (supplied inputs stdin)
  forM (treatment.pieces spec json values) Printing.write

variable {treatment : Treatment}

/-- What the command prints for the values, with what it logs about them. -/
def print (spec : Spec) (values : List Text) (json : Bool) : Treatment → Attempt Text
  | .format showClean => printFormatted spec values showClean json
  | .clear mode => printCleared spec values mode json

theorem run_command (o : MaskOptions) (inputs : List Text) (json : Bool) (stdin : ByteArray) :
    (treatment.command o inputs json).run stdin = (do
      let spec ← o.usableSpec
      let values ← inputValues inputs stdin
      treatment.print spec values json) := by
  cases treatment <;> rfl

theorem result_print (spec : Spec) (values : List Text) (json : Bool) :
    (treatment.print spec values json).result =
      .ok (treatment.pieces spec json values).flatten := by
  cases treatment with
  | format showClean =>
    simp only [print, printFormatted, Attempt.result_bind, printRecords_eq, List.map_map]
    rfl
  | clear mode =>
    simp only [print, printCleared, Attempt.result_bind, printRecords_eq, List.map_map]
    rfl

theorem run_eq (o : MaskOptions) (inputs : List Text) (json : Bool) (stdin : ByteArray) :
    ((treatment.command o inputs json).run stdin).result = (do
      let spec ← o.usableSpec.result
      let values ← supplied inputs stdin
      return (treatment.pieces spec json values).flatten) := by
  simp only [run_command, Attempt.result_bind, inputValues_eq, result_print]
  rfl

/-- The stream is left with what the run answers behind it, or as it was. -/
theorem onto_execute (o : MaskOptions) (inputs : List Text) (json : Bool) (stdin : ByteArray)
    (out : Text) :
    (treatment.execute o inputs json stdin).onto out =
      match ((treatment.command o inputs json).run stdin).result with
      | .ok printed => (.ok (), out ++ printed)
      | .error failure => (.error failure, out) := by
  rw [run_eq, execute, Printing.onto_bind_ofResult]
  cases o.usableSpec.result with
  | error failure => rfl
  | ok spec =>
    simp only [Printing.onto_bind_ofResult]
    cases supplied inputs stdin with
    | error failure => rfl
    | ok values => exact Printing.onto_forM_write _ _

theorem run_eq_error_iff {inputs : List Text} {json : Bool} {stdin : ByteArray} :
    ((treatment.command o inputs json).run stdin).result = .error failure ↔
      Failing o inputs stdin failure := by
  rw [run_eq]
  -- With a mask that is refused the lines are not looked at, so that the mask is the only cause.
  cases usable : o.usableSpec.result with
  | error cause =>
    have refused := MaskOptions.usableSpec_eq_error_iff.mp usable
    constructor
    · rintro ⟨⟩
      exact .mask _ refused
    · rintro (⟨_, other⟩ | ⟨accepted, _, _, _, _⟩)
      · rw [← usable, other.usableSpec_eq]
        rfl
      · exact absurd refused (accepted _)
  | ok spec =>
    have accepted (cause : Failure) : ¬o.Refused cause := fun refused => by
      rw [refused.usableSpec_eq] at usable
      cases usable
    have lines : Failing o inputs stdin failure ↔ supplied inputs stdin = .error failure := by
      rw [supplied_eq_error_iff]
      constructor
      · rintro (⟨_, refused⟩ | ⟨_, reads, chunk, sent, broken⟩)
        · exact absurd refused (accepted failure)
        · exact ⟨rfl, reads, chunk, sent, broken⟩
      · rintro ⟨rfl, reads, chunk, sent, broken⟩
        exact .line accepted reads chunk sent broken
    rw [lines]
    cases supplied inputs stdin <;> simp [bind, Except.bind, pure, Except.pure]

/-- What can be seen of a command that treats values, on the stream that it writes to. -/
structure AllOrNothing (treatment : Treatment) (o : MaskOptions) (inputs : List Text) (json : Bool)
    (stdin : ByteArray) : Prop where
  /-- The command fails for these causes and no others. -/
  causes (failure : Failure) :
    ((treatment.command o inputs json).run stdin).result = .error failure ↔
      Failing o inputs stdin failure
  /-- When it fails it has written nothing. -/
  nothing (failure : Failure) (failing : Failing o inputs stdin failure) :
    ((treatment.command o inputs json).run stdin).ending.stdout = "" ∧
    ∀ out, (treatment.execute o inputs json stdin).onto out = (.error failure, out)
  /-- Otherwise it has written a record for each value, in their order, and the rest of the layout. -/
  all (succeeds : ∀ failure, ¬Failing o inputs stdin failure) :
    ∃ base values, o.start.result = .ok base ∧ supplied inputs stdin = .ok values ∧
      let printed := (treatment.pieces (o.applyTo base) json values).flatten
      ((treatment.command o inputs json).run stdin).result = .ok printed ∧
      ∀ out, (treatment.execute o inputs json stdin).onto out = (.ok (), out ++ printed)

theorem allOrNothing (treatment : Treatment) (o : MaskOptions) (inputs : List Text) (json : Bool)
    (stdin : ByteArray) : treatment.AllOrNothing o inputs json stdin where
  causes failure := run_eq_error_iff
  nothing failure failing := by
    have failed : ((treatment.command o inputs json).run stdin).result = .error failure :=
      run_eq_error_iff.mpr failing
    refine ⟨by rw [Attempt.ending, failed], fun out => by rw [onto_execute, failed]⟩
  all succeeds := by
    obtain ⟨base, started, usable⟩ :=
      MaskOptions.exists_usableSpec fun failure refused => succeeds failure (.mask failure refused)
    cases found : supplied inputs stdin with
    | error failure =>
      have failed : ((treatment.command o inputs json).run stdin).result = .error failure := by
        rw [run_eq, usable, found]
        rfl
      exact absurd (run_eq_error_iff.mp failed) (succeeds failure)
    | ok values =>
      have answered : ((treatment.command o inputs json).run stdin).result =
          .ok (treatment.pieces (o.applyTo base) json values).flatten := by
        rw [run_eq, usable, found]
        rfl
      exact ⟨base, values, started, rfl, answered, fun out => by rw [onto_execute, answered]⟩

/-- Commands that treat values print a record for each of them or nothing at all, and it makes no
difference whether the values are given as inputs or sent as lines. -/
theorem prints_all_or_nothing (treatment : Treatment) (o : MaskOptions) (json : Bool) :
    (∀ inputs stdin, treatment.AllOrNothing o inputs json stdin) ∧
    ∀ (values : List Text) (t : Text) (stdin : ByteArray), values ≠ [] →
      (∀ value ∈ values, Text.IsLine value) → Text.SentAs values t →
      (treatment.command o values json).run stdin =
        (treatment.command o [] json).run t.toString.toUTF8 := by
  refine ⟨fun inputs stdin => treatment.allOrNothing o inputs json stdin,
    fun values t stdin given fit sent => ?_⟩
  have same : inputValues values stdin = inputValues [] t.toString.toUTF8 := by
    rw [inputValues_eq, inputValues_eq, supplied_of_sent sent fit, supplied, if_neg given]
  rw [run_command, run_command, same]

/-- A carriage return inside a line, an empty line and a last line without an end are read back; a
line that is not UTF-8 leaves the stream as it was, though a good one stands in front of it. -/
theorem mixed_ends_read_back :
    let o : MaskOptions := { mask := some ['#', '-', '#'] }
    let values : List Text := [['1', '2'], [], ['3', '\r', '4']]
    let sent : Text := ['1', '2', '\r', '\n', '\n', '3', '\r', '4']
    (∀ stdin, ((format true).command o values false).run stdin =
      ((format true).command o [] false).run sent.toString.toUTF8) ∧
    ∀ out, ((format true).execute o [] false ⟨#[49, 10, 255, 10]⟩).onto out =
      (.error .undecodableInput, out) := by
  intro o values sent
  have both := prints_all_or_nothing (.format true) o false
  constructor
  · intro stdin
    refine both.2 values sent stdin (by decide) (fun value given => ?_) ?_
    · simp only [values, List.mem_cons, List.not_mem_nil, or_false] at given
      rcases given with rfl | rfl | rfl <;> exact ⟨by decide, by decide⟩
    · exact .returned ['1', '2'] (.lineFeed [] (.unended ['3', '\r', '4'] (by decide)))
  · have usable : o.usableSpec.result = .ok (o.applyTo {}) := rfl
    have accepted (failure : Failure) : ¬o.Refused failure := fun refused => by
      rw [refused.usableSpec_eq] at usable
      cases usable
    refine ((both.1 [] ⟨#[49, 10, 255, 10]⟩).nothing _ ?_).2
    exact .line accepted rfl [255, 10] (by decide) (by decide +kernel)

end Treatment

end Cli
end MaskedInput
