import MaskedInput.Regex.Flaw
import MaskedInput.Text.Lines

/-!
# Reports of flaws

A flaw is reported below the pattern in which it was found, with carets under its span. A pattern of
several lines is shown with line numbers between two rules, and a span over several lines is told in
words.
-/
namespace MaskedInput.Regex

namespace Report

def blanks (n : Nat) : Text := List.replicate n ' '

/-- The carets under the spans of one line, from a column on that is counted from zero. -/
def carets (column : Nat) : List Span → Text
  | [] => []
  | s :: rest =>
    let gap := s.first.column - 1 - column
    let width := max 1 (s.stop.column - s.first.column)
    blanks gap ++ List.replicate width '^' ++ carets (column + gap + width) rest

/-- How many digits the line numbers of a pattern have; a pattern of one line shows none. -/
def numberWidth (pattern : Text) : Nat :=
  let count := (Text.lines pattern).length + if pattern.getLast? = some '\n' then 1 else 0
  if count ≤ 1 then 0 else (toString count).length

/-- What stands in front of a line. -/
def margin (width number : Nat) : Text :=
  if width = 0 then blanks 4
  else
    let digits := (toString number).toList
    blanks (width - digits.length) ++ digits ++ [':', ' ']

/-- A line of the pattern, and the carets under it if any span lies in it. -/
def notedLine (width : Nat) (spans : List Span) (line : Text) (number : Nat) : Text :=
  let here := spans.filter fun s => s.isOneLine && s.first.line == number
  let notes :=
    if here.isEmpty then []
    else blanks (if width = 0 then 4 else width + 2) ++ carets 0 here ++ ['\n']
  margin width number ++ line ++ ['\n'] ++ notes

/-- The pattern with its spans shown. -/
def noted (pattern : Text) (spans : List Span) : Text :=
  let width := numberWidth pattern
  ((Text.lines pattern).zipIdx 1).flatMap fun (line, number) => notedLine width spans line number

/-- A span over several lines, in words. -/
def spread (s : Span) : String :=
  s!"on line {s.first.line} (column {s.first.column}) through line {s.stop.line} " ++
    s!"(column {s.stop.column - 1})\n"

def rule : String := Text.toString (List.replicate 79 '~') ++ "\n"

end Report

/-- The report of a flaw in a pattern. -/
def Flaw.report (f : Flaw) (pattern : Text) : String :=
  let spans := (f.span :: f.earlier.toList).mergeSort Span.notAfter
  let shown := Text.toString (Report.noted pattern spans)
  let body :=
    if pattern.contains '\n' then
      Report.rule ++ shown ++ Report.rule ++
        String.join ((spans.filter fun s => !s.isOneLine).map Report.spread)
    else shown
  "regex parse error:\n" ++ body ++ "error: " ++ f.fault.message

end MaskedInput.Regex
