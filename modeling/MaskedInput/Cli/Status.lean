import MaskedInput.Text.Basic

/-!
# Status lines

Warnings and errors of the command line stand on lines of their own behind a label, which is bold
and coloured where the output understands colours.
-/
namespace MaskedInput.Cli

inductive Severity where
  | warning | error
  deriving DecidableEq, Repr

def Severity.label : Severity → String
  | .warning => "[warn]"
  | .error => "[error]"

/-- The number of the severity's colour: yellow or red. -/
def Severity.color : Severity → String
  | .warning => "33"
  | .error => "31"

/-- A label between the marks that switch a style on and off. -/
def styled (on off label : String) : String :=
  "\x1b[" ++ on ++ "m" ++ label ++ "\x1b[" ++ off ++ "m"

def statusLine (colored : Bool) (severity : Severity) (message : String) : String :=
  let label := severity.label
  let shown := if colored then styled "1" "0" (styled severity.color "39" label) else label
  shown ++ " " ++ message ++ "\n"

end MaskedInput.Cli
