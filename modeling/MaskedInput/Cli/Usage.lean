/-!
# Usage

The ways in which reading the command line ends without a command to run: the user asked for help or
for the version, or made a mistake.
-/
namespace MaskedInput.Cli

inductive Usage where
  | help
  | version
  /-- There are no arguments at all. -/
  | helpOnMissingArgument
  /-- An option that is not known, or a value too many. -/
  | unknownArgument
  /-- An option without the value it needs. -/
  | invalidValue
  /-- A value that an option cannot take. -/
  | valueValidation
  | missingRequiredArgument
  | missingSubcommand
  | invalidSubcommand
  /-- An option given twice that may be given once. -/
  | argumentConflict
  /-- A value for an option that takes none. -/
  | tooManyValues
  deriving DecidableEq, Repr

/-- Whether the user asked for what is shown, and made no mistake. -/
def Usage.isRequest : Usage → Bool
  | .help | .version => true
  | _ => false

end MaskedInput.Cli
