import MaskedInput.Json
import MaskedInput.Mask.Spec

/-!
# Specifications as JSON

A specification is an object with one field for each of its parts. Reading one back, a missing field
has its default, a field of another name is passed over, and a value of the wrong kind is refused.
-/
namespace MaskedInput.Spec

def toJson (spec : Spec) : Json := .object [
  ("pattern", Json.ofOption .string spec.pattern),
  ("placeholder", Json.ofOption (fun c => .string [c]) spec.placeholder),
  ("prefix", Json.ofOption .string spec.lead),
  ("prefix_necessary", .bool spec.leadFixed),
  ("ignored_prefixes", .array (spec.ignorable.map .string)),
  ("strict", .bool spec.strict)]

def text? : Json → Option Text
  | .string t => some t
  | _ => none

def char? : Json → Option Char
  | .string [c] => some c
  | _ => none

def bool? : Json → Option Bool
  | .bool b => some b
  | _ => none

def texts? : Json → Option (List Text)
  | .array items => items.mapM text?
  | _ => none

/-- Reads a value that may be absent, written as null. -/
def nullable {α : Type} (read : Json → Option α) : Json → Option (Option α)
  | .null => some none
  | v => (read v).map some

/-- The specification with one field of an object taken over. -/
def takeField (spec : Spec) : String × Json → Option Spec
  | ("pattern", v) => (nullable text? v).map fun pattern => { spec with pattern }
  | ("placeholder", v) => (nullable char? v).map fun placeholder => { spec with placeholder }
  | ("prefix", v) => (nullable text? v).map fun lead => { spec with lead }
  | ("prefix_necessary", v) => (bool? v).map fun leadFixed => { spec with leadFixed }
  | ("ignored_prefixes", v) => (texts? v).map fun ignorable => { spec with ignorable }
  | ("strict", v) => (bool? v).map fun strict => { spec with strict }
  | _ => some spec

/-- The specification that an object describes. -/
def ofJson? : Json → Option Spec
  | .object fields => fields.foldlM takeField {}
  | _ => none

end MaskedInput.Spec
