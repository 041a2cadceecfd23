import MaskedInput.Log.Entry
import MaskedInput.Mask.Error
import MaskedInput.Mask.Spec
import MaskedInput.Text.Blank

/-!
# Presets

Ready-made specifications with a name and a description. A name is looked up without the blanks
around it and without regard to the case of ASCII letters.
-/
namespace MaskedInput

structure Preset where
  name : String
  description : String
  spec : Spec
  deriving DecidableEq, Repr

namespace Preset

/-- The presets, in the order in which they are listed. -/
def all : List Preset := [
  { name := "phone-ru"
    description := "Russian mobile number with a mandatory '+7 ' prefix"
    spec := {
      pattern := some "(###) ###-##-##".toList
      lead := some "+7 ".toList
      ignorable := ["7".toList, "7 ".toList, "+7".toList, "+7 ".toList] } },
  { name := "phone-ru-full"
    description := "Russian mobile number with the country code inside the mask"
    spec := {
      pattern := some "+7 (###) ###-##-##".toList
      ignorable := ["+7".toList, "7".toList] } },
  { name := "card"
    description := "16-digit payment card number in groups of four"
    spec := .ofPattern "#### #### #### ####".toList },
  { name := "groups-3"
    description := "Nine characters in groups of three"
    spec := .ofPattern "### ### ###".toList }]

/-- Whether the two texts are equal but for the case of ASCII letters. -/
def sameIgnoringCase (s t : Text) : Bool := s.map Char.toLower == t.map Char.toLower

/-- The preset of a name. An unknown name is reported as it was given, blanks included. -/
def find (name : Text) : Except MaskError Preset :=
  match all.find? fun preset => sameIgnoringCase preset.name.toList (Text.trim name) with
  | some preset => .ok preset
  | none => .error (.unknownPreset name)

/-- The entry for a preset that was found. -/
def loadedEntry (preset : Preset) : Log.Entry :=
  { level := .debug
    target := .presets
    parts := [.wording s!"Loaded mask preset '{preset.name}'."] }

end Preset

end MaskedInput
