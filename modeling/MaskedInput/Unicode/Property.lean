import MaskedInput.Unicode.Script
import MaskedInput.Unicode.Age
import MaskedInput.Unicode.Segmentation

/-!
# Properties by name

Sets of characters can be asked for by the name of a property, or by the names of a property and of
one of its values. Names are matched loosely: case, blanks, hyphens and underscores do not count,
and neither does an `is` in front. A name alone may be that of a binary property, of a general
category or of a script.
-/
namespace MaskedInput.Unicode

inductive PropertyQuery where
  | named (name : Text)
  | valued (name value : Text)
  deriving DecidableEq, Repr

/-- Which of the names of a query is not known. -/
inductive UnknownName where
  | property
  | value
  deriving DecidableEq, Repr

namespace PropertyQuery

/-- What counts in a name. An `isc` is a name of its own and not a `c` with an `is` in front. -/
def key (name : Text) : Text :=
  let strip (t : Text) : Text :=
    (t.filter fun c => c.toNat < 128 && !([' ', '_', '-'].contains c)).map Char.toLower
  match name with
  | i :: s :: rest =>
    if i.toLower = 'i' ∧ s.toLower = 's' then
      let bare := strip rest
      if bare = ['c'] then ['i', 's', 'c'] else bare
    else strip name
  | _ => strip name

/-- Whether a name of the standard is meant by a key. -/
def means (k : Text) (name : String) : Bool := key name.toList == k

/-- The set that has the name among its own. -/
def lookUp (k : Text) (named : List (List String × CodeSet)) : Option CodeSet :=
  (named.find? fun entry => entry.1.any (means k)).map (·.2)

/-- The properties with several values. -/
inductive Catalogue where
  | generalCategory
  | script
  | scriptExtensions
  | age
  | graphemeClusterBreak
  | wordBreak
  | sentenceBreak
  deriving DecidableEq, Repr

def catalogues : List (List String × Catalogue) := [
  (["gc", "General_Category"], .generalCategory),
  (["sc", "Script"], .script),
  (["scx", "Script_Extensions"], .scriptExtensions),
  (["Age"], .age),
  (["GCB", "Grapheme_Cluster_Break"], .graphemeClusterBreak),
  (["WB", "Word_Break"], .wordBreak),
  (["SB", "Sentence_Break"], .sentenceBreak)]

/-- The names of properties for which no sets are kept. -/
def unkept : List String := [
  "bc", "Bidi_Class", "blk", "Block", "bmg", "Bidi_Mirroring_Glyph", "bpb", "Bidi_Paired_Bracket",
  "bpt", "Bidi_Paired_Bracket_Type", "ccc", "Canonical_Combining_Class", "CE",
  "Composition_Exclusion", "cf", "Case_Folding", "Comp_Ex", "Full_Composition_Exclusion", "CWKCF",
  "Changes_When_NFKC_Casefolded", "dm", "Decomposition_Mapping", "dt", "Decomposition_Type", "ea",
  "East_Asian_Width", "EqUIdeo", "Equivalent_Unified_Ideograph", "FC_NFKC", "FC_NFKC_Closure",
  "hst", "Hangul_Syllable_Type", "InCB", "Indic_Conjunct_Break", "InPC",
  "Indic_Positional_Category", "InSC", "Indic_Syllabic_Category", "isc", "ISO_Comment", "jg",
  "Joining_Group", "JSN", "Jamo_Short_Name", "jt", "Joining_Type", "lb", "Line_Break", "lc",
  "Lowercase_Mapping", "na", "Name", "na1", "Unicode_1_Name", "Name_Alias", "NFC_QC",
  "NFC_Quick_Check", "NFD_QC", "NFD_Quick_Check", "NFKC_CF", "NFKC_Casefold", "NFKC_QC",
  "NFKC_Quick_Check", "NFKC_SCF", "NFKC_Simple_Casefold", "NFKD_QC", "NFKD_Quick_Check", "nt",
  "Numeric_Type", "nv", "Numeric_Value", "scf", "Simple_Case_Folding", "sfc", "slc",
  "Simple_Lowercase_Mapping", "stc", "Simple_Titlecase_Mapping", "suc",
  "Simple_Uppercase_Mapping", "tc", "Titlecase_Mapping", "uc", "Uppercase_Mapping", "vo",
  "Vertical_Orientation", "XO_NFC", "Expands_On_NFC", "XO_NFD", "Expands_On_NFD", "XO_NFKC",
  "Expands_On_NFKC", "XO_NFKD", "Expands_On_NFKD", "cjkAccountingNumeric", "kAccountingNumeric",
  "cjkCompatibilityVariant", "kCompatibilityVariant", "cjkIICore", "kIICore", "cjkIRG_GSource",
  "kIRG_GSource", "cjkIRG_HSource", "kIRG_HSource", "cjkIRG_JSource", "kIRG_JSource",
  "cjkIRG_KPSource", "kIRG_KPSource", "cjkIRG_KSource", "kIRG_KSource", "cjkIRG_MSource",
  "kIRG_MSource", "cjkIRG_SSource", "kIRG_SSource", "cjkIRG_TSource", "kIRG_TSource",
  "cjkIRG_UKSource", "kIRG_UKSource", "cjkIRG_USource", "kIRG_USource", "cjkIRG_VSource",
  "kIRG_VSource", "cjkOtherNumeric", "kOtherNumeric", "cjkPrimaryNumeric", "kPrimaryNumeric",
  "cjkRSUnicode", "kRSUnicode", "Unicode_Radical_Stroke", "URS", "kEH_Cat", "kEH_Core", "kEH_Desc",
  "kEH_Func", "kEH_FVal", "kEH_HG", "kEH_IFAO", "kEH_JSesh", "kEH_NoMirror", "kEH_NoRotate",
  "kEH_UniK"]

/-- Names of values that no character has. -/
def memberless : List String := ["Cs", "Surrogate", "Zzzz", "Unknown", "Hrkt",
  "Katakana_Or_Hiragana"]

def script? (k : Text) : Option Script := Script.all.find? fun s => s.names.any (means k)

/-- The set of a value. -/
def Catalogue.members? (k : Text) : Catalogue → Option CodeSet
  | .generalCategory => lookUp k GeneralCategory.named
  | .script => (script? k).map Script.members
  | .scriptExtensions => (script? k).map Script.extensions
  | .age => Age.members? (means k)
  | .graphemeClusterBreak => lookUp k Segmentation.graphemeNamed
  | .wordBreak => lookUp k Segmentation.wordNamed
  | .sentenceBreak => lookUp k Segmentation.sentenceNamed

/-- The names that are those of a general category or a script although a property has them too. -/
def categoryFirst : List String := ["cf", "sc", "lc"]

/-- Whether the key is the name of a property that is not a set of characters that are kept. -/
def isUnkept (k : Text) : Bool :=
  unkept.any (means k) || catalogues.any fun entry => entry.1.any (means k)

/-- The set that a name alone stands for. -/
def ofName (k : Text) : Except UnknownName CodeSet :=
  let byValue : Except UnknownName CodeSet :=
    match (Catalogue.generalCategory.members? k <|> Catalogue.script.members? k) with
    | some s => .ok s
    | none => .error (if memberless.any (means k) then .value else .property)
  if categoryFirst.any (means k) then byValue
  else
    match lookUp k BinaryProperty.named with
    | some s => .ok s
    | none => if isUnkept k then .error .property else byValue

/-- The set that the names of a property and of a value stand for. -/
def ofValue (name value : Text) : Except UnknownName CodeSet :=
  match catalogues.find? fun entry => entry.1.any (means name) with
  | some (_, c) =>
    match c.members? value with
    | some s => .ok s
    | none => .error .value
  | none =>
    let isProperty := unkept.any (means name) ||
      BinaryProperty.named.any fun entry => entry.1.any (means name)
    .error (if isProperty then .value else .property)

/-- The characters that a query asks for. -/
def members : PropertyQuery → Except UnknownName CodeSet
  | named name => ofName (key name)
  | valued name value => ofValue (key name) (key value)

end PropertyQuery

end MaskedInput.Unicode
