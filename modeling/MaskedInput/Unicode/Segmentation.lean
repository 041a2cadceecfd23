import MaskedInput.Unicode.BinaryProperty

/-!
# Text segmentation

The values that Unicode 16.0 gives to characters for finding the bounds of grapheme clusters, words
and sentences. Characters without a value of their own are not listed.
-/
namespace MaskedInput.Unicode.Segmentation

open GeneralCategory BinaryProperty

def carriageReturn : CodeSet := .single 0x0D

def lineFeed : CodeSet := .single 0x0A

def zeroWidthJoiner : CodeSet := .single 0x200D

/-! ### Grapheme clusters -/

def graphemeExtender : CodeSet := graphemeExtend ∪ emojiModifier

def graphemePrepend : CodeSet :=
  prependedConcatenationMark ∪
    .read "D4E 111C2-111C3 113D1 1193F 11941 11A3A 11A84-11A89 11D46 11F02"

def graphemeControl : CodeSet :=
  (lineSeparator ∪ paragraphSeparator ∪ control ∪ format ∪
    (unassigned ∩ defaultIgnorableCodePoint)) \
    (graphemeExtender ∪ prependedConcatenationMark ∪ .read "A D 200C-200D")

/-- Spacing marks that do not extend a grapheme cluster. -/
def unspacingMark : CodeSet := .read (
  "102B 102C 1038 1062-1064 1067-106D 1083 1087-108C 108F 109A-109C 1A61 1A63 1A64 AA7B AA7D " ++
  "11720 11721")

def graphemeSpacingMark : CodeSet :=
  (spacingMark \ (graphemeExtender ∪ unspacingMark)) ∪ .read "E33 EB3"

def leadingJamo : CodeSet := .read "1100-115F A960-A97C"

def vowelJamo : CodeSet := .read "1160-11A7 D7B0-D7C6 16D63 16D67-16D6A"

def trailingJamo : CodeSet := .read "11A8-11FF D7CB-D7FB"

/-- The syllables without a trailing consonant. -/
def openSyllable : CodeSet := .read "AC00-D788/1C"

def closedSyllable : CodeSet := .range 0xAC00 0xD7A3 \ openSyllable

def graphemeNamed : List (List String × CodeSet) := [
  (["CN", "Control"], graphemeControl),
  (["CR"], carriageReturn),
  (["EX", "Extend"], graphemeExtender),
  (["L"], leadingJamo),
  (["LF"], lineFeed),
  (["LV"], openSyllable),
  (["LVT"], closedSyllable),
  (["PP", "Prepend"], graphemePrepend),
  (["RI", "Regional_Indicator"], regionalIndicator),
  (["SM", "SpacingMark"], graphemeSpacingMark),
  (["T"], trailingJamo),
  (["V"], vowelJamo),
  (["ZWJ"], zeroWidthJoiner)]

/-! ### Words -/

def wordExtender : CodeSet := (graphemeExtender ∪ spacingMark) \ zeroWidthJoiner

def wordFormat : CodeSet :=
  format \ (.read "200B-200D" ∪ wordExtender ∪ prependedConcatenationMark)

/-- The marks that stand in front of a number. -/
def numberMark : CodeSet := prependedConcatenationMark \ .single 0x70F

def wordNumeric : CodeSet := decimalNumber ∪ numberMark ∪ .single 0x66B

def hebrewLetter : CodeSet := .read (
  "5D0-5EA 5EF-5F2 FB1D FB1F-FB28 FB2A-FB36 FB38-FB3C FB3E FB40-FB41 FB43-FB44 FB46-FB4F")

def katakana : CodeSet := .read (
  "3031-3035 309B-309C 30A0-30FA 30FC-30FF 31F0-31FF 32D0-32FE 3300-3357 FF66-FF9D " ++
  "1AFF0-1AFF3 1AFF5-1AFFB 1AFFD-1AFFE 1B000 1B120-1B122 1B155 1B164-1B167")

/-- Letters of scripts that put no blanks between words, ideographs and Katakana excepted. -/
def unspacedLetter : CodeSet := .read (
  "E01-E30 E32-E33 E40-E46 E81-E82 E84 E86-E8A E8C-EA3 EA5 EA7-EB0 EB2-EB3 EBD EC0-EC4 EC6 " ++
  "EDC-EDF 1000-102A 103F 1050-1055 105A-105D 1061 1065-1066 106E-1070 1075-1081 108E " ++
  "1780-17B3 17D7 17DC 1950-196D 1970-1974 1980-19AB 19B0-19C9 1A20-1A54 1AA7 3041-3096 " ++
  "309D-309F A9E0-A9E4 A9E6-A9EF A9FA-A9FE AA60-AA76 AA7A AA7E-AAAF AAB1 AAB5-AAB6 AAB9-AABD " ++
  "AAC0 AAC2 AADB-AADD 11700-1171A 11740-11746 1B001-1B11F 1B132 1B150-1B152")

/-- Characters that words are made of though they are not alphabetic. -/
def letterLike : CodeSet := .read (
  "2C2-2C5 2D2-2D7 2DE-2DF 2E5-2EB 2ED 2EF-2FF 55A-55C 55E 58A 5F3 70F A708-A716 A720-A721 " ++
  "A789-A78A AB5B")

def wordLetter : CodeSet :=
  letterLike ∪
    (alphabetic \ (wordExtender ∪ hebrewLetter ∪ katakana ∪ ideographic ∪ unspacedLetter))

def wordNamed : List (List String × CodeSet) := [
  (["LE", "ALetter"], wordLetter),
  (["CR"], carriageReturn),
  (["DQ", "Double_Quote"], .single 0x22),
  (["Extend"], wordExtender),
  (["EX", "ExtendNumLet"], .read "5F 202F 203F-2040 2054 FE33-FE34 FE4D-FE4F FF3F"),
  (["FO", "Format"], wordFormat),
  (["HL", "Hebrew_Letter"], hebrewLetter),
  (["KA", "Katakana"], katakana),
  (["LF"], lineFeed),
  (["ML", "MidLetter"], .read "3A B7 387 55F 5F4 2027 FE13 FE55 FF1A"),
  (["MN", "MidNum"],
    .read "2C 3B 37E 589 60C-60D 66C 7F8 2044 FE10 FE14 FE50 FE54 FF0C FF1B"),
  (["MB", "MidNumLet"], .read "2E 2018-2019 2024 FE52 FF07 FF0E"),
  (["NL", "Newline"], .read "B-C 85 2028-2029"),
  (["NU", "Numeric"], wordNumeric),
  (["RI", "Regional_Indicator"], regionalIndicator),
  (["SQ", "Single_Quote"], .single 0x27),
  (["WSegSpace"], .read "20 1680 2000-2006 2008-200A 205F 3000"),
  (["ZWJ"], zeroWidthJoiner)]

/-! ### Sentences -/

def sentenceExtender : CodeSet := graphemeExtend ∪ spacingMark ∪ zeroWidthJoiner

def sentenceFormat : CodeSet :=
  format \ (.read "200C-200D" ∪ sentenceExtender ∪ prependedConcatenationMark)

def sentenceLower : CodeSet :=
  lowercase \ (graphemeExtend ∪ .read "10D0-10FA 10FD-10FF")

def sentenceUpper : CodeSet := (uppercase ∪ titlecaseLetter) \ .read "1C90-1CBA 1CBD-1CBF"

def sentenceLetter : CodeSet :=
  (alphabetic ∪ .read "5F3 70F") \ (sentenceLower ∪ sentenceUpper ∪ sentenceExtender)

def fullStop : CodeSet := .read "2E 2024 FE52 FF0E"

def sentenceTerminator : CodeSet := .read (
  "21 3F 589 61D-61F 6D4 700-702 7F9 837 839 83D-83E 964-965 104A-104B 1362 1367-1368 166E " ++
  "1735-1736 1803 1809 1944-1945 1AA8-1AAB 1B4E-1B4F 1B5A-1B5B 1B5E-1B5F 1B7D-1B7F 1C3B-1C3C " ++
  "1C7E-1C7F 203C-203D 2047-2049 2E2E 2E3C 2E53-2E54 3002 A4FF A60E-A60F A6F3 A6F7 A876-A877 " ++
  "A8CE-A8CF A92F A9C8-A9C9 AA5D-AA5F AAF0-AAF1 ABEB FE56-FE57 FF01 FF1F FF61 10A56-10A57 " ++
  "10F55-10F59 10F86-10F89 11047-11048 110BE-110C1 11141-11143 111C5-111C6 111CD 111DE-111DF " ++
  "11238-11239 1123B-1123C 112A9 113D4-113D5 1144B-1144C 115C2-115C3 115C9-115D7 11641-11642 " ++
  "1173C-1173E 11944 11946 11A42-11A43 11A9B-11A9C 11C41-11C42 11EF7-11EF8 11F43-11F44 " ++
  "16A6E-16A6F 16AF5 16B37-16B38 16B44 16D6E-16D6F 16E98 1BC9F 1DA88")

def sentenceClose : CodeSet :=
  openPunctuation ∪ closePunctuation ∪ initialPunctuation ∪ finalPunctuation ∪
    .read "22 27 275B-2760 2E00-2E01 2E06-2E08 2E0B 1F676-1F678"

def sentenceNamed : List (List String × CodeSet) := [
  (["AT", "ATerm"], fullStop),
  (["CL", "Close"], sentenceClose),
  (["CR"], carriageReturn),
  (["EX", "Extend"], sentenceExtender),
  (["FO", "Format"], sentenceFormat),
  (["LE", "OLetter"], sentenceLetter),
  (["LF"], lineFeed),
  (["LO", "Lower"], sentenceLower),
  (["NU", "Numeric"], wordNumeric ∪ .single 0x66C),
  (["SC", "SContinue"],
    .read ("2C-2D 3A 55D 60C-60D 7F8 1802 1808 2013-2014 3001 FE10-FE11 FE13 FE31-FE32 " ++
      "FE50-FE51 FE55 FE58 FE63 FF0C-FF0D FF1A FF64")),
  (["SE", "Sep"], .read "85 2028-2029"),
  (["SP", "Sp"], .read "9 B-C 20 A0 1680 2000-200A 202F 205F 3000"),
  (["ST", "STerm"], sentenceTerminator),
  (["UP", "Upper"], sentenceUpper)]

end MaskedInput.Unicode.Segmentation
