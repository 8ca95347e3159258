import RecordFilter.Unicode.Property

/-!
# Places between words

The classes of characters that tell where a word ends: each character belongs to one of them at
most.
-/

namespace RecordFilter.WordBreak

open Category Property

/-- Characters that go with the one before them. -/
def extend : CharSet := .unions [graphemeExtend, spacingMark, emojiModifier]

/-- Formats inside words. -/
def format : CharSet :=
  .diff Category.format (.unions [.ofHex ["200B-200D"], prependedConcatenation, extend])

/-- Letters of Hebrew. -/
def hebrewLetter : CharSet := .inter otherLetter (.ofHex Script.hebrew.own)

/-- Characters of words in Katakana. -/
def katakana : CharSet := .union (.ofHex Script.katakana.own) (.ofHex
  ["3031-3035 309B-309C 30A0 30FC FF70"])

/-- Characters of scripts that set no blanks between words. -/
def unspaced : CharSet := .ofHex
  ["E01-E3A E40-E4E E81-E82 E84 E86-E8A E8C-EA3 EA5 EA7-EBD EC0-EC4 EC6 EC8-ECE EDC-EDF 1000-103F",
   "1050-108F 109A-109F 1780-17D3 17D7 17DC-17DD 1950-196D 1970-1974 1980-19AB 19B0-19C9 19DA",
   "19DE-19DF 1A20-1A5E 1A60-1A7C 1AA0-1AAD A9E0-A9EF A9FA-A9FE AA60-AAC2 AADB-AADF 11700-1171A",
   "1171D-1172B 1173A-1173B 1173F-11746"]

/-- Letters of words. -/
def letter : CharSet :=
  .diff
    (.union alphabetic (.ofHex
      ["B8 2C2-2C5 2D2-2D7 2DE-2DF 2E5-2EB 2ED 2EF-2FF 55A-55C 55E 58A 5F3 70F A708-A716 A720-A721",
       "A789-A78A AB5B"]))
    (.unions [ideographic, katakana, unspaced, .ofHex Script.hiragana.own, extend, hebrewLetter])

/-- Signs that join numbers or words. -/
def joining : CharSet := .union connectorPunctuation (.ofHex ["202F"])

/-- Signs between letters. -/
def midLetter : CharSet := .ofHex
  ["3A B7 387 55F 5F4 2027 FE13 FE55 FF1A"]

/-- Signs between digits. -/
def midNumber : CharSet := .ofHex
  ["2C 3B 37E 589 60C-60D 66C 7F8 2044 FE10 FE14 FE50 FE54 FF0C FF1B"]

/-- Signs between letters and between digits. -/
def midEither : CharSet := .ofHex
  ["2E 2018-2019 2024 FE52 FF07 FF0E"]

/-- Characters of numbers. -/
def numeric : CharSet := .unions
  [decimalNumber, .ofHex ["66B 19DA"], .diff prependedConcatenation (.ofHex ["70F"])]

/-- Blanks that stay together. -/
def space : CharSet := .diff spaceSeparator (.ofHex ["A0 2007 202F"])

/-- The classes by their names. -/
def named : List (List String × CharSet) :=
  [(["ALetter", "LE"], letter),
   (["CR"], .singleton '\r'),
   (["Double_Quote", "DQ"], .singleton '\x22'),
   (["Extend"], extend),
   (["ExtendNumLet", "EX"], joining),
   (["Format", "FO"], format),
   (["Hebrew_Letter", "HL"], hebrewLetter),
   (["Katakana", "KA"], katakana),
   (["LF"], .singleton '\n'),
   (["MidLetter", "ML"], midLetter),
   (["MidNum", "MN"], midNumber),
   (["MidNumLet", "MB"], midEither),
   (["Newline", "NL"], .ofHex ["B-C 85 2028-2029"]),
   (["Numeric", "NU"], numeric),
   (["Regional_Indicator", "RI"], regionalIndicator),
   (["Single_Quote", "SQ"], .ofHex ["27"]),
   (["WSegSpace"], space),
   (["ZWJ"], .ofHex ["200D"])]

end RecordFilter.WordBreak
