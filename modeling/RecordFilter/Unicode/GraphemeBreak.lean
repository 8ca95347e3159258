import RecordFilter.Unicode.Property

/-!
# Places between graphemes

What a reader takes for one character may be several code points.  The classes below tell where one
ends: each character belongs to one of them at most.
-/

namespace RecordFilter.GraphemeBreak

open Category Property

/-- Characters that go with the one before them. -/
def extend : CharSet := .union graphemeExtend emojiModifier

/-- Characters that go with the one after them. -/
def prepend : CharSet := .union prependedConcatenation (.ofHex
  ["D4E 111C2-111C3 113D1 1193F 11941 11A3A 11A84-11A89 11D46 11F02"])

/-- Characters that stand alone. -/
def control : CharSet :=
  .diff
    (.unions [lineSeparator, paragraphSeparator, Category.control, format,
      .inter unassigned defaultIgnorable])
    (.unions [.ofHex ["A D 200C-200D"], prependedConcatenation, extend])

/-- Marks that take room and go with the character before them. -/
def spacing : CharSet :=
  .diff (.union spacingMark (.ofHex ["E33 EB3"])) (.union extend (.ofHex
    ["102B-102C 1038 1062-1064 1067-106D 1083 1087-108C 108F 109A-109C 1A61 1A63-1A64 AA7B AA7D",
     "11720-11721"]))

/-- The syllables of Hangul without a last consonant. -/
def openSyllable : CharSet :=
  ⟨(List.range 399).map fun i => (0xAC00 + 28 * i, 0xAC00 + 28 * i)⟩

/-- The syllables of Hangul with a last consonant. -/
def closedSyllable : CharSet := .diff (.ofHex ["AC00-D7A3"]) openSyllable

/-- The classes by their names. -/
def named : List (List String × CharSet) :=
  [(["CR"], .singleton '\r'),
   (["Control", "CN"], control),
   (["Extend", "EX"], extend),
   (["L"], .ofHex ["1100-115F A960-A97C"]),
   (["LF"], .singleton '\n'),
   (["LV"], openSyllable),
   (["LVT"], closedSyllable),
   (["Prepend", "PP"], prepend),
   (["Regional_Indicator", "RI"], regionalIndicator),
   (["SpacingMark", "SM"], spacing),
   (["T"], .ofHex ["11A8-11FF D7CB-D7FB"]),
   (["V"], .ofHex ["1160-11A7 16D63 16D67-16D6A D7B0-D7C6"]),
   (["ZWJ"], .ofHex ["200D"])]

end RecordFilter.GraphemeBreak
