import RecordFilter.Unicode.Property

/-!
# Places between sentences

The classes of characters that tell where a sentence ends: each character belongs to one of them at
most.
-/

namespace RecordFilter.SentenceBreak

open Category Property

/-- Characters that end a paragraph. -/
def separator : CharSet := .ofHex ["85 2028-2029"]

/-- Characters that go with the one before them. -/
def extend : CharSet := .unions [graphemeExtend, spacingMark, .ofHex ["200D"]]

/-- Signs before a number, which belong to it. -/
def numberSign : CharSet := .diff prependedConcatenation (.ofHex ["70F"])

/-- Formats inside sentences. -/
def format : CharSet :=
  .diff Category.format (.unions [.ofHex ["200C-200D"], numberSign, extend])

/-- Blanks. -/
def space : CharSet := .diff whiteSpace (.union separator (.ofHex ["A D"]))

/-- Lowercase letters; those of Georgian may begin a sentence. -/
def lower : CharSet := .diff lowercase (.union graphemeExtend (.ofHex ["10D0-10FA 10FD-10FF"]))

/-- Letters that may begin a sentence alone. -/
def upper : CharSet :=
  .diff (.union titlecaseLetter uppercase) (.ofHex ["1C90-1CBA 1CBD-1CBF"])

/-- Letters without a case. -/
def letter : CharSet :=
  .diff (.union alphabetic (.ofHex ["5F3"])) (.unions [lower, upper, extend])

/-- Characters of numbers. -/
def numeric : CharSet := .unions [decimalNumber, .ofHex ["66B-66C 19DA"], numberSign]

/-- Points that may end a sentence. -/
def point : CharSet := .ofHex ["2E 2024 FE52 FF0E"]

/-- Marks that end a sentence. -/
def terminal : CharSet := .diff sentenceTerminal point

/-- Marks that continue a sentence. -/
def continuing : CharSet := .ofHex
  ["2C-2D 3A-3B 37E 55D 60C-60D 7F8 1802 1808 2013-2014 3001 FE10-FE11 FE13-FE14 FE31-FE32",
   "FE50-FE51 FE54-FE55 FE58 FE63 FF0C-FF0D FF1A-FF1B FF64"]

/-- Brackets and quotation marks. -/
def close : CharSet :=
  .diff
    (.unions [openPunctuation, closePunctuation, initialPunctuation, finalPunctuation, .ofHex
      ["22 27 275B-2760 2E00-2E01 2E06-2E08 2E0B 1F676-1F678"]])
    (.unions [point, terminal, .ofHex ["5F3"]])

/-- The classes by their names. -/
def named : List (List String × CharSet) :=
  [(["ATerm", "AT"], point),
   (["CR"], .singleton '\r'),
   (["Close", "CL"], close),
   (["Extend", "EX"], extend),
   (["Format", "FO"], format),
   (["LF"], .singleton '\n'),
   (["Lower", "LO"], lower),
   (["Numeric", "NU"], numeric),
   (["OLetter", "LE"], letter),
   (["SContinue", "SC"], continuing),
   (["STerm", "ST"], terminal),
   (["Sep", "SE"], separator),
   (["Sp"], space),
   (["Upper", "UP"], upper)]

end RecordFilter.SentenceBreak
