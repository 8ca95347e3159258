import RecordFilter.Text.Basic

/-!
# White space

A character is white space when it has the Unicode property White_Space.  Trimming a text drops
the white space at its ends.
-/

namespace RecordFilter

/-- The ranges of the property White_Space. -/
def whiteSpaceRanges : List (Nat × Nat) :=
  [(0x9, 0xD), (0x20, 0x20), (0x85, 0x85), (0xA0, 0xA0), (0x1680, 0x1680), (0x2000, 0x200A),
   (0x2028, 0x2029), (0x202F, 0x202F), (0x205F, 0x205F), (0x3000, 0x3000)]

/-- Whether a character is white space. -/
def isWhiteSpace (c : Char) : Bool :=
  whiteSpaceRanges.any fun r => r.1 ≤ c.toNat && c.toNat ≤ r.2

namespace Text

/-- A text without the white space it begins with. -/
def trimStart (t : Text) : Text :=
  t.dropWhile isWhiteSpace

/-- A text without the white space it ends with. -/
def trimEnd (t : Text) : Text :=
  (t.reverse.dropWhile isWhiteSpace).reverse

/-- A text without the white space at its ends. -/
def trim (t : Text) : Text :=
  trimEnd (trimStart t)

/-- A text cut at its last white space, which is dropped. -/
def cutAtLastBlank? (t : Text) : Option (Text × Text) :=
  match t.reverse.span (!isWhiteSpace ·) with
  | (_, []) => none
  | (last, _ :: head) => some (head.reverse, last.reverse)

end Text

end RecordFilter
