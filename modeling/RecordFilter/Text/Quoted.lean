import RecordFilter.Text.Basic
import RecordFilter.Unicode.Recent

/-!
# Quoted text

In a report a text stands between quotation marks, with a backslash before a quotation mark or a
backslash, short escapes for the usual controls, and the code point in hexadecimal for every other
character that does not show, or not by itself.
-/

namespace RecordFilter

/-- Characters that show only with the one before them.  The sound marks of halfwidth Katakana
extend a grapheme as well, but they are letters. -/
def clinging : CharSet := .diff Recent.graphemeExtend Category.letter

/-- Whether a character shows by itself: it is the blank of ASCII, or neither invisible nor one that
clings to another. -/
def isPrintable (c : Char) : Bool :=
  c = ' ' || !(Recent.hidden.has c || Property.defaultIgnorable.has c || clinging.has c)

/-- A number in lowercase hexadecimal digits. -/
def hexDigits (n : Nat) : Text :=
  Nat.toDigits 16 n

namespace Text

/-- A character as it stands in a quoted text. -/
def escapedChar (c : Char) : Text :=
  if c = Char.ofNat 0 then ['\\', '0']
  else if c = '\t' then ['\\', 't']
  else if c = '\r' then ['\\', 'r']
  else if c = '\n' then ['\\', 'n']
  else if c = '\\' then ['\\', '\\']
  else if c = '\x22' then ['\\', '\x22']
  else if !isPrintable c then
    ['\\', 'u', '\x7b'] ++ hexDigits c.toNat ++ ['\x7d']
  else [c]

/-- A text between quotation marks, with escapes. -/
def quoted (t : Text) : Text :=
  '\x22' :: t.flatMap escapedChar ++ ['\x22']

end Text

end RecordFilter
