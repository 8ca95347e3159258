import RecordFilter.Json.Value
import RecordFilter.Text.Quoted

/-!
# Writing JSON

The compact text of a value: no blanks between its parts, and escapes only for quotation marks,
backslashes and controls.
-/

namespace RecordFilter.Json

/-- A digit of a control's code, in lowercase hexadecimal. -/
def hexChar (n : Nat) : Char :=
  Nat.digitChar n

/-- A character as it stands in a string. -/
def writtenChar (c : Char) : Text :=
  if c = '\x22' then ['\\', '\x22']
  else if c = '\\' then ['\\', '\\']
  else if c = '\n' then ['\\', 'n']
  else if c = '\r' then ['\\', 'r']
  else if c = '\t' then ['\\', 't']
  else if c.toNat = 8 then ['\\', 'b']
  else if c.toNat = 12 then ['\\', 'f']
  else if c.toNat < 32 then ['\\', 'u', '0', '0', hexChar (c.toNat / 16), hexChar (c.toNat % 16)]
  else [c]

/-- A text as a string. -/
def writtenString (t : Text) : Text :=
  '\x22' :: t.flatMap writtenChar ++ ['\x22']

mutual

/-- The compact text of a value. -/
def write : Json → Text
  | .null => ['n', 'u', 'l', 'l']
  | .bool true => ['t', 'r', 'u', 'e']
  | .bool false => ['f', 'a', 'l', 's', 'e']
  | .number n => n.text
  | .string t => writtenString t
  | .array items => '[' :: writeItems items ++ [']']
  | .object fields => '\x7b' :: writeFields fields ++ ['\x7d']

/-- The items of an array, a comma between them. -/
def writeItems : List Json → Text
  | [] => []
  | [v] => write v
  | v :: w :: rest => write v ++ ',' :: writeItems (w :: rest)

/-- The fields of an object, a comma between them. -/
def writeFields : List (Text × Json) → Text
  | [] => []
  | [(n, v)] => writtenString n ++ ':' :: write v
  | (n, v) :: f :: rest => writtenString n ++ ':' :: write v ++ ',' :: writeFields (f :: rest)

end

end RecordFilter.Json
