import RecordFilter.Text.Basic
import RecordFilter.Unicode.CaseMapping
import RecordFilter.Unicode.Recent

/-!
# Lowercase text

Every character is replaced by its lowercase form, which is one character except for the dotted
capital I.  The capital sigma has two: it becomes the final form at the end of a word, that is, when
the nearest character before it that counts has a case and the nearest after it has none.
-/

namespace RecordFilter

/-- The lowercase form of a character on its own. -/
def lowerChar (c : Char) : Text :=
  if c = 'İ' then ['i', Char.ofNat 0x307] else [Char.ofNat (CaseRun.mapCode lowerRuns c.toNat)]

namespace Text

/-- Whether the first character that is not passed over has a case. -/
def meetsCased (t : Text) : Bool :=
  match t.dropWhile Recent.caseIgnorable.has with
  | c :: _ => Recent.cased.has c
  | [] => false

/-- Lowercase form of a text, given the characters before it, last one first. -/
def lowerAfter : Text → Text → Text
  | _, [] => []
  | before, c :: rest =>
    let form :=
      if c = 'Σ' then (if meetsCased before && !meetsCased rest then ['ς'] else ['σ'])
      else lowerChar c
    form ++ lowerAfter (c :: before) rest

/-- The lowercase form of a text. -/
def lowerCase (t : Text) : Text :=
  lowerAfter [] t

end Text

end RecordFilter
