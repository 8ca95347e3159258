import RecordFilter.Unicode.CharSet

/-!
# Paths of bytes

In UTF-8 a character is one byte or several.  The characters between two others are those of some
paths: the sequences of ranges from which their bytes may be chosen one by one.
-/

namespace RecordFilter

/-- The bytes between two others, both included. -/
abbrev ByteRange := Nat × Nat

/-- Ranges from which bytes are chosen, one after the other. -/
abbrev BytePath := List ByteRange

/-- The bytes of a code point in UTF-8. -/
def utf8Bytes (n : Nat) : List Nat :=
  if n < 0x80 then [n]
  else if n < 0x800 then [0xC0 + n / 64, 0x80 + n % 64]
  else if n < 0x10000 then [0xE0 + n / 4096, 0x80 + n / 64 % 64, 0x80 + n % 64]
  else [0xF0 + n / 262144, 0x80 + n / 4096 % 64, 0x80 + n / 64 % 64, 0x80 + n % 64]

/-- Where a range of code points must be cut so that its first part is a single path. -/
def pathCut? (first last : Nat) : Option Nat :=
  let atLength := [0x7F, 0x7FF, 0xFFFF].find? fun n => first ≤ n && n < last
  atLength.or <|
    if last < 0x80 then none
    else [64, 4096, 262144].findSome? fun block =>
      if first / block = last / block then none
      else if first % block ≠ 0 then some (first / block * block + block - 1)
      else if last % block ≠ block - 1 then some (last / block * block - 1)
      else none

/-- The paths of a range of code points, after at most so many cuts in a row. -/
def bytePaths : Nat → Nat → Nat → List BytePath
  | 0, _, _ => []
  | fuel + 1, first, last =>
    match pathCut? first last with
    | some cut => bytePaths fuel first cut ++ bytePaths fuel (cut + 1) last
    | none => [(utf8Bytes first).zip (utf8Bytes last)]

namespace CharSet

/-- A range without the surrogates inside it. -/
def withoutSurrogates (r : Nat × Nat) : List (Nat × Nat) :=
  if r.1 < 0xD800 ∧ 0xDFFF < r.2 then [(r.1, 0xD7FF), (0xE000, r.2)] else [r]

/-- The one way to write a set: ascending ranges of characters, each as long as it can be. -/
def normal (s : CharSet) : CharSet :=
  ⟨s.canonical.ranges.flatMap withoutSurrogates⟩

/-- The paths of a set, in ascending order. -/
def paths (s : CharSet) : List BytePath :=
  s.ranges.flatMap fun r => bytePaths 64 r.1 r.2

end CharSet

end RecordFilter
