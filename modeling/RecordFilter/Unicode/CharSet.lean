/-!
# Sets of characters

A set is a list of inclusive ranges of code points.  Union, complement, intersection and
difference are those of sets of Unicode scalar values: no set contains a surrogate.  The tables of
the neighbouring modules are written as ranges in hexadecimal and read by `CharSet.ofHex`.
-/

namespace RecordFilter

/-- A set of characters, as inclusive ranges of code points. -/
structure CharSet where
  ranges : List (Nat × Nat)
deriving DecidableEq, Repr

namespace CharSet

/-- Whether a code point lies in one of the ranges. -/
def hasCode (s : CharSet) (n : Nat) : Bool :=
  s.ranges.any fun r => r.1 ≤ n && n ≤ r.2

/-- Whether a character belongs to the set. -/
def has (s : CharSet) (c : Char) : Bool :=
  s.hasCode c.toNat

/-- The set with no character. -/
def empty : CharSet := ⟨[]⟩

/-- Every Unicode scalar value. -/
def univ : CharSet := ⟨[(0, 0xD7FF), (0xE000, 0x10FFFF)]⟩

/-- The set of one character. -/
def singleton (c : Char) : CharSet := ⟨[(c.toNat, c.toNat)]⟩

/-- The characters from `a` to `b`, both included. -/
def range (a b : Char) : CharSet := ⟨[(a.toNat, b.toNat)]⟩

/-- Joins a range to a list of later ones, merging those it meets. -/
def joinRange (r : Nat × Nat) : List (Nat × Nat) → List (Nat × Nat)
  | [] => [r]
  | q :: rest => if q.1 ≤ r.2 + 1 then joinRange (r.1, max r.2 q.2) rest else r :: q :: rest

/-- The same set with its ranges in ascending order, none touching the next. -/
def canonical (s : CharSet) : CharSet :=
  ⟨(s.ranges.mergeSort fun a b => a.1 ≤ b.1).foldr joinRange []⟩

/-- The characters of either set. -/
def union (s t : CharSet) : CharSet :=
  canonical ⟨s.ranges ++ t.ranges⟩

/-- The characters of any of the sets. -/
def unions (sets : List CharSet) : CharSet :=
  canonical ⟨sets.flatMap (·.ranges)⟩

/-- The gaps that ascending ranges leave between `start` and `stop`. -/
def gaps (stop : Nat) : Nat → List (Nat × Nat) → List (Nat × Nat)
  | start, [] => if start ≤ stop then [(start, stop)] else []
  | start, r :: rest =>
    if start < r.1 ∧ start ≤ stop then (start, min stop (r.1 - 1)) :: gaps stop (r.2 + 1) rest
    else gaps stop (max start (r.2 + 1)) rest

/-- The characters outside the set. -/
def complement (s : CharSet) : CharSet :=
  let ranges := s.canonical.ranges
  ⟨gaps 0xD7FF 0 ranges ++ gaps 0x10FFFF 0xE000 ranges⟩

/-- The characters of both sets. -/
def inter (s t : CharSet) : CharSet :=
  (s.complement.union t.complement).complement

/-- The characters of the first set outside the second. -/
def diff (s t : CharSet) : CharSet :=
  s.inter t.complement

/-- The characters of exactly one of the sets. -/
def symmDiff (s t : CharSet) : CharSet :=
  (s.diff t).union (t.diff s)

/-- Whether every character of the set is in ASCII. -/
def isAscii (s : CharSet) : Bool :=
  s.ranges.all fun r => r.2 ≤ 0x7F

/-- The value of a hexadecimal digit. -/
def hexDigit? (c : Char) : Option Nat :=
  if '0' ≤ c ∧ c ≤ '9' then some (c.toNat - 48)
  else if 'A' ≤ c ∧ c ≤ 'F' then some (c.toNat - 55)
  else if 'a' ≤ c ∧ c ≤ 'f' then some (c.toNat - 87)
  else none

/-- The number written by hexadecimal digits; other characters are passed over. -/
def hexNumber (cs : List Char) : Nat :=
  cs.foldl (fun n c => match hexDigit? c with
    | some d => 16 * n + d
    | none => n) 0

/-- A range written as a code point in hexadecimal, or as two with a hyphen between them. -/
def hexRange (entry : List Char) : Nat × Nat :=
  match entry.splitOn '-' with
  | [first, last] => (hexNumber first, hexNumber last)
  | _ => (hexNumber entry, hexNumber entry)

/-- Reads the lines of a table of ranges, which are separated by blanks. -/
def ofHex (lines : List String) : CharSet :=
  ⟨lines.flatMap fun line =>
    ((line.toList.splitOn ' ').filter (!·.isEmpty)).map hexRange⟩

end CharSet

end RecordFilter
