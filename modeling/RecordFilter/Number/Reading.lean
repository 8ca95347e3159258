import RecordFilter.Number.Rounding
import RecordFilter.Text.Digits

/-!
# Reading numbers from text

A number in text is an optional sign, digits with an optional point among or beside them, and an
optional exponent; at least one digit stands before the exponent.  It is rounded to the nearest
number of double precision.  The words for infinity and for what is no number are recognised in any
letter case, so that a reader can tell them from other text.
-/

namespace RecordFilter

/-- What a text says about a number of double precision. -/
inductive Reading
  | finite (x : Double)
  | infinite (negative : Bool)
  | notANumber
deriving DecidableEq, Repr

namespace Reading

/-- The digits a text begins with, and what follows them. -/
def takeDigits (t : Text) : Text × Text :=
  t.span isDigit

/-- The value of digits already known to be digits. -/
def value (digits : Text) : Nat :=
  (Text.readDigits? 0 digits).getD 0

/-- The exponent at the end of a number; `none` when the rest is none. -/
def exponent? : Text → Option Int
  | [] => some 0
  | c :: rest =>
    if c = 'e' ∨ c = 'E' then
      match rest with
      | '-' :: ds => (Text.digits? ds).map fun n => -(n : Int)
      | '+' :: ds => (Text.digits? ds).map Int.ofNat
      | ds => (Text.digits? ds).map Int.ofNat
    else none

/-- The number `digits · 10 ^ e`.  A number below `10 ^ -330` is zero and one from `10 ^ 400` on is
infinite, whatever its digits. -/
def ofDecimal (negative : Bool) (digits : Nat) (e : Int) : Reading :=
  if digits = 0 ∨ (digits.log2 : Int) / 3 + 1 + e < -330 then .finite (.signedZero negative)
  else if 400 < e then .infinite negative
  else
    let fraction :=
      if 0 ≤ e then Double.ofRatio? negative (digits * Nat.pow 10 e.toNat) 1
      else Double.ofRatio? negative digits (Nat.pow 10 (-e).toNat)
    match fraction with
    | some x => .finite x
    | none => .infinite negative

/-- Reads a number without its sign. -/
def magnitude? (negative : Bool) (t : Text) : Option Reading :=
  let (whole, afterWhole) := takeDigits t
  let (part, rest) := match afterWhole with
    | '.' :: r => takeDigits r
    | r => ([], r)
  if whole.isEmpty ∧ part.isEmpty then none
  else (exponent? rest).map fun e =>
    ofDecimal negative (value (whole ++ part)) (e - part.length)

/-- A letter of ASCII in lower case. -/
def lowerAscii (c : Char) : Char :=
  if 'A' ≤ c ∧ c ≤ 'Z' then Char.ofNat (c.toNat + 32) else c

/-- Reads a word for infinity or for no number. -/
def word? (negative : Bool) (t : Text) : Option Reading :=
  let w := t.map lowerAscii
  if w = "inf".toList ∨ w = "infinity".toList then some (.infinite negative)
  else if w = "nan".toList then some .notANumber
  else none

/-- Reads a text as a number; `none` when it is other text. -/
def ofText? (t : Text) : Option Reading :=
  let (negative, rest) := match t with
    | '-' :: r => (true, r)
    | '+' :: r => (false, r)
    | r => (false, r)
  (magnitude? negative rest).or (word? negative rest)

end Reading

/-- The finite number that a text writes. -/
def Double.ofText? (t : Text) : Option Double :=
  match Reading.ofText? t with
  | some (.finite x) => some x
  | _ => none

end RecordFilter
