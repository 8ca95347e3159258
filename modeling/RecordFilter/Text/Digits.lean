import RecordFilter.Text.Basic

/-!
# Decimal digits

Whole numbers are written in decimal digits and read back from them.  A reader takes an optional
sign and at least one digit, and accepts a number only within the bounds it is given.
-/

namespace RecordFilter

/-- The value of a decimal digit. -/
def digit? (c : Char) : Option Nat :=
  if '0' ≤ c ∧ c ≤ '9' then some (c.toNat - 48) else none

/-- Whether a character is a decimal digit. -/
def isDigit (c : Char) : Bool :=
  (digit? c).isSome

namespace Text

/-- A natural number in decimal digits. -/
def ofNat (n : Nat) : Text :=
  Nat.toDigits 10 n

/-- An integer in decimal digits, a minus sign before a negative one. -/
def ofInt (i : Int) : Text :=
  if i < 0 then '-' :: ofNat i.natAbs else ofNat i.natAbs

/-- The number a run of digits continues from `n`; `none` at anything but a digit. -/
def readDigits? : Nat → Text → Option Nat
  | n, [] => some n
  | n, c :: rest => (digit? c).bind fun d => readDigits? (10 * n + d) rest

/-- The number written by one digit or more. -/
def digits? (t : Text) : Option Nat :=
  if t.isEmpty then none else readDigits? 0 t

/-- Reads a natural number below 2^64, a plus sign allowed before it. -/
def natural? (t : Text) : Option Nat :=
  (match t with
    | '+' :: rest => digits? rest
    | _ => digits? t).filter (· < 0x10000000000000000)

/-- Reads an integer of 64 bits, a sign allowed before it. -/
def integer? (t : Text) : Option Int :=
  (match t with
    | '+' :: rest => (digits? rest).map Int.ofNat
    | '-' :: rest => (digits? rest).map fun n => -(n : Int)
    | _ => (digits? t).map Int.ofNat).filter fun i =>
      -0x8000000000000000 ≤ i && i < 0x8000000000000000

end Text

end RecordFilter
