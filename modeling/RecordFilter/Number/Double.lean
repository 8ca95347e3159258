/-!
# Finite double-precision numbers

A finite number of the binary64 format is kept as its sign and the code of its magnitude: exponent
field and fraction field read as one natural number.  Codes grow with the magnitude, so comparing
two numbers is comparing two integers.  `order` is the order of the values, in which the two zeros
are one; `totalOrder` tells them apart.
-/

namespace RecordFilter

/-- A finite number of the binary64 format. -/
structure Double where
  negative : Bool
  code : Fin (2047 <<< 52)
deriving DecidableEq, Repr

namespace Double

/-- The zero of a sign. -/
def signedZero (negative : Bool) : Double := ⟨negative, ⟨0, by decide⟩⟩

/-- Positive zero. -/
def zero : Double := signedZero false

/-- The number with the other sign. -/
def neg (x : Double) : Double := ⟨!x.negative, x.code⟩

/-- Position in the order of values, the two zeros at one place. -/
def key (x : Double) : Int :=
  if x.negative then -(x.code.val : Int) else x.code.val

/-- Position in the order that puts negative zero just before positive zero. -/
def totalKey (x : Double) : Int :=
  if x.negative then -(x.code.val : Int) - 1 else x.code.val

/-- The order of two values. -/
def order (x y : Double) : Ordering :=
  compare x.key y.key

/-- The order of two numbers, signed zeros included. -/
def totalOrder (x y : Double) : Ordering :=
  compare x.totalKey y.totalKey

/-- Whether two numbers have the same value. -/
def same (x y : Double) : Bool :=
  x.key == y.key

/-- The significand: a magnitude is its significand times two to the power of its exponent. -/
def significand (x : Double) : Nat :=
  if x.code.val < 1 <<< 52 then x.code.val else (1 <<< 52) + x.code.val % (1 <<< 52)

/-- The exponent that belongs to the significand, plus 1074. -/
def scale (x : Double) : Nat :=
  (x.code.val >>> 52) - 1

/-- The magnitude as a fraction. -/
def magnitude (x : Double) : Nat × Nat :=
  if x.scale ≤ 1074 then (x.significand, 1 <<< (1074 - x.scale))
  else (x.significand <<< (x.scale - 1074), 1)

theorem totalKey_injective {x y : Double} (h : x.totalKey = y.totalKey) : x = y := by
  obtain ⟨sx, cx, hx⟩ := x
  obtain ⟨sy, cy, hy⟩ := y
  cases sx <;> cases sy <;> simp [totalKey] at h <;> simp <;> omega

end Double

end RecordFilter
