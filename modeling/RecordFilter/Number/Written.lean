import RecordFilter.Number.Shortest
import RecordFilter.Text.Digits

/-!
# Written numbers

A number is written with its shortest digits.  In records, magnitudes from 0.00001 up to but not
including 10^16 and zero are written with a point and at least one digit after it, others with an
exponent that always has a sign.  The plain form never has an exponent and no point after a whole
number.
-/

namespace RecordFilter.Decimal

/-- The digits of a decimal. -/
def text (d : Decimal) : Text :=
  Text.ofNat d.digits

/-- Power of ten of the digit before which the point stands: `0.d₁d₂… · 10 ^ point`. -/
def pointPlace (d : Decimal) : Int :=
  (text d).length + d.exponent

/-- The digits before the point and those after it. -/
def parts (d : Decimal) : Text × Text :=
  let t := text d
  let p := pointPlace d
  if p ≤ 0 then (['0'], List.replicate (-p).toNat '0' ++ t)
  else if t.length ≤ p.toNat then (t ++ List.replicate (p.toNat - t.length) '0', [])
  else (t.take p.toNat, t.drop p.toNat)

/-- Whole part, a point, and at least one digit after it. -/
def withPoint (d : Decimal) : Text :=
  let (whole, rest) := parts d
  whole ++ '.' :: (if rest.isEmpty then ['0'] else rest)

/-- One digit before the point, and an exponent with its sign. -/
def withExponent (d : Decimal) : Text :=
  let e := pointPlace d - 1
  let mantissa := match text d with
    | c :: c' :: rest => c :: '.' :: c' :: rest
    | t => t
  mantissa ++ 'e' :: (if e < 0 then '-' else '+') :: Text.ofNat e.natAbs

/-- Whole part, and a point with digits only where there are any. -/
def plain (d : Decimal) : Text :=
  match parts d with
  | (whole, []) => whole
  | (whole, rest) => whole ++ '.' :: rest

end RecordFilter.Decimal

namespace RecordFilter.Double

/-- A text with the sign of the number before it. -/
def signed (x : Double) (t : Text) : Text :=
  if x.negative then '-' :: t else t

/-- A number as records show it. -/
def text (x : Double) : Text :=
  let d := x.shortest
  let p := d.pointPlace
  x.signed <|
    if d.digits = 0 then ['0', '.', '0']
    else if -5 < p ∧ p ≤ 16 then d.withPoint
    else d.withExponent

/-- A number without an exponent. -/
def plainText (x : Double) : Text :=
  x.signed x.shortest.plain

end RecordFilter.Double
