import RecordFilter.Number.Double

/-!
# Rounding to double precision

A positive fraction is rounded to the nearest number of the format, a tie to the one whose code is
even.  Products, quotients and whole numbers are rounded from their exact values.
-/

namespace RecordFilter.Double

/-- The quotient rounded to the nearest natural number, a tie to the even one. -/
def divNearest (num den : Nat) : Nat :=
  let q := num / den
  let r := num % den
  if 2 * r < den then q
  else if den < 2 * r then q + 1
  else q + q % 2

/-- The fraction `num / den` divided by two to the power `scale - 1074`. -/
def scaled (num den scale : Nat) : Nat × Nat :=
  if scale ≤ 1074 then (num <<< (1074 - scale), den) else (num, den <<< (scale - 1074))

/-- The scale at which `num / den` has a significand of 53 bits, or the least one. -/
def scaleOf (num den : Nat) : Nat :=
  let guess := num.log2 + 1074 - den.log2 - 52
  let (n, d) := scaled num den guess
  if n / d < 1 <<< 52 then guess - 1 else guess

/-- The code nearest to a positive fraction; past the greatest code there is no finite number. -/
def codeNear (num den : Nat) : Nat :=
  let scale := scaleOf num den
  let (n, d) := scaled num den scale
  (scale <<< 52) + divNearest n d

/-- The number with a given sign and code, when the code is that of a finite number. -/
def ofCode? (negative : Bool) (code : Nat) : Option Double :=
  if h : code < 2047 <<< 52 then some ⟨negative, ⟨code, h⟩⟩ else none

/-- The number nearest to a fraction; `none` when it rounds to infinity. -/
def ofRatio? (negative : Bool) (num den : Nat) : Option Double :=
  if num = 0 then some (signedZero negative) else ofCode? negative (codeNear num den)

/-- The product, rounded. -/
def mul? (x y : Double) : Option Double :=
  let (n, d) := x.magnitude
  let (m, e) := y.magnitude
  ofRatio? (x.negative != y.negative) (n * m) (d * e)

/-- The quotient by a number other than zero, rounded. -/
def div? (x y : Double) : Option Double :=
  let (n, d) := x.magnitude
  let (m, e) := y.magnitude
  ofRatio? (x.negative != y.negative) (n * e) (d * m)

/-- The number nearest to an integer; zero for one that is past every finite number. -/
def ofInt (i : Int) : Double :=
  (ofRatio? (i < 0) i.natAbs 1).getD zero

/-- The number nearest to a power of ten; zero for one that is past every finite number. -/
def tenPower (n : Nat) : Double :=
  (ofRatio? false (Nat.pow 10 n) 1).getD zero

end RecordFilter.Double
