import RecordFilter.Number.Rounding

/-!
# Shortest decimals

The shortest decimal of a number has the fewest digits among all decimals that are nearer to this
number than to its neighbours, and is the nearest to it of those.  It is found on the grids of one,
two, up to seventeen digits: of a grid only the two points next to the number can qualify.
-/

namespace RecordFilter

/-- The decimal `digits` times ten to the power of `exponent`. -/
structure Decimal where
  digits : Nat
  exponent : Int
deriving DecidableEq, Repr

namespace Decimal

/-- A decimal without zeros at the end of its digits. -/
def strip (fuel : Nat) (d : Decimal) : Decimal :=
  match fuel with
  | 0 => d
  | fuel + 1 =>
    if d.digits ≠ 0 ∧ d.digits % 10 = 0 then strip fuel ⟨d.digits / 10, d.exponent + 1⟩ else d

end Decimal

namespace Double

/-- The fractions, over one denominator, between which a decimal reads back as the number: lower
end, value, upper end, denominator.  The ends belong to the interval when the significand is
even. -/
def interval (x : Double) : Nat × Nat × Nat × Nat :=
  let (n, d) := x.magnitude
  let unit := if x.scale ≤ 1074 then 1 else 1 <<< (x.scale - 1074)
  let below := if x.code.val % (1 <<< 52) = 0 ∧ 1 < x.code.val >>> 52 then unit else 2 * unit
  (4 * n - below, 4 * n, 4 * n + 2 * unit, 4 * d)

/-- The number of decimal digits before the point of `n / d`, at most zero below one: the least
`p` with `n / d < 10 ^ p`, searched upwards or downwards from zero. -/
def pointUp : Nat → Nat → Nat → Nat → Nat
  | 0, _, _, p => p
  | fuel + 1, n, d, p => if n < d * Nat.pow 10 p then p else pointUp fuel n d (p + 1)

/-- The number of zeros after the point of `n / d`. -/
def zerosDown : Nat → Nat → Nat → Nat → Nat
  | 0, _, _, p => p
  | fuel + 1, n, d, p => if d ≤ n * Nat.pow 10 (p + 1) then p else zerosDown fuel n d (p + 1)

/-- The exponent `p` with `10 ^ (p - 1) ≤ n / d < 10 ^ p`. -/
def point (n d : Nat) : Int :=
  if d ≤ n then pointUp 400 n d 0 else -(zerosDown 400 n d 0 : Int)

/-- The point of the grid with unit `10 ^ e` to take for a number, if one reads back as it. -/
def gridPoint? (x : Double) (e : Int) : Option Decimal :=
  let (low, value, high, den) := x.interval
  let (up, down) := if 0 ≤ e then (Nat.pow 10 e.toNat, 1) else (1, Nat.pow 10 (-e).toNat)
  let unit := den * up
  let closed := x.code.val % 2 = 0
  let inside (k : Nat) : Bool :=
    let v := k * unit
    if closed then low * down ≤ v && v ≤ high * down else low * down < v && v < high * down
  let k := value * down / unit
  let r := value * down % unit
  let nearUp := unit < 2 * r || (2 * r == unit && k % 2 == 1)
  match 0 < k && inside k, inside (k + 1) with
  | true, true => some ⟨if nearUp then k + 1 else k, e⟩
  | true, false => some ⟨k, e⟩
  | false, true => some ⟨k + 1, e⟩
  | false, false => none

/-- The shortest decimal of the magnitude of a number. -/
def shortest (x : Double) : Decimal :=
  if x.code.val = 0 then ⟨0, 0⟩
  else
    let (n, d) := x.magnitude
    let p := point n d
    let found := (List.range 17).findSome? fun i : Nat => x.gridPoint? (p - i - 1)
    (found.getD ⟨0, 0⟩).strip 20

end Double

end RecordFilter
