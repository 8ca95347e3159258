import Mathlib.Algebra.Ring.Nat
import RecordFilter.Number.Rounding

/-!
# Rounding keeps order

Whole numbers are rounded to significands of 53 bits.  A greater number is not rounded to a lesser
one (`codeNear_le_codeNear`), and one below 2^53 is not rounded at all, so that no greater one meets
it (`codeNear_lt_codeNear`).
-/

namespace RecordFilter.Double

/-! ### Quotients -/

theorem divNearest_one (n : Nat) : divNearest n 1 = n := by
  simp [divNearest, Nat.mod_one]

theorem divNearest_bounds (num den : Nat) :
    num / den ≤ divNearest num den ∧ divNearest num den ≤ num / den + 1 := by
  unfold divNearest
  dsimp only
  split
  · omega
  split
  · omega
  · omega

theorem divNearest_le_divNearest {m n : Nat} (h : m ≤ n) (den : Nat) :
    divNearest m den ≤ divNearest n den := by
  have hquotient : m / den ≤ n / den := Nat.div_le_div_right h
  by_cases hlt : m / den < n / den
  · have := (divNearest_bounds m den).2
    have := (divNearest_bounds n den).1
    omega
  · have hsame : m / den = n / den := by omega
    have hrest : m % den ≤ n % den := by
      have hm := Nat.div_add_mod m den
      have hn := Nat.div_add_mod n den
      rw [hsame] at hm
      omega
    unfold divNearest
    dsimp only
    rw [hsame]
    repeat' split
    all_goals omega

/-! ### Codes of whole numbers -/

/-- The significand of a whole number, rounded to 53 bits. -/
def significandOf (n : Nat) : Nat :=
  if n.log2 ≤ 52 then n * 2 ^ (52 - n.log2) else divNearest n (2 ^ (n.log2 - 52))

section Bounds

variable {n : Nat} (hn : n ≠ 0)

include hn

/-- A number scaled to 53 bits. -/
theorem scaled_bounds :
    (n.log2 ≤ 52 → 2 ^ 52 ≤ n * 2 ^ (52 - n.log2) ∧ n * 2 ^ (52 - n.log2) < 2 ^ 53) ∧
      (52 < n.log2 → 2 ^ 52 ≤ n / 2 ^ (n.log2 - 52) ∧ n / 2 ^ (n.log2 - 52) < 2 ^ 53) := by
  have hlow : 2 ^ n.log2 ≤ n := Nat.log2_self_le hn
  have hhigh : n < 2 ^ (n.log2 + 1) := Nat.lt_log2_self
  constructor
  · intro hsmall
    have hpow : 2 ^ 52 = 2 ^ n.log2 * 2 ^ (52 - n.log2) := by
      rw [← Nat.pow_add]
      congr 1
      omega
    have hpow' : 2 ^ 53 = 2 ^ (n.log2 + 1) * 2 ^ (52 - n.log2) := by
      rw [← Nat.pow_add]
      congr 1
      omega
    rw [hpow, hpow']
    exact ⟨Nat.mul_le_mul_right _ hlow, Nat.mul_lt_mul_of_pos_right hhigh (Nat.two_pow_pos _)⟩
  · intro hlarge
    have hpow : 2 ^ n.log2 = 2 ^ 52 * 2 ^ (n.log2 - 52) := by
      rw [← Nat.pow_add]
      congr 1
      omega
    have hpow' : 2 ^ (n.log2 + 1) = 2 ^ 53 * 2 ^ (n.log2 - 52) := by
      rw [← Nat.pow_add]
      congr 1
      omega
    rw [hpow] at hlow
    rw [hpow'] at hhigh
    exact ⟨(Nat.le_div_iff_mul_le (Nat.two_pow_pos _)).2 hlow,
      (Nat.div_lt_iff_lt_mul (Nat.two_pow_pos _)).2 hhigh⟩

theorem significandOf_bounds : 2 ^ 52 ≤ significandOf n ∧ significandOf n ≤ 2 ^ 53 := by
  obtain ⟨hsmall, hlarge⟩ := scaled_bounds hn
  unfold significandOf
  split
  · next h => exact ⟨(hsmall h).1, Nat.le_of_lt (hsmall h).2⟩
  · next h =>
    obtain ⟨hlow, hhigh⟩ := hlarge (Nat.lt_of_not_le h)
    have := divNearest_bounds n (2 ^ (n.log2 - 52))
    omega

omit hn in
/-- A number at its scale: multiplied where it has no more than 53 bits, else divided. -/
theorem scaled_one :
    scaled n 1 (n.log2 + 1022) =
      if n.log2 ≤ 52 then (n * 2 ^ (52 - n.log2), 1) else (n, 2 ^ (n.log2 - 52)) := by
  unfold scaled
  by_cases h : n.log2 ≤ 52
  · have hshift : 1074 - (n.log2 + 1022) = 52 - n.log2 := by omega
    rw [if_pos h, if_pos (by omega), hshift, Nat.shiftLeft_eq]
  · have hshift : n.log2 + 1022 - 1074 = n.log2 - 52 := by omega
    rw [if_neg h, if_neg (by omega), hshift, Nat.one_shiftLeft]

/-- The scale of a whole number follows its number of bits. -/
theorem scaleOf_one : scaleOf n 1 = n.log2 + 1022 := by
  obtain ⟨hsmall, hlarge⟩ := scaled_bounds hn
  have hguess : n.log2 + 1074 - Nat.log2 1 - 52 = n.log2 + 1022 := by
    rw [show Nat.log2 1 = 0 from rfl]
    omega
  unfold scaleOf
  simp only [hguess, scaled_one, Nat.one_shiftLeft]
  by_cases h : n.log2 ≤ 52
  · have := (hsmall h).1
    rw [if_pos h, Nat.div_one, if_neg (by omega)]
  · have := (hlarge (Nat.lt_of_not_le h)).1
    rw [if_neg h]
    dsimp only
    rw [if_neg (by omega)]

/-- The code of a whole number is its scale and its significand. -/
theorem codeNear_one : codeNear n 1 = (n.log2 + 1022) * 2 ^ 52 + significandOf n := by
  unfold codeNear significandOf
  simp only [scaleOf_one hn, scaled_one, Nat.shiftLeft_eq]
  by_cases h : n.log2 ≤ 52
  · rw [if_pos h, if_pos h, divNearest_one]
  · rw [if_neg h, if_neg h]

end Bounds

/-- A greater number has no lesser code. -/
theorem codeNear_le_codeNear {m n : Nat} (hm : m ≠ 0) (h : m ≤ n) :
    codeNear m 1 ≤ codeNear n 1 := by
  have hn : n ≠ 0 := by omega
  have hlog : m.log2 ≤ n.log2 := (Nat.le_log2 hn).2 (Nat.le_trans (Nat.log2_self_le hm) h)
  obtain ⟨-, hhigh⟩ := significandOf_bounds hm
  obtain ⟨hlow, -⟩ := significandOf_bounds hn
  rw [codeNear_one hm, codeNear_one hn]
  by_cases hlt : m.log2 < n.log2
  · omega
  · have hsame : m.log2 = n.log2 := by omega
    have hsignificand : significandOf m ≤ significandOf n := by
      unfold significandOf
      rw [hsame]
      split
      · exact Nat.mul_le_mul_right _ h
      · exact divNearest_le_divNearest h _
    rw [hsame]
    omega

/-- Below 2^53 every number has a code of its own. -/
theorem codeNear_lt_codeNear {m n : Nat} (hm : m ≠ 0) (h : m < n) (hexact : m < 2 ^ 53) :
    codeNear m 1 < codeNear n 1 := by
  have hn : n ≠ 0 := by omega
  have hlog : m.log2 ≤ n.log2 :=
    (Nat.le_log2 hn).2 (Nat.le_trans (Nat.log2_self_le hm) (Nat.le_of_lt h))
  have hsmall : m.log2 ≤ 52 := by
    have := (Nat.log2_lt hm).2 hexact
    omega
  have hhigh := ((scaled_bounds hm).1 hsmall).2
  obtain ⟨hlow, -⟩ := significandOf_bounds hn
  rw [codeNear_one hm, codeNear_one hn]
  by_cases hlt : m.log2 < n.log2
  · unfold significandOf at *
    rw [if_pos hsmall]
    omega
  · have hsame : m.log2 = n.log2 := by omega
    have hsignificand : significandOf m < significandOf n := by
      unfold significandOf
      rw [← hsame, if_pos hsmall, if_pos hsmall]
      exact Nat.mul_lt_mul_of_pos_right h (Nat.two_pow_pos _)
    rw [hsame]
    omega

/-- A number of 64 bits has the code of a finite number, and zero alone has the code zero. -/
theorem codeNear_bounds {n : Nat} (hn : n ≠ 0) (h : n < 2 ^ 64) :
    0 < codeNear n 1 ∧ codeNear n 1 < 2047 <<< 52 := by
  have hlog : n.log2 < 64 := (Nat.log2_lt hn).2 h
  have := significandOf_bounds hn
  rw [codeNear_one hn, Nat.shiftLeft_eq]
  omega

end RecordFilter.Double
