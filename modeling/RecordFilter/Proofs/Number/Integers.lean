import RecordFilter.Json.Value
import RecordFilter.Number.Reading
import RecordFilter.Proofs.Number.LetterCase
import RecordFilter.Proofs.Number.Rounding
import RecordFilter.Proofs.Text.Digits

/-!
# Integers as numbers of double precision

Integers of 64 bits are compared as the numbers of double precision nearest to them.  That is their
own order, except that two of them may be nearest to one number (`totalOrder_ofInt`); neither of
these is below 2^53 in magnitude (`eq_of_ofInt_eq`).  An integer written in decimal digits is read
as the number nearest to it (`Double.ofText?_ofInt`).
-/

namespace RecordFilter

namespace Double

/-! ### Codes -/

/-- The code of the number nearest to a natural number. -/
def codeOf (n : Nat) : Nat :=
  if n = 0 then 0 else codeNear n 1

theorem codeOf_le_codeOf {m n : Nat} (h : m ≤ n) : codeOf m ≤ codeOf n := by
  unfold codeOf
  by_cases hm : m = 0
  · rw [if_pos hm]
    exact Nat.zero_le _
  · rw [if_neg hm, if_neg (by omega)]
    exact codeNear_le_codeNear hm h

theorem codeOf_pos {n : Nat} (hn : n ≠ 0) (h : n < 2 ^ 64) : 0 < codeOf n := by
  rw [codeOf, if_neg hn]
  exact (codeNear_bounds hn h).1

theorem codeOf_lt_codeOf {m n : Nat} (h : m < n) (hexact : m < 2 ^ 53) (hn : n < 2 ^ 64) :
    codeOf m < codeOf n := by
  by_cases hm : m = 0
  · subst hm
    exact codeOf_pos (by omega) hn
  · rw [codeOf, codeOf, if_neg hm, if_neg (by omega)]
    exact codeNear_lt_codeNear hm h hexact

theorem codeOf_lt {n : Nat} (h : n < 2 ^ 64) : codeOf n < 2047 <<< 52 := by
  unfold codeOf
  split
  · decide
  · next hn => exact (codeNear_bounds hn h).2

/-- A natural number of 64 bits, with a sign, is rounded to its code with the sign. -/
theorem ofRatio?_one (negative : Bool) {n : Nat} (h : n < 2 ^ 64) :
    ofRatio? negative n 1 = some ⟨negative, ⟨codeOf n, codeOf_lt h⟩⟩ := by
  unfold ofRatio?
  by_cases hn : n = 0
  · subst hn
    rfl
  · have hcode : codeOf n = codeNear n 1 := if_neg hn
    rw [if_neg hn, ofCode?, dif_pos (codeNear_bounds hn h).2]
    simp only [hcode]

theorem ofInt_eq {i : Int} (h : i.natAbs < 2 ^ 64) :
    ofInt i = ⟨i < 0, ⟨codeOf i.natAbs, codeOf_lt h⟩⟩ := by
  unfold ofInt
  rw [ofRatio?_one _ h]
  rfl

/-! ### The order of integers -/

/-- Two numbers are the same when neither comes before the other. -/
theorem same_eq_isEq_order (x y : Double) : x.same y = (x.order y).isEq := by
  rw [Bool.eq_iff_iff, same, order, beq_iff_eq, Ordering.isEq_iff_eq_eq, Int.compare_eq_eq]

theorem compare_congr {a b c d : Int} (hlt : a < b ↔ c < d) (hgt : b < a ↔ d < c) :
    compare a b = compare c d := by
  rcases Int.lt_trichotomy a b with h | rfl | h
  · rw [Std.compare_eq_lt.2 h, Std.compare_eq_lt.2 (hlt.1 h)]
  · obtain rfl : c = d := by omega
    rw [Std.ReflOrd.compare_self, Std.ReflOrd.compare_self]
  · rw [Std.compare_eq_gt.2 h, Std.compare_eq_gt.2 (hgt.1 h)]

section Order

variable {i j : Int} (hi : i.natAbs < 2 ^ 64) (hj : j.natAbs < 2 ^ 64)

include hi

theorem totalKey_ofInt :
    (ofInt i).totalKey = if i < 0 then -(codeOf i.natAbs : Int) - 1 else codeOf i.natAbs := by
  rw [ofInt_eq hi]
  simp [totalKey]

theorem key_ofInt :
    (ofInt i).key = if i < 0 then -(codeOf i.natAbs : Int) else codeOf i.natAbs := by
  rw [ofInt_eq hi]
  simp [key]

include hj

/-- A greater integer has no lesser place. -/
theorem totalKey_ofInt_le (h : i ≤ j) : (ofInt i).totalKey ≤ (ofInt j).totalKey := by
  rw [totalKey_ofInt hi, totalKey_ofInt hj]
  by_cases hj0 : j < 0
  · have := codeOf_le_codeOf (show j.natAbs ≤ i.natAbs by omega)
    rw [if_pos (by omega), if_pos hj0]
    omega
  · by_cases hi0 : i < 0
    · rw [if_pos hi0, if_neg hj0]
      omega
    · have := codeOf_le_codeOf (show i.natAbs ≤ j.natAbs by omega)
      rw [if_neg hi0, if_neg hj0]
      omega

/-- Integers are ordered as the numbers nearest to them, unless one number is nearest to both. -/
theorem totalOrder_ofInt :
    (ofInt i).totalOrder (ofInt j) = if ofInt i = ofInt j then .eq else compare i j := by
  unfold totalOrder
  split
  · next heq =>
    rw [heq]
    exact Std.ReflOrd.compare_self
  · next hne =>
    have hplaces : (ofInt i).totalKey ≠ (ofInt j).totalKey := fun h => hne (totalKey_injective h)
    have hneInt : i ≠ j := fun h => hne (h ▸ rfl)
    rcases Int.lt_or_gt_of_ne hneInt with hlt | hgt
    · have := totalKey_ofInt_le hi hj (Int.le_of_lt hlt)
      exact compare_congr (by omega) (by omega)
    · have := totalKey_ofInt_le hj hi (Int.le_of_lt hgt)
      exact compare_congr (by omega) (by omega)

/-- No integer is rounded to negative zero, so the order of values is the one that tells the zeros
apart. -/
theorem key_lt_key_ofInt :
    (ofInt i).key < (ofInt j).key ↔ (ofInt i).totalKey < (ofInt j).totalKey := by
  have hpos : ∀ {k : Int}, k.natAbs < 2 ^ 64 → k < 0 → 0 < codeOf k.natAbs :=
    fun hk hk0 => codeOf_pos (by omega) hk
  rw [key_ofInt hi, key_ofInt hj, totalKey_ofInt hi, totalKey_ofInt hj]
  by_cases hi0 : i < 0
  · have := hpos hi hi0
    by_cases hj0 : j < 0
    · rw [if_pos hi0, if_pos hj0, if_pos hi0, if_pos hj0]
      omega
    · rw [if_pos hi0, if_neg hj0, if_pos hi0, if_neg hj0]
      omega
  · by_cases hj0 : j < 0
    · have := hpos hj hj0
      rw [if_neg hi0, if_pos hj0, if_neg hi0, if_pos hj0]
      omega
    · rw [if_neg hi0, if_neg hj0, if_neg hi0, if_neg hj0]

/-- The values of integers are ordered as the integers, unless one number is nearest to both. -/
theorem order_ofInt :
    (ofInt i).order (ofInt j) = if ofInt i = ofInt j then .eq else compare i j := by
  rw [← totalOrder_ofInt hi hj]
  exact compare_congr (key_lt_key_ofInt hi hj) (key_lt_key_ofInt hj hi)

/-- Where one of two integers is below 2^53 in magnitude, no number is nearest to both. -/
theorem eq_of_ofInt_eq (hexact : i.natAbs < 2 ^ 53 ∨ j.natAbs < 2 ^ 53) (h : ofInt i = ofInt j) :
    i = j := by
  rw [ofInt_eq hi, ofInt_eq hj] at h
  obtain ⟨hsign, hcode⟩ := Double.mk.inj h
  have hcode : codeOf i.natAbs = codeOf j.natAbs := congrArg Fin.val hcode
  have hsign : i < 0 ↔ j < 0 := decide_eq_decide.1 hsign
  rcases Nat.lt_trichotomy i.natAbs j.natAbs with hlt | heq | hgt
  · have := codeOf_lt_codeOf hlt (by omega) hj
    omega
  · omega
  · have := codeOf_lt_codeOf hgt (by omega) hi
    omega

end Order

end Double

/-! ### Integers in decimal digits -/

namespace Reading

theorem takeDigits_ofNat (n : Nat) : takeDigits (Text.ofNat n) = (Text.ofNat n, []) := by
  have hall : ∀ c ∈ Text.ofNat n, isDigit c = true := by
    intro c hc
    rw [isDigit, digit?_of_isDigit (Text.isDigit_of_mem_ofNat hc)]
    rfl
  unfold takeDigits
  rw [List.span_eq_takeWhile_dropWhile, List.takeWhile_eq_self_iff.2 hall,
    List.dropWhile_eq_nil_iff.2 hall]

theorem value_ofNat (n : Nat) : value (Text.ofNat n) = n := by
  rw [value, Text.readDigits?_ofNat]
  rfl

/-- The digits of a number of 64 bits are read as the number of double precision nearest to it. -/
theorem magnitude?_ofNat (negative : Bool) {n : Nat} (h : n < 2 ^ 64) :
    magnitude? negative (Text.ofNat n) =
      some (.finite ⟨negative, ⟨Double.codeOf n, Double.codeOf_lt h⟩⟩) := by
  have hempty : (Text.ofNat n).isEmpty = false :=
    List.isEmpty_eq_false_iff.2 (Text.ofNat_ne_nil n)
  have hdecimal : ofDecimal negative n 0 =
      .finite ⟨negative, ⟨Double.codeOf n, Double.codeOf_lt h⟩⟩ := by
    unfold ofDecimal
    by_cases hn : n = 0
    · subst hn
      rfl
    · have hone : n * Nat.pow 10 (Int.toNat 0) = n := Nat.mul_one n
      rw [if_neg (by omega), if_neg (by omega), if_pos (Int.le_refl 0), hone,
        Double.ofRatio?_one negative h]
  rw [magnitude?_eq, takeDigits_ofNat]
  simp [takeFraction, hempty, exponent?, value_ofNat, hdecimal]

theorem takeSign_ofInt (i : Int) :
    takeSign (Text.ofInt i) = (decide (i < 0), Text.ofNat i.natAbs) := by
  unfold Text.ofInt
  split
  · next h =>
    rw [decide_eq_true h]
    rfl
  · next h =>
    rw [decide_eq_false h]
    cases htext : Text.ofNat i.natAbs with
    | nil => rfl
    | cons c digits =>
      have hdigit : c.isDigit = true :=
        Text.isDigit_of_mem_ofNat (n := i.natAbs) (htext ▸ List.mem_cons_self)
      unfold takeSign
      split
      · next heq =>
        obtain ⟨rfl, -⟩ := List.cons.inj heq
        exact absurd hdigit (by decide)
      · next heq =>
        obtain ⟨rfl, -⟩ := List.cons.inj heq
        exact absurd hdigit (by decide)
      · rfl

end Reading

/-- An integer in decimal digits is read as the number nearest to it. -/
theorem Double.ofText?_ofInt {i : Int} (h : i.natAbs < 2 ^ 64) :
    Double.ofText? (Text.ofInt i) = some (.ofInt i) := by
  unfold Double.ofText?
  rw [Reading.ofText?_eq, Reading.takeSign_ofInt, Reading.magnitude?_ofNat _ h, Double.ofInt_eq h]
  rfl

end RecordFilter
