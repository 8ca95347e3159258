import Mathlib.Data.List.Basic
import RecordFilter.Number.Reading
import RecordFilter.Proofs.Text.LowerCase
import RecordFilter.Proofs.Text.WhiteSpace

/-!
# Numbers and letter case

A number can be told in either case: the only letter it is written with is that of its exponent, and
this one is read alike as capital and as small letter.
-/

namespace RecordFilter

open Reading

theorem toNat_lowerAscii (c : Char) :
    (lowerAscii c).toNat = if 65 ≤ c.toNat ∧ c.toNat ≤ 90 then c.toNat + 32 else c.toNat := by
  have hupper : ('A' ≤ c ∧ c ≤ 'Z') ↔ 65 ≤ c.toNat ∧ c.toNat ≤ 90 := by
    simp only [Char.le_def, UInt32.le_iff_toNat_le]
    rfl
  unfold lowerAscii
  simp only [hupper]
  split
  · exact toNat_ofNat (by left; omega)
  · rfl

theorem isAlpha_iff (c : Char) :
    c.isAlpha = true ↔ 65 ≤ c.toNat ∧ c.toNat ≤ 90 ∨ 97 ≤ c.toNat ∧ c.toNat ≤ 122 := by
  have hupper : c.isUpper = true ↔ 65 ≤ c.toNat ∧ c.toNat ≤ 90 := decide_eq_true_iff
  have hlower : c.isLower = true ↔ 97 ≤ c.toNat ∧ c.toNat ≤ 122 :=
    Bool.and_eq_true_iff.trans (and_congr decide_eq_true_iff decide_eq_true_iff)
  rw [← hupper, ← hlower, ← Bool.or_eq_true]
  rfl

/-- A character is changed only from one letter of ASCII to another. -/
theorem lowerAscii_cases (c : Char) :
    lowerAscii c = c ∨ c.isAlpha = true ∧ (lowerAscii c).isAlpha = true := by
  rw [← Char.toNat_inj, isAlpha_iff, isAlpha_iff, toNat_lowerAscii]
  split <;> omega

/-- Other characters than letters are told apart from letters and kept. -/
theorem lowerAscii_eq_iff {c d : Char} (hd : d.isAlpha = false) : lowerAscii c = d ↔ c = d := by
  rcases lowerAscii_cases c with h | ⟨hc, hlower⟩
  · rw [h]
  · constructor
    · rintro rfl
      simp [hlower] at hd
    · rintro rfl
      simp [hc] at hd

theorem lowerAscii_eq_e_iff {c : Char} :
    (lowerAscii c = 'e' ∨ lowerAscii c = 'E') ↔ (c = 'e' ∨ c = 'E') := by
  have he : 'e'.toNat = 101 := rfl
  have hE : 'E'.toNat = 69 := rfl
  simp only [← Char.toNat_inj, toNat_lowerAscii, he, hE]
  split <;> omega

theorem lowerAscii_lowerAscii (c : Char) : lowerAscii (lowerAscii c) = lowerAscii c := by
  have hnot : ¬ (65 ≤ (lowerAscii c).toNat ∧ (lowerAscii c).toNat ≤ 90) := by
    rw [toNat_lowerAscii]
    split <;> omega
  rw [← Char.toNat_inj, toNat_lowerAscii (lowerAscii c), if_neg hnot]

theorem digit?_of_isAlpha {c : Char} (h : c.isAlpha = true) : digit? c = none := by
  refine if_neg fun hdigit => ?_
  have hcode : 48 ≤ c.toNat ∧ c.toNat ≤ 57 := by
    simp only [Char.le_def, UInt32.le_iff_toNat_le] at hdigit
    exact hdigit
  rw [isAlpha_iff] at h
  omega

theorem digit?_lowerAscii (c : Char) : digit? (lowerAscii c) = digit? c := by
  rcases lowerAscii_cases c with h | ⟨hc, hlower⟩
  · rw [h]
  · rw [digit?_of_isAlpha hc, digit?_of_isAlpha hlower]

theorem readDigits?_map_lowerAscii (n : Nat) (t : Text) :
    Text.readDigits? n (t.map lowerAscii) = Text.readDigits? n t := by
  induction t generalizing n with
  | nil => rfl
  | cons c rest ih =>
    rw [List.map_cons, Text.readDigits?, Text.readDigits?, digit?_lowerAscii]
    simp only [ih]

theorem digits?_map_lowerAscii (t : Text) : Text.digits? (t.map lowerAscii) = Text.digits? t := by
  rw [Text.digits?, Text.digits?, List.isEmpty_map, readDigits?_map_lowerAscii]

namespace Reading

theorem takeDigits_map_lowerAscii (t : Text) :
    takeDigits (t.map lowerAscii) = ((takeDigits t).1, (takeDigits t).2.map lowerAscii) := by
  have hdigit : isDigit ∘ lowerAscii = isDigit := by
    funext c
    simp [isDigit, digit?_lowerAscii]
  have hkeep : (t.takeWhile isDigit).map lowerAscii = t.takeWhile isDigit := by
    refine (List.map_congr_left fun c hc => ?_).trans (List.map_id _)
    rcases lowerAscii_cases c with h | ⟨halpha, -⟩
    · exact h
    · have hnot := List.mem_takeWhile_imp hc
      simp [isDigit, digit?_of_isAlpha halpha] at hnot
  unfold takeDigits
  rw [List.span_eq_takeWhile_dropWhile, List.span_eq_takeWhile_dropWhile, List.takeWhile_map,
    List.dropWhile_map, hdigit, hkeep]

/-- Whether a minus sign stands before a number, and the number without a sign. -/
def takeSign (t : Text) : Bool × Text :=
  match t with
  | '-' :: r => (true, r)
  | '+' :: r => (false, r)
  | r => (false, r)

theorem takeSign_map_lowerAscii (t : Text) :
    takeSign (t.map lowerAscii) = ((takeSign t).1, (takeSign t).2.map lowerAscii) := by
  rcases t with - | ⟨c, r⟩
  · rfl
  by_cases hminus : c = '-'
  · subst hminus
    rfl
  by_cases hplus : c = '+'
  · subst hplus
    rfl
  have hminus' : lowerAscii c ≠ '-' := by rwa [Ne, lowerAscii_eq_iff (by decide)]
  have hplus' : lowerAscii c ≠ '+' := by rwa [Ne, lowerAscii_eq_iff (by decide)]
  simp [takeSign, hminus, hplus, hminus', hplus']

theorem exponent?_cons (c : Char) (rest : Text) :
    exponent? (c :: rest) = if c = 'e' ∨ c = 'E' then
      (Text.digits? (takeSign rest).2).map fun n : Nat =>
        if (takeSign rest).1 then -Int.ofNat n else Int.ofNat n
    else none := by
  unfold exponent? takeSign
  dsimp only
  congr 1
  split
  · next digits =>
    show _ = (Text.digits? digits).map _
    cases Text.digits? digits <;> rfl
  · rfl
  · next hminus hplus =>
    split
    · next digits => exact (hminus digits rfl).elim
    · next digits => exact (hplus digits rfl).elim
    · rfl

theorem exponent?_map_lowerAscii (t : Text) : exponent? (t.map lowerAscii) = exponent? t := by
  cases t with
  | nil => rfl
  | cons c rest =>
    simp only [List.map_cons, exponent?_cons, lowerAscii_eq_e_iff, takeSign_map_lowerAscii,
      digits?_map_lowerAscii]

/-- The digits after the point, where one follows the digits before it, and what follows them. -/
def takeFraction (t : Text) : Text × Text :=
  match t with
  | '.' :: r => takeDigits r
  | r => ([], r)

theorem magnitude?_eq (negative : Bool) (t : Text) :
    magnitude? negative t =
      if (takeDigits t).1.isEmpty ∧ (takeFraction (takeDigits t).2).1.isEmpty then none
      else (exponent? (takeFraction (takeDigits t).2).2).map fun e =>
        ofDecimal negative (value ((takeDigits t).1 ++ (takeFraction (takeDigits t).2).1))
          (e - (takeFraction (takeDigits t).2).1.length) := rfl

theorem takeFraction_map_lowerAscii (t : Text) :
    takeFraction (t.map lowerAscii) = ((takeFraction t).1, (takeFraction t).2.map lowerAscii) := by
  rcases t with - | ⟨c, r⟩
  · rfl
  by_cases hpoint : c = '.'
  · subst hpoint
    exact takeDigits_map_lowerAscii r
  · have hpoint' : lowerAscii c ≠ '.' := by rwa [Ne, lowerAscii_eq_iff (by decide)]
    simp [takeFraction, hpoint, hpoint']

theorem magnitude?_map_lowerAscii (negative : Bool) (t : Text) :
    magnitude? negative (t.map lowerAscii) = magnitude? negative t := by
  simp only [magnitude?_eq, takeDigits_map_lowerAscii, takeFraction_map_lowerAscii,
    exponent?_map_lowerAscii]

theorem word?_map_lowerAscii (negative : Bool) (t : Text) :
    word? negative (t.map lowerAscii) = word? negative t := by
  unfold word?
  simp only [List.map_map, Function.comp_def, lowerAscii_lowerAscii]

theorem ofText?_eq (t : Text) :
    ofText? t =
      (magnitude? (takeSign t).1 (takeSign t).2).or (word? (takeSign t).1 (takeSign t).2) := rfl

theorem ofText?_map_lowerAscii (t : Text) : ofText? (t.map lowerAscii) = ofText? t := by
  rw [ofText?_eq, ofText?_eq, takeSign_map_lowerAscii, magnitude?_map_lowerAscii,
    word?_map_lowerAscii]

end Reading

end RecordFilter
