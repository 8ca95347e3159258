import RecordFilter.Proofs.Unicode.CaseMapping
import RecordFilter.Text.LowerCase

/-!
# Text in lower case

Lower case is reached in one step: the characters of a lowercase form are left alone wherever they
stand (`lowerCase_lowerCase`).  It is not reached character by character, though, since a capital
sigma looks at its neighbours.
-/

namespace RecordFilter

theorem toNat_ofNat {n : Nat} (h : n.isValidChar) : (Char.ofNat n).toNat = n := by
  unfold Char.ofNat
  rw [dif_pos h]
  rfl

/-- A character that lower case leaves alone wherever it stands. -/
def IsLower (c : Char) : Prop :=
  c ≠ 'Σ' ∧ lowerChar c = [c]

instance (c : Char) : Decidable (IsLower c) :=
  inferInstanceAs (Decidable (_ ∧ _))

/-- What a character other than the dotted capital I is mapped to. -/
theorem isLower_mapped {c : Char} (hc : c ≠ 'İ') :
    IsLower (Char.ofNat (CaseRun.mapCode lowerRuns c.toNat)) := by
  have hvalid : (CaseRun.mapCode lowerRuns c.toNat).isValidChar :=
    CaseRun.isValidChar_mapCode c
  have hsigma : Char.ofNat (CaseRun.mapCode lowerRuns c.toNat) ≠ 'Σ' := by
    intro h
    have hcode : CaseRun.mapCode lowerRuns c.toNat = 0x3A3 := by
      rw [← toNat_ofNat hvalid, h]
      rfl
    have hmoved : (lowerRuns.any (·.covers 0x3A3)) = true := by decide +kernel
    obtain ⟨r, hr, hcovers⟩ := List.any_eq_true.1 hmoved
    exact CaseRun.not_covers_mapCode c.toNat r hr (hcode ▸ hcovers)
  have hdotted : Char.ofNat (CaseRun.mapCode lowerRuns c.toNat) ≠ 'İ' := by
    intro h
    have hcode : CaseRun.mapCode lowerRuns c.toNat = 0x130 := by
      rw [← toNat_ofNat hvalid, h]
      rfl
    have hkeep : (lowerRuns.all (CaseRun.keepsOutOf ⟨[(0x130, 0x130)]⟩)) = true := by
      decide +kernel
    refine CaseRun.not_hasCode_mapCode (n := c.toNat) hkeep (fun hn => hc ?_) (by rw [hcode]; rfl)
    have hnat : c.toNat = 0x130 := by
      simpa [CharSet.hasCode, Nat.le_antisymm_iff, and_comm] using hn
    rw [← Char.ofNat_toNat c, hnat]
  refine ⟨hsigma, ?_⟩
  rw [lowerChar, if_neg hdotted, toNat_ofNat hvalid, CaseRun.mapCode_mapCode]

theorem isLower_of_mem_lowerChar {c d : Char} (h : d ∈ lowerChar c) : IsLower d := by
  unfold lowerChar at h
  split at h
  · simp only [List.mem_cons, List.not_mem_nil, or_false] at h
    rcases h with rfl | rfl <;> decide +kernel
  · next hc =>
    rw [List.mem_singleton.1 h]
    exact isLower_mapped hc

namespace Text

/-- The lowercase form of a character among others, those before it last one first. -/
def formAt (before : Text) (c : Char) (rest : Text) : Text :=
  if c = 'Σ' then (if meetsCased before && !meetsCased rest then ['ς'] else ['σ'])
  else lowerChar c

theorem lowerAfter_cons (before : Text) (c : Char) (rest : Text) :
    lowerAfter before (c :: rest) = formAt before c rest ++ lowerAfter (c :: before) rest := rfl

variable {before rest t : Text} {c d : Char}

theorem formAt_of_isLower (h : IsLower c) (before rest : Text) : formAt before c rest = [c] := by
  rw [formAt, if_neg h.1, h.2]

theorem isLower_of_mem_formAt (h : d ∈ formAt before c rest) : IsLower d := by
  unfold formAt at h
  split at h
  · have hsigmas : IsLower 'ς' ∧ IsLower 'σ' := by decide +kernel
    split at h
    · exact List.mem_singleton.1 h ▸ hsigmas.1
    · exact List.mem_singleton.1 h ▸ hsigmas.2
  · exact isLower_of_mem_lowerChar h

theorem formAt_ne_nil (before : Text) (c : Char) (rest : Text) : formAt before c rest ≠ [] := by
  unfold formAt lowerChar
  split
  · split <;> simp
  · split <;> simp

theorem lowerAfter_of_isLower (h : ∀ c ∈ t, IsLower c) (before : Text) :
    lowerAfter before t = t := by
  induction t generalizing before with
  | nil => rfl
  | cons c rest ih =>
    obtain ⟨hc, hrest⟩ := List.forall_mem_cons.1 h
    rw [lowerAfter_cons, formAt_of_isLower hc, ih hrest]
    rfl

theorem isLower_of_mem_lowerAfter (h : d ∈ lowerAfter before t) : IsLower d := by
  induction t generalizing before with
  | nil => simp [lowerAfter] at h
  | cons c rest ih =>
    rw [lowerAfter_cons, List.mem_append] at h
    exact h.elim isLower_of_mem_formAt ih

theorem lowerCase_of_isLower (h : ∀ c ∈ t, IsLower c) : lowerCase t = t :=
  lowerAfter_of_isLower h []

theorem lowerCase_lowerCase (t : Text) : lowerCase (lowerCase t) = lowerCase t :=
  lowerCase_of_isLower fun _ => isLower_of_mem_lowerAfter

theorem lowerCase_eq_nil : lowerCase t = [] ↔ t = [] := by
  cases t with
  | nil => simp [lowerCase, lowerAfter]
  | cons c rest => simp [lowerCase, lowerAfter_cons, formAt_ne_nil]

end Text

end RecordFilter
