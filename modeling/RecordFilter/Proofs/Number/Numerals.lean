import RecordFilter.Json.Value
import RecordFilter.Proofs.Number.LetterCase
import RecordFilter.Proofs.Text.LowerCase
import RecordFilter.Proofs.Text.WhiteSpace
import RecordFilter.Proofs.Unicode.CharSet

/-!
# Numerals

The characters that numbers are read from and written in.  Only a capital E among them has a lower
case of its own, and nothing else has one of them for its lower case, so what a text says about
numbers can be told from its lower case (`Double.ofText?_trim_lowerCase`).  Numbers themselves are
written in lower case (`isLower_of_mem_text`).
-/

namespace RecordFilter

open Reading

/-- The characters of numbers in lower case, and the white space that may stand around numbers. -/
def numerals : CharSet :=
  ⟨whiteSpaceRanges ++ [(0x2B, 0x2B), (0x2D, 0x2E), (0x30, 0x39), (0x65, 0x65)]⟩

/-- A character that a number may be written with, or that may stand around it. -/
def IsNumeral (c : Char) : Prop :=
  numerals.has c = true ∨ c = 'E'

theorem hasCode_numerals_iff (n : Nat) :
    numerals.hasCode n = true ↔ CharSet.hasCode ⟨whiteSpaceRanges⟩ n = true ∨
      n = 0x2B ∨ (0x2D ≤ n ∧ n ≤ 0x2E) ∨ (0x30 ≤ n ∧ n ≤ 0x39) ∨ n = 0x65 := by
  rw [numerals, CharSet.hasCode_append, Bool.or_eq_true]
  refine or_congr Iff.rfl ?_
  simp only [CharSet.hasCode, List.any_cons, List.any_nil, Bool.or_false, Bool.or_eq_true,
    Bool.and_eq_true, decide_eq_true_eq]
  omega

/-- The characters of ASCII that show are no white space. -/
theorem not_hasCode_whiteSpaceRanges {n : Nat} (hfirst : 0x21 ≤ n) (hlast : n ≤ 0x7E) :
    ¬ CharSet.hasCode ⟨whiteSpaceRanges⟩ n = true := by
  simp only [CharSet.hasCode, whiteSpaceRanges, List.any_cons, List.any_nil, Bool.or_false,
    Bool.or_eq_true, Bool.and_eq_true, decide_eq_true_eq]
  omega

/-- Of the letters of ASCII only the small e is one of these characters. -/
theorem eq_e_of_hasCode_numerals {n : Nat} (h : numerals.hasCode n = true) (hfirst : 0x41 ≤ n)
    (hlast : n ≤ 0x7A) : n = 0x65 := by
  have hwhite := not_hasCode_whiteSpaceRanges (n := n) (by omega) (by omega)
  have hother := ((hasCode_numerals_iff n).1 h).resolve_left hwhite
  omega

theorem isNumeral_of_isWhiteSpace {c : Char} (h : isWhiteSpace c = true) : IsNumeral c :=
  .inl ((hasCode_numerals_iff _).2 (.inl h))

theorem isNumeral_of_isDigit {c : Char} (h : isDigit c = true) : IsNumeral c := by
  unfold isDigit digit? at h
  split at h
  · next hdigit =>
    simp only [Char.le_def, UInt32.le_iff_toNat_le] at hdigit
    exact .inl ((hasCode_numerals_iff _).2 (.inr (.inr (.inr (.inl hdigit)))))
  · simp at h

/-- A character that a number is read from. -/
def IsGlyph (c : Char) : Prop :=
  isDigit c = true ∨ c ∈ ['+', '-', '.', 'e', 'E']

theorem IsGlyph.isNumeral {c : Char} (h : IsGlyph c) : IsNumeral c := by
  rcases h with hdigit | hother
  · exact isNumeral_of_isDigit hdigit
  · simp only [List.mem_cons, List.not_mem_nil, or_false] at hother
    rcases hother with rfl | rfl | rfl | rfl | rfl
    · exact .inl rfl
    · exact .inl rfl
    · exact .inl rfl
    · exact .inl rfl
    · exact .inr rfl

theorem IsGlyph.isWhiteSpace_eq {c : Char} (h : IsGlyph c) : isWhiteSpace c = false := by
  have hcode : 0x21 ≤ c.toNat ∧ c.toNat ≤ 0x7E := by
    rcases h with hdigit | hother
    · unfold isDigit digit? at hdigit
      split at hdigit
      · next hbounds =>
        simp only [Char.le_def, UInt32.le_iff_toNat_le] at hbounds
        have hdigits : 48 ≤ c.toNat ∧ c.toNat ≤ 57 := hbounds
        omega
      · simp at hdigit
    · simp only [List.mem_cons, List.not_mem_nil, or_false] at hother
      rcases hother with rfl | rfl | rfl | rfl | rfl <;> decide
  exact Bool.eq_false_iff.2 (not_hasCode_whiteSpaceRanges hcode.1 hcode.2)

theorem isLower_of_has_numerals {c : Char} (h : numerals.has c = true) : IsLower c := by
  have hspecial : numerals.has 'Σ' = false ∧ numerals.has 'İ' = false := by decide
  have hleft : (lowerRuns.all (CaseRun.leaves numerals)) = true := by decide +kernel
  have hkept : CaseRun.mapCode lowerRuns c.toNat = c.toNat :=
    CaseRun.mapCode_of_not_covers fun r hr =>
      CaseRun.not_covers_of_leaves (List.all_eq_true.1 hleft r hr) h
  constructor
  · rintro rfl
    simp [hspecial] at h
  · rw [lowerChar, if_neg, hkept, Char.ofNat_toNat]
    rintro rfl
    simp [hspecial] at h

/-- Only the exponent's capital E is put in lower case. -/
theorem formAt_of_isNumeral {c : Char} (h : IsNumeral c) (before rest : Text) :
    Text.formAt before c rest = [lowerAscii c] := by
  rcases h with h | rfl
  · rw [Text.formAt_of_isLower (isLower_of_has_numerals h)]
    have hkept : lowerAscii c = c := by
      rw [← Char.toNat_inj, toNat_lowerAscii, if_neg]
      intro hupper
      have := eq_e_of_hasCode_numerals h hupper.1 (by omega)
      omega
    rw [hkept]
  · rw [Text.formAt, if_neg (by decide)]
    decide +kernel

/-- The table moves no other character than a capital E to those of numbers: the letters of ASCII
are the only run that leads there. -/
theorem isNumeral_of_hasCode_mapCode {c : Char}
    (h : numerals.hasCode (CaseRun.mapCode lowerRuns c.toNat) = true) : IsNumeral c := by
  have hkeep : (lowerRuns.all fun r => r.keepsOutOf numerals || r == ⟨0x41, 0x5A, 1, 32⟩) =
      true := by decide +kernel
  rcases CaseRun.mapCode_cases lowerRuns c.toNat with ⟨r, hr, hcovers, hmap⟩ | ⟨-, hmap⟩
  · rw [hmap] at h
    rcases Bool.or_eq_true_iff.1 (List.all_eq_true.1 hkeep r hr) with hout | hletters
    · have hnot := CaseRun.not_hasCode_target hout (CaseRun.natural_lowerRuns hr) hcovers
      exact absurd h hnot
    · right
      rw [eq_of_beq hletters] at hcovers h
      obtain ⟨hfirst, hlast⟩ := CaseRun.bounds_of_covers hcovers
      simp only at hfirst hlast
      have htarget : CaseRun.target ⟨0x41, 0x5A, 1, 32⟩ c.toNat = c.toNat + 32 := by
        show ((c.toNat : Int) + 32).toNat = _
        omega
      rw [htarget] at h
      have := eq_e_of_hasCode_numerals h (by omega) (by omega)
      rw [← Char.toNat_inj]
      show c.toNat = 69
      omega
  · rw [hmap] at h
    exact .inl h

/-- No other character than a capital E has one of those of numbers in its lowercase form. -/
theorem isNumeral_of_mem_formAt {before rest : Text} {c d : Char}
    (hd : d ∈ Text.formAt before c rest) (h : IsNumeral d) : IsNumeral c := by
  have hspecial : numerals.has 'ς' = false ∧ numerals.has 'σ' = false ∧
      numerals.has 'i' = false ∧ numerals.has (Char.ofNat 0x307) = false := by decide
  have hlower : numerals.has d = true := by
    refine h.resolve_right ?_
    rintro rfl
    exact absurd (Text.isLower_of_mem_formAt hd) (by decide +kernel)
  unfold Text.formAt lowerChar at hd
  split at hd
  · split at hd <;> simp [List.mem_singleton.1 hd, hspecial] at hlower
  split at hd
  · rcases List.mem_cons.1 hd with rfl | hd
    · simp [hspecial] at hlower
    · simp [List.mem_singleton.1 hd, hspecial] at hlower
  · rw [List.mem_singleton.1 hd, CharSet.has, toNat_ofNat (CaseRun.isValidChar_mapCode c)] at hlower
    exact isNumeral_of_hasCode_mapCode hlower

theorem lowerCase_of_isNumeral {t : Text} (h : ∀ c ∈ t, IsNumeral c) :
    Text.lowerCase t = t.map lowerAscii := by
  have hafter : ∀ before, Text.lowerAfter before t = t.map lowerAscii := by
    induction t with
    | nil => exact fun _ => rfl
    | cons c rest ih =>
      intro before
      obtain ⟨hc, hrest⟩ := List.forall_mem_cons.1 h
      rw [Text.lowerAfter_cons, formAt_of_isNumeral hc, ih hrest]
      rfl
  exact hafter []

theorem isNumeral_of_lowerCase {t : Text} (h : ∀ c ∈ Text.lowerCase t, IsNumeral c) :
    ∀ c ∈ t, IsNumeral c := by
  have hafter : ∀ before, (∀ c ∈ Text.lowerAfter before t, IsNumeral c) →
      ∀ c ∈ t, IsNumeral c := by
    clear h
    induction t with
    | nil => simp
    | cons c rest ih =>
      intro before h
      rw [Text.lowerAfter_cons, List.forall_mem_append] at h
      obtain ⟨d, hd⟩ := List.exists_mem_of_ne_nil _ (Text.formAt_ne_nil before c rest)
      exact List.forall_mem_cons.2 ⟨isNumeral_of_mem_formAt hd (h.1 d hd), ih _ h.2⟩
  exact hafter [] h

/-! ### Texts that write numbers -/

theorem isDigit_of_digits? {t : Text} {n : Nat} (h : Text.digits? t = some n) :
    ∀ c ∈ t, isDigit c = true := by
  have hread : ∀ m k, Text.readDigits? m t = some k → ∀ c ∈ t, isDigit c = true := by
    clear h
    induction t with
    | nil => simp
    | cons c rest ih =>
      intro m k h
      obtain ⟨d, hd, hrest⟩ := Option.bind_eq_some_iff.1 h
      exact List.forall_mem_cons.2 ⟨by rw [isDigit, hd]; rfl, ih _ _ hrest⟩
  unfold Text.digits? at h
  split at h
  · simp at h
  · exact hread 0 n h

namespace Reading

theorem mem_takeDigits {t : Text} {c : Char} (h : c ∈ t) :
    isDigit c = true ∨ c ∈ (takeDigits t).2 := by
  unfold takeDigits
  rw [List.span_eq_takeWhile_dropWhile]
  rw [← List.takeWhile_append_dropWhile (p := isDigit) (l := t), List.mem_append] at h
  exact h.imp_left List.mem_takeWhile_imp

theorem mem_takeSign {t : Text} {c : Char} (h : c ∈ t) :
    c = '-' ∨ c = '+' ∨ c ∈ (takeSign t).2 := by
  unfold takeSign
  split
  · exact (List.mem_cons.1 h).imp_right .inr
  · exact .inr (List.mem_cons.1 h)
  · exact .inr (.inr h)

theorem mem_takeFraction {t : Text} {c : Char} (h : c ∈ t) :
    c = '.' ∨ isDigit c = true ∨ c ∈ (takeFraction t).2 := by
  unfold takeFraction
  split
  · exact (List.mem_cons.1 h).imp_right mem_takeDigits
  · exact .inr (.inr h)

theorem isGlyph_of_exponent? {t : Text} {e : Int} (h : exponent? t = some e) :
    ∀ c ∈ t, IsGlyph c := by
  cases t with
  | nil => simp
  | cons c rest =>
    rw [exponent?_cons] at h
    split at h
    · next hletter =>
      obtain ⟨n, hn, -⟩ := Option.map_eq_some_iff.1 h
      refine List.forall_mem_cons.2 ⟨?_, fun d hd => ?_⟩
      · rcases hletter with rfl | rfl
        · exact .inr (by decide)
        · exact .inr (by decide)
      · rcases mem_takeSign hd with rfl | rfl | hdigit
        · exact .inr (by decide)
        · exact .inr (by decide)
        · exact .inl (isDigit_of_digits? hn d hdigit)
    · simp at h

theorem isGlyph_of_magnitude? {negative : Bool} {t : Text} {r : Reading}
    (h : magnitude? negative t = some r) : ∀ c ∈ t, IsGlyph c := by
  rw [magnitude?_eq] at h
  split at h
  · simp at h
  · obtain ⟨e, he, -⟩ := Option.map_eq_some_iff.1 h
    intro c hc
    rcases mem_takeDigits hc with hdigit | hc
    · exact .inl hdigit
    rcases mem_takeFraction hc with rfl | hdigit | hc
    · exact .inr (by decide)
    · exact .inl hdigit
    · exact isGlyph_of_exponent? he c hc

theorem word?_ne_finite (negative : Bool) (t : Text) (x : Double) :
    word? negative t ≠ some (.finite x) := by
  unfold word?
  dsimp only
  split
  · simp
  · split <;> simp

end Reading

/-- A number is read from digits, signs, points and the letter of an exponent, and from nothing
else. -/
theorem isGlyph_of_ofText? {t : Text} {x : Double} (h : Double.ofText? t = some x) :
    ∀ c ∈ t, IsGlyph c := by
  have hread : Reading.ofText? t = some (.finite x) := by
    unfold Double.ofText? at h
    split at h
    · next y hy => rw [hy, Option.some.inj h]
    · simp at h
  rw [ofText?_eq, Option.or_eq_some_iff] at hread
  rcases hread with hmagnitude | ⟨-, hword⟩
  · intro c hc
    rcases mem_takeSign hc with rfl | rfl | hc
    · exact .inr (by decide)
    · exact .inr (by decide)
    · exact isGlyph_of_magnitude? hmagnitude c hc
  · exact absurd hword (word?_ne_finite _ _ _)

theorem isNumeral_of_ofText? {t : Text} {x : Double} (h : Double.ofText? t = some x) :
    ∀ c ∈ t, IsNumeral c :=
  fun c hc => (isGlyph_of_ofText? h c hc).isNumeral

/-- There is no white space around a number that is read. -/
theorem Double.trim_of_ofText? {t : Text} {x : Double} (h : Double.ofText? t = some x) :
    Text.trim t = t := by
  refine Text.trim_of_forall fun c hc => ?_
  rw [(isGlyph_of_ofText? h c hc).isWhiteSpace_eq]
  exact Bool.false_ne_true

theorem isWhiteSpace_of_isAlpha {c : Char} (h : c.isAlpha = true) : isWhiteSpace c = false := by
  rw [isAlpha_iff] at h
  exact Bool.eq_false_iff.2 (not_hasCode_whiteSpaceRanges (by omega) (by omega))

theorem isWhiteSpace_lowerAscii (c : Char) : isWhiteSpace (lowerAscii c) = isWhiteSpace c := by
  rcases lowerAscii_cases c with h | ⟨hc, hlower⟩
  · rw [h]
  · rw [isWhiteSpace_of_isAlpha hc, isWhiteSpace_of_isAlpha hlower]

theorem trim_map_lowerAscii (t : Text) :
    Text.trim (t.map lowerAscii) = (Text.trim t).map lowerAscii := by
  have hwhite : isWhiteSpace ∘ lowerAscii = isWhiteSpace := funext isWhiteSpace_lowerAscii
  unfold Text.trim Text.trimEnd Text.trimStart
  simp only [List.dropWhile_map, ← List.map_reverse, hwhite]

theorem mem_trim {t : Text} {c : Char} (h : c ∈ t) :
    isWhiteSpace c = true ∨ c ∈ Text.trim t := by
  obtain ⟨after, heq, hafter⟩ := Text.exists_eq_trimEnd_append (Text.trimStart t)
  rw [← List.takeWhile_append_dropWhile (p := isWhiteSpace) (l := t), List.mem_append] at h
  rcases h with hbefore | hrest
  · exact .inl (List.mem_takeWhile_imp hbefore)
  · change c ∈ Text.trimStart t at hrest
    rw [heq, List.mem_append] at hrest
    exact hrest.symm.imp_left (hafter c)

/-- A text writes a number, white space around it aside, when its lower case does, and then the
same. -/
theorem Double.ofText?_trim_lowerCase (t : Text) :
    Double.ofText? (Text.trim (Text.lowerCase t)) = Double.ofText? (Text.trim t) := by
  have hnumerals : ∀ {u : Text} {x : Double}, Double.ofText? (Text.trim u) = some x →
      ∀ c ∈ u, IsNumeral c := fun hx c hc =>
    (mem_trim hc).elim isNumeral_of_isWhiteSpace (isNumeral_of_ofText? hx c)
  by_cases h : ∀ c ∈ t, IsNumeral c
  · rw [lowerCase_of_isNumeral h, trim_map_lowerAscii, Double.ofText?, ofText?_map_lowerAscii]
    rfl
  · have hwhole : Double.ofText? (Text.trim t) = none :=
      Option.eq_none_iff_forall_ne_some.2 fun x hx => h (hnumerals hx)
    have hlower : Double.ofText? (Text.trim (Text.lowerCase t)) = none :=
      Option.eq_none_iff_forall_ne_some.2 fun x hx => h (isNumeral_of_lowerCase (hnumerals hx))
    rw [hwhole, hlower]

/-! ### Numbers as they are written -/

/-- A text in the characters of numbers in lower case. -/
def Written (t : Text) : Prop :=
  ∀ c ∈ t, numerals.has c = true

theorem written_ofNat (n : Nat) : Written (Text.ofNat n) := by
  intro c hc
  have hdigit := Nat.isDigit_of_mem_toDigits (by decide) (by decide) hc
  refine (hasCode_numerals_iff _).2 (.inr (.inr (.inr (.inl ?_))))
  simpa [Char.isDigit, UInt32.le_iff_toNat_le] using hdigit

theorem Written.append {t u : Text} (ht : Written t) (hu : Written u) : Written (t ++ u) :=
  List.forall_mem_append.2 ⟨ht, hu⟩

theorem Written.cons {c : Char} {t : Text} (hc : numerals.has c = true) (ht : Written t) :
    Written (c :: t) :=
  List.forall_mem_cons.2 ⟨hc, ht⟩

theorem written_zeros (n : Nat) : Written (List.replicate n '0') := by
  intro c hc
  rw [List.eq_of_mem_replicate hc]
  rfl

theorem written_ofInt (i : Int) : Written (Text.ofInt i) := by
  unfold Text.ofInt
  split
  · exact .cons rfl (written_ofNat _)
  · exact written_ofNat _

theorem written_parts (d : Decimal) : Written d.parts.1 ∧ Written d.parts.2 := by
  have hdigits : Written d.text := written_ofNat d.digits
  unfold Decimal.parts
  dsimp only
  split
  · exact ⟨written_zeros 1, (written_zeros _).append hdigits⟩
  split
  · exact ⟨hdigits.append (written_zeros _), by simp [Written]⟩
  · exact ⟨fun c hc => hdigits c (List.mem_of_mem_take hc),
      fun c hc => hdigits c (List.mem_of_mem_drop hc)⟩

theorem written_withPoint (d : Decimal) : Written d.withPoint := by
  obtain ⟨hwhole, hrest⟩ := written_parts d
  show Written (d.parts.1 ++ '.' :: if d.parts.2.isEmpty then ['0'] else d.parts.2)
  refine hwhole.append (.cons rfl ?_)
  split
  · exact written_zeros 1
  · exact hrest

theorem written_withExponent (d : Decimal) : Written d.withExponent := by
  have hdigits : Written d.text := written_ofNat d.digits
  unfold Decimal.withExponent
  refine Written.append ?_ (.cons rfl (.cons ?_ (written_ofNat _)))
  · split
    · next heq =>
      rw [heq] at hdigits
      obtain ⟨hfirst, hrest⟩ := List.forall_mem_cons.1 hdigits
      exact .cons hfirst (.cons rfl hrest)
    · exact hdigits
  · split <;> rfl

theorem written_text (n : Number) : Written n.text := by
  cases n with
  | integer i => exact written_ofInt i.val
  | float x =>
    have hsigned : ∀ t : Text, Written t → Written (x.signed t) := by
      intro t ht
      unfold Double.signed
      split
      · exact .cons rfl ht
      · exact ht
    refine hsigned _ ?_
    split
    · exact .cons rfl (.cons rfl (written_zeros 1))
    split
    · exact written_withPoint _
    · exact written_withExponent _

theorem isLower_of_mem_text {n : Number} {c : Char} (h : c ∈ n.text) : IsLower c :=
  isLower_of_has_numerals (written_text n c h)

end RecordFilter
