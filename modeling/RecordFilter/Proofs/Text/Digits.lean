import RecordFilter.Text.Digits

/-!
# Numbers read back from their digits

A natural number is written in digits without a zero before them, and reading the digits yields the
number.
-/

namespace RecordFilter

theorem digit?_of_isDigit {c : Char} (h : c.isDigit = true) : digit? c = some (c.toNat - 48) := by
  obtain ⟨hfirst, hlast⟩ := Bool.and_eq_true_iff.1 h
  exact if_pos ⟨of_decide_eq_true hfirst, of_decide_eq_true hlast⟩

namespace Text

theorem isDigit_of_mem_ofNat {n : Nat} {c : Char} (h : c ∈ ofNat n) : c.isDigit = true :=
  Nat.isDigit_of_mem_toDigits (by decide) (by decide) h

theorem ofNat_ne_nil (n : Nat) : ofNat n ≠ [] :=
  Nat.toDigits_ne_nil

theorem mem_ofInt {i : Int} {c : Char} (h : c ∈ ofInt i) : c = '-' ∨ c.isDigit = true := by
  unfold ofInt at h
  split at h
  · rcases List.mem_cons.1 h with rfl | hc
    · exact .inl rfl
    · exact .inr (isDigit_of_mem_ofNat hc)
  · exact .inr (isDigit_of_mem_ofNat h)

theorem ofInt_ne_nil (i : Int) : ofInt i ≠ [] := by
  unfold ofInt
  split
  · exact List.cons_ne_nil _ _
  · exact ofNat_ne_nil _

theorem readDigits?_eq {t : Text} (h : ∀ c ∈ t, c.isDigit = true) (n : Nat) :
    readDigits? n t = some (Nat.ofDigitChars 10 t n) := by
  induction t generalizing n with
  | nil => rfl
  | cons c rest ih =>
    obtain ⟨hc, hrest⟩ := List.forall_mem_cons.1 h
    rw [readDigits?, digit?_of_isDigit hc, Nat.ofDigitChars_cons]
    exact ih hrest _

/-- The digits of a number are read as the number. -/
theorem readDigits?_ofNat (n : Nat) : readDigits? 0 (ofNat n) = some n := by
  rw [readDigits?_eq fun c hc => isDigit_of_mem_ofNat hc]
  exact congrArg some (Nat.ofDigitChars_toDigits (by decide) (by decide))

/-- The digits of a number of 64 bits are read as a position. -/
theorem natural?_ofNat {n : Nat} (h : n < UInt64.size) : natural? (ofNat n) = some n := by
  have hdigits : digits? (ofNat n) = some n := by
    rw [digits?, List.isEmpty_eq_false_iff.2 (ofNat_ne_nil n), if_neg Bool.false_ne_true,
      readDigits?_ofNat]
  have hbound : decide (n < 0x10000000000000000) = true := decide_eq_true h
  unfold natural?
  split
  · next rest hplus =>
    have hmem : '+' ∈ ofNat n := hplus ▸ List.mem_cons_self
    exact absurd (isDigit_of_mem_ofNat hmem) (by decide)
  · rw [hdigits, Option.filter_some, hbound]
    rfl

/-- More digits make no smaller number. -/
theorem le_of_readDigits? {m n : Nat} {t : Text} (h : readDigits? m t = some n) : m ≤ n := by
  induction t generalizing m with
  | nil => exact Nat.le_of_eq (Option.some.inj h)
  | cons c rest ih =>
    obtain ⟨d, -, hrest⟩ := Option.bind_eq_some_iff.1 h
    have := ih hrest
    omega

/-- Only the digits of zero begin with a zero. -/
theorem eq_zero_of_ofNat_eq {n : Nat} {t : Text} (h : ofNat n = '0' :: t) : n = 0 ∧ t = [] := by
  induction n using Nat.strongRecOn generalizing t with
  | _ n ih =>
    unfold ofNat at h ih
    by_cases hn : n < 10
    · rw [Nat.toDigits_of_lt_base hn] at h
      obtain ⟨hdigit, rfl⟩ := List.cons.inj h
      refine ⟨?_, rfl⟩
      have hzero : ∀ m < 10, Nat.digitChar m = '0' → m = 0 := by decide
      exact hzero n hn hdigit
    · rw [Nat.toDigits_of_base_le (by decide) (by omega)] at h
      cases hfront : Nat.toDigits 10 (n / 10) with
      | nil => exact absurd hfront Nat.toDigits_ne_nil
      | cons c front =>
        rw [hfront, List.cons_append] at h
        obtain ⟨rfl, -⟩ := List.cons.inj h
        have := (ih (n / 10) (by omega) hfront).1
        omega

end Text

end RecordFilter
