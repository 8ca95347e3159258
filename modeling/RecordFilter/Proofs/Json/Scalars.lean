import RecordFilter.Json.Reader
import RecordFilter.Json.Writer
import RecordFilter.Proofs.Text.Digits

/-!
# Integers and strings read back

An integer is read from its digits where no digit, point or exponent goes on after them
(`readValue_integer`).  A string is read from its characters as they are written, escapes included,
up to the quotation mark that ends it (`readString_written`).
-/

namespace RecordFilter

theorem length_le_length_flatMap {α β : Type} {f : α → List β} (h : ∀ a, f a ≠ [])
    (xs : List α) : xs.length ≤ (xs.flatMap f).length := by
  induction xs with
  | nil => exact Nat.zero_le _
  | cons x xs ih =>
    have := List.length_pos_iff.2 (h x)
    rw [List.flatMap_cons, List.length_append, List.length_cons]
    omega

theorem Integer.ofInt?_val (i : Integer) : ofInt? i.val = some i :=
  dif_pos i.bounds

namespace Json

theorem skipBlanks_cons {c : Char} (h : isBlank c = false) (t : Text) :
    skipBlanks (c :: t) = c :: t :=
  List.dropWhile_cons_of_neg (by simp [h])

/-! ### Numbers -/

/-- A text that does not go on with a number. -/
def EndsNumber (t : Text) : Prop :=
  ∀ c ∈ t.head?, isDigit c = false ∧ c ≠ '.' ∧ c ≠ 'e' ∧ c ≠ 'E'

theorem endsNumber_cons {c : Char} (h : isDigit c = false ∧ c ≠ '.' ∧ c ≠ 'e' ∧ c ≠ 'E')
    (t : Text) : EndsNumber (c :: t) := by
  intro d hd
  rwa [← Option.some.inj hd]

theorem EndsNumber.startsWithDigit {t : Text} (h : EndsNumber t) : startsWithDigit t = false := by
  cases t with
  | nil => rfl
  | cons c t => exact (h c rfl).1

theorem takeSignificand_append {m n count : Nat} {digits rest : Text}
    (h : Text.readDigits? m digits = some n) (hn : n < 0x10000000000000000)
    (hrest : startsWithDigit rest = false) :
    takeSignificand m count (digits ++ rest) = (n, count + digits.length, rest) := by
  induction digits generalizing m count with
  | nil =>
    obtain rfl := Option.some.inj h
    cases rest with
    | nil => rfl
    | cons c rest =>
      have hdigit : digit? c = none := by simpa [startsWithDigit, isDigit] using hrest
      rw [List.nil_append, takeSignificand, hdigit]
      rfl
  | cons c digits ih =>
    obtain ⟨d, hd, hread⟩ := Option.bind_eq_some_iff.1 h
    have hle := Text.le_of_readDigits? hread
    rw [List.cons_append, takeSignificand, hd]
    dsimp only
    rw [if_pos (by omega), ih hread, List.length_cons]
    congr 2
    omega

theorem readAfterWhole_of_endsNumber {rest : Text} (h : EndsNumber rest) (negative : Bool)
    (n : Nat) : readAfterWhole negative n rest = .ok (wholeNumber negative n, rest) := by
  cases rest with
  | nil => rfl
  | cons c rest =>
    obtain ⟨-, hpoint, hsmall, hcapital⟩ := h c rfl
    unfold readAfterWhole
    split
    · next heq => exact absurd (List.cons.inj heq).1 hpoint
    · next heq =>
      obtain ⟨rfl, rfl⟩ := List.cons.inj heq
      rw [if_neg (not_or.2 ⟨hsmall, hcapital⟩)]
    · next heq => cases heq

section Number

variable {negative : Bool} {n : Nat} {i : Integer} (hi : i.val = if negative then -(n : Int) else n)
  (hzero : n = 0 → negative = false)

include hi hzero

theorem wholeNumber_eq : wholeNumber negative n = .integer i := by
  unfold wholeNumber
  dsimp only
  rw [← hi, Integer.ofInt?_val]
  dsimp only
  rw [if_neg]
  rintro ⟨hnegative, hn⟩
  simp [hzero hn] at hnegative

/-- An integer is read from its digits, after its sign. -/
theorem readNumber_ofNat {rest : Text} (hrest : EndsNumber rest) :
    readNumber negative (Text.ofNat n ++ rest) = .ok (.integer i, rest) := by
  have hwhole : readAfterWhole negative n rest = .ok (.integer i, rest) := by
    rw [readAfterWhole_of_endsNumber hrest, wholeNumber_eq hi hzero]
  have hbound : n < 0x10000000000000000 := by
    have := i.bounds
    cases negative <;> simp at hi <;> omega
  have htake : takeSignificand 0 0 (Text.ofNat n ++ rest) =
      (n, 0 + (Text.ofNat n).length, rest) :=
    takeSignificand_append (Text.readDigits?_ofNat n) hbound hrest.startsWithDigit
  cases htext : Text.ofNat n with
  | nil => exact absurd htext (Text.ofNat_ne_nil n)
  | cons c digits =>
    have hdigit : c.isDigit = true :=
      Text.isDigit_of_mem_ofNat (n := n) (htext ▸ List.mem_cons_self)
    rw [htext] at htake
    rw [List.cons_append] at htake ⊢
    unfold readNumber
    split
    · next heq => cases heq
    · next heq =>
      -- A zero stands alone, since no number but zero begins with one.
      obtain ⟨rfl, hrest'⟩ := List.cons.inj heq
      obtain ⟨rfl, rfl⟩ := Text.eq_zero_of_ofNat_eq htext
      rw [← hrest', List.nil_append, hrest.startsWithDigit]
      exact hwhole
    · next heq =>
      obtain ⟨rfl, -⟩ := List.cons.inj heq
      rw [if_pos (by rw [isDigit, digit?_of_isDigit hdigit]; rfl), htake]
      dsimp only
      rw [hrest.startsWithDigit]
      exact hwhole

end Number

/-- A digit begins no other value than a number. -/
theorem ne_of_isDigit {c : Char} (h : c.isDigit = true) :
    isBlank c = false ∧ c ≠ 'n' ∧ c ≠ 't' ∧ c ≠ 'f' ∧ c ≠ '-' ∧ c ≠ ']' := by
  refine ⟨?_, ?_, ?_, ?_, ?_, ?_⟩
  · rw [Bool.eq_false_iff]
    intro hblank
    simp only [isBlank, Bool.or_eq_true, decide_eq_true_eq] at hblank
    rcases hblank with ((rfl | rfl) | rfl) | rfl <;> exact absurd h (by decide)
  all_goals
    rintro rfl
    exact absurd h (by decide)

theorem readValue_integer (depth : Nat) (i : Integer) {rest : Text} (hrest : EndsNumber rest) :
    readValue (depth + 1) ((Number.integer i).text ++ rest) =
      .ok (.number (.integer i), rest) := by
  show readValue (depth + 1) (Text.ofInt i.val ++ rest) = _
  by_cases hnegative : i.val < 0
  · have hnumber : readNumber true (Text.ofNat i.val.natAbs ++ rest) = .ok (.integer i, rest) :=
      readNumber_ofNat (by simp only [if_true]; omega) (by omega) hrest
    rw [Text.ofInt, if_pos hnegative, List.cons_append, readValue, skipBlanks_cons rfl]
    simp [hnumber, Except.map]
  · have hnumber : readNumber false (Text.ofNat i.val.natAbs ++ rest) = .ok (.integer i, rest) :=
      readNumber_ofNat (by simp only [Bool.false_eq_true, if_false]; omega) (by simp) hrest
    rw [Text.ofInt, if_neg hnegative, readValue]
    cases htext : Text.ofNat i.val.natAbs with
    | nil => exact absurd htext (Text.ofNat_ne_nil _)
    | cons c digits =>
      have hdigit : c.isDigit = true :=
        Text.isDigit_of_mem_ofNat (n := i.val.natAbs) (htext ▸ List.mem_cons_self)
      obtain ⟨hblank, hn, ht, hf, hminus, -⟩ := ne_of_isDigit hdigit
      have hread : isDigit c = true := by rw [isDigit, digit?_of_isDigit hdigit]; rfl
      rw [htext, List.cons_append] at hnumber
      rw [List.cons_append, skipBlanks_cons hblank]
      simp [hn, ht, hf, hminus, hread, hnumber, Except.map]

/-! ### Strings -/

/-- A character is read from the way it is written. -/
theorem readChars_writtenChar (fuel : Nat) (seen : Text) (c : Char) (rest : Text) :
    readChars (fuel + 1) seen (writtenChar c ++ rest) = readChars fuel (c :: seen) rest := by
  have hescape : ∀ u v : Text, readEscape u = .ok (c, v) →
      readChars (fuel + 1) seen ('\\' :: u) = readChars fuel (c :: seen) v := by
    intro u v hread
    simp [readChars, hread, bind, Except.bind]
  have hcode : ∀ n, c.toNat = n → Char.ofNat n = c := fun n hn => hn ▸ Char.ofNat_toNat c
  unfold writtenChar
  split
  · next heq => exact hescape _ _ (by simp [heq, readEscape])
  split
  · next heq => exact hescape _ _ (by simp [heq, readEscape])
  split
  · next heq => exact hescape _ _ (by simp [heq, readEscape])
  split
  · next heq => exact hescape _ _ (by simp [heq, readEscape])
  split
  · next heq => exact hescape _ _ (by simp [heq, readEscape])
  split
  · next heq => exact hescape _ _ (by simp [readEscape, ← hcode 8 heq])
  split
  · next heq => exact hescape _ _ (by simp [readEscape, ← hcode 12 heq])
  split
  · next hcontrol =>
    have hquad : ∀ n < 32, hexQuad? '0' '0' (hexChar (n / 16)) (hexChar (n % 16)) = some n := by
      decide
    refine hescape _ _ ?_
    have hhex : readHex ('0' :: '0' :: hexChar (c.toNat / 16) :: hexChar (c.toNat % 16) :: rest) =
        .ok (c.toNat, rest) := by
      simp [readHex, hquad c.toNat hcontrol]
    simp [readEscape, readCode, hhex, bind, Except.bind, show ¬ 0xDC00 ≤ c.toNat by omega,
      show c.toNat < 0xD800 by omega]
  · next hquote hbackslash _ _ _ _ _ hcontrol =>
    simp [readChars, hquote, hbackslash, hcontrol]

theorem readChars_written {fuel : Nat} {t : Text} (h : t.length < fuel) (seen rest : Text) :
    readChars fuel seen (t.flatMap writtenChar ++ '\x22' :: rest) =
      .ok (seen.reverse ++ t, rest) := by
  induction t generalizing fuel seen with
  | nil =>
    obtain ⟨d, rfl⟩ := Nat.exists_eq_add_of_lt h
    simp [readChars]
  | cons c t ih =>
    cases fuel with
    | zero => simp at h
    | succ fuel =>
      rw [List.flatMap_cons, List.append_assoc, readChars_writtenChar, ih (by simpa using h)]
      simp

theorem readString_written (t rest : Text) :
    readString (t.flatMap writtenChar ++ '\x22' :: rest) = .ok (t, rest) := by
  have hlength := length_le_length_flatMap (f := writtenChar) (fun c => by
    unfold writtenChar
    repeat' split
    all_goals exact List.cons_ne_nil _ _) t
  unfold readString
  rw [readChars_written (by rw [List.length_append]; omega)]
  rfl

end Json

end RecordFilter
