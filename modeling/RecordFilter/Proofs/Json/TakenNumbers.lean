import RecordFilter.Proofs.Json.Scalars
import RecordFilter.Proofs.Json.Shape
import RecordFilter.Proofs.Number.Numerals

/-!
# What is taken for a number

A reader of numbers goes over digits, points and exponents and stops behind them.  What it took it
takes again, for the same number, in front of anything that does not go on with a number
(`takes_of_readNumber`).  The guarantee is one for each function of the reader; digits are looked at
as the block that they make before whatever is no digit.
-/

namespace RecordFilter.Json

/-! ### Blocks of digits -/

/-- A text is a block of digits before a text that does not begin with one. -/
theorem exists_digits (t : Text) : ∃ digits rest, t = digits ++ rest ∧
    (∀ c ∈ digits, isDigit c = true) ∧ startsWithDigit rest = false := by
  refine ⟨t.takeWhile isDigit, t.dropWhile isDigit, List.takeWhile_append_dropWhile.symm,
    List.all_eq_true.1 List.all_takeWhile, ?_⟩
  have hhead := List.head?_dropWhile_not isDigit t
  cases hrest : t.dropWhile isDigit with
  | nil => rfl
  | cons c rest =>
    rw [hrest] at hhead
    exact hhead

theorem startsWithDigit_of_forall {digits : Text} (h : ∀ c ∈ digits, isDigit c = true)
    (hne : digits ≠ []) (rest : Text) : startsWithDigit (digits ++ rest) = true := by
  obtain ⟨c, digits, rfl⟩ := List.exists_cons_of_ne_nil hne
  exact h c List.mem_cons_self

theorem dropWhile_digits {digits rest : Text} (h : ∀ c ∈ digits, isDigit c = true)
    (hrest : startsWithDigit rest = false) : (digits ++ rest).dropWhile isDigit = rest := by
  rw [List.dropWhile_append_of_pos h]
  cases rest with
  | nil => rfl
  | cons c rest => exact List.dropWhile_cons_of_neg (by simpa [startsWithDigit] using hrest)

theorem takeWhile_digits {digits rest : Text} (h : ∀ c ∈ digits, isDigit c = true)
    (hrest : startsWithDigit rest = false) : (digits ++ rest).takeWhile isDigit = digits := by
  rw [List.takeWhile_append_of_pos h]
  cases rest with
  | nil => rw [List.takeWhile_nil, List.append_nil]
  | cons c rest =>
    rw [List.takeWhile_cons_of_neg (by simpa [startsWithDigit] using hrest), List.append_nil]

theorem exists_digit? {c : Char} (h : isDigit c = true) : ∃ d, digit? c = some d :=
  Option.isSome_iff_exists.1 h

theorem digit?_eq_none {c : Char} {rest : Text} (h : startsWithDigit (c :: rest) = false) :
    digit? c = none := by
  simpa [startsWithDigit, isDigit] using h

/-- What is taken of a block of digits, and what is left of it, does not depend on what follows. -/
theorem exists_takeSignificand {digits : Text} (h : ∀ c ∈ digits, isDigit c = true) (m k : Nat) :
    ∃ m' k' left, (∀ c ∈ left, isDigit c = true) ∧ ∀ rest, startsWithDigit rest = false →
      takeSignificand m k (digits ++ rest) = (m', k', left ++ rest) := by
  induction digits generalizing m k with
  | nil =>
    refine ⟨m, k, [], List.forall_mem_nil _, ?_⟩
    intro rest hrest
    cases rest with
    | nil => rfl
    | cons c rest => rw [List.nil_append, takeSignificand, digit?_eq_none hrest]
  | cons c digits ih =>
    obtain ⟨hc, hdigits⟩ := List.forall_mem_cons.1 h
    obtain ⟨d, hd⟩ := exists_digit? hc
    by_cases hfits : 10 * m + d < 0x10000000000000000
    · obtain ⟨m', k', left, hleft, htake⟩ := ih hdigits (10 * m + d) (k + 1)
      refine ⟨m', k', left, hleft, ?_⟩
      intro rest hrest
      rw [List.cons_append, takeSignificand, hd]
      dsimp only
      rw [if_pos hfits, htake rest hrest]
    · refine ⟨m, k, c :: digits, h, ?_⟩
      intro rest _
      rw [List.cons_append, takeSignificand, hd]
      dsimp only
      rw [if_neg hfits]

/-- Of an exponent all digits are taken, unless it is too great. -/
theorem exists_takeExponent {digits : Text} (h : ∀ c ∈ digits, isDigit c = true) (e : Nat) :
    ∃ e? left, (∀ c ∈ left, isDigit c = true) ∧ (e? ≠ none → left = []) ∧
      ∀ rest, startsWithDigit rest = false →
        takeExponent e (digits ++ rest) = (e?, left ++ rest) := by
  induction digits generalizing e with
  | nil =>
    refine ⟨some e, [], List.forall_mem_nil _, fun _ => rfl, ?_⟩
    intro rest hrest
    cases rest with
    | nil => rfl
    | cons c rest => rw [List.nil_append, takeExponent, digit?_eq_none hrest]
  | cons c digits ih =>
    obtain ⟨hc, hdigits⟩ := List.forall_mem_cons.1 h
    obtain ⟨d, hd⟩ := exists_digit? hc
    by_cases hfits : 10 * e + d < 0x80000000
    · obtain ⟨e?, left, hleft, hall, htake⟩ := ih hdigits (10 * e + d)
      refine ⟨e?, left, hleft, hall, ?_⟩
      intro rest hrest
      rw [List.cons_append, takeExponent, hd]
      dsimp only
      rw [if_pos hfits, htake rest hrest]
    · refine ⟨none, digits, hdigits, fun hsome => absurd rfl hsome, ?_⟩
      intro rest _
      rw [List.cons_append, takeExponent, hd]
      dsimp only
      rw [if_neg hfits]

/-! ### Numbers -/

/-- A reader takes a text for a number, in front of anything that does not go on with it. -/
structure Takes (read : Text → Except JsonStop (Number × Text)) (t : Text) (n : Number) : Prop where
  glyphs : ∀ c ∈ t, IsGlyph c
  again : ∀ {rest}, EndsNumber rest → read (t ++ rest) = .ok (n, rest)

/-- A reader that passes over characters of numbers and goes on as another one takes what that one
takes, and what it passed over. -/
theorem Takes.append {read read' : Text → Except JsonStop (Number × Text)} {t u : Text}
    {n : Number} (h : Takes read u n) (ht : ∀ c ∈ t, IsGlyph c)
    (hread : ∀ {rest}, EndsNumber rest → read' (t ++ (u ++ rest)) = read (u ++ rest)) :
    Takes read' (t ++ u) n where
  glyphs := List.forall_mem_append.2 ⟨ht, h.glyphs⟩
  again hrest := by rw [List.append_assoc, hread hrest, h.again hrest]

theorem isGlyph_of_isDigit {c : Char} (h : isDigit c = true) : IsGlyph c := .inl h

/-- Whether a text begins with a digit is seen from its first character. -/
theorem startsWithDigit_append {t rest rest' : Text} (h : startsWithDigit (t ++ rest) = false)
    (hrest' : EndsNumber rest') : startsWithDigit (t ++ rest') = false := by
  cases t with
  | nil => exact hrest'.startsWithDigit
  | cons c t => exact h

theorem head?_append_ne_point {t rest rest' : Text} (h : (t ++ rest).head? ≠ some '.')
    (hrest' : EndsNumber rest') : (t ++ rest').head? ≠ some '.' := by
  cases t with
  | nil =>
    intro hhead
    obtain ⟨-, hpoint, -⟩ := hrest' _ hhead
    exact hpoint rfl
  | cons c t => exact h

section Readers

variable {negative : Bool} {significand : Nat} {start : Int} {n : Number} {t rest : Text}

theorem eq_of_finish (h : finish negative significand start t = .ok (n, rest)) :
    rest = t ∧ ∀ t', finish negative significand start t' = .ok (n, t') := by
  unfold finish at h ⊢
  cases hscale : scaleNumber? significand start with
  | none => rw [hscale] at h; cases h
  | some x =>
    rw [hscale] at h
    obtain ⟨rfl, rfl⟩ := Prod.mk.inj (Except.ok.inj h)
    exact ⟨rfl, fun _ => rfl⟩

/-- Reads an exponent behind its sign. -/
def readExponentDigits (negative : Bool) (significand : Nat) (start : Int) (down : Bool)
    (digits : Text) : Except JsonStop (Number × Text) :=
  if digits.isEmpty then stopHere .endInValue []
  else if !startsWithDigit digits then stopNext .badNumber digits
  else
    match takeExponent 0 digits with
    | (some e, rest) => finish negative significand (if down then start - e else start + e) rest
    | (none, rest) =>
      if significand ≠ 0 ∧ down = false then stopHere .numberTooLarge rest
      else .ok (.float (.signedZero negative), rest.dropWhile isDigit)

theorem takes_of_readExponentDigits {down : Bool}
    (h : readExponentDigits negative significand start down t = .ok (n, rest)) :
    ∃ u, t = u ++ rest ∧ startsWithDigit u = true ∧
      Takes (readExponentDigits negative significand start down) u n := by
  obtain ⟨digits, after, rfl, hdigits, hafter⟩ := exists_digits t
  have hne : digits ≠ [] := by
    rintro rfl
    rw [List.nil_append, readExponentDigits] at h
    split at h
    · cases h
    · rw [hafter] at h
      cases h
  obtain ⟨e?, left, hleft, hall, htake⟩ := exists_takeExponent hdigits 0
  -- What is done depends on the block of digits, and not on what follows it.
  have hread : ∀ after', startsWithDigit after' = false →
      readExponentDigits negative significand start down (digits ++ after') =
        (e?.map fun e : Nat =>
            finish negative significand (if down then start - e else start + e) after').getD
          (if significand ≠ 0 ∧ down = false then stopHere .numberTooLarge (left ++ after')
            else .ok (.float (.signedZero negative), after')) := by
    intro after' hafter'
    have hnonempty : (digits ++ after').isEmpty = false := by simp [hne]
    rw [readExponentDigits, hnonempty, startsWithDigit_of_forall hdigits hne, htake after' hafter']
    cases e? with
    | none =>
      dsimp only
      rw [dropWhile_digits hleft hafter']
      rfl
    | some e =>
      rw [hall (Option.some_ne_none e)]
      rfl
  have hstart : startsWithDigit digits = true := by
    have hstart := startsWithDigit_of_forall hdigits hne []
    rwa [List.append_nil] at hstart
  have hglyphs : ∀ c ∈ digits, IsGlyph c := fun c hc => isGlyph_of_isDigit (hdigits c hc)
  have hrest : after = rest ∧ ∀ after', startsWithDigit after' = false →
      readExponentDigits negative significand start down (digits ++ after') = .ok (n, after') := by
    rw [hread after hafter] at h
    cases e? with
    | none =>
      rw [Option.map_none, Option.getD_none] at h
      split at h
      · cases h
      · next hsmall =>
        obtain ⟨rfl, rfl⟩ := Prod.mk.inj (Except.ok.inj h)
        refine ⟨rfl, fun after' hafter' => ?_⟩
        rw [hread after' hafter', Option.map_none, Option.getD_none, if_neg hsmall]
    | some e =>
      obtain ⟨rfl, hfinish⟩ := eq_of_finish h
      refine ⟨rfl, fun after' hafter' => ?_⟩
      rw [hread after' hafter']
      exact hfinish after'
  obtain ⟨rfl, hagain⟩ := hrest
  exact ⟨digits, rfl, hstart, hglyphs, fun hends => hagain _ hends.startsWithDigit⟩

theorem readExponent_sign (down : Bool) (t : Text) :
    readExponent negative significand start ((if down then '-' else '+') :: t) =
      readExponentDigits negative significand start down t := by
  cases down <;> rfl

/-- Without a sign an exponent goes up. -/
theorem readExponent_of_head? (hplus : t.head? ≠ some '+') (hminus : t.head? ≠ some '-') :
    readExponent negative significand start t =
      readExponentDigits negative significand start false t := by
  unfold readExponent readExponentDigits
  split
  next heq =>
    split at heq
    · exact absurd rfl hplus
    · exact absurd rfl hminus
    · obtain ⟨rfl, rfl⟩ := Prod.mk.inj heq
      rfl

theorem readExponent_of_startsWithDigit (h : startsWithDigit t = true) :
    readExponent negative significand start t =
      readExponentDigits negative significand start false t := by
  cases t with
  | nil => cases h
  | cons c t =>
    refine readExponent_of_head? ?_ ?_
    · rintro ⟨⟩
      cases h
    · rintro ⟨⟩
      cases h

theorem takes_of_readExponent (h : readExponent negative significand start t = .ok (n, rest)) :
    ∃ u, t = u ++ rest ∧ Takes (readExponent negative significand start) u n := by
  have hsigned : ∀ (down : Bool) (t : Text),
      readExponentDigits negative significand start down t = .ok (n, rest) →
      ∃ u, (if down then '-' else '+') :: t = u ++ rest ∧
        Takes (readExponent negative significand start) u n := by
    intro down t h
    obtain ⟨u, rfl, -, hu⟩ := takes_of_readExponentDigits h
    have hsign : IsGlyph (if down then '-' else '+') := by
      cases down <;> exact .inr (by decide)
    exact ⟨_, rfl, hu.append (List.forall_mem_singleton.2 hsign) fun _ => readExponent_sign down _⟩
  by_cases hplus : t.head? = some '+'
  · obtain ⟨t, rfl⟩ := List.head?_eq_some_iff.1 hplus
    exact hsigned false t h
  by_cases hminus : t.head? = some '-'
  · obtain ⟨t, rfl⟩ := List.head?_eq_some_iff.1 hminus
    exact hsigned true t h
  rw [readExponent_of_head? hplus hminus] at h
  obtain ⟨u, rfl, hstart, hu⟩ := takes_of_readExponentDigits h
  refine ⟨u, rfl, hu.append (List.forall_mem_nil _) fun _ => ?_⟩
  apply readExponent_of_startsWithDigit
  cases u with
  | nil => cases hstart
  | cons c u => exact hstart

theorem isGlyph_point : IsGlyph '.' := .inr (by decide)

/-- The letter of an exponent goes on with a number. -/
theorem isGlyph_of_eq_letter {c : Char} (h : c = 'e' ∨ c = 'E') : IsGlyph c := by
  rcases h with rfl | rfl
  · exact .inr (by decide)
  · exact .inr (by decide)

theorem readEnd_of_endsNumber (h : EndsNumber t) :
    readEnd negative significand start t = finish negative significand start t := by
  cases t with
  | nil => rfl
  | cons c t =>
    obtain ⟨-, -, hsmall, hcapital⟩ := h c rfl
    exact if_neg (not_or.2 ⟨hsmall, hcapital⟩)

/-- Where nothing more is taken, a number ends in front of whatever does not go on with it. -/
theorem takes_nil_of_finish (h : finish negative significand start t = .ok (n, rest)) :
    t = rest ∧ Takes (readEnd negative significand start) [] n := by
  obtain ⟨rfl, hagain⟩ := eq_of_finish h
  refine ⟨rfl, List.forall_mem_nil _, ?_⟩
  intro rest' hrest'
  rw [List.nil_append, readEnd_of_endsNumber hrest', hagain]

theorem takes_of_readEnd (h : readEnd negative significand start t = .ok (n, rest)) :
    ∃ u, t = u ++ rest ∧ Takes (readEnd negative significand start) u n := by
  unfold readEnd at h
  split at h
  · next c t =>
    split at h
    · next hletter =>
      obtain ⟨u, rfl, hu⟩ := takes_of_readExponent h
      have hc := isGlyph_of_eq_letter hletter
      exact ⟨_, rfl, hu.append (List.forall_mem_singleton.2 hc) fun _ => if_pos hletter⟩
    · exact ⟨[], takes_nil_of_finish h⟩
  · exact ⟨[], takes_nil_of_finish h⟩

theorem takes_of_readFraction (h : readFraction negative significand start t = .ok (n, rest)) :
    ∃ u, t = u ++ rest ∧ Takes (readFraction negative significand start) u n := by
  obtain ⟨digits, after, rfl, hdigits, hafter⟩ := exists_digits t
  obtain ⟨m, count, left, hleft, htake⟩ := exists_takeSignificand hdigits significand 0
  have hread : ∀ after', startsWithDigit after' = false →
      readFraction negative significand start (digits ++ after') =
        if left = [] ∧ count = 0 then
          stopNext (if after'.isEmpty then .endInValue else .badNumber) after'
        else readEnd negative m (start - count) after' := by
    intro after' hafter'
    rw [readFraction, htake after' hafter']
    dsimp only
    by_cases hnil : left = []
    · rw [hnil, List.nil_append, hafter']
      by_cases hcount : count = 0
      · simp [hcount]
      · simp [hcount]
    · rw [startsWithDigit_of_forall hleft hnil, dropWhile_digits hleft hafter', if_pos rfl,
        if_neg fun hboth => hnil hboth.1]
  rw [hread after hafter] at h
  split at h
  · cases h
  next hsome =>
  obtain ⟨u, rfl, hu⟩ := takes_of_readEnd h
  refine ⟨digits ++ u, (List.append_assoc ..).symm,
    hu.append (fun c hc => isGlyph_of_isDigit (hdigits c hc)) fun hrest' => ?_⟩
  rw [hread _ (startsWithDigit_append hafter hrest'), if_neg hsome]

theorem takes_of_readAfterWhole (h : readAfterWhole negative significand t = .ok (n, rest)) :
    ∃ u, t = u ++ rest ∧ Takes (readAfterWhole negative significand) u n := by
  have hends : ∀ t, .ok (wholeNumber negative significand, t) =
      (.ok (n, rest) : Except JsonStop (Number × Text)) →
      t = [] ++ rest ∧ Takes (readAfterWhole negative significand) [] n := by
    intro t h
    obtain ⟨rfl, rfl⟩ := Prod.mk.inj (Except.ok.inj h)
    exact ⟨rfl, List.forall_mem_nil _, fun hrest' => readAfterWhole_of_endsNumber hrest' _ _⟩
  unfold readAfterWhole at h
  split at h
  · next t =>
    obtain ⟨u, rfl, hu⟩ := takes_of_readFraction h
    exact ⟨_, rfl, hu.append (List.forall_mem_singleton.2 isGlyph_point) fun _ => rfl⟩
  · next c t hpoint =>
    split at h
    · next hletter =>
      obtain ⟨u, rfl, hu⟩ := takes_of_readExponent h
      have hc := isGlyph_of_eq_letter hletter
      refine ⟨_, rfl, hu.append (List.forall_mem_singleton.2 hc) fun _ => ?_⟩
      rcases hletter with rfl | rfl <;> rfl
    · exact ⟨[], hends _ h⟩
  · exact ⟨[], hends _ h⟩

/-- Digits that the significand does not hold are taken with what follows them. -/
theorem takes_of_readLong {left : Text} (hleft : ∀ c ∈ left, isDigit c = true)
    (ht : startsWithDigit t = false)
    (h : readLong negative significand (left ++ t) = .ok (n, rest)) :
    ∃ u, t = u ++ rest ∧ Takes (fun t => readLong negative significand (left ++ t)) u n := by
  have hpoint : ∀ t, readLong negative significand (left ++ '.' :: t) =
      readFraction negative significand left.length t := by
    intro t
    have hstart : startsWithDigit ('.' :: t) = false := rfl
    rw [readLong, takeWhile_digits hleft hstart, dropWhile_digits hleft hstart]
    rfl
  have hother : ∀ t, startsWithDigit t = false → t.head? ≠ some '.' →
      readLong negative significand (left ++ t) = readEnd negative significand left.length t := by
    intro t hstart hhead
    rw [readLong, takeWhile_digits hleft hstart, dropWhile_digits hleft hstart]
    split
    · exact absurd rfl hhead
    · rfl
  by_cases hhead : t.head? = some '.'
  · obtain ⟨t, rfl⟩ := List.head?_eq_some_iff.1 hhead
    rw [hpoint] at h
    obtain ⟨u, rfl, hu⟩ := takes_of_readFraction h
    exact ⟨_, rfl, hu.append (List.forall_mem_singleton.2 isGlyph_point) fun _ => hpoint _⟩
  · rw [hother t ht hhead] at h
    obtain ⟨u, rfl, hu⟩ := takes_of_readEnd h
    refine ⟨u, rfl, hu.append (List.forall_mem_nil _) fun hrest' => ?_⟩
    exact hother (u ++ _) (startsWithDigit_append ht hrest') (head?_append_ne_point hhead hrest')

/-- A block of digits that does not begin with a zero is taken for a significand. -/
theorem exists_readNumber_digits (negative : Bool) {c : Char} {digits : Text} (hzero : c ≠ '0')
    (hdigits : ∀ d ∈ c :: digits, isDigit d = true) :
    ∃ m left, (∀ d ∈ left, isDigit d = true) ∧ ∀ t, startsWithDigit t = false →
      readNumber negative (c :: digits ++ t) =
        if left = [] then readAfterWhole negative m t else readLong negative m (left ++ t) := by
  obtain ⟨m, count, left, hleft, htake⟩ := exists_takeSignificand hdigits 0 0
  refine ⟨m, left, hleft, ?_⟩
  intro t ht
  have htake := htake t ht
  rw [List.cons_append] at htake ⊢
  unfold readNumber
  split
  · next heq => cases heq
  · next heq => exact absurd (List.cons.inj heq).1 hzero
  · next heq =>
    obtain ⟨rfl, -⟩ := List.cons.inj heq
    rw [if_pos (hdigits c List.mem_cons_self), htake]
    dsimp only
    by_cases hnil : left = []
    · rw [hnil, List.nil_append, ht, if_pos rfl]
      rfl
    · rw [startsWithDigit_of_forall hleft hnil, if_pos rfl, if_neg hnil]

theorem readNumber_of_not_isDigit {c : Char} (h : isDigit c = false) (t : Text) :
    readNumber negative (c :: t) = stopNext .badNumber (c :: t) := by
  unfold readNumber
  split
  · next heq => cases heq
  · next heq =>
    obtain ⟨rfl, -⟩ := List.cons.inj heq
    cases h
  · next heq =>
    obtain ⟨rfl, -⟩ := List.cons.inj heq
    rw [h]
    rfl

/-- What is taken for a number is taken for it again. -/
theorem takes_of_readNumber (h : readNumber negative t = .ok (n, rest)) :
    ∃ u, t = u ++ rest ∧ Takes (readNumber negative) u n := by
  cases t with
  | nil => cases h
  | cons c t =>
  by_cases hdigit : isDigit c = true
  · by_cases hzero : c = '0'
    · subst hzero
      rw [readNumber] at h
      split at h
      · cases h
      next hstart =>
      rw [Bool.not_eq_true] at hstart
      obtain ⟨u, rfl, hu⟩ := takes_of_readAfterWhole h
      have hzero := isGlyph_of_isDigit hdigit
      refine ⟨_, rfl, hu.append (List.forall_mem_singleton.2 hzero) fun hrest' => ?_⟩
      rw [List.singleton_append, readNumber, startsWithDigit_append hstart hrest']
      rfl
    · obtain ⟨digits, after, rfl, hdigits, hafter⟩ := exists_digits t
      have hblock : ∀ d ∈ c :: digits, isDigit d = true :=
        List.forall_mem_cons.2 ⟨hdigit, hdigits⟩
      obtain ⟨m, left, hleft, hread⟩ := exists_readNumber_digits negative hzero hblock
      have hglyphs : ∀ d ∈ c :: digits, IsGlyph d := fun d hd =>
        isGlyph_of_isDigit (hblock d hd)
      rw [← List.cons_append, hread after hafter] at h
      split at h
      · next hnil =>
        obtain ⟨u, rfl, hu⟩ := takes_of_readAfterWhole h
        refine ⟨c :: digits ++ u, by simp, hu.append hglyphs fun hrest' => ?_⟩
        rw [hread _ (startsWithDigit_append hafter hrest'), if_pos hnil]
      · next hne =>
        obtain ⟨u, rfl, hu⟩ := takes_of_readLong hleft hafter h
        refine ⟨c :: digits ++ u, by simp, hu.append hglyphs fun hrest' => ?_⟩
        rw [hread _ (startsWithDigit_append hafter hrest'), if_neg hne]
  · rw [readNumber_of_not_isDigit (Bool.eq_false_iff.2 hdigit)] at h
    cases h

end Readers

end RecordFilter.Json
