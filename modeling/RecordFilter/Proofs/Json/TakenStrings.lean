import RecordFilter.Proofs.Json.Nesting

/-!
# What is taken for a string

A reader of strings stops behind the quotation mark that ends one.  What it took it takes again,
whatever follows (`exists_of_readString`), and a look at brackets alone sees the string end at the
same place: an escape hides neither more nor less than one quotation mark.
-/

namespace RecordFilter.Json

/-! ### Characters given by their codes -/

theorem ne_of_hexDigit? {c : Char} {d : Nat} (h : CharSet.hexDigit? c = some d) :
    c ≠ '\x22' ∧ c ≠ '\\' := by
  constructor
  · rintro rfl
    cases h
  · rintro rfl
    cases h

theorem staysInString_of_hexQuad? {a b c d : Char} {n : Nat} (h : hexQuad? a b c d = some n) :
    StaysInString [a, b, c, d] := by
  obtain ⟨_, ha, h⟩ := Option.bind_eq_some_iff.1 h
  obtain ⟨_, hb, h⟩ := Option.bind_eq_some_iff.1 h
  obtain ⟨_, hc, h⟩ := Option.bind_eq_some_iff.1 h
  obtain ⟨_, hd, -⟩ := Option.bind_eq_some_iff.1 h
  obtain ⟨ha, ha'⟩ := ne_of_hexDigit? ha
  obtain ⟨hb, hb'⟩ := ne_of_hexDigit? hb
  obtain ⟨hc, hc'⟩ := ne_of_hexDigit? hc
  obtain ⟨hd, hd'⟩ := ne_of_hexDigit? hd
  exact (((staysInString_nil.cons hd hd').cons hc hc').cons hb hb').cons ha ha'

/-- A text that a reader takes for something whatever follows it, in a string that goes on. -/
structure TakesInString {α : Type} (read : Text → Except JsonStop (α × Text)) (t : Text) (a : α) :
    Prop where
  stays : StaysInString t
  again : ∀ rest, read (t ++ rest) = .ok (a, rest)

theorem takes_of_readHex {t rest : Text} {n : Nat} (h : readHex t = .ok (n, rest)) :
    ∃ u, t = u ++ rest ∧ TakesInString readHex u n := by
  unfold readHex at h
  dsimp only at h
  split at h
  · split at h
    · next hquad =>
      obtain ⟨rfl, rfl⟩ := Prod.mk.inj (Except.ok.inj h)
      refine ⟨_, rfl, staysInString_of_hexQuad? hquad, ?_⟩
      intro rest'
      simp [readHex, hquad]
    · split at h <;> cases h
  · split at h <;> cases h

theorem takes_of_readCode {t rest : Text} {c : Char} (h : readCode t = .ok (c, rest)) :
    ∃ u, t = u ++ rest ∧ TakesInString readCode u c := by
  obtain ⟨⟨n, rest'⟩, hhex, hcode⟩ := exists_of_bind_eq_ok h
  obtain ⟨u, rfl, hu⟩ := takes_of_readHex hhex
  dsimp only at hcode
  split at hcode
  · cases hcode
  next hlone =>
  split at hcode
  · next hplain =>
    obtain ⟨rfl, rfl⟩ := Prod.mk.inj (Except.ok.inj hcode)
    refine ⟨u, rfl, hu.stays, ?_⟩
    intro rest'
    simp [readCode, hu.again, bind, Except.bind, hlone, hplain]
  next hpair =>
  split at hcode
  · cases hcode
  · split at hcode
    · cases hcode
    · obtain ⟨⟨m, rest''⟩, hlast, hpaired⟩ := exists_of_bind_eq_ok hcode
      obtain ⟨w, rfl, hw⟩ := takes_of_readHex hlast
      dsimp only at hpaired
      split at hpaired
      · cases hpaired
      next hlow =>
      obtain ⟨rfl, rfl⟩ := Prod.mk.inj (Except.ok.inj hpaired)
      refine ⟨u ++ '\\' :: 'u' :: w, by simp, hu.stays.append (hw.stays.escape 'u'), ?_⟩
      intro rest'
      simp [readCode, hu.again, hw.again, bind, Except.bind, hlone, hpair, hlow]
    · cases hcode
  · cases hcode

/-- An escape is taken behind its backslash. -/
theorem exists_of_readEscape {t rest : Text} {c : Char} (h : readEscape t = .ok (c, rest)) :
    ∃ u, t = u ++ rest ∧ StaysInString ('\\' :: u) ∧
      ∀ rest', readEscape (u ++ rest') = .ok (c, rest') := by
  cases t with
  | nil => cases h
  | cons e t =>
  -- All escapes but that of a code are one character.
  have hone : ∀ d, .ok (d, t) = (.ok (c, rest) : Except JsonStop (Char × Text)) →
      (∀ t, readEscape (e :: t) = .ok (d, t)) →
      ∃ u, e :: t = u ++ rest ∧ StaysInString ('\\' :: u) ∧
        ∀ rest', readEscape (u ++ rest') = .ok (c, rest') := by
    intro d hd hagain
    obtain ⟨rfl, rfl⟩ := Prod.mk.inj (Except.ok.inj hd)
    exact ⟨[e], rfl, staysInString_nil.escape e, hagain⟩
  rw [readEscape] at h
  split at h
  · next hsame => exact hone e h fun t => by simp [readEscape, hsame]
  split at h
  · next heq => exact hone _ h fun t => by simp [readEscape, heq]
  split at h
  · next heq => exact hone _ h fun t => by simp [readEscape, heq]
  split at h
  · next heq => exact hone _ h fun t => by simp [readEscape, heq]
  split at h
  · next heq => exact hone _ h fun t => by simp [readEscape, heq]
  split at h
  · next heq => exact hone _ h fun t => by simp [readEscape, heq]
  split at h
  · next heq =>
    subst heq
    obtain ⟨u, rfl, hu⟩ := takes_of_readCode h
    refine ⟨'u' :: u, rfl, hu.stays.escape 'u', ?_⟩
    intro rest'
    rw [← hu.again rest']
    rfl
  · cases h

/-! ### Strings -/

/-- The characters of a string are taken up to the quotation mark that ends it. -/
theorem exists_of_readChars {fuel : Nat} {seen t chars rest : Text}
    (h : readChars fuel seen t = .ok (chars, rest)) :
    ∃ u, t = u ++ rest ∧ EndsString u ∧ ∀ {fuel' : Nat} (rest' : Text), u.length ≤ fuel' →
      readChars fuel' seen (u ++ rest') = .ok (chars, rest') := by
  induction fuel generalizing seen t with
  | zero => cases h
  | succ fuel ih =>
    cases t with
    | nil => cases h
    | cons c t =>
    rw [readChars] at h
    split at h
    · next hquote =>
      subst hquote
      obtain ⟨rfl, rfl⟩ := Prod.mk.inj (Except.ok.inj h)
      refine ⟨['\x22'], rfl, fun _ _ => rfl, ?_⟩
      intro fuel' rest' hfuel
      obtain ⟨d, rfl⟩ := Nat.exists_eq_add_of_le' hfuel
      rfl
    next hquote =>
    split at h
    · next hbackslash =>
      subst hbackslash
      obtain ⟨⟨d, t'⟩, hescape, hchars⟩ := exists_of_bind_eq_ok h
      obtain ⟨e, rfl, he, hread⟩ := exists_of_readEscape hescape
      obtain ⟨u, rfl, hu, hagain⟩ := ih hchars
      refine ⟨'\\' :: (e ++ u), by simp, he.endsString hu, ?_⟩
      intro fuel' rest' hfuel
      rw [List.length_cons, List.length_append] at hfuel
      obtain ⟨k, rfl⟩ := Nat.exists_eq_add_of_le' (Nat.one_le_of_lt hfuel)
      have hmore := hagain rest' (show u.length ≤ k by omega)
      simp [readChars, hread, bind, Except.bind, hmore]
    next hbackslash =>
    split at h
    · cases h
    · next hcontrol =>
      obtain ⟨u, rfl, hu, hagain⟩ := ih h
      refine ⟨c :: u, rfl, (staysInString_nil.cons hquote hbackslash).endsString hu, ?_⟩
      intro fuel' rest' hfuel
      obtain ⟨k, rfl⟩ := Nat.exists_eq_add_of_le' (Nat.one_le_of_lt hfuel)
      rw [List.cons_append, readChars, if_neg hquote, if_neg hbackslash, if_neg hcontrol]
      exact hagain rest' (Nat.le_of_succ_le_succ hfuel)

/-- What is taken for a string is taken for it again, whatever follows. -/
theorem exists_of_readString {t chars rest : Text} (h : readString t = .ok (chars, rest)) :
    ∃ u, t = u ++ rest ∧ EndsString u ∧
      ∀ rest', readString (u ++ rest') = .ok (chars, rest') := by
  obtain ⟨u, rfl, hu, hagain⟩ := exists_of_readChars h
  refine ⟨u, rfl, hu, ?_⟩
  intro rest'
  exact hagain rest' (by rw [List.length_append]; omega)

end RecordFilter.Json
