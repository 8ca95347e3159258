import RecordFilter.Proofs.Json.TakenNumbers
import RecordFilter.Proofs.Json.TakenStrings

/-!
# What is taken for a value

A reader of values takes a text that closes what it opens, and takes it again for the same value in
front of anything that does not go on with a number, wherever the text may nest as deep as it does
(`takesValues`).  Arrays and objects are read part by part: what a reader of parts does in
one step (`PartTaken`) gives what it does in all (`exists_body`).
-/

namespace RecordFilter.Json

/-! ### Blanks -/

theorem exists_blanks (t : Text) : ∃ b, t = b ++ skipBlanks t ∧ b.all isBlank :=
  ⟨t.takeWhile isBlank, List.takeWhile_append_dropWhile.symm, List.all_takeWhile⟩

theorem skipBlanks_append {b : Text} (hb : b.all isBlank) (t : Text) :
    skipBlanks (b ++ t) = skipBlanks t :=
  List.dropWhile_append_of_pos (List.all_eq_true.1 hb)

theorem skipBlanks_eq_nil {b : Text} (hb : b.all isBlank) : skipBlanks b = [] := by
  have hskip := skipBlanks_append hb []
  rwa [List.append_nil] at hskip

theorem skipBlanks_skipBlanks (t : Text) : skipBlanks (skipBlanks t) = skipBlanks t := by
  obtain ⟨b, ht, hb⟩ := exists_blanks t
  have hskip := skipBlanks_append hb (skipBlanks t)
  rw [← ht] at hskip
  exact hskip.symm

theorem isBlank_of_skipBlanks {t r : Text} {c : Char} (h : skipBlanks t = c :: r) :
    isBlank c = false := by
  have hhead := List.head?_dropWhile_not isBlank t
  rw [show t.dropWhile isBlank = c :: r from h] at hhead
  exact hhead

theorem isBlank_cases {c : Char} (h : isBlank c = true) :
    c = ' ' ∨ c = '\n' ∨ c = '\t' ∨ c = '\r' := by
  simpa [isBlank, or_assoc] using h

theorem isInert_of_isBlank {c : Char} (h : isBlank c = true) : isInert c = true := by
  rcases isBlank_cases h with rfl | rfl | rfl | rfl <;> rfl

theorem balanced_of_blanks {b : Text} (hb : b.all isBlank) : Balanced 0 b :=
  balanced_of_all (List.all_eq_true.2 fun c hc => isInert_of_isBlank (List.all_eq_true.1 hb c hc))

theorem endsNumber_nil : EndsNumber [] := by
  intro c hc
  cases hc

/-- Blanks do not go on with a number, where what follows them does not. -/
theorem EndsNumber.blanks_append {b t : Text} (hb : b.all isBlank) (ht : EndsNumber t) :
    EndsNumber (b ++ t) := by
  cases b with
  | nil => exact ht
  | cons c b =>
    rw [List.all_cons, Bool.and_eq_true] at hb
    refine endsNumber_cons ?_ (b ++ t)
    rcases isBlank_cases hb.1 with rfl | rfl | rfl | rfl <;> exact ⟨rfl, by decide⟩

/-! ### Values -/

/-- A text that is read as a value in front of anything that does not go on with a number, where it
may nest `k` levels. -/
structure HoldsValue (t : Text) (v : Json) (k : Nat) : Prop where
  balanced : Balanced k t
  again : ∀ {depth : Nat} {rest : Text}, k < depth → EndsNumber rest →
    readValue depth (t ++ rest) = .ok (v, rest)

theorem readValue_skipBlanks (depth : Nat) (t : Text) :
    readValue (depth + 1) (skipBlanks t) = readValue (depth + 1) t := by
  rw [readValue, readValue, skipBlanks_skipBlanks]

theorem readValue_blanks_append {b : Text} (hb : b.all isBlank) (depth : Nat) (t : Text) :
    readValue (depth + 1) (b ++ t) = readValue (depth + 1) t := by
  rw [← readValue_skipBlanks, skipBlanks_append hb, readValue_skipBlanks]

theorem HoldsValue.blanks_append {b t : Text} {v : Json} {k : Nat} (hb : b.all isBlank)
    (h : HoldsValue t v k) : HoldsValue (b ++ t) v k := by
  constructor
  · have hboth := (balanced_of_blanks hb).append h.balanced
    rwa [Nat.zero_max] at hboth
  · intro depth rest hdepth hrest
    obtain ⟨d, rfl⟩ := Nat.exists_eq_add_of_lt hdepth
    rw [List.append_assoc, readValue_blanks_append hb, h.again hdepth hrest]

theorem HoldsValue.ne_nil {t : Text} {v : Json} {k : Nat} (h : HoldsValue t v k) : t ≠ [] := by
  rintro rfl
  have hread : readValue (k + 1) [] = .ok (v, []) := h.again (Nat.lt_succ_self k) endsNumber_nil
  cases hread

/-- Whether a value may begin with a character. -/
def startsValue (c : Char) : Bool :=
  ['n', 't', 'f', '-', '\x22', '[', '\x7b'].contains c || isDigit c

/-- A value that is read begins with a character of its own. -/
theorem startsValue_of_readValue {depth : Nat} {t rest : Text} {v : Json}
    (h : readValue depth t = .ok (v, rest)) :
    ∃ c r, skipBlanks t = c :: r ∧ startsValue c = true ∧
      readValue depth (c :: r) = .ok (v, rest) := by
  cases depth with
  | zero => cases h
  | succ depth =>
  rw [← readValue_skipBlanks] at h
  cases hskip : skipBlanks t with
  | nil =>
    rw [hskip] at h
    cases h
  | cons c r =>
    rw [hskip] at h
    refine ⟨c, r, rfl, ?_, h⟩
    rw [readValue, skipBlanks_cons (isBlank_of_skipBlanks hskip)] at h
    by_contra hstart
    simp only [startsValue, List.contains_cons, List.contains_nil, Bool.or_false, Bool.or_eq_true,
      beq_iff_eq, not_or] at hstart
    simp [hstart, stopNext] at h

/-! ### Parts of arrays and objects -/

section Parts

variable {σ : Type} (read : Nat → Nat → Bool → σ → Text → Except JsonStop (σ × Text))

/-- A text that is taken for one more part, the levels below it, the fuel and what follows aside. -/
structure PartTaken (k : Nat) (first : Bool) (seen : σ) (t : Text) (seen' : σ) : Prop where
  balanced : Balanced k t
  length_pos : 0 < t.length
  endsNumber : first = false → ∀ rest, EndsNumber (t ++ rest)
  again : ∀ {depth : Nat} (fuel : Nat) {rest : Text}, k < depth → EndsNumber rest →
    read depth (fuel + 1) first seen (t ++ rest) = read depth fuel false seen' rest

/-- What a reader of parts does in one step: it closes, or it takes a part and goes on. -/
def StepsOver (close : Char) (depth : Nat) : Prop :=
  ∀ {fuel : Nat} {first : Bool} {seen all : σ} {t rest : Text},
    read depth fuel first seen t = .ok (all, rest) →
    ∃ fuel', fuel = fuel' + 1 ∧
      ((∃ b, t = b ++ close :: rest ∧ b.all isBlank ∧ ∀ depth' fuel rest',
          read depth' (fuel + 1) first seen (b ++ close :: rest') = .ok (all, rest')) ∨
        ∃ u k seen' t', t = u ++ t' ∧ k < depth ∧ PartTaken read k first seen u seen' ∧
          read depth fuel' false seen' t' = .ok (all, rest))

/-- What is taken of an array or an object after its first bracket is taken again. -/
theorem exists_body {close : Char} {depth : Nat} (hdepth : 0 < depth)
    (hclose : close = ']' ∨ close = '\x7d') (hstep : StepsOver read close depth)
    {fuel : Nat} {first : Bool} {seen all : σ} {t rest : Text}
    (h : read depth fuel first seen t = .ok (all, rest)) :
    ∃ u k, t = u ++ close :: rest ∧ k < depth ∧ Balanced k u ∧
      (first = false → ∀ rest', EndsNumber (u ++ close :: rest')) ∧
      ∀ {depth' fuel' : Nat} (rest' : Text), k < depth' → u.length < fuel' →
        read depth' fuel' first seen (u ++ close :: rest') = .ok (all, rest') := by
  have hends : ∀ rest', EndsNumber (close :: rest') := by
    intro rest'
    rcases hclose with rfl | rfl
    · exact endsNumber_cons (by decide) rest'
    · exact endsNumber_cons (by decide) rest'
  induction fuel generalizing first seen t with
  | zero =>
    obtain ⟨fuel', hfuel, -⟩ := hstep h
    cases hfuel
  | succ fuel ih =>
    obtain ⟨fuel', hfuel, ⟨b, rfl, hb, hagain⟩ | ⟨u, j, seen', t', rfl, hj, hu, hmore⟩⟩ := hstep h
    · refine ⟨b, 0, rfl, hdepth, balanced_of_blanks hb, fun _ _ => (hends _).blanks_append hb, ?_⟩
      intro depth' fuel' rest' _ hfuel'
      obtain ⟨d, rfl⟩ := Nat.exists_eq_add_of_lt hfuel'
      exact hagain depth' _ rest'
    · obtain rfl := Nat.succ.inj hfuel
      obtain ⟨w, k, rfl, hk, hw, hendsw, hagain⟩ := ih hmore
      refine ⟨u ++ w, max j k, (List.append_assoc ..).symm, max_lt hj hk,
        hu.balanced.append hw, ?_, ?_⟩
      · intro hfirst rest'
        rw [List.append_assoc]
        exact hu.endsNumber hfirst _
      · intro depth' fuel' rest' hdepth' hfuel'
        rw [List.length_append] at hfuel'
        obtain ⟨d, rfl⟩ := Nat.exists_eq_add_of_lt hfuel'
        have hpos := hu.length_pos
        rw [List.append_assoc, hu.again _ (by omega) (hendsw rfl rest')]
        exact hagain rest' (by omega) (by omega)

end Parts

/-! ### Arrays -/

theorem readItems_end (item : Text → Except JsonStop (Json × Text)) (fuel : Nat) (first : Bool)
    (seen : List Json) {b : Text} (hb : b.all isBlank) (rest : Text) :
    readItems item (fuel + 1) first seen (b ++ ']' :: rest) = .ok (seen.reverse, rest) := by
  rw [readItems, skipBlanks_append hb, skipBlanks_cons rfl]
  rfl

/-- The first item is read after the bracket that opens an array. -/
theorem readItems_first {depth : Nat} {t rest : Text} {v : Json}
    (h : readValue depth t = .ok (v, rest)) (fuel : Nat) (seen : List Json) :
    readItems (readValue depth) (fuel + 1) true seen t =
      readItems (readValue depth) fuel false (v :: seen) rest := by
  obtain ⟨c, r, hskip, hstart, hvalue⟩ := startsValue_of_readValue h
  rw [readItems, hskip]
  split
  · next heq => cases heq
  · next heq =>
    obtain ⟨rfl, -⟩ := List.cons.inj heq
    cases hstart
  · next heq =>
    obtain ⟨rfl, rfl⟩ := List.cons.inj heq
    rw [if_pos rfl, hvalue]
    rfl

/-- Every other item is read after a comma. -/
theorem readItems_next {depth : Nat} {t rest : Text} {v : Json}
    (h : readValue depth t = .ok (v, rest)) (fuel : Nat) (seen : List Json) {b : Text}
    (hb : b.all isBlank) :
    readItems (readValue depth) (fuel + 1) false seen (b ++ ',' :: t) =
      readItems (readValue depth) fuel false (v :: seen) rest := by
  obtain ⟨c, r, hskip, hstart, hvalue⟩ := startsValue_of_readValue h
  rw [readItems, skipBlanks_append hb, skipBlanks_cons rfl]
  split
  · next heq => cases heq
  · next heq => cases heq
  next heq =>
  obtain ⟨rfl, rfl⟩ := List.cons.inj heq
  rw [if_neg Bool.false_ne_true, if_pos rfl, hskip]
  split
  · next heq => cases heq
  · next heq =>
    obtain ⟨rfl, -⟩ := List.cons.inj heq
    cases hstart
  · rw [hvalue]
    rfl

/-- What a reader takes is a text that holds a value and nests less than the reader may. -/
def TakesValues (depth : Nat) : Prop :=
  ∀ {t rest : Text} {v : Json}, readValue depth t = .ok (v, rest) →
    ∃ u k, t = u ++ rest ∧ k < depth ∧ HoldsValue u v k

theorem HoldsValue.length_pos {t : Text} {v : Json} {k : Nat} (h : HoldsValue t v k) :
    0 < t.length :=
  List.length_pos_iff.2 h.ne_nil

theorem partTaken_first_item {t : Text} {v : Json} {k : Nat} (h : HoldsValue t v k)
    (seen : List Json) :
    PartTaken (fun depth => readItems (readValue depth)) k true seen t (v :: seen) where
  balanced := h.balanced
  length_pos := h.length_pos
  endsNumber hfirst := by cases hfirst
  again fuel _ hdepth hrest := readItems_first (h.again hdepth hrest) fuel seen

theorem partTaken_next_item {b t : Text} {v : Json} {k : Nat} (hb : b.all isBlank)
    (h : HoldsValue t v k) (seen : List Json) :
    PartTaken (fun depth => readItems (readValue depth)) k false seen (b ++ ',' :: t)
      (v :: seen) where
  balanced := by
    have hboth := (balanced_of_blanks hb).append (balanced_cons h.balanced (c := ',') rfl)
    rwa [Nat.zero_max] at hboth
  length_pos := by
    rw [List.length_append, List.length_cons]
    omega
  endsNumber _ rest := by
    rw [List.append_assoc]
    exact (endsNumber_cons (by decide) (t ++ rest)).blanks_append hb
  again fuel _ hdepth hrest := by
    rw [List.append_assoc]
    exact readItems_next (h.again hdepth hrest) fuel seen hb

theorem stepsOver_readItems {depth : Nat} (hvalues : TakesValues depth) :
    StepsOver (fun depth => readItems (readValue depth)) ']' depth := by
  intro fuel first seen all t rest h
  cases fuel with
  | zero => cases h
  | succ fuel =>
  refine ⟨fuel, rfl, ?_⟩
  obtain ⟨b, ht, hb⟩ := exists_blanks t
  dsimp only at h
  rw [readItems] at h
  split at h
  · cases h
  · next heq =>
    obtain ⟨rfl, rfl⟩ := Prod.mk.inj (Except.ok.inj h)
    rw [heq] at ht
    exact .inl ⟨b, ht, hb, fun depth' fuel rest' =>
      readItems_end (readValue depth') fuel first seen hb rest'⟩
  next c r _ heq =>
  rw [heq] at ht
  cases first with
  | true =>
    obtain ⟨⟨v, t'⟩, hv, hmore⟩ := exists_of_bind_eq_ok h
    obtain ⟨u, k, hu, hk, hholds⟩ := hvalues hv
    rw [hu, ← List.append_assoc] at ht
    exact .inr ⟨b ++ u, k, v :: seen, t', ht, hk,
      partTaken_first_item (hholds.blanks_append hb) seen, hmore⟩
  | false =>
    rw [if_neg Bool.false_ne_true] at h
    split at h
    · next hcomma =>
      subst hcomma
      split at h
      · cases h
      · cases h
      · obtain ⟨⟨v, t'⟩, hv, hmore⟩ := exists_of_bind_eq_ok h
        obtain ⟨u, k, hu, hk, hholds⟩ := hvalues hv
        obtain ⟨b', hr, hb'⟩ := exists_blanks r
        rw [hr, hu] at ht
        refine .inr ⟨b ++ ',' :: (b' ++ u), k, v :: seen, t', by simp [ht], hk, ?_, hmore⟩
        exact partTaken_next_item hb (hholds.blanks_append hb') seen
    · cases h

/-! ### Objects -/

/-- A field is a string, a colon and a value, with blanks around the colon. -/
theorem exists_of_readField {depth : Nat} (hvalues : TakesValues depth) {f : Text × Json}
    {t rest : Text} (h : readField (readValue depth) t = .ok (f, rest)) :
    ∃ u k, t = u ++ rest ∧ k < depth ∧ Balanced k ('\x22' :: u) ∧
      ∀ {depth' : Nat} {rest' : Text}, k < depth' → EndsNumber rest' →
        readField (readValue depth') (u ++ rest') = .ok (f, rest') := by
  obtain ⟨⟨name, t'⟩, hname, hfield⟩ := exists_of_bind_eq_ok h
  obtain ⟨u, rfl, hu, hagain⟩ := exists_of_readString hname
  obtain ⟨b, ht', hb⟩ := exists_blanks t'
  dsimp only at hfield
  split at hfield
  · next heq =>
    obtain ⟨⟨v, t''⟩, hv, hpure⟩ := exists_of_bind_eq_ok hfield
    obtain ⟨rfl, rfl⟩ := Prod.mk.inj (Except.ok.inj hpure)
    obtain ⟨w, k, rfl, hk, hholds⟩ := hvalues hv
    refine ⟨u ++ (b ++ ':' :: w), k, ?_, hk, ?_, ?_⟩
    · rw [ht', heq]
      simp
    · have hvalue := (balanced_of_blanks hb).append (balanced_cons hholds.balanced (c := ':') rfl)
      have hboth := hu.balanced.append hvalue
      rwa [Nat.zero_max, Nat.zero_max] at hboth
    · intro depth' rest' hdepth' hrest'
      have hread : readString (u ++ (b ++ ':' :: w) ++ rest') =
          .ok (name, b ++ ':' :: (w ++ rest')) := by
        rw [List.append_assoc, hagain, List.append_assoc]
        rfl
      rw [readField, hread]
      simp [bind, Except.bind, skipBlanks_append hb, skipBlanks_cons, isBlank,
        hholds.again hdepth' hrest', pure, Except.pure]
  · cases hfield
  · cases hfield

theorem readFields_end (item : Text → Except JsonStop (Json × Text)) (fuel : Nat) (first : Bool)
    (seen : List (Text × Json)) {b : Text} (hb : b.all isBlank) (rest : Text) :
    readFields item (fuel + 1) first seen (b ++ '\x7d' :: rest) = .ok (seen, rest) := by
  rw [readFields, skipBlanks_append hb, skipBlanks_cons rfl]
  rfl

/-- The first field is read after the brace that opens an object. -/
theorem readFields_first {item : Text → Except JsonStop (Json × Text)} {f : Text × Json}
    {t rest : Text} (h : readField item t = .ok (f, rest)) (fuel : Nat)
    (seen : List (Text × Json)) {b : Text} (hb : b.all isBlank) :
    readFields item (fuel + 1) true seen (b ++ '\x22' :: t) =
      readFields item fuel false (insertField f.1 f.2 seen) rest := by
  rw [readFields, skipBlanks_append hb, skipBlanks_cons rfl]
  simp [h, bind, Except.bind]

/-- Every other field is read after a comma. -/
theorem readFields_next {item : Text → Except JsonStop (Json × Text)} {f : Text × Json}
    {t rest : Text} (h : readField item t = .ok (f, rest)) (fuel : Nat)
    (seen : List (Text × Json)) {b b' : Text} (hb : b.all isBlank) (hb' : b'.all isBlank) :
    readFields item (fuel + 1) false seen (b ++ ',' :: (b' ++ '\x22' :: t)) =
      readFields item fuel false (insertField f.1 f.2 seen) rest := by
  rw [readFields, skipBlanks_append hb, skipBlanks_cons rfl]
  simp [skipBlanks_append hb', skipBlanks_cons, isBlank, h, bind, Except.bind]

section Fields

variable {u : Text} {k : Nat} {f : Text × Json} (hu : Balanced k ('\x22' :: u))
  (hagain : ∀ {depth : Nat} {rest : Text}, k < depth → EndsNumber rest →
    readField (readValue depth) (u ++ rest) = .ok (f, rest))

include hu hagain

theorem partTaken_first_field {b : Text} (hb : b.all isBlank) (seen : List (Text × Json)) :
    PartTaken (fun depth => readFields (readValue depth)) k true seen (b ++ '\x22' :: u)
      (insertField f.1 f.2 seen) where
  balanced := by
    have hboth := (balanced_of_blanks hb).append hu
    rwa [Nat.zero_max] at hboth
  length_pos := by
    rw [List.length_append, List.length_cons]
    omega
  endsNumber hfirst := by cases hfirst
  again fuel _ hdepth hrest := by
    rw [List.append_assoc]
    exact readFields_first (hagain hdepth hrest) fuel seen hb

theorem partTaken_next_field {b b' : Text} (hb : b.all isBlank) (hb' : b'.all isBlank)
    (seen : List (Text × Json)) :
    PartTaken (fun depth => readFields (readValue depth)) k false seen
      (b ++ ',' :: (b' ++ '\x22' :: u)) (insertField f.1 f.2 seen) where
  balanced := by
    have hlast := (balanced_of_blanks hb').append hu
    have hboth := (balanced_of_blanks hb).append (balanced_cons hlast (c := ',') rfl)
    rwa [Nat.zero_max, Nat.zero_max] at hboth
  length_pos := by
    rw [List.length_append, List.length_cons]
    omega
  endsNumber _ rest := by
    rw [List.append_assoc]
    exact (endsNumber_cons (by decide) _).blanks_append hb
  again fuel rest hdepth hrest := by
    have hread := readFields_next (hagain hdepth hrest) fuel seen hb hb'
    rwa [show b ++ ',' :: (b' ++ '\x22' :: (u ++ rest)) =
      b ++ ',' :: (b' ++ '\x22' :: u) ++ rest by simp] at hread

end Fields

theorem stepsOver_readFields {depth : Nat} (hvalues : TakesValues depth) :
    StepsOver (fun depth => readFields (readValue depth)) '\x7d' depth := by
  intro fuel first seen all t rest h
  cases fuel with
  | zero => cases h
  | succ fuel =>
  refine ⟨fuel, rfl, ?_⟩
  obtain ⟨b, ht, hb⟩ := exists_blanks t
  dsimp only at h
  rw [readFields] at h
  split at h
  · cases h
  next c r heq =>
  rw [heq] at ht
  split at h
  · next hclose =>
    subst hclose
    obtain ⟨rfl, rfl⟩ := Prod.mk.inj (Except.ok.inj h)
    exact .inl ⟨b, ht, hb, fun depth' fuel rest' =>
      readFields_end (readValue depth') fuel first seen hb rest'⟩
  split at h
  · next hfirst =>
    subst hfirst
    split at h
    · next hquote =>
      subst hquote
      obtain ⟨⟨f, t'⟩, hf, hmore⟩ := exists_of_bind_eq_ok h
      obtain ⟨u, k, rfl, hk, hu, hagain⟩ := exists_of_readField hvalues hf
      exact .inr ⟨b ++ '\x22' :: u, k, _, t', by simp [ht], hk,
        partTaken_first_field hu hagain hb seen, hmore⟩
    · cases h
  next hfirst =>
  rw [Bool.not_eq_true] at hfirst
  subst hfirst
  split at h
  · next hcomma =>
    subst hcomma
    split at h
    · cases h
    next d r' heq' =>
    split at h
    · next hquote =>
      subst hquote
      obtain ⟨⟨f, t'⟩, hf, hmore⟩ := exists_of_bind_eq_ok h
      obtain ⟨u, k, rfl, hk, hu, hagain⟩ := exists_of_readField hvalues hf
      obtain ⟨b', hr, hb'⟩ := exists_blanks r
      rw [hr, heq'] at ht
      exact .inr ⟨b ++ ',' :: (b' ++ '\x22' :: u), k, _, t', by simp [ht], hk,
        partTaken_next_field hu hagain hb hb' seen, hmore⟩
    · split at h <;> cases h
  · cases h

/-! ### All values -/

theorem eq_of_readWord {value v : Json} {word t rest : Text}
    (h : readWord value word t = .ok (v, rest)) : v = value ∧ t = word ++ rest := by
  induction word generalizing t with
  | nil =>
    obtain ⟨rfl, rfl⟩ := Prod.mk.inj (Except.ok.inj h)
    exact ⟨rfl, rfl⟩
  | cons w word ih =>
    cases t with
    | nil => cases h
    | cons c t =>
      rw [readWord] at h
      split at h
      · next hw =>
        obtain ⟨hv, ht⟩ := ih h
        exact ⟨hv, by rw [hw, ht, List.cons_append]⟩
      · cases h

theorem isInert_of_isGlyph {c : Char} (h : IsGlyph c) : isInert c = true := by
  rcases h.isNumeral with hnumeral | rfl
  · exact isInert_of_has_numerals hnumeral
  · rfl

theorem Takes.balanced {read : Text → Except JsonStop (Number × Text)} {t : Text} {n : Number}
    (h : Takes read t n) : Balanced 0 t :=
  balanced_of_all (List.all_eq_true.2 fun c hc => isInert_of_isGlyph (h.glyphs c hc))

theorem Takes.ne_nil {negative : Bool} {t : Text} {n : Number}
    (h : Takes (readNumber negative) t n) : t ≠ [] := by
  rintro rfl
  have hread : readNumber negative [] = .ok (n, []) := h.again endsNumber_nil
  cases hread

/-- A digit begins a number. -/
theorem readValue_digit {c : Char} (h : isDigit c = true) (depth : Nat) (t : Text) :
    readValue (depth + 1) (c :: t) =
      (readNumber false (c :: t)).map fun p => (.number p.1, p.2) := by
  have hother : ∀ d, isDigit d = false → c ≠ d := by
    rintro d hd rfl
    cases h.symm.trans hd
  have hblank : isBlank c = false := by
    rw [Bool.eq_false_iff]
    intro hblank
    rcases isBlank_cases hblank with rfl | rfl | rfl | rfl <;> cases h
  rw [readValue, skipBlanks_cons hblank]
  simp [hother 'n' rfl, hother 't' rfl, hother 'f' rfl, hother '-' rfl, h]

/-- A text that nests no level is read wherever any value may be. -/
theorem holdsValue_scalar {t : Text} {v : Json} (h : Balanced 0 t)
    (hread : ∀ (depth : Nat) {rest : Text}, EndsNumber rest →
      readValue (depth + 1) (t ++ rest) = .ok (v, rest)) : HoldsValue t v 0 where
  balanced := h
  again hdepth hrest := by
    obtain ⟨d, rfl⟩ := Nat.exists_eq_add_of_lt hdepth
    exact hread _ hrest

theorem holdsValue_negative {t : Text} {n : Number} (h : Takes (readNumber true) t n) :
    HoldsValue ('-' :: t) (.number n) 0 := by
  refine holdsValue_scalar (balanced_cons h.balanced rfl) fun depth rest hrest => ?_
  rw [List.cons_append, readValue, skipBlanks_cons rfl]
  simp [h.again hrest, Except.map]

theorem holdsValue_number {c : Char} {t : Text} {n : Number} (hc : isDigit c = true)
    (h : Takes (readNumber false) (c :: t) n) : HoldsValue (c :: t) (.number n) 0 := by
  refine holdsValue_scalar h.balanced fun depth rest hrest => ?_
  have hread := h.again hrest
  rw [List.cons_append] at hread ⊢
  rw [readValue_digit hc, hread]
  rfl

theorem holdsValue_string {t chars : Text} (h : EndsString t)
    (hagain : ∀ rest, readString (t ++ rest) = .ok (chars, rest)) :
    HoldsValue ('\x22' :: t) (.string chars) 0 := by
  refine holdsValue_scalar h.balanced fun depth rest _ => ?_
  rw [List.cons_append, readValue, skipBlanks_cons rfl]
  simp [isDigit, digit?, hagain rest, Except.map]

/-- An array is read from what stands between its brackets. -/
theorem readValue_array {depth : Nat} (hdepth : depth ≠ 0) {t rest : Text} {items : List Json}
    (h : readItems (readValue depth) (t.length + 1) true [] t = .ok (items, rest)) :
    readValue (depth + 1) ('[' :: t) = .ok (.array items, rest) := by
  rw [readValue, skipBlanks_cons rfl]
  simp [isDigit, digit?, hdepth, h, Except.map]

theorem holdsValue_array {t : Text} {items : List Json} {k : Nat} (h : Balanced k t)
    (hagain : ∀ {depth fuel : Nat} (rest : Text), k < depth → t.length < fuel →
      readItems (readValue depth) fuel true [] (t ++ ']' :: rest) = .ok (items, rest)) :
    HoldsValue ('[' :: (t ++ [']'])) (.array items) (k + 1) where
  balanced := h.bracket (.inl rfl) (.inl rfl)
  again {_ rest} hdepth _ := by
    obtain ⟨d, rfl⟩ := Nat.exists_eq_add_of_lt hdepth
    rw [List.cons_append, List.append_assoc, List.singleton_append]
    refine readValue_array (by omega) (hagain rest (by omega) ?_)
    rw [List.length_append]
    omega

theorem holdsValue_object {t : Text} {fields : List (Text × Json)} {k : Nat} (h : Balanced k t)
    (hagain : ∀ {depth fuel : Nat} (rest : Text), k < depth → t.length < fuel →
      readFields (readValue depth) fuel true [] (t ++ '\x7d' :: rest) = .ok (fields, rest)) :
    HoldsValue ('\x7b' :: (t ++ ['\x7d'])) (.object fields) (k + 1) where
  balanced := h.bracket (.inr rfl) (.inr rfl)
  again {_ rest} hdepth _ := by
    obtain ⟨d, rfl⟩ := Nat.exists_eq_add_of_lt hdepth
    have hread : readFields (readValue (k + 1 + d)) (t.length + (rest.length + 1) + 1) true []
        (t ++ '\x7d' :: rest) = .ok (fields, rest) :=
      hagain rest (by omega) (by omega)
    rw [List.cons_append, List.append_assoc, List.singleton_append, readValue, skipBlanks_cons rfl]
    simp [isDigit, digit?, hread, Except.map]

/-- A reader takes nothing but texts that it takes again. -/
theorem takesValues (depth : Nat) : TakesValues depth := by
  induction depth with
  | zero =>
    intro t rest v h
    cases h
  | succ depth ih =>
    intro t rest v h
    obtain ⟨b, ht, hb⟩ := exists_blanks t
    have htaken : ∀ {u k}, skipBlanks t = u ++ rest → k < depth + 1 → HoldsValue u v k →
        ∃ u k, t = u ++ rest ∧ k < depth + 1 ∧ HoldsValue u v k := by
      intro u k hu hk hholds
      rw [hu, ← List.append_assoc] at ht
      exact ⟨b ++ u, k, ht, hk, hholds.blanks_append hb⟩
    rw [readValue] at h
    split at h
    · cases h
    next c r hskip =>
    by_cases hc : c = 'n'
    · rw [if_pos hc] at h
      obtain ⟨rfl, rfl⟩ := eq_of_readWord h
      exact htaken (u := ['n', 'u', 'l', 'l']) (hc ▸ hskip) depth.succ_pos
        (holdsValue_scalar (balanced_of_all rfl) fun _ _ _ => rfl)
    rw [if_neg hc] at h
    by_cases hc : c = 't'
    · rw [if_pos hc] at h
      obtain ⟨rfl, rfl⟩ := eq_of_readWord h
      exact htaken (u := ['t', 'r', 'u', 'e']) (hc ▸ hskip) depth.succ_pos
        (holdsValue_scalar (balanced_of_all rfl) fun _ _ _ => rfl)
    rw [if_neg hc] at h
    by_cases hc : c = 'f'
    · rw [if_pos hc] at h
      obtain ⟨rfl, rfl⟩ := eq_of_readWord h
      exact htaken (u := ['f', 'a', 'l', 's', 'e']) (hc ▸ hskip) depth.succ_pos
        (holdsValue_scalar (balanced_of_all rfl) fun _ _ _ => rfl)
    rw [if_neg hc] at h
    by_cases hc : c = '-'
    · rw [if_pos hc] at h
      obtain ⟨⟨n, r'⟩, hn, heq⟩ := exists_of_map_eq_ok h
      obtain ⟨rfl, rfl⟩ := Prod.mk.inj heq
      obtain ⟨u, rfl, hu⟩ := takes_of_readNumber hn
      exact htaken (hc ▸ hskip) depth.succ_pos (holdsValue_negative hu)
    rw [if_neg hc] at h
    by_cases hc : isDigit c = true
    · rw [if_pos hc] at h
      obtain ⟨⟨n, r'⟩, hn, heq⟩ := exists_of_map_eq_ok h
      obtain ⟨rfl, rfl⟩ := Prod.mk.inj heq
      obtain ⟨u, hr, hu⟩ := takes_of_readNumber hn
      obtain ⟨d, u, rfl⟩ := List.exists_cons_of_ne_nil hu.ne_nil
      obtain ⟨rfl, rfl⟩ := List.cons.inj hr
      exact htaken hskip depth.succ_pos (holdsValue_number hc hu)
    rw [if_neg hc] at h
    by_cases hc : c = '\x22'
    · rw [if_pos hc] at h
      obtain ⟨⟨chars, r'⟩, hchars, heq⟩ := exists_of_map_eq_ok h
      obtain ⟨rfl, rfl⟩ := Prod.mk.inj heq
      obtain ⟨u, rfl, hu, hagain⟩ := exists_of_readString hchars
      exact htaken (hc ▸ hskip) depth.succ_pos (holdsValue_string hu hagain)
    rw [if_neg hc] at h
    by_cases hc : c = '['
    · rw [if_pos hc] at h
      split at h
      · cases h
      next hdepth =>
      obtain ⟨⟨items, r'⟩, hitems, heq⟩ := exists_of_map_eq_ok h
      obtain ⟨rfl, rfl⟩ := Prod.mk.inj heq
      obtain ⟨u, k, rfl, hk, hu, -, hagain⟩ :=
        exists_body (fun depth => readItems (readValue depth)) (Nat.pos_of_ne_zero hdepth)
          (.inl rfl) (stepsOver_readItems ih) hitems
      exact htaken (by simp [hskip, hc]) (Nat.succ_lt_succ hk) (holdsValue_array hu hagain)
    rw [if_neg hc] at h
    by_cases hc : c = '\x7b'
    · rw [if_pos hc] at h
      split at h
      · cases h
      next hdepth =>
      obtain ⟨⟨fields, r'⟩, hfields, heq⟩ := exists_of_map_eq_ok h
      obtain ⟨rfl, rfl⟩ := Prod.mk.inj heq
      obtain ⟨u, k, rfl, hk, hu, -, hagain⟩ :=
        exists_body (fun depth => readFields (readValue depth)) (Nat.pos_of_ne_zero hdepth)
          (.inr rfl) (stepsOver_readFields ih) hfields
      exact htaken (by simp [hskip, hc]) (Nat.succ_lt_succ hk) (holdsValue_object hu hagain)
    rw [if_neg hc] at h
    cases h

end RecordFilter.Json
