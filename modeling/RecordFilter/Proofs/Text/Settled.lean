import Mathlib.Data.List.Forall2
import Mathlib.Data.List.Infix
import RecordFilter.Proofs.Text.LowerCase
import RecordFilter.Proofs.Unicode.Recent

/-!
# Text that its neighbours leave alone

What the characters around a text do to its lower case depends on nothing but whether it stands
after a letter and whether it stands before one (`lowerBetween_congr`).  A text that neither changes
keeps its lower case in every text that it is part of (`lowerCase_infix`), and every other loses it
in some text: the sigmas that are final in the one and not in the other can be counted
(`settled_iff`).
-/

namespace RecordFilter.Text

variable {before rest t : Text} {c d : Char}

/-- The lowercase form of a text that stands between two others, the one before it last character
first. -/
def lowerBetween (before : Text) : Text → Text → Text
  | [], _ => []
  | c :: t, rest => formAt before c (t ++ rest) ++ lowerBetween (c :: before) t rest

theorem lowerAfter_append (before t rest : Text) :
    lowerAfter before (t ++ rest) =
      lowerBetween before t rest ++ lowerAfter (t.reverse ++ before) rest := by
  induction t generalizing before with
  | nil => rfl
  | cons c t ih =>
    rw [List.cons_append, lowerAfter_cons, ih, lowerBetween, List.reverse_cons]
    simp only [List.append_assoc, List.singleton_append]

theorem lowerBetween_nil (before t : Text) : lowerBetween before t [] = lowerAfter before t := by
  simpa [lowerAfter] using (lowerAfter_append before t []).symm

theorem any_find?_eq (p q : Char → Bool) (t : Text) :
    (match t.dropWhile p with
      | c :: _ => q c
      | [] => false) = (t.find? (!p ·)).any q := by
  induction t with
  | nil => rfl
  | cons c t ih => cases hc : p c <;> simp [hc, ih]

theorem meetsCased_eq (t : Text) :
    meetsCased t = (t.find? (!Recent.caseIgnorable.has ·)).any Recent.cased.has :=
  any_find?_eq _ _ t

theorem meetsCased_append (t rest : Text) :
    meetsCased (t ++ rest) =
      (t.find? (!Recent.caseIgnorable.has ·)).elim (meetsCased rest) Recent.cased.has := by
  rw [meetsCased_eq, meetsCased_eq, List.find?_append]
  cases t.find? (!Recent.caseIgnorable.has ·) <;> rfl

/-- A letter or a space is the first character that counts, and the space has no case. -/
theorem meetsCased_cons {c : Char} (hc : c = 'x' ∨ c = 'Α' ∨ c = ' ') (t : Text) :
    meetsCased (c :: t) = decide (c ≠ ' ') := by
  have hfound : (c :: t).find? (!Recent.caseIgnorable.has ·) = some c := by
    apply List.find?_cons_of_pos
    rw [Recent.has_caseIgnorable hc]
    rfl
  rw [meetsCased_eq, hfound, Option.any_some]
  exact Recent.has_cased hc

theorem meetsCased_cons_letter {c : Char} (hc : c = 'x' ∨ c = 'Α') (t : Text) :
    meetsCased (c :: t) = true := by
  rw [meetsCased_cons (hc.imp_right .inl)]
  rcases hc with rfl | rfl
  · rfl
  · rfl

/-- Of what stands around a text its lower case depends on two things alone. -/
theorem lowerBetween_congr {before' rest' : Text} (hbefore : meetsCased before = meetsCased before')
    (hrest : meetsCased rest = meetsCased rest') :
    lowerBetween before t rest = lowerBetween before' t rest' := by
  induction t generalizing before before' with
  | nil => rfl
  | cons c t ih =>
    have hnext : meetsCased (c :: before) = meetsCased (c :: before') := by
      rw [← List.singleton_append, ← List.singleton_append (l := before'), meetsCased_append,
        meetsCased_append, hbefore]
    have hfollow : meetsCased (t ++ rest) = meetsCased (t ++ rest') := by
      rw [meetsCased_append, meetsCased_append, hrest]
    rw [lowerBetween, lowerBetween, ih hnext]
    unfold formAt
    rw [hbefore, hfollow]

/-- A letter before a text, or after it, or one on either side, does not change its lower case. -/
def Settled (t : Text) : Prop :=
  ∀ before ∈ [[], ['x']], ∀ rest ∈ [[], ['x']],
    lowerCase (before ++ t ++ rest) = before ++ lowerCase t ++ rest

instance (t : Text) : Decidable t.Settled :=
  inferInstanceAs (Decidable (∀ before ∈ _, ∀ rest ∈ _, _))

theorem lowerBetween_of_isLower (h : ∀ c ∈ t, IsLower c) (before rest : Text) :
    lowerBetween before t rest = t := by
  induction t generalizing before with
  | nil => rfl
  | cons c t ih =>
    obtain ⟨hc, ht⟩ := List.forall_mem_cons.1 h
    rw [lowerBetween, formAt_of_isLower hc, ih ht]
    rfl

/-- The lower case of a text that has a letter, or nothing, on either side. -/
theorem lowerCase_among_letters {before rest : Text} (hbefore : before ∈ [[], ['x']])
    (hrest : rest ∈ [[], ['x']]) (t : Text) :
    lowerCase (before ++ t ++ rest) = before ++ lowerBetween before t rest ++ rest := by
  have hx : IsLower 'x' := by decide +kernel
  have hletters : ∀ u ∈ [[], ['x']], (∀ c ∈ u, IsLower c) ∧ u.reverse = u := by simp [hx]
  obtain ⟨hlower, hreverse⟩ := hletters before hbefore
  rw [lowerCase, List.append_assoc, lowerAfter_append, lowerAfter_append,
    lowerBetween_of_isLower hlower, lowerAfter_of_isLower (hletters rest hrest).1, List.append_nil,
    hreverse, List.append_assoc]

/-- What no letter on either side changes has its own lower case wherever it stands. -/
theorem lowerBetween_of_settled (h : t.Settled) (before rest : Text) :
    lowerBetween before t rest = lowerCase t := by
  have hnear : ∀ b ∈ [[], ['x']], ∀ r ∈ [[], ['x']], lowerBetween b t r = lowerCase t := by
    intro b hb r hr
    have hwhole := h b hb r hr
    rw [lowerCase_among_letters hb hr] at hwhole
    exact List.append_cancel_left (List.append_cancel_right hwhole)
  -- Letters stand for all that counts of the text on a side.
  have hletter : ∀ u : Text, ∃ v ∈ [[], ['x']], meetsCased u = meetsCased v := by
    intro u
    cases hu : meetsCased u with
    | false => exact ⟨[], by simp, rfl⟩
    | true => exact ⟨['x'], by simp, (meetsCased_cons_letter (by simp) []).symm⟩
  obtain ⟨b, hb, hbefore⟩ := hletter before
  obtain ⟨r, hr, hrest⟩ := hletter rest
  rw [lowerBetween_congr hbefore hrest]
  exact hnear b hb r hr

theorem settled_of_forall (h : ∀ before rest, lowerBetween before t rest = lowerCase t) :
    t.Settled := by
  intro b hb r hr
  rw [lowerCase_among_letters hb hr, h]

/-- A settled text that stands in another stands there in lower case as well. -/
theorem lowerCase_infix {needle : Text} (h : needle.Settled) (hin : needle <:+: t) :
    lowerCase needle <:+: lowerCase t := by
  obtain ⟨before, rest, rfl⟩ := hin
  unfold lowerCase
  rw [List.append_assoc, lowerAfter_append, lowerAfter_append, lowerBetween_of_settled h,
    ← List.append_assoc]
  exact List.infix_append ..

/-! ### Only settled texts are found in every text -/

/-- One text is another with sigmas made final. -/
abbrev MoreFinal (xs ys : Text) : Prop :=
  List.Forall₂ (fun c d => c = d ∨ c = 'σ' ∧ d = 'ς') xs ys

/-- Letters that come to stand before a text and letters that go from behind it make sigmas final,
and change nothing else. -/
theorem moreFinal_lowerBetween {before' rest' : Text}
    (hbefore : meetsCased before = true → meetsCased before' = true)
    (hrest : meetsCased rest' = true → meetsCased rest = true) (t : Text) :
    MoreFinal (lowerBetween before t rest) (lowerBetween before' t rest') := by
  induction t generalizing before before' with
  | nil => exact .nil
  | cons c t ih =>
    have hnext : meetsCased (c :: before) = true → meetsCased (c :: before') = true := by
      rw [← List.singleton_append, ← List.singleton_append (l := before'), meetsCased_append,
        meetsCased_append]
      cases [c].find? (!Recent.caseIgnorable.has ·) with
      | none => exact hbefore
      | some d => exact id
    have hfollow : meetsCased (t ++ rest') = true → meetsCased (t ++ rest) = true := by
      rw [meetsCased_append, meetsCased_append]
      cases t.find? (!Recent.caseIgnorable.has ·) with
      | none => exact hrest
      | some d => exact id
    have hform : MoreFinal (formAt before c (t ++ rest)) (formAt before' c (t ++ rest')) := by
      unfold formAt
      split
      · cases hb : meetsCased before <;> cases hr : meetsCased (t ++ rest) <;>
        cases hb' : meetsCased before' <;> cases hr' : meetsCased (t ++ rest') <;> simp_all
      · exact List.forall₂_same.2 fun _ _ => .inl rfl
    exact List.rel_append hform (ih hnext)

theorem MoreFinal.count_le {xs ys : Text} (h : MoreFinal xs ys) :
    ys.count 'σ' ≤ xs.count 'σ' ∧ xs.count 'ς' ≤ ys.count 'ς' := by
  induction h with
  | nil => exact ⟨Nat.le_refl _, Nat.le_refl _⟩
  | cons hc _ ih =>
    rcases hc with rfl | ⟨rfl, rfl⟩
    · simp only [List.count_cons]
      omega
    · simp
      omega

/-- Sigmas that are made final can be told by their number. -/
theorem MoreFinal.eq {xs ys : Text} (h : MoreFinal xs ys)
    (hcount : xs.count 'σ' ≤ ys.count 'σ' ∨ ys.count 'ς' ≤ xs.count 'ς') : xs = ys := by
  induction h with
  | nil => rfl
  | cons hc hrest ih =>
    have hle := MoreFinal.count_le hrest
    rcases hc with rfl | ⟨rfl, rfl⟩
    · rw [ih]
      simpa [List.count_cons] using hcount
    · simp at hcount
      omega

/-- Settled are exactly the texts that stand, in lower case, in the lower case of every text they
stand in. -/
theorem settled_iff :
    t.Settled ↔ ∀ u : Text, t <:+: u → lowerCase t <:+: lowerCase u := by
  refine ⟨fun h u hin => lowerCase_infix h hin, fun h => ?_⟩
  have halone : lowerBetween [] t [] = lowerCase t := lowerBetween_nil [] t
  have hletter : meetsCased ['x'] = true := meetsCased_cons_letter (by simp) []
  have hcount : ∀ b ∈ [[], ['x']], ∀ r ∈ [[], ['x']], ∀ c ∈ ['σ', 'ς'],
      (lowerCase t).count c ≤ (lowerBetween b t r).count c := by
    intro b hb r hr c hc
    have hnone : ∀ u ∈ [[], ['x']], ∀ d ∈ ['σ', 'ς'], u.count d = 0 := by simp
    have hin := h (b ++ t ++ r) (List.infix_append ..)
    rw [lowerCase_among_letters hb hr] at hin
    have hle := hin.sublist.count_le c
    rw [List.count_append, List.count_append, hnone b hb c hc, hnone r hr c hc] at hle
    omega
  have hbefore : lowerCase t = lowerBetween ['x'] t [] := by
    rw [← halone]
    refine MoreFinal.eq (moreFinal_lowerBetween (by simp [hletter]) id t) (.inl ?_)
    rw [halone]
    exact hcount _ (by simp) _ (by simp) _ (by simp)
  have hrest : lowerBetween [] t ['x'] = lowerCase t := by
    rw [← halone]
    refine MoreFinal.eq (moreFinal_lowerBetween id (by simp [hletter]) t) (.inr ?_)
    rw [halone]
    exact hcount _ (by simp) _ (by simp) _ (by simp)
  have hboth : lowerBetween ['x'] t ['x'] = lowerCase t := by
    rw [hbefore]
    refine MoreFinal.eq (moreFinal_lowerBetween id (by simp [hletter]) t) (.inr ?_)
    rw [← hbefore]
    exact hcount _ (by simp) _ (by simp) _ (by simp)
  intro b hb r hr
  rw [lowerCase_among_letters hb hr]
  congr 2
  simp only [List.mem_cons, List.not_mem_nil, or_false] at hb hr
  rcases hb with rfl | rfl <;> rcases hr with rfl | rfl
  · exact halone
  · exact hrest
  · exact hbefore.symm
  · exact hboth

end RecordFilter.Text
