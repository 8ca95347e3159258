import RecordFilter.Unicode.CharSet

/-!
# The algebra of sets of characters

Union, complement, intersection and difference are computed on ranges, and are those of the sets
that the ranges stand for.  Ranges in ascending order can be joined without change
(`hasCode_canonical`), and what stands between them is what they leave out (`hasCode_gaps`); the
laws of the operations follow.  Those of the last three ask that no range ends before it begins.
Tables are read line by line, so what they hold can be computed.
-/

namespace RecordFilter.CharSet

/-- Ranges in the order of their first code points. -/
def Ascending (ranges : List (Nat × Nat)) : Prop :=
  ranges.Pairwise fun a b => a.1 ≤ b.1

/-- A set none of whose ranges ends before it begins. -/
def IsProper (s : CharSet) : Prop :=
  ∀ r ∈ s.ranges, r.1 ≤ r.2

instance (s : CharSet) : Decidable s.IsProper :=
  inferInstanceAs (Decidable (∀ r ∈ s.ranges, r.1 ≤ r.2))

variable {s t : CharSet} {r : Nat × Nat} {ranges : List (Nat × Nat)}

theorem hasCode_cons (r : Nat × Nat) (ranges : List (Nat × Nat)) (n : Nat) :
    hasCode ⟨r :: ranges⟩ n = ((r.1 ≤ n && n ≤ r.2) || hasCode ⟨ranges⟩ n) := rfl

theorem hasCode_append (ranges ranges' : List (Nat × Nat)) (n : Nat) :
    hasCode ⟨ranges ++ ranges'⟩ n = (hasCode ⟨ranges⟩ n || hasCode ⟨ranges'⟩ n) :=
  List.any_append

theorem le_of_hasCode {a n : Nat} (h : ∀ r ∈ ranges, a ≤ r.1) (hn : hasCode ⟨ranges⟩ n) :
    a ≤ n := by
  obtain ⟨r, hr, hbounds⟩ := List.any_eq_true.1 hn
  simp only [Bool.and_eq_true, decide_eq_true_eq] at hbounds
  exact Nat.le_trans (h r hr) hbounds.1

/-! ### Ranges in order -/

theorem hasCode_joinRange (h : ∀ q ∈ ranges, r.1 ≤ q.1) (n : Nat) :
    hasCode ⟨joinRange r ranges⟩ n = hasCode ⟨r :: ranges⟩ n := by
  induction ranges generalizing r with
  | nil => rfl
  | cons q rest ih =>
    obtain ⟨hq, hrest⟩ := List.forall_mem_cons.1 h
    rw [joinRange]
    split
    · next hmeets =>
      have hjoined := ih (r := (r.1, max r.2 q.2)) hrest
      rw [hjoined, hasCode_cons, hasCode_cons, hasCode_cons, ← Bool.or_assoc]
      congr 1
      rw [Bool.eq_iff_iff]
      simp only [Bool.or_eq_true, Bool.and_eq_true, decide_eq_true_eq]
      omega
    · rfl

theorem le_of_mem_joinRange {a : Nat} (hr : a ≤ r.1) (h : ∀ q ∈ ranges, a ≤ q.1) :
    ∀ q ∈ joinRange r ranges, a ≤ q.1 := by
  induction ranges generalizing r with
  | nil => simpa [joinRange] using hr
  | cons q rest ih =>
    rw [joinRange]
    split
    · exact ih hr fun p hp => h p (List.mem_cons_of_mem _ hp)
    · exact List.forall_mem_cons.2 ⟨hr, h⟩

theorem ascending_joinRange (h : ∀ q ∈ ranges, r.1 ≤ q.1) (hranges : Ascending ranges) :
    Ascending (joinRange r ranges) := by
  induction ranges generalizing r with
  | nil => exact List.pairwise_singleton ..
  | cons q rest ih =>
    rw [joinRange]
    split
    · exact ih (fun p hp => h p (List.mem_cons_of_mem _ hp)) (List.pairwise_cons.1 hranges).2
    · exact List.pairwise_cons.2 ⟨h, hranges⟩

theorem isProper_joinRange (hr : r.1 ≤ r.2) (h : IsProper ⟨ranges⟩) :
    IsProper ⟨joinRange r ranges⟩ := by
  induction ranges generalizing r with
  | nil => simpa [joinRange, IsProper] using hr
  | cons q rest ih =>
    have hrest : IsProper ⟨rest⟩ := fun p hp => h p (List.mem_cons_of_mem _ hp)
    rw [joinRange]
    split
    · exact ih (Nat.le_trans hr (Nat.le_max_left ..)) hrest
    · exact List.forall_mem_cons.2 ⟨hr, h⟩

/-- Joining ascending ranges from the last one on. -/
theorem foldr_joinRange (h : Ascending ranges) :
    (∀ a, (∀ r ∈ ranges, a ≤ r.1) → ∀ r ∈ ranges.foldr joinRange [], a ≤ r.1) ∧
      Ascending (ranges.foldr joinRange []) ∧
      ∀ n, hasCode ⟨ranges.foldr joinRange []⟩ n = hasCode ⟨ranges⟩ n := by
  induction ranges with
  | nil => exact ⟨fun a _ => by simp, List.Pairwise.nil, fun n => rfl⟩
  | cons r rest ih =>
    obtain ⟨hr, hrest⟩ := List.pairwise_cons.1 h
    obtain ⟨hbound, hascending, hcodes⟩ := ih hrest
    have hfirst := hbound r.1 hr
    refine ⟨fun a ha => ?_, ascending_joinRange hfirst hascending, fun n => ?_⟩
    · obtain ⟨har, harest⟩ := List.forall_mem_cons.1 ha
      exact le_of_mem_joinRange har (hbound a harest)
    · rw [List.foldr_cons, hasCode_joinRange hfirst, hasCode_cons, hcodes n, hasCode_cons]

theorem ascending_mergeSort (ranges : List (Nat × Nat)) :
    Ascending (ranges.mergeSort fun a b => a.1 ≤ b.1) := by
  refine (List.pairwise_mergeSort (fun a b c => ?_) (fun a b => ?_) ranges).imp of_decide_eq_true
  · simpa only [decide_eq_true_eq] using Nat.le_trans
  · simpa only [Bool.or_eq_true, decide_eq_true_eq] using Nat.le_total a.1 b.1

theorem ascending_canonical (s : CharSet) : Ascending s.canonical.ranges :=
  (foldr_joinRange (ascending_mergeSort s.ranges)).2.1

theorem hasCode_canonical (s : CharSet) (n : Nat) : s.canonical.hasCode n = s.hasCode n := by
  have hperm := List.mergeSort_perm s.ranges fun a b => a.1 ≤ b.1
  rw [canonical, (foldr_joinRange (ascending_mergeSort s.ranges)).2.2]
  exact hperm.any_eq

theorem IsProper.canonical (h : s.IsProper) : s.canonical.IsProper := by
  have hjoined : ∀ l : List (Nat × Nat), (∀ r ∈ l, r.1 ≤ r.2) →
      IsProper ⟨l.foldr joinRange []⟩ := by
    intro l hl
    induction l with
    | nil => simp [IsProper]
    | cons r rest ih =>
      obtain ⟨hr, hrest⟩ := List.forall_mem_cons.1 hl
      exact isProper_joinRange hr (ih hrest)
  exact hjoined _ fun r hr => h r (List.mem_mergeSort.1 hr)

/-! ### Gaps -/

/-- What lies between ascending ranges is what they leave out. -/
theorem hasCode_gaps (hascending : Ascending ranges) (hproper : IsProper ⟨ranges⟩)
    (stop start n : Nat) :
    hasCode ⟨gaps stop start ranges⟩ n =
      (decide (start ≤ n) && decide (n ≤ stop) && !hasCode ⟨ranges⟩ n) := by
  induction ranges generalizing start with
  | nil =>
    rw [gaps, Bool.eq_iff_iff]
    split
    · simp [hasCode]
    · simp [hasCode]
      omega
  | cons r rest ih =>
    obtain ⟨hfirst, hrest⟩ := List.pairwise_cons.1 hascending
    obtain ⟨hr, hproper'⟩ := List.forall_mem_cons.1 hproper
    have hbefore : hasCode ⟨rest⟩ n = true → r.1 ≤ n := le_of_hasCode hfirst
    rw [gaps]
    split
    · next hgap =>
      rw [hasCode_cons, hasCode_cons, ih hrest hproper', Bool.eq_iff_iff]
      simp only [Bool.or_eq_true, Bool.and_eq_true, decide_eq_true_eq, Bool.not_eq_true',
        Bool.or_eq_false_iff, Bool.and_eq_false_iff, decide_eq_false_iff_not]
      cases hcode : hasCode ⟨rest⟩ n with
      | false => simp; omega
      | true => have := hbefore hcode; simp; omega
    · next hgap =>
      rw [hasCode_cons, ih hrest hproper', Bool.eq_iff_iff]
      simp only [Bool.and_eq_true, decide_eq_true_eq, Bool.not_eq_true',
        Bool.or_eq_false_iff, Bool.and_eq_false_iff, decide_eq_false_iff_not]
      cases hasCode ⟨rest⟩ n with
      | false => simp; omega
      | true => simp

theorem isProper_gaps (stop start : Nat) (ranges : List (Nat × Nat)) :
    IsProper ⟨gaps stop start ranges⟩ := by
  induction ranges generalizing start with
  | nil =>
    rw [gaps]
    split <;> simp_all [IsProper]
  | cons r rest ih =>
    rw [gaps]
    split
    · next hgap =>
      exact List.forall_mem_cons.2 ⟨by simp only; omega, ih _⟩
    · exact ih _

/-! ### The operations -/

theorem has_union (s t : CharSet) (c : Char) : (s.union t).has c = (s.has c || t.has c) :=
  (hasCode_canonical _ _).trans (hasCode_append ..)

theorem has_unions (sets : List CharSet) (c : Char) :
    (unions sets).has c = sets.any (·.has c) :=
  (hasCode_canonical _ _).trans List.any_flatMap

theorem has_complement (h : s.IsProper) (c : Char) : s.complement.has c = !s.has c := by
  have hcode := hasCode_canonical s c.toNat
  have hgaps := hasCode_gaps (ascending_canonical s) h.canonical
  have hvalid : c.toNat ≤ 0xD7FF ∨ 0xE000 ≤ c.toNat ∧ c.toNat ≤ 0x10FFFF := by
    have := c.valid
    simp only [UInt32.isValidChar, Nat.isValidChar] at this
    show c.val.toNat ≤ _ ∨ _ ≤ c.val.toNat ∧ c.val.toNat ≤ _
    omega
  unfold has complement
  rw [hasCode_append, hgaps, hgaps]
  show _ = !s.hasCode c.toNat
  rw [← hcode]
  rcases hvalid with hlow | ⟨hhigh, hlast⟩
  · simp [hlow, show ¬ 0xE000 ≤ c.toNat by omega]
  · simp [hhigh, hlast, show ¬ c.toNat ≤ 0xD7FF by omega]

theorem IsProper.union (hs : s.IsProper) (ht : t.IsProper) : (s.union t).IsProper :=
  IsProper.canonical fun r hr => (List.mem_append.1 hr).elim (hs r) (ht r)

theorem IsProper.unions {sets : List CharSet} (h : ∀ s ∈ sets, s.IsProper) :
    (CharSet.unions sets).IsProper := by
  refine IsProper.canonical fun r hr => ?_
  obtain ⟨s, hs, hmem⟩ := List.mem_flatMap.1 hr
  exact h s hs r hmem

theorem isProper_complement (s : CharSet) : s.complement.IsProper := fun r hr =>
  (List.mem_append.1 hr).elim (isProper_gaps _ _ _ r) (isProper_gaps _ _ _ r)

theorem has_inter (hs : s.IsProper) (ht : t.IsProper) (c : Char) :
    (s.inter t).has c = (s.has c && t.has c) := by
  have hproper := (isProper_complement s).union (isProper_complement t)
  rw [inter, has_complement hproper, has_union, has_complement hs, has_complement ht, Bool.not_or,
    Bool.not_not, Bool.not_not]

theorem has_diff (hs : s.IsProper) (ht : t.IsProper) (c : Char) :
    (s.diff t).has c = (s.has c && !t.has c) := by
  rw [diff, has_inter hs (isProper_complement t), has_complement ht]

/-! ### Tables -/

/-- The ranges that a line of a table writes. -/
def lineRanges (line : List Char) : List (Nat × Nat) :=
  ((line.splitOn ' ').filter (!·.isEmpty)).map hexRange

theorem ofHex_cons (line : List Char) (lines : List String) :
    ofHex (String.ofList line :: lines) = ⟨lineRanges line ++ (ofHex lines).ranges⟩ := by
  rw [ofHex, List.flatMap_cons, String.toList_ofList]
  rfl

end RecordFilter.CharSet
