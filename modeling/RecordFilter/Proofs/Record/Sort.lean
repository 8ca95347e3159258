import Mathlib.Data.List.Basic
import RecordFilter.Proofs.Record.Order

/-!
# Stable sorting

Sorting moves nothing among the items that tie: for every item, those that tie with it stand in the
sorted list as they stood before (`filter_ties_sorted`).  A list in order is determined by this
(`eq_of_ties`), so sorting by one order after another is sorting by both at once, the last order
being the one that decides first (`sorted_sorted`).
-/

namespace RecordFilter

theorem isNotAfter_eq (o : Ordering) : isNotAfter o = o.isLE := by
  cases o <;> rfl

section Stable

variable {α : Type} (cmp : α → α → Ordering)

/-- A list put in order, items that tie in the order they stood in. -/
def sorted (xs : List α) : List α :=
  xs.mergeSort fun a b => isNotAfter (cmp a b)

/-- Whether an order leaves it open which of two items comes first. -/
def ties (a b : α) : Bool :=
  cmp a b == .eq

/-- A list is in order when no item comes after one that follows it. -/
def InOrder (xs : List α) : Prop :=
  xs.Pairwise fun a b => (cmp a b).isLE

instance (xs : List α) : Decidable (InOrder cmp xs) :=
  inferInstanceAs (Decidable (xs.Pairwise fun a b => (cmp a b).isLE))

variable {cmp}

theorem sorted_perm (xs : List α) : (sorted cmp xs).Perm xs :=
  List.mergeSort_perm _ _

/-- A list in order is left as it is. -/
theorem sorted_of_inOrder {xs : List α} (h : InOrder cmp xs) : sorted cmp xs = xs := by
  refine List.mergeSort_of_pairwise (h.imp fun {a b} hab => ?_)
  rwa [isNotAfter_eq]

theorem filter_ties_compareLex (cmp' : α → α → Ordering) (a : α) (xs : List α) :
    xs.filter (ties (compareLex cmp cmp') a) = (xs.filter (ties cmp a)).filter (ties cmp' a) := by
  rw [List.filter_filter]
  refine List.filter_congr fun b _ => ?_
  unfold ties compareLex
  cases cmp a b <;> simp

variable [Std.TransCmp cmp]

theorem isNotAfter_trans (a b c : α) (hab : isNotAfter (cmp a b)) (hbc : isNotAfter (cmp b c)) :
    isNotAfter (cmp a c) := by
  rw [isNotAfter_eq] at *
  exact Std.TransCmp.isLE_trans hab hbc

theorem isNotAfter_total (a b : α) : isNotAfter (cmp a b) || isNotAfter (cmp b a) := by
  rw [isNotAfter_eq, isNotAfter_eq, @Std.OrientedCmp.eq_swap _ cmp _ b a]
  cases cmp a b <;> rfl

theorem inOrder_sorted (xs : List α) : InOrder cmp (sorted cmp xs) := by
  refine List.Pairwise.imp (fun {a b} h => ?_)
    (List.pairwise_mergeSort isNotAfter_trans isNotAfter_total xs)
  rwa [← isNotAfter_eq]

/-- Items that tie with one tie among themselves. -/
theorem isLE_of_ties {a b c : α} (hb : ties cmp a b) (hc : ties cmp a c) : (cmp b c).isLE := by
  have hb : cmp a b = .eq := eq_of_beq hb
  have hc : cmp a c = .eq := eq_of_beq hc
  rw [← Std.TransCmp.congr_left hb, hc]
  rfl

theorem ties_self (a : α) : ties cmp a a = true := by
  exact beq_of_eq Std.ReflCmp.compare_self

theorem InOrder.isLE_head {x y : α} {xs : List α} (h : InOrder cmp (x :: xs))
    (hy : y ∈ x :: xs) : (cmp x y).isLE := by
  rcases List.mem_cons.1 hy with rfl | hmem
  · exact Std.ReflCmp.isLE_rfl
  · exact List.rel_of_pairwise_cons h hmem

/-- Items none of which comes after another keep their order when a list is sorted. -/
theorem filter_sorted {p : α → Bool} (h : ∀ a b, p a → p b → (cmp a b).isLE) (xs : List α) :
    (sorted cmp xs).filter p = xs.filter p := by
  have hinOrder : (xs.filter p).Pairwise fun a b => isNotAfter (cmp a b) := by
    refine List.pairwise_of_forall_mem_list fun a ha b hb => ?_
    rw [isNotAfter_eq]
    exact h a b (List.mem_filter.1 ha).2 (List.mem_filter.1 hb).2
  have hsub : (xs.filter p).Sublist (sorted cmp xs) :=
    List.sublist_mergeSort isNotAfter_trans isNotAfter_total hinOrder List.filter_sublist
  have hfiltered : (xs.filter p).Sublist ((sorted cmp xs).filter p) := by
    simpa using hsub.filter p
  exact (hfiltered.eq_of_length ((sorted_perm xs).filter _).length_eq.symm).symm

/-- So do the items that tie with one. -/
theorem filter_ties_sorted (a : α) (xs : List α) :
    (sorted cmp xs).filter (ties cmp a) = xs.filter (ties cmp a) :=
  filter_sorted (fun _ _ => isLE_of_ties) xs

/-- Lists in order that have for every item those that tie with it in the same order are equal. -/
theorem eq_of_ties {xs ys : List α} (hxs : InOrder cmp xs) (hys : InOrder cmp ys)
    (hperm : xs.Perm ys) (h : ∀ a, xs.filter (ties cmp a) = ys.filter (ties cmp a)) : xs = ys := by
  induction xs generalizing ys with
  | nil => exact hperm.nil_eq
  | cons x xs ih =>
    cases ys with
    | nil => exact hperm.eq_nil
    | cons y ys =>
      -- The first items tie, since neither comes after the other, so both are the first of their
      -- class.
      have hxy : (cmp x y).isLE := hxs.isLE_head (hperm.mem_iff.2 List.mem_cons_self)
      have hyx : (cmp y x).isLE := hys.isLE_head (hperm.mem_iff.1 List.mem_cons_self)
      have htie : ties cmp x y := beq_of_eq (Std.OrientedCmp.isLE_antisymm hxy hyx)
      have hfirst := h x
      rw [List.filter_cons_of_pos (ties_self x), List.filter_cons_of_pos htie] at hfirst
      obtain ⟨rfl, -⟩ := List.cons.inj hfirst
      rw [ih hxs.of_cons hys.of_cons hperm.cons_inv]
      intro a
      have ha := h a
      rw [List.filter_cons, List.filter_cons] at ha
      split at ha
      · exact (List.cons.inj ha).2
      · exact ha

section Twice

variable {cmp' : α → α → Ordering}

/-- Sorting a list by a second order leaves it in the first among the items that tie. -/
theorem inOrder_compareLex_sorted {xs : List α} (h : InOrder cmp' xs) :
    InOrder (compareLex cmp cmp') (sorted cmp xs) := by
  refine List.pairwise_iff_forall_sublist.2 fun {a b} hab => ?_
  have hLE : (cmp a b).isLE := List.pairwise_iff_forall_sublist.1 (inOrder_sorted xs) hab
  rw [compareLex, Ordering.isLE_then_iff_or]
  cases hcmp : cmp a b with
  | lt => exact .inl rfl
  | gt => simp [hcmp] at hLE
  | eq =>
    right
    -- The two stand among those that tie with the first, and these have kept their order.
    have htie : ties cmp a b := beq_of_eq hcmp
    have hsub : [a, b].Sublist ((sorted cmp xs).filter (ties cmp a)) := by
      have hboth : [a, b].filter (ties cmp a) = [a, b] := by
        rw [List.filter_cons_of_pos (ties_self a), List.filter_cons_of_pos htie, List.filter_nil]
      rw [← hboth]
      exact hab.filter _
    rw [filter_ties_sorted] at hsub
    exact ⟨rfl, List.pairwise_iff_forall_sublist.1 h (hsub.trans List.filter_sublist)⟩

variable [Std.TransCmp cmp']

/-- Sorting by one order and then by another is sorting by both, the later first. -/
theorem sorted_sorted (xs : List α) :
    sorted cmp (sorted cmp' xs) = sorted (compareLex cmp cmp') xs := by
  have hperm : (sorted cmp (sorted cmp' xs)).Perm xs := (sorted_perm _).trans (sorted_perm xs)
  refine @eq_of_ties _ (compareLex cmp cmp') _ _ _ (inOrder_compareLex_sorted (inOrder_sorted xs))
    (inOrder_sorted xs) (hperm.trans (sorted_perm xs).symm) fun a => ?_
  calc (sorted cmp (sorted cmp' xs)).filter (ties (compareLex cmp cmp') a)
      = ((sorted cmp' xs).filter (ties cmp a)).filter (ties cmp' a) := by
        rw [filter_ties_compareLex, filter_ties_sorted]
    _ = (xs.filter (ties cmp a)).filter (ties cmp' a) := by
        rw [List.filter_comm, filter_ties_sorted, List.filter_comm]
    _ = xs.filter (ties (compareLex cmp cmp') a) := (filter_ties_compareLex cmp' a xs).symm
    _ = (sorted (compareLex cmp cmp') xs).filter (ties (compareLex cmp cmp') a) :=
        (filter_ties_sorted a xs).symm

end Twice

end Stable

/-- Whether two records tie at a path: their values compare alike, or both have none. -/
def tiedAt (key : Text) (a b : Json) : Bool :=
  match a.dig key, b.dig key with
  | some v, some w => v.compareValues w == .eq
  | none, none => true
  | _, _ => false

/-- The direction of sorting does not decide who ties. -/
theorem ties_compareAt (key : Text) (descending : Bool) :
    ties (compareAt key descending) = tiedAt key := by
  funext a b
  unfold ties compareAt tiedAt
  cases a.dig key with
  | none => cases b.dig key <;> rfl
  | some v =>
    cases b.dig key with
    | none => rfl
    | some w =>
      cases descending with
      | false => rfl
      | true =>
        show (w.compareValues v == .eq) = (v.compareValues w == .eq)
        rw [Json.compareValues_swap w v]
        cases v.compareValues w <;> rfl

section Path

variable {α : Type} (record : α → Json) (key : Text) (descending : Bool)

instance : Std.TransCmp fun x y => compareAt key descending (record x) (record y) :=
  transCmp_comap record

theorem sortAtBy_eq_sorted (xs : List α) : sortAtBy record key descending xs =
    sorted (fun x y => compareAt key descending (record x) (record y)) xs := rfl

/-- Sorting leaves the records that tie with one in their order. -/
theorem filter_tiedAt_sortAtBy (r : Json) (xs : List α) :
    (sortAtBy record key descending xs).filter (fun x => tiedAt key r (record x)) =
      xs.filter fun x => tiedAt key r (record x) := by
  refine filter_sorted (fun x y hx hy => ?_) xs
  rw [← ties_compareAt key descending] at hx hy
  exact isLE_of_ties hx hy

end Path

theorem sortAt_perm (key : Text) (descending : Bool) (records : List Json) :
    (sortAt key descending records).Perm records :=
  sorted_perm records

theorem filter_tiedAt_sortAt (key : Text) (descending : Bool) (r : Json) (records : List Json) :
    (sortAt key descending records).filter (tiedAt key r) = records.filter (tiedAt key r) :=
  filter_tiedAt_sortAtBy id key descending r records

theorem sortAtAll_cons (key : Text) (keys : List Text) (records : List Json) :
    sortAtAll (key :: keys) records = sortAt key false (sortAtAll keys records) := by
  show sorted (compareAtAll (key :: keys)) records =
    sorted (compareAt key false) (sorted (compareAtAll keys) records)
  rw [sorted_sorted, compareAtAll_cons]

/-- Sorting by several paths is sorting by each of them, the last first. -/
theorem sortAtAll_eq_foldr (keys : List Text) (records : List Json) :
    sortAtAll keys records = keys.foldr (fun key found => sortAt key false found) records := by
  induction keys with
  | nil => exact List.mergeSort_of_pairwise (List.pairwise_of_forall fun _ _ => rfl)
  | cons key keys ih => rw [sortAtAll_cons, ih, List.foldr_cons]

end RecordFilter
