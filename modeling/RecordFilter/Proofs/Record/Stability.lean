import RecordFilter.Proofs.Record.Sort

/-!
# Sorting at a path

Records are sorted with whatever stands beside them.  Those with a value at the path come first, in
the order of their values; those without one stand behind them as they stood before.  Neither
direction moves anything among records that tie, so sorting once more in the same direction changes
nothing and sorting in the other direction forgets the first (`sortAtBy_stable`).
-/

namespace RecordFilter

/-- A list in which what fulfils `p` stands before what does not. -/
theorem eq_filter_append_filter_not {α : Type} {p : α → Bool} {xs : List α}
    (h : xs.Pairwise fun a b => p b → p a) : xs = xs.filter p ++ xs.filter (!p ·) := by
  induction xs with
  | nil => rfl
  | cons x xs ih =>
    obtain ⟨hx, hxs⟩ := List.pairwise_cons.1 h
    have hrest := ih hxs
    cases hp : p x with
    | true =>
      rw [List.filter_cons_of_pos hp, List.filter_cons_of_neg (by simp [hp]), List.cons_append,
        ← hrest]
    | false =>
      have hnone : xs.filter p = [] := by
        refine List.filter_eq_nil_iff.2 fun y hy hpy => ?_
        exact Bool.false_ne_true (hp.symm.trans (hx y hy hpy))
      rw [hnone, List.nil_append] at hrest
      rw [List.filter_cons_of_neg (by simp [hp]), List.filter_cons_of_pos (by simp [hp]), hnone,
        List.nil_append, ← hrest]

section Order

variable {α : Type} {cmp cmp' : α → α → Ordering}

/-- An order leaves nothing to one that ties whatever it ties. -/
theorem compareLex_eq_left (h : ∀ a b, cmp a b = .eq → cmp' a b = .eq) :
    compareLex cmp cmp' = cmp := by
  funext a b
  unfold compareLex
  cases hab : cmp a b with
  | eq => rw [h a b hab]; rfl
  | lt => rfl
  | gt => rfl

/-- Sorting forgets that a list was sorted by an order that ties whatever the new one ties. -/
theorem sorted_sorted_eq_left [Std.TransCmp cmp] [Std.TransCmp cmp']
    (h : ∀ a b, cmp a b = .eq → cmp' a b = .eq) (xs : List α) :
    sorted cmp (sorted cmp' xs) = sorted cmp xs := by
  rw [sorted_sorted, compareLex_eq_left h]

end Order

section Path

variable {α : Type} (record : α → Json) (key : Text) (descending : Bool)

/-- Sorting at a path puts the records that have a value there first. -/
theorem pairwise_sortAtBy_isSome (xs : List α) :
    (sortAtBy record key descending xs).Pairwise fun x y =>
      ((record y).dig key).isSome → ((record x).dig key).isSome := by
  refine (inOrder_sorted xs).imp fun {x y} hxy hy => ?_
  obtain ⟨w, hw⟩ := Option.isSome_iff_exists.1 hy
  cases hx : (record x).dig key with
  | some v => rfl
  | none =>
    rw [compareAt, hx, hw] at hxy
    exact absurd hxy Bool.false_ne_true

/-- The values at the path stand in their order, or in the reverse one. -/
theorem pairwise_sortAtBy_values (xs : List α) :
    (sortAtBy record key descending xs).Pairwise fun x y => ∀ v w,
      (record x).dig key = some v → (record y).dig key = some w →
        if descending then v.compareValues w ≠ .lt else v.compareValues w ≠ .gt := by
  refine (inOrder_sorted xs).imp fun {x y} hxy v w hv hw => ?_
  rw [compareAt, hv, hw] at hxy
  cases descending with
  | false => exact Ordering.ne_gt_iff_isLE.2 hxy
  | true =>
    have hle : (w.compareValues v).isLE := hxy
    rw [Json.compareValues_swap w v] at hle
    exact fun hlt => by simp [hlt] at hle

/-- The records without a value at the path keep their order. -/
theorem filter_isNone_sortAtBy (xs : List α) :
    (sortAtBy record key descending xs).filter (fun x => ((record x).dig key).isNone) =
      xs.filter fun x => ((record x).dig key).isNone := by
  refine filter_sorted (fun x y hx hy => ?_) xs
  rw [compareAt, Option.isNone_iff_eq_none.1 hx, Option.isNone_iff_eq_none.1 hy]
  rfl

theorem compareAt_eq_eq_of_eq_eq {a b : Json} (descending' : Bool)
    (h : compareAt key descending a b = .eq) : compareAt key descending' a b = .eq := by
  have htied : ties (compareAt key descending) a b := beq_of_eq h
  rw [ties_compareAt, ← ties_compareAt key descending'] at htied
  exact eq_of_beq htied

/-- What records were sorted by at the path, in either direction, does not count when they are
sorted at it again. -/
theorem sortAtBy_sortAtBy (descending' : Bool) (xs : List α) :
    sortAtBy record key descending (sortAtBy record key descending' xs) =
      sortAtBy record key descending xs :=
  sorted_sorted_eq_left (fun _ _ => compareAt_eq_eq_of_eq_eq key descending descending') xs

/-- Sorting at a path loses and adds nothing.  First come the records that have a value there, those
of lower values before those of higher ones or the other way round; the others follow in the order
in which they stood, and so do those that tie with any record, in both directions.  So sorting a
second time changes nothing, and sorting in one direction and then in the other is sorting in the
other. -/
theorem sortAtBy_stable (xs : List α) :
    let found := sortAtBy record key descending xs
    found.Perm xs ∧
      found = found.filter (fun x => ((record x).dig key).isSome) ++
        xs.filter (fun x => ((record x).dig key).isNone) ∧
      found.Pairwise (fun x y => ∀ v w, (record x).dig key = some v → (record y).dig key = some w →
        if descending then v.compareValues w ≠ .lt else v.compareValues w ≠ .gt) ∧
      (∀ r, found.filter (fun x => tiedAt key r (record x)) =
        xs.filter fun x => tiedAt key r (record x)) ∧
      sortAtBy record key descending found = found ∧
      sortAtBy record key (!descending) found = sortAtBy record key (!descending) xs := by
  intro found
  have hparted : found = found.filter (fun x => ((record x).dig key).isSome) ++
      found.filter fun x => !((record x).dig key).isSome :=
    eq_filter_append_filter_not (pairwise_sortAtBy_isSome record key descending xs)
  refine ⟨sorted_perm xs, ?_, pairwise_sortAtBy_values record key descending xs,
    fun r => filter_tiedAt_sortAtBy record key descending r xs,
    sortAtBy_sortAtBy record key descending descending xs,
    sortAtBy_sortAtBy record key (!descending) descending xs⟩
  rw [← filter_isNone_sortAtBy record key descending xs]
  simpa only [Option.not_isSome] using hparted

end Path

/-- Of three numbered records with a value and one without, two with the same value: in descending
order they stay as they are, the values of the first two do not stand in the wrong order, and
ascending order puts the one without a value last again. -/
theorem sortAtBy_stable_numbered :
    let of (value : Char) : Json := .object [(['k'], .string [value])]
    let xs : List (Nat × Json) := [(1, of 'b'), (2, of 'a'), (3, of 'a'), (4, .object [])]
    let ascending := sortAtBy Prod.snd ['k'] false xs
    sortAtBy Prod.snd ['k'] true xs = xs ∧
      (of 'b').dig ['k'] = some (.string ['b']) ∧ (of 'a').dig ['k'] = some (.string ['a']) ∧
      (Json.string ['b']).compareValues (.string ['a']) ≠ .lt ∧
      ascending = ascending.filter (fun x => (x.2.dig ['k']).isSome) ++ [(4, .object [])] ∧
      ascending.filter (fun x => tiedAt ['k'] (of 'a') x.2) = [(2, of 'a'), (3, of 'a')] ∧
      sortAtBy Prod.snd ['k'] true ascending = xs := by
  intro of xs ascending
  have hdescending : sortAtBy Prod.snd ['k'] true xs = xs := by
    rw [sortAtBy_eq_sorted]
    exact sorted_of_inOrder (by decide)
  obtain ⟨-, -, hvalues, -⟩ := sortAtBy_stable Prod.snd ['k'] true xs
  obtain ⟨-, hparted, -, htied, -, hagain⟩ := sortAtBy_stable Prod.snd ['k'] false xs
  have hb : (of 'b').dig ['k'] = some (.string ['b']) := by rfl
  have ha : (of 'a').dig ['k'] = some (.string ['a']) := by rfl
  rw [hdescending] at hvalues
  have hmem : (2, of 'a') ∈ [(2, of 'a'), (3, of 'a'), (4, .object [])] := by simp
  have hfirst := List.rel_of_pairwise_cons hvalues hmem _ _ hb ha
  exact ⟨hdescending, hb, ha, hfirst, hparted, htied (of 'a'), hagain.trans hdescending⟩

end RecordFilter
