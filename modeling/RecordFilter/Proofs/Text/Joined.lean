import RecordFilter.Proofs.Text.Settled

/-!
# Texts joined by spaces

The space is not passed over when the neighbours of a sigma are judged, and it has no case.  Nothing
beyond a space counts, therefore: texts that are joined by spaces can be put in lower case one by
one (`lowerCase_intercalate`), whatever they end in and begin with.
-/

namespace RecordFilter.Text

theorem isLower_space : IsLower ' ' := by
  decide +kernel

theorem lowerCase_append_space (a b : Text) :
    lowerCase (a ++ ' ' :: b) = lowerCase a ++ ' ' :: lowerCase b := by
  have hspace : ∀ t, meetsCased (' ' :: t) = meetsCased [] := by
    intro t
    rw [meetsCased_cons (.inr (.inr rfl))]
    rfl
  have hbefore : lowerBetween [] a (' ' :: b) = lowerCase a := by
    rw [lowerBetween_congr rfl (hspace b)]
    exact lowerBetween_nil [] a
  have hafter : ∀ before, lowerAfter (' ' :: before) b = lowerCase b := by
    intro before
    rw [← lowerBetween_nil, lowerBetween_congr (hspace before) rfl]
    exact lowerBetween_nil [] b
  calc lowerCase (a ++ ' ' :: b)
    _ = lowerBetween [] a (' ' :: b) ++ lowerAfter (a.reverse ++ []) (' ' :: b) :=
      lowerAfter_append ..
    _ = lowerCase a ++ ' ' :: lowerCase b := by
      rw [hbefore, lowerAfter_cons, formAt_of_isLower isLower_space, hafter]
      rfl

theorem lowerCase_intercalate (ts : List Text) :
    lowerCase ([' '].intercalate ts) = [' '].intercalate (ts.map lowerCase) := by
  induction ts with
  | nil => rfl
  | cons t ts ih =>
    cases ts with
    | nil => rw [List.map_singleton, List.intercalate_singleton, List.intercalate_singleton]
    | cons u us =>
      rw [List.map_cons] at ih
      rw [List.map_cons, List.map_cons, List.intercalate_cons_cons, List.intercalate_cons_cons,
        List.append_assoc, List.append_assoc, List.singleton_append, List.singleton_append,
        lowerCase_append_space, ih]

/-- Each of the texts that are joined stands in the whole. -/
theorem infix_intercalate {joint t : Text} {ts : List Text} (h : t ∈ ts) :
    t <:+: joint.intercalate ts := by
  induction ts with
  | nil => cases h
  | cons u us ih =>
    cases us with
    | nil => rw [List.mem_singleton.1 h, List.intercalate_singleton]
    | cons v vs =>
      rw [List.intercalate_cons_cons, List.append_assoc]
      rcases List.mem_cons.1 h with rfl | hrest
      · exact (List.prefix_append _ _).isInfix
      · exact (ih hrest).trans ((List.suffix_append _ _).trans (List.suffix_append _ _)).isInfix

theorem intercalate_ne_nil {joint t : Text} {ts : List Text} (h : t ∈ ts) (hne : t ≠ []) :
    joint.intercalate ts ≠ [] := by
  intro hempty
  apply hne
  apply List.infix_nil.1
  rw [← hempty]
  exact infix_intercalate h

/-- A character of joined texts stands in the joint or in one of them. -/
theorem mem_joint_or_of_mem_intercalate {joint : Text} {ts : List Text} {c : Char}
    (h : c ∈ joint.intercalate ts) : c ∈ joint ∨ ∃ t ∈ ts, c ∈ t := by
  induction ts with
  | nil => cases h
  | cons u us ih =>
    cases us with
    | nil =>
      rw [List.intercalate_singleton] at h
      exact .inr ⟨u, List.mem_cons_self, h⟩
    | cons v vs =>
      rw [List.intercalate_cons_cons, List.append_assoc, List.mem_append, List.mem_append] at h
      rcases h with hfirst | hjoint | hrest
      · exact .inr ⟨u, List.mem_cons_self, hfirst⟩
      · exact .inl hjoint
      · refine (ih hrest).imp_right ?_
        rintro ⟨t, ht, hc⟩
        exact ⟨t, List.mem_cons_of_mem u ht, hc⟩

end RecordFilter.Text
