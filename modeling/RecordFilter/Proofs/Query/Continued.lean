import RecordFilter.Proofs.Query.Letters
import RecordFilter.Proofs.Search.Meaning

/-!
# Queries continued

What is put behind a query makes its last token longer and adds tokens after it (`tokens_append`).
Where the only rules are aliases, this shows in the conditions: a condition more is asked for, or
the arguments hold the letters of what was added.  So a query that is continued by the letter that
ends every directive does not have the conditions that it had (`conditions_append_ne`).
-/

namespace RecordFilter

/-- Splitting what comes second continues the last part of what comes first. -/
theorem exists_splitOnP_append {α : Type} (p : α → Bool) (xs ys : List α) :
    ∃ us x y rest, xs.splitOnP p = us ++ [x] ∧ (xs ++ ys).splitOnP p = us ++ (x ++ y) :: rest := by
  induction xs with
  | nil =>
    obtain ⟨y, rest, hsplit⟩ := List.exists_cons_of_ne_nil (List.splitOnP_ne_nil p ys)
    exact ⟨[], [], y, rest, List.splitOnP_nil, hsplit⟩
  | cons a xs ih =>
    obtain ⟨us, x, y, rest, hfirst, hboth⟩ := ih
    rw [List.cons_append, List.splitOnP_cons_eq_if_modifyHead, List.splitOnP_cons_eq_if_modifyHead,
      hfirst, hboth]
    cases p a with
    | true => exact ⟨[] :: us, x, y, rest, rfl, rfl⟩
    | false =>
      cases us with
      | nil => exact ⟨[], a :: x, y, rest, rfl, rfl⟩
      | cons u us => exact ⟨(a :: u) :: us, x, y, rest, rfl, rfl⟩

namespace Query

/-- The tokens of a query that is continued: the last one is longer, and others may follow.  Empty
ones are none. -/
theorem tokens_append (a b : Text) :
    ∃ us x y rest, tokens a = (us ++ [x]).filter (!·.isEmpty) ∧
      tokens (a ++ b) = (us ++ (x ++ y) :: rest).filter (!·.isEmpty) := by
  obtain ⟨us, x, y, rest, hfirst, hboth⟩ := exists_splitOnP_append Part.isSeparator
    (parts blanks .quotes a) (partsFrom blanks .quotes (openAfter blanks .quotes none a) b)
  let text := List.filterMap (Part.kept? false)
  refine ⟨us.map text, text x, text y, rest.map text, ?_, ?_⟩
  · unfold tokens split
    rw [hfirst, List.map_append]
    rfl
  · have hparts : parts blanks .quotes (a ++ b) = parts blanks .quotes a ++
        partsFrom blanks .quotes (openAfter blanks .quotes none a) b := partsFrom_append none a b
    unfold tokens split
    rw [hparts, hboth, List.map_append, List.map_cons, List.filterMap_append]

/-- A token that is a condition stays one when it is made longer, and what is added is added to its
arguments. -/
theorem letters_ofText_append {x : Text} (h : (Token.ofText x).isCondition) (y : Text) :
    (Token.ofText (x ++ y)).isCondition ∧
      (Token.ofText (x ++ y)).letters = (Token.ofText x).letters + letters y := by
  cases hcut : Token.cutKey? false x with
  | none =>
    unfold Token.ofText at h
    rw [hcut] at h
    cases h
  | some p =>
    obtain ⟨rfl, hrest⟩ := Token.cutKey?_eq_some hcut
    have hread : ∀ args, Token.ofText (p.1 ++ ':' :: args) =
        .condition (Token.plainColons p.1) args := by
      intro args
      unfold Token.ofText
      rw [hrest]
    rw [List.append_assoc, List.cons_append, hread, hread]
    exact ⟨rfl, letters_append p.2 y⟩

/-- Whether a text is a token that is a condition, as a number. -/
def conditionCount (t : Text) : Nat :=
  (Token.ofText t).isCondition.toNat

theorem letters_of_conditionCount_eq_zero {t : Text} (h : conditionCount t = 0) :
    (Token.ofText t).letters = letters t := by
  apply Token.letters_of_isCondition_eq_false
  cases hc : (Token.ofText t).isCondition with
  | false => rfl
  | true => simp [conditionCount, hc] at h

theorem conditionCount_le_append (x y : Text) : conditionCount x ≤ conditionCount (x ++ y) := by
  unfold conditionCount
  cases hx : (Token.ofText x).isCondition with
  | true => simp [(letters_ofText_append hx y).1]
  | false => simp

/-- What is added to a token that stays what it is counts in full. -/
theorem letters_append_of_conditionCount_eq {x y : Text}
    (h : conditionCount (x ++ y) = conditionCount x) :
    (Token.ofText (x ++ y)).letters = (Token.ofText x).letters + letters y := by
  cases hx : (Token.ofText x).isCondition with
  | true => exact (letters_ofText_append hx y).2
  | false =>
    have hnone : conditionCount x = 0 := by simp [conditionCount, hx]
    rw [letters_of_conditionCount_eq_zero hnone,
      letters_of_conditionCount_eq_zero (h.trans hnone), letters_append]

section Sums

variable {f : Text → Nat}

/-- A sum over the runs of a list of tokens is one over the tokens, where bars count nothing. -/
theorem sum_map_runsOf (h : f bar = 0) (ts : List Text) :
    ((runsOf ts).map fun run => (run.map f).sum).sum = (ts.map f).sum := by
  have hbars : ((ts.filter (!· == bar)).map f).sum = (ts.map f).sum := by
    induction ts with
    | nil => rfl
    | cons t ts ih =>
      by_cases ht : t = bar
      · simpa [ht, h] using ih
      · simpa [ht] using ih
  have hflat : (runsOf ts).flatten = ts.filter (!· == bar) := by
    unfold runsOf
    rw [List.flatten_filter_not_isEmpty, flatten_splitOnP]
  rw [← hbars, ← hflat, List.map_flatten, List.sum_flatten, List.map_map]
  rfl

end Sums

/-- What the conditions of a query tell of its tokens: how many of them are conditions, and how many
letters they hold outside keys. -/
theorem sums_conditions {o : Options} (ho : o.OnlyAliases) (query : Text) :
    ((conditions o query).value.map (·.length - 1)).sum =
        ((tokens query).map conditionCount).sum ∧
      ((conditions o query).value.map fun cs => (cs.map Condition.letters).sum).sum =
        ((tokens query).map fun t => (Token.ofText t).letters).sum := by
  rw [value_conditions, List.map_map, List.map_map, tokenRuns_eq]
  constructor
  · rw [← sum_map_runsOf (by rfl)]
    apply congrArg List.sum
    apply List.map_congr_left
    intro run _
    show (conditionsOfRun o run).length - 1 = _
    rw [(letters_conditionsOfRun ho run).1, Nat.add_sub_cancel]
    rfl
  · rw [← sum_map_runsOf (by rfl)]
    apply congrArg List.sum
    apply List.map_congr_left
    intro run _
    exact (letters_conditionsOfRun ho run).2

/-- The letters of a query are those of its tokens. -/
theorem letters_tokens (query : Text) : ((tokens query).map letters).sum = letters query :=
  letters_split (by decide) false query

/-- Where the only rules are aliases, a query continued by the letter that every directive ends in
asks for other conditions. -/
theorem conditions_append_ne {o : Options} (ho : o.OnlyAliases) (a : Text) {b : Text}
    (hb : 'c' ∈ b) : (conditions o (a ++ b)).value ≠ (conditions o a).value := by
  intro heq
  obtain ⟨us, x, y, rest, hfirst, hboth⟩ := tokens_append a b
  let inside := fun t : Text => (Token.ofText t).letters
  have hsum : ∀ f : Text → Nat, f [] = 0 →
      ((tokens a).map f).sum = (us.map f).sum + f x ∧
        ((tokens (a ++ b)).map f).sum = (us.map f).sum + (f (x ++ y) + (rest.map f).sum) := by
    intro f hf
    rw [hfirst, hboth, sum_map_filter_nonempty hf, sum_map_filter_nonempty hf]
    simp
  obtain ⟨hconditions, hinside⟩ := sums_conditions ho (a ++ b)
  rw [heq, (sums_conditions ho a).1, (hsum conditionCount rfl).1, (hsum conditionCount rfl).2]
    at hconditions
  rw [heq, (sums_conditions ho a).2, (hsum inside rfl).1, (hsum inside rfl).2] at hinside
  have hletters : letters (x ++ y) + (rest.map letters).sum = letters x + letters b := by
    have ha := letters_tokens a
    have hab := letters_tokens (a ++ b)
    rw [(hsum letters rfl).1] at ha
    rw [(hsum letters rfl).2, letters_append a b] at hab
    omega
  have hcount : 0 < letters b := List.count_pos_iff.2 hb
  -- No condition more is asked for, so what was added is arguments or free text throughout.
  have hone : conditionCount x ≤ conditionCount (x ++ y) := conditionCount_le_append x y
  have hlast : inside (x ++ y) = inside x + letters y :=
    letters_append_of_conditionCount_eq (by omega)
  have hrest : (rest.map inside).sum = (rest.map letters).sum := by
    have hzero : (rest.map conditionCount).sum = 0 := by omega
    apply congrArg List.sum
    apply List.map_congr_left
    intro t ht
    have hnone := List.sum_eq_zero_iff_forall_eq_nat.1 hzero _ (List.mem_map_of_mem ht)
    exact letters_of_conditionCount_eq_zero hnone
  rw [letters_append] at hletters
  omega

end Query

end RecordFilter
