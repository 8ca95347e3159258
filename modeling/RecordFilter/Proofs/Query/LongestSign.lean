import RecordFilter.Proofs.Query.ArgumentText

/-!
# The longest sign

Signs may begin alike, and one counts only where a literal follows it.  Since no sign of the table
begins a later one, the first that counts is the longest that counts (`exists_isLongest`).  The sign
shown for its operator may be another, which is read as the same operator before the same literal.
-/

namespace RecordFilter

namespace Operator

/-- A sign of the table that counts where an argument is read: the argument is the sign and a
literal, which only the sign for presence does without. -/
structure Counts (arg sign : Text) (op : Operator) (literal : Text) : Prop where
  listed : (sign, op) ∈ signs
  text : arg = sign ++ literal
  followed : literal ≠ [] ∨ sign = ['?']

/-- A sign that counts and is longer than every other that counts. -/
structure IsLongest (arg sign : Text) (op : Operator) (literal : Text) : Prop
    extends Counts arg sign op literal where
  longest : ∀ {sign' op' literal'}, Counts arg sign' op' literal' →
    (sign', op') = (sign, op) ∨ sign'.length < sign.length

/-- The sign for presence is the only one of its operator. -/
theorem eq_question_iff : ∀ p ∈ signs, p.2 = present ↔ p.1 = ['?'] := by
  decide

/-- No sign begins one that stands behind it in the table. -/
theorem signs_pairwise : signs.Pairwise fun p q => ¬ p.1 <+: q.1 := by
  decide

theorem counts_iff {arg sign literal : Text} {op : Operator} (h : (sign, op) ∈ signs) :
    Counts arg sign op literal ↔ after? sign op arg = some literal := by
  rw [after?_eq_some_iff, eq_question_iff _ h]
  exact ⟨fun hcounts => ⟨hcounts.text, hcounts.followed⟩, fun ⟨htext, hfollowed⟩ =>
    ⟨h, htext, hfollowed⟩⟩

theorem parse_eq (arg : Text) :
    parse arg = (signs.findSome? fun p =>
      (after? p.1 p.2 arg).map fun rest => (p.2, rest)).getD (unspecified, arg) := rfl

/-- Where a sign counts, the argument is read by the longest that does. -/
theorem exists_isLongest {arg sign literal : Text} {op : Operator}
    (h : Counts arg sign op literal) :
    ∃ sign, IsLongest arg sign (parse arg).1 (parse arg).2 := by
  cases hfound : signs.findSome? fun p => (after? p.1 p.2 arg).map fun rest => (p.2, rest) with
  | none =>
    have hnone := List.findSome?_eq_none_iff.1 hfound _ h.listed
    rw [(counts_iff h.listed).1 h] at hnone
    cases hnone
  | some found =>
    have hparse : parse arg = found := by rw [parse_eq, hfound, Option.getD_some]
    obtain ⟨earlier, ⟨sign, op⟩, later, hsigns, hfirst, hnone⟩ :=
      List.findSome?_eq_some_iff.1 hfound
    obtain ⟨literal, hafter, rfl⟩ := Option.map_eq_some_iff.1 hfirst
    have hlisted : (sign, op) ∈ signs := hsigns ▸ by simp
    have hcounts : Counts arg sign op literal := (counts_iff hlisted).2 hafter
    rw [hparse]
    refine ⟨sign, hcounts, ?_⟩
    intro sign' op' literal' hcounts'
    have hlisted' := hcounts'.listed
    rw [hsigns, List.mem_append, List.mem_cons] at hlisted'
    rcases hlisted' with hearlier | hsame | hlater
    · -- It would have been found first.
      have hskipped := hnone _ hearlier
      rw [(counts_iff hcounts'.listed).1 hcounts'] at hskipped
      cases hskipped
    · exact .inl hsame
    · right
      have hordered := signs_pairwise
      rw [hsigns] at hordered
      have hnot : ¬ sign <+: sign' :=
        (List.pairwise_cons.1 (List.pairwise_append.1 hordered).2.1).1 _ hlater
      have hbegins : sign <+: arg := ⟨literal, hcounts.text.symm⟩
      have hbegins' : sign' <+: arg := ⟨literal', hcounts'.text.symm⟩
      by_contra hle
      exact hnot (List.prefix_of_prefix_length_le hbegins hbegins' (Nat.le_of_not_lt hle))

/-- Where no sign counts, all of the argument is its literal. -/
theorem parse_of_not_counts {arg : Text} (h : ∀ sign op literal, ¬ Counts arg sign op literal) :
    parse arg = (unspecified, arg) := by
  rw [parse_eq, List.findSome?_eq_none_iff.2, Option.getD_none]
  rintro ⟨sign, op⟩ hlisted
  cases hafter : after? sign op arg with
  | none => rfl
  | some literal => exact absurd ((counts_iff hlisted).2 hafter) (h sign op literal)

end Operator

/-- An argument is read by the longest sign that it begins with and that counts, so that the literal
is what follows this sign; where none counts, it has no sign and all of it is the literal.  Written
with the sign shown for its operator it is read as the same operator and literal. -/
theorem Operator.parse_by_longest_sign (arg : Text) :
    ((∃ sign op literal, Counts arg sign op literal) →
      ∃ sign, IsLongest arg sign (parse arg).1 (parse arg).2) ∧
    ((∀ sign op literal, ¬ Counts arg sign op literal) → parse arg = (unspecified, arg)) ∧
    parse ((parse arg).1.sign ++ (parse arg).2) = parse arg ∧
    Argument.parse ((parse arg).1.sign ++ (parse arg).2) = Argument.parse arg := by
  refine ⟨?_, parse_of_not_counts, parse_bare arg, ?_⟩
  · rintro ⟨sign, op, literal, hcounts⟩
    exact exists_isLongest hcounts
  · unfold Argument.parse
    rw [parse_bare]

/-- Nothing follows `!has:`, so that `!` counts, whose operator is shown as `!=`; a lone `=` does
not count at all. -/
theorem Operator.parse_by_longest_sign_nothing_follows :
    (∃ sign op literal, Counts "!has:".toList sign op literal) ∧
    (∃ sign, IsLongest "!has:".toList sign .notEqual "has:".toList) ∧
    parse "!=has:".toList = (.notEqual, "has:".toList) ∧
    (∀ sign op literal, ¬ Counts ['='] sign op literal) ∧ parse ['='] = (unspecified, ['=']) := by
  have hcounts : Counts "!has:".toList ['!'] .notEqual "has:".toList :=
    ⟨by decide, by decide, by decide⟩
  have hnone : ∀ sign op literal, ¬ Counts ['='] sign op literal := by
    have hskipped : ∀ p ∈ signs, after? p.1 p.2 ['='] = none := by decide
    intro sign op literal hcounts
    have hafter := (counts_iff hcounts.listed).1 hcounts
    rw [hskipped _ hcounts.listed] at hafter
    cases hafter
  have hread := parse_by_longest_sign "!has:".toList
  exact ⟨⟨_, _, _, hcounts⟩, hread.1 ⟨_, _, _, hcounts⟩, hread.2.2.1, hnone,
    (parse_by_longest_sign ['=']).2.1 hnone⟩

end RecordFilter
