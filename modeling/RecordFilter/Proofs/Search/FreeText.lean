import RecordFilter.Proofs.Query.Quotation
import RecordFilter.Proofs.Search.Outcome

/-!
# What free text finds

A search for text has an answer on every value: whether the text stands in a string, or in a number
as it is written.  The condition for free text holds as soon as one piece of it is found
(`Condition.holds_freeText_iff`).  The pieces can be any texts at all, since a query can quote them,
and so can the arguments of a condition (`Query.conditions_of_quotations`).
-/

namespace RecordFilter

theorem Text.occursIn_iff {needle t : Text} : occursIn needle t = true ↔ needle <:+: t := by
  induction t with
  | nil => rw [occursIn, List.isEmpty_iff, List.infix_nil]
  | cons c rest ih =>
    rw [occursIn, Bool.or_eq_true, List.isPrefixOf_iff_prefix, ih, List.infix_cons_iff]

/-- A piece of text stands in a string, or in a number as it is written; in other values nothing
does. -/
def Json.Contains (piece : Text) : Json → Prop
  | .string t => piece <:+: t
  | .number n => piece <:+: n.text
  | _ => False

theorem Json.containsText_iff {piece : Text} (hne : piece ≠ []) (value : Json) :
    value.containsText false piece = true ↔ value.Contains piece := by
  have hpiece : (!piece.isEmpty) = true := by simpa using hne
  unfold containsText
  rw [hpiece, Bool.true_and]
  cases value with
  | string t => exact Text.occursIn_iff
  | number n => exact Text.occursIn_iff
  | _ => simp [Contains]

/-- A search for text has an answer on every value. -/
theorem Test.outcome_of_containing {t : Test} (h : t.operator = .containing) (value : Json) :
    t.outcome value = .ok (value.containsText t.folded t.text) := by
  have hoperator : t.operatorFor value = .containing := by
    unfold operatorFor
    rw [h]
  unfold outcome
  rw [hoperator]
  rfl

section LetterCase

variable {o : Options} (hcase : o.ignoreCase = false)

include hcase

/-- Where letter case counts, a piece of free text is found where it stands as it is. -/
theorem Argument.outcome_freeText_iff {piece : Text} (hne : piece ≠ []) (s : Subject)
    (key : Text) :
    (freeText piece).outcome o s key = true ↔
      ∃ value, s.dig key = some value ∧ value.Contains piece := by
  have hplain : Test.plain o (freeText piece) =
      ⟨.containing, .text piece, piece, false, none⟩ := by
    have hpattern : ¬ Operator.containing.isPattern := by decide
    rw [Test.plain, freeText, if_neg hpattern, if_neg (by simp [hcase])]
  have hanswer : ∀ value, (Test.plain o (freeText piece)).outcome value =
      .ok (value.containsText false piece) := by
    intro value
    rw [hplain, Test.outcome_of_containing rfl]
  unfold outcome
  cases hdig : s.dig key with
  | none => simp
  | some value => simp [hanswer, Json.containsText_iff hne]

/-- The condition for free text holds where one of its pieces is found. -/
theorem Condition.holds_freeText_iff {pieces : List Text} (hsome : pieces ≠ [])
    (hne : ∀ t ∈ pieces, t ≠ []) (s : Subject) (key : Text) :
    Holds o s ⟨.including, key, .any, pieces.map .freeText⟩ ↔
      ∃ value, s.dig key = some value ∧ ∃ t ∈ pieces, value.Contains t := by
  have hpiece : (∃ t ∈ pieces, (Argument.freeText t).outcome o s key = true) ↔
      ∃ t ∈ pieces, ∃ value, s.dig key = some value ∧ value.Contains t :=
    exists_congr fun t => and_congr_right fun ht =>
      Argument.outcome_freeText_iff hcase (hne t ht) s key
  have harguments : pieces.map Argument.freeText ≠ [] := by simpa using hsome
  constructor
  · rintro (hnone | ⟨a, ha, hout⟩)
    · exact absurd hnone harguments
    · obtain ⟨t, ht, rfl⟩ := List.mem_map.1 ha
      obtain ⟨u, hu, value, hdig, hcontains⟩ := hpiece.1 ⟨t, ht, Bool.ne_false_iff.1 hout⟩
      exact ⟨value, hdig, u, hu, hcontains⟩
  · rintro ⟨value, hdig, t, ht, hcontains⟩
    obtain ⟨u, hu, hout⟩ := hpiece.2 ⟨t, ht, value, hdig, hcontains⟩
    exact .inr ⟨.freeText u, List.mem_map_of_mem hu, Bool.ne_false_iff.2 hout⟩

end LetterCase

namespace Query

/-- Without rules every text can be asked for as it is.  Quotations with spaces between them are
pieces of free text, of which one has to be found; quotations with commas between them, after a bare
key, are the arguments of one condition. -/
theorem conditions_of_quotations {o : Options} (ho : o.WithoutRules)
    (hphrase : o.onePhrase = false) :
    (∀ qs : List Quotation, qs ≠ [] →
        (conditions o (ofQuotations qs)).value =
            [[⟨.including, o.haystackKey, .any, qs.map fun q => .freeText q.inside⟩]] ∧
          (o.ignoreCase = false → ∀ s, isMatch o (ofQuotations qs) s = true ↔
            ∃ value, s.dig o.haystackKey = some value ∧ ∃ q ∈ qs, value.Contains q.inside)) ∧
      ∀ (key : Text) (qs : List Quotation), BareKey key →
        (∀ q ∈ qs.head?, q.inside ∉ Combination.words) →
        (conditions o (ofQuotedArguments key qs)).value =
          [[⟨.including, key, .any, qs.map fun q => .parse q.inside⟩,
            ⟨.including, o.haystackKey, .any, []⟩]] := by
  constructor
  · intro qs hqs
    have hconditions : (conditions o (ofQuotations qs)).value =
        [[⟨.including, o.haystackKey, .any, qs.map fun q => .freeText q.inside⟩]] := by
      rw [value_conditions, tokenRuns_ofQuotations hqs, List.map_singleton,
        conditionsOfRun_quotations ho hphrase]
    refine ⟨hconditions, fun hcase s => ?_⟩
    have hpieces : (qs.map fun q => Argument.freeText q.inside) =
        (qs.map (·.inside)).map .freeText := by
      rw [List.map_map]
      rfl
    rw [isMatch_eq_all, hconditions, hpieces, List.all_cons, List.all_nil, Bool.and_true,
      conditionsHold_alone Polarity.noConfusion,
      Condition.holds_freeText_iff hcase (by simpa using hqs) (Quotation.insides_nonempty qs)]
    simp only [List.mem_map, exists_exists_and_eq_and]
  · intro key qs hkey hfirst
    rw [value_conditions, tokenRuns_ofQuotedArguments hkey, List.map_singleton,
      conditionsOfRun_quotedArguments ho hkey hfirst]

/-- A bar, a colon, blanks and a mark of another kind between quotation marks; a backslash, a comma
and a bracket between backticks. -/
theorem conditions_of_quotations_marks :
    let first : Quotation := ⟨'\x22', "a | 'b: c".toList, by decide, by decide, by decide⟩
    let second : Quotation := ⟨'\x60', "\\,(".toList, by decide, by decide, by decide⟩
    let s := Subject.ofRecord (.object [("haystack".toList, .string "1\\,(2".toList)])
    ofQuotations [first, second] = "\"a | 'b: c\" `\\,(`".toList ∧
      isMatch {} (ofQuotations [first, second]) s = true ∧
      ofQuotedArguments "a|b".toList [second, first] = "a|b:`\\,(`,\"a | 'b: c\"".toList ∧
      (conditions {} (ofQuotedArguments "a|b".toList [second, first])).value =
        [[⟨.including, "a|b".toList, .any, [.parse "\\,(".toList, .parse "a | 'b: c".toList]⟩,
          ⟨.including, defaultHaystackKey, .any, []⟩]] := by
  intro first second s
  obtain ⟨hfree, harguments⟩ := conditions_of_quotations (o := {}) ⟨rfl, rfl⟩ rfl
  have hne : [first, second] ≠ [] := List.cons_ne_nil _ _
  have hdig : s.dig defaultHaystackKey = some (.string "1\\,(2".toList) := rfl
  have hcontains : (Json.string "1\\,(2".toList).Contains second.inside := ⟨['1'], ['2'], rfl⟩
  have hmatch : isMatch {} (ofQuotations [first, second]) s = true :=
    ((hfree _ hne).2 rfl s).2 ⟨_, hdig, second, by simp, hcontains⟩
  have hkey : BareKey "a|b".toList :=
    ⟨by decide, by decide, by simp [isQuote, Query.blanks]⟩
  have hfirst : ∀ q ∈ [second, first].head?, q.inside ∉ Combination.words := by
    rintro q ⟨⟩
    decide
  exact ⟨by decide, hmatch, by decide, harguments _ _ hkey hfirst⟩

end Query

end RecordFilter
