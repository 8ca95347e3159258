import RecordFilter.Proofs.Search.Meaning

/-!
# Queries as conjunctions

A query that closes its quotations can be continued: after a bar by any query, and without rules
after a blank by any condition that is not additive.  Either way the whole asks for what both of its
pieces ask for (`isMatch_compose`).
-/

namespace RecordFilter.Query

/-- Every sub-query of two queries joined by a bar is one of the first or of the second. -/
theorem isMatch_append_bar (o : Options) {q₁ : Text} (h : Closed blanks .quotes q₁) (q₂ : Text)
    (s : Subject) :
    isMatch o (q₁ ++ [' ', '|', ' '] ++ q₂) s = (isMatch o q₁ s && isMatch o q₂ s) := by
  rw [isMatch_eq, isMatch_eq, isMatch_eq, tokens_append_bar h, runsOf_append_bar, List.all_append]

theorem polarity_writtenCondition (o : Options) {key : Text} (hkey : key.head? ≠ some '+')
    (args : Text) : (writtenCondition o (key, args)).polarity ≠ .additive := by
  show (Polarity.splitKey key).1 ≠ .additive
  unfold Polarity.splitKey
  split
  · exact (by decide : Polarity.excluding ≠ .additive)
  · simp at hkey
  · exact (by decide : Polarity.including ≠ .additive)

section Condition

variable {o : Options} (ho : o.WithoutRules) {t key args : Text}
  (ht : Token.ofText t = .condition key args) (hkey : key.head? ≠ some '+')

include ho ht hkey

/-- A condition at the end of a run is asked for besides the run. -/
theorem conditionsHold_concat (s : Subject) (run : List Text) :
    conditionsHold o s (conditionsOfRun o (run ++ [t])) =
      ((writtenCondition o (key, args)).isMatch o s &&
        conditionsHold o s (conditionsOfRun o run)) := by
  obtain ⟨before, free, hrun, hlonger⟩ := conditionsOfRun_concat ho ht run
  rw [hrun, hlonger]
  exact conditionsHold_insert o s (polarity_writtenCondition o hkey args) before [free]

/-- A condition that is a whole run is all that the run asks for. -/
theorem conditionsHold_singleton (s : Subject) :
    conditionsHold o s (conditionsOfRun o [t]) =
      (writtenCondition o (key, args)).isMatch o s := by
  have hfree : (Condition.freeText o.haystackKey (phrases o [])).isMatch o s = true := by
    apply Condition.isMatch_of_isUnconstrained
    simp [phrases, Condition.freeText, Condition.isUnconstrained]
  have hempty : conditionsHold o s (conditionsOfRun o []) = true := by
    rw [conditionsOfRun_of_withoutRules ho]
    simpa [conditionsHold, Condition.freeText] using hfree
  have hlone := conditionsHold_concat ho ht hkey s []
  rw [List.nil_append] at hlone
  rw [hlone, hempty, Bool.and_true]

theorem isMatch_append_condition {q c : Text} (hq : Closed blanks .quotes q)
    (htoken : tokens c = [t]) (s : Subject) :
    isMatch o (q ++ ' ' :: c) s = (isMatch o q s && isMatch o c s) := by
  have hbar : t ≠ bar := by
    rintro rfl
    simp [bar, Token.ofText, Token.cutKey?, isQuote] at ht
  have hlone : runsOf [t] = [[t]] := runsOf_of_not_mem (by simp) (by simpa using hbar.symm)
  rw [isMatch_eq, isMatch_eq, isMatch_eq, tokens_append_blank hq, htoken, hlone]
  rcases runsOf_concat (tokens q) hbar with ⟨-, own⟩ | ⟨front, run, heq, hlonger⟩
  · rw [own, List.all_append]
  · rw [heq, hlonger, List.all_append, List.all_append]
    simp only [List.all_cons, List.all_nil, Bool.and_true]
    rw [conditionsHold_concat ho ht hkey, conditionsHold_singleton ho ht hkey]
    ac_rfl

end Condition

/-- Queries compose as conjunctions after a query that leaves no quotation open: with a bar between
them two queries ask for what both ask for, and where no rules are registered a condition at the
end, unless it is additive, is asked for besides the query before it. -/
theorem isMatch_compose (o : Options) (q₁ : Text) (s : Subject) (h : Closed blanks .quotes q₁) :
    (∀ q₂, isMatch o (q₁ ++ [' ', '|', ' '] ++ q₂) s = (isMatch o q₁ s && isMatch o q₂ s)) ∧
      (o.WithoutRules → ∀ c t key args, tokens c = [t] → Token.ofText t = .condition key args →
        key.head? ≠ some '+' →
        isMatch o (q₁ ++ [' '] ++ c) s = (isMatch o q₁ s && isMatch o c s)) := by
  refine ⟨fun q₂ => isMatch_append_bar o h q₂ s, ?_⟩
  intro ho c t key args htoken ht hkey
  rw [List.append_assoc, List.singleton_append]
  exact isMatch_append_condition ho ht hkey h htoken s

/-- A query that ends in a bar, continued by a bar and a query that begins with one, and by a
condition whose quotation has no end. -/
theorem isMatch_compose_stray_bars :
    Closed blanks .quotes ['a', ':', '\x27', ' ', '\x27', ' ', '|'] ∧
      Options.WithoutRules {} ∧
      tokens ['-', 'k', ':', '\x22', ' ', '|'] = [['-', 'k', ':', '\x22', ' ', '|']] ∧
      Token.ofText ['-', 'k', ':', '\x22', ' ', '|'] = .condition ['-', 'k'] ['\x22', ' ', '|'] ∧
      (∀ s, isMatch {} (['a', ':', '\x27', ' ', '\x27', ' ', '|'] ++ [' ', '|', ' '] ++
          ['|', ' ', 'b']) s =
        (isMatch {} ['a', ':', '\x27', ' ', '\x27', ' ', '|'] s && isMatch {} ['|', ' ', 'b'] s)) ∧
      ∀ s, isMatch {} (['a', ':', '\x27', ' ', '\x27', ' ', '|'] ++ [' '] ++
          ['-', 'k', ':', '\x22', ' ', '|']) s =
        (isMatch {} ['a', ':', '\x27', ' ', '\x27', ' ', '|'] s &&
          isMatch {} ['-', 'k', ':', '\x22', ' ', '|'] s) := by
  have hclosed : Closed blanks .quotes ['a', ':', '\x27', ' ', '\x27', ' ', '|'] := by decide
  have hrules : Options.WithoutRules {} := ⟨rfl, rfl⟩
  have htoken : tokens ['-', 'k', ':', '\x22', ' ', '|'] = [['-', 'k', ':', '\x22', ' ', '|']] := by
    decide
  have hcondition : Token.ofText ['-', 'k', ':', '\x22', ' ', '|'] =
      .condition ['-', 'k'] ['\x22', ' ', '|'] := by decide
  refine ⟨hclosed, hrules, htoken, hcondition, fun s => ?_, fun s => ?_⟩
  · exact (isMatch_compose {} _ s hclosed).1 ['|', ' ', 'b']
  · exact (isMatch_compose {} _ s hclosed).2 hrules _ _ _ _ htoken hcondition (by decide)

end RecordFilter.Query
