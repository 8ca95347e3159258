import RecordFilter.Proofs.Query.RunConditions
import RecordFilter.Proofs.Query.Runs
import RecordFilter.Proofs.Search.Compilation

/-!
# What a query says about a subject

A query holds of a subject when the conditions of each of its runs do (`Query.isMatch_eq`).  Both
sides of this equation are Boolean: what is reported on the way is left out.
-/

namespace RecordFilter

/-- Whether a subject fulfils a condition. -/
def Condition.isMatch (o : Options) (s : Subject) (c : Condition) : Bool :=
  ((Check.plain o c).run o.faultPolicy s).value

/-- A condition without arguments asks for nothing. -/
theorem Condition.isMatch_of_isUnconstrained (o : Options) (s : Subject) {c : Condition}
    (h : c.isUnconstrained) : c.isMatch o s = true := by
  have htests : (Check.plain o c).tests.isEmpty := by
    rw [Check.plain, List.isEmpty_map]
    exact h
  unfold isMatch Check.run
  rw [if_pos htests]
  rfl

theorem Clause.value_run (policy : FaultPolicy) (c : Clause) (s : Subject) :
    (c.run policy s).value =
      (c.required.all (fun k => (k.run policy s).value) &&
        (c.additive.isEmpty || c.additive.any fun k => (k.run policy s).value)) := by
  unfold Clause.run
  cases hrequired : c.required.all fun k => (k.run policy s).value with
  | false => simp [hrequired]
  | true =>
    cases hadditive : c.additive.isEmpty with
    | true => simp [hrequired]
    | false => simp [hrequired]

namespace Query

/-- Whether a subject fulfils the conditions of a sub-query: every one that is not additive and,
where some are additive, one of these. -/
def conditionsHold (o : Options) (s : Subject) (cs : List Condition) : Bool :=
  (cs.filter (·.polarity != .additive)).all (·.isMatch o s) &&
    ((cs.filter (·.polarity == .additive)).isEmpty ||
      (cs.filter (·.polarity == .additive)).any (·.isMatch o s))

theorem value_run_plain (o : Options) (s : Subject) (cs : List Condition) :
    ((Clause.plain o cs).run o.faultPolicy s).value = conditionsHold o s cs := by
  rw [Clause.value_run, Clause.plain, conditionsHold]
  simp only [List.filter_map, List.all_map, List.any_map, List.isEmpty_map]
  rfl

/-- A condition that is not additive is asked for besides the others, wherever it stands. -/
theorem conditionsHold_insert (o : Options) (s : Subject) {c : Condition}
    (hc : c.polarity ≠ .additive) (before after : List Condition) :
    conditionsHold o s (before ++ c :: after) =
      (c.isMatch o s && conditionsHold o s (before ++ after)) := by
  have hrequired : (before ++ c :: after).filter (·.polarity != .additive) =
      before.filter (·.polarity != .additive) ++ c :: after.filter (·.polarity != .additive) := by
    simp [hc]
  have hadditive : (before ++ c :: after).filter (·.polarity == .additive) =
      (before ++ after).filter (·.polarity == .additive) := by
    simp [hc]
  have hothers : (before ++ after).filter (·.polarity != .additive) =
      before.filter (·.polarity != .additive) ++ after.filter (·.polarity != .additive) :=
    List.filter_append ..
  unfold conditionsHold
  rw [hrequired, hadditive, hothers, List.all_append, List.all_append, List.all_cons]
  ac_rfl

/-- Whether a subject matches a query. -/
def isMatch (o : Options) (query : Text) (s : Subject) : Bool :=
  (Predicate.compile o query).value.isMatch s

theorem isMatch_eq (o : Options) (query : Text) (s : Subject) :
    isMatch o query s =
      (runsOf (tokens query)).all fun run => conditionsHold o s (conditionsOfRun o run) := by
  have hclause : ∀ subQuery, ((Clause.plain o (conditionsOfPart o subQuery).value).run
      o.faultPolicy s).value = conditionsHold o s (conditionsOfRun o (tokens subQuery)) := by
    intro subQuery
    rw [value_run_plain, value_conditionsOfPart]
  have hruns : runsOf (tokens query) = (subQueries query).map tokens :=
    (map_tokens_subQueries query).symm
  unfold isMatch
  rw [Predicate.value_compile, Predicate.isMatch, Predicate.run, Traced.value_all,
    Predicate.plain, hruns, List.all_map, List.all_map]
  simp only [Function.comp_def, hclause]

/-- The conditions shown for a query are those of its runs. -/
theorem value_conditions (o : Options) (query : Text) :
    (conditions o query).value = (tokenRuns query).map (conditionsOfRun o) := by
  rw [conditions, Traced.value_each, ← map_tokens_subQueries, List.map_map]
  simp only [value_conditionsOfPart, Function.comp_def]

/-- A query is matched when the conditions shown for every sub-query hold. -/
theorem isMatch_eq_all (o : Options) (query : Text) (s : Subject) :
    isMatch o query s = (conditions o query).value.all (conditionsHold o s) := by
  rw [isMatch_eq, value_conditions, List.all_map, tokenRuns_eq]
  rfl

/-- A query without tokens asks for nothing. -/
theorem isMatch_nil (o : Options) (s : Subject) : isMatch o [] s = true := by
  have htokens : tokens [] = [] := split_nil blanks .quotes false
  rw [isMatch_eq, htokens, runsOf_nil, List.all_nil]

end Query

end RecordFilter
