import RecordFilter.Search.Predicate

/-!
# What is reported on the way

Events come from the steps of a computation and from nowhere else, so a property of what each step
reports is one of what the whole reports.  Of the stages of compilation none but the last reports
that a query has been compiled, and it does so once (`compilations_compileWith`); asking a predicate
never does.
-/

namespace RecordFilter

/-- Whether an event tells that a query has been compiled. -/
def Event.isCompilation : Event → Bool
  | compiledQuery .. => true
  | _ => false

namespace Traced

variable {α β σ : Type}

/-- Every event on the way has a property. -/
def Reports (P : Event → Prop) (t : Traced α) : Prop :=
  ∀ e ∈ t.events, P e

/-- How often a query was compiled on the way. -/
def compilations (t : Traced α) : Nat :=
  t.events.countP Event.isCompilation

@[simp] theorem compilations_pure (a : α) : (pure a : Traced α).compilations = 0 := rfl

@[simp] theorem compilations_bind (t : Traced α) (f : α → Traced β) :
    (t >>= f).compilations = t.compilations + (f t.value).compilations :=
  List.countP_append

/-- Going on without compiling leaves the number as it is. -/
theorem compilations_bind_of_eq_zero {t : Traced α} {f : α → Traced β}
    (h : (f t.value).compilations = 0) : (t >>= f).compilations = t.compilations := by
  rw [compilations_bind, h, Nat.add_zero]

section Reports

variable {P : Event → Prop}

theorem reports_pure (a : α) : (pure a : Traced α).Reports P := by
  intro e he
  cases he

theorem reports_report {e : Event} (h : P e) : (report e).Reports P := by
  intro e' he'
  rw [List.mem_singleton.1 he']
  exact h

theorem Reports.bind {t : Traced α} {f : α → Traced β} (ht : t.Reports P)
    (hf : (f t.value).Reports P) : (t >>= f).Reports P := by
  intro e he
  rcases List.mem_append.1 he with h | h
  · exact ht e h
  · exact hf e h

theorem reports_any {f : α → Traced Bool} (h : ∀ a, (f a).Reports P) (as : List α) :
    (any f as).Reports P := by
  induction as with
  | nil => exact reports_pure false
  | cons a rest ih =>
    refine (h a).bind ?_
    cases (f a).value with
    | true => exact reports_pure true
    | false => exact ih

theorem reports_all {f : α → Traced Bool} (h : ∀ a, (f a).Reports P) (as : List α) :
    (all f as).Reports P := by
  induction as with
  | nil => exact reports_pure true
  | cons a rest ih =>
    refine (h a).bind ?_
    cases (f a).value with
    | true => exact ih
    | false => exact reports_pure false

theorem reports_each {f : α → Traced β} (h : ∀ a, (f a).Reports P) (as : List α) :
    (each f as).Reports P := by
  induction as with
  | nil => exact reports_pure []
  | cons a rest ih => exact (h a).bind (ih.bind (reports_pure _))

theorem reports_eachWith {f : σ → α → Traced (β × σ)} (h : ∀ s a, (f s a).Reports P)
    (as : List α) (s : σ) : (eachWith f s as).Reports P := by
  induction as generalizing s with
  | nil => exact reports_pure _
  | cons a rest ih => exact (h s a).bind ((ih _).bind (reports_pure _))

theorem reports_filter {f : α → Traced Bool} (h : ∀ a, (f a).Reports P) (as : List α) :
    (filter f as).Reports P := by
  induction as with
  | nil => exact reports_pure []
  | cons a rest ih => exact (h a).bind (ih.bind (reports_pure _))

end Reports

/-- Nothing is reported as compiled. -/
def Silent (t : Traced α) : Prop :=
  t.Reports fun e => e.isCompilation = false

theorem silent_report_bind {e : Event} (he : e.isCompilation = false) {f : Unit → Traced α}
    (hf : (f ()).Silent) : (report e >>= f).Silent :=
  (reports_report he).bind hf

theorem Silent.compilations_eq {t : Traced α} (h : t.Silent) : t.compilations = 0 :=
  List.countP_eq_zero.2 fun e he => by simp [h e he]

end Traced

open Traced

namespace Query

section Reports

variable {P : Event → Prop}

theorem reports_expandFreeText (hrule : ∀ t pattern e, P (.textRuleApplied t pattern e))
    (rules : List TextRule) (t : Text) : (expandFreeText rules t).Reports P := by
  unfold expandFreeText
  split
  · exact reports_pure _
  · refine (reports_each (fun rule => ?_) _).bind (reports_pure _)
    exact (reports_report (hrule t _ _)).bind (reports_pure _)

theorem reports_compileCondition (hrule : ∀ key e, P (.conditionRuleApplied key e))
    (o : Options) (c : Text × Text) : (compileCondition o c).Reports P := by
  unfold compileCondition
  dsimp only
  split
  · exact reports_pure _
  · exact (reports_report (hrule _ _)).bind (reports_pure _)

/-- Reading a sub-query reports the rules that apply and nothing else. -/
theorem reports_conditionsOfPart (htext : ∀ t pattern e, P (.textRuleApplied t pattern e))
    (hcondition : ∀ key e, P (.conditionRuleApplied key e)) (o : Options) (subQuery : Text) :
    (conditionsOfPart o subQuery).Reports P := by
  refine (reports_each (reports_expandFreeText htext o.textRules) _).bind ?_
  exact (reports_each (reports_compileCondition hcondition o) _).bind (reports_pure _)

end Reports

theorem silent_conditionsOfPart (o : Options) (subQuery : Text) :
    (conditionsOfPart o subQuery).Silent :=
  reports_conditionsOfPart (fun _ _ _ => rfl) (fun _ _ => rfl) o subQuery

end Query

theorem PatternCache.silent_get (c : PatternCache) (source : Text) (anyCase : Bool) :
    (c.get source anyCase).Silent := by
  cases hfind : (c.part anyCase).find? source with
  | some p =>
    rw [PatternCache.get_of_found hfind]
    exact reports_pure _
  | none =>
    cases hcompile : Pattern.compile anyCase source with
    | ok p =>
      rw [PatternCache.get_of_missing hfind hcompile]
      exact reports_report rfl
    | error fault =>
      rw [PatternCache.get_of_unusable hfind hcompile]
      exact reports_report rfl

theorem Test.silent_ofArgument (o : Options) (c : PatternCache) (a : Argument) :
    (Test.ofArgument o c a).Silent := by
  unfold Test.ofArgument
  split
  · refine (c.silent_get _ _).bind ?_
    rcases (c.get a.raw (a.operator == .patternAnyCase || o.ignoreCase)).value with ⟨_ | p, c⟩
    · exact silent_report_bind rfl (reports_pure _)
    · exact reports_pure _
  · split
    · exact reports_pure _
    · exact reports_pure _

namespace Check

theorem silent_ofCondition (o : Options) (c : PatternCache) (condition : Condition) :
    (Check.ofCondition o c condition).Silent :=
  (reports_eachWith (Test.silent_ofArgument o) condition.arguments c).bind (reports_pure _)

/-- Trying a check reports the mismatches that the policy decides about and nothing else. -/
theorem reports_run {P : Event → Prop} (hmismatch : ∀ key m, P (.resolvingMismatch key m))
    (policy : FaultPolicy) (c : Check) (s : Subject) : (c.run policy s).Reports P := by
  have hanswer : ∀ value t, (answer policy c.key value t).Reports P := by
    intro value t
    unfold answer
    cases value with
    | none => exact reports_pure _
    | some v =>
      dsimp only
      split
      · exact reports_pure _
      · exact (reports_report (hmismatch c.key _)).bind (reports_pure _)
  have hcontribution : ∀ value t, (c.contribution policy value t).Reports P :=
    fun value t => (hanswer value t).bind (reports_pure _)
  unfold Check.run
  split
  · exact reports_pure _
  · cases c.combination with
    | any => exact reports_any (hcontribution _) c.tests
    | all => exact reports_all (hcontribution _) c.tests

end Check

theorem Clause.silent_ofConditions (o : Options) (c : PatternCache) (conditions : List Condition) :
    (Clause.ofConditions o c conditions).Silent :=
  (reports_eachWith (Check.silent_ofCondition o) conditions c).bind (reports_pure _)

theorem Clause.reports_run {P : Event → Prop} (hmismatch : ∀ key m, P (.resolvingMismatch key m))
    (policy : FaultPolicy) (c : Clause) (s : Subject) : (c.run policy s).Reports P := by
  have hcheck : ∀ k : Check, (k.run policy s).Reports P := fun k =>
    k.reports_run hmismatch policy s
  refine (reports_all hcheck c.required).bind ?_
  split
  · split
    · exact reports_pure _
    · exact reports_any hcheck c.additive
  · exact reports_pure _

namespace Predicate

theorem silent_compilePart (o : Options) (c : PatternCache) (subQuery : Text) :
    (Predicate.compilePart o c subQuery).Silent :=
  (Query.silent_conditionsOfPart o subQuery).bind (Clause.silent_ofConditions o c _)

theorem reports_run {P : Event → Prop} (hmismatch : ∀ key m, P (.resolvingMismatch key m))
    (p : Predicate) (s : Subject) : (p.run s).Reports P :=
  reports_all (fun c => c.reports_run hmismatch p.faultPolicy s) p.clauses

/-- Asking a predicate compiles nothing. -/
theorem silent_run (p : Predicate) (s : Subject) : (p.run s).Silent :=
  reports_run (fun _ _ => rfl) p s

/-- Making a query ready is reported once. -/
theorem compilations_compileWith (o : Options) (c : PatternCache) (query : Text) :
    (Predicate.compileWith o c query).compilations = 1 := by
  have hparts : (Traced.eachWith (compilePart o) c (Query.subQueries query)).compilations = 0 :=
    Silent.compilations_eq (reports_eachWith (silent_compilePart o) _ c)
  unfold Predicate.compileWith
  rw [compilations_bind, hparts]
  rfl

end Predicate

end RecordFilter
