import RecordFilter.Proofs.Search.Compilation
import RecordFilter.Proofs.Search.Steps

/-!
# Caches do not show

Whatever an engine has compiled, kept, given up or forgotten before, each of its answers is the one
that compiling the query by itself gives (`run_as_standalone`).  The invariant says of every
predicate kept that it is its query's own, and of the patterns that their cache is sound; room plays
no part in it, so it holds for every capacity.
-/

namespace RecordFilter.Engine

/-- An engine with the given options that keeps nothing but what compiling yields. -/
structure Sound (o : Options) (e : Engine) : Prop where
  options : e.options = o
  patterns : e.patterns.Sound
  predicates : e.predicates.Holds fun query entry => entry.value = Predicate.plain o query

theorem sound_ofOptions (o : Options) : (ofOptions o).Sound o where
  options := rfl
  patterns := PatternCache.sound_empty o.cacheCapacity
  predicates := Cache.holds_empty _ o.cacheCapacity

variable {o : Options} {e : Engine}

theorem Sound.clear (h : e.Sound o) : e.clear.Sound o where
  options := h.options
  patterns := PatternCache.sound_clear e.patterns
  predicates := Cache.holds_clear _ e.predicates

theorem compile_spec (h : e.Sound o) (query : Text) :
    (e.compile query).value.1 = Predicate.plain o query ∧ (e.compile query).value.2.Sound o := by
  obtain ⟨hvalue, hpatterns⟩ := Predicate.compileWith_spec e.options query h.patterns
  rw [h.options] at hvalue
  refine ⟨?_, h.options, hpatterns, h.predicates⟩
  rw [← hvalue, ← h.options]
  rfl

/-- A request yields the predicate of its query, whether it is kept or compiled now. -/
theorem request_spec (h : e.Sound o) (query : Text) :
    (e.request query).value.1.value = Predicate.plain o query ∧
      (e.request query).value.2.Sound o := by
  cases hfind : e.predicates.find? query with
  | some entry =>
    have hentry : entry.value = Predicate.plain o query := h.predicates.of_find? hfind
    rw [request_of_found hfind]
    exact ⟨hentry, h.options, h.patterns, h.predicates.insert hentry⟩
  | none =>
    obtain ⟨hvalue, hsound⟩ := compile_spec h query
    rw [request_of_missing hfind]
    exact ⟨hvalue, hsound.options, hsound.patterns, h.predicates.insert hvalue⟩

variable {α : Type}

theorem searchBy_spec (record : α → Json) (h : e.Sound o) (items : List α) (query : Text) :
    (e.searchBy record items query).value.1 =
        items.filter (fun a => (Predicate.plain o query).isMatch (.ofRecord (record a))) ∧
      (e.searchBy record items query).value.2.Sound o := by
  obtain ⟨hvalue, hsound⟩ := request_spec h query
  refine ⟨?_, hsound⟩
  rw [← hvalue]
  exact Traced.value_filter _ items

/-- The matches of a query in the order that its directive asks for, if there is one. -/
def arranged : Option SortDirective → List Json → List Json
  | none, found => found
  | some d, found => sortAt d.key d.descending found

theorem searchAndSort_spec (h : e.Sound o) (records : List Json) (query : Text) :
    (e.searchAndSort records query).value.1 =
        arranged (SortDirective.takeFrom query).2
          (records.filter fun r =>
            (Predicate.plain o (SortDirective.takeFrom query).1).isMatch (.ofRecord r)) ∧
      (e.searchAndSort records query).value.2.Sound o := by
  obtain ⟨hvalue, hsound⟩ := searchBy_spec id h records (SortDirective.takeFrom query).1
  unfold searchAndSort searchAndSortBy
  rcases htake : SortDirective.takeFrom query with ⟨head, _ | d⟩
  · rw [htake] at hvalue hsound
    exact ⟨hvalue, hsound⟩
  · rw [htake] at hvalue hsound
    exact ⟨congrArg (sortAt d.key d.descending) hvalue, hsound⟩

/-- An answer is the one that a query compiled by itself gives: predicates answer alike on every
subject, searches yield the same records in the same order. -/
def AsStandalone (o : Options) : Step → Answer → Prop
  | .compile query, .predicate p =>
    ∀ s, p.isMatch s = (Predicate.compile o query).value.isMatch s
  | .request query, .kept p =>
    ∀ s, p.value.isMatch s = (Predicate.compile o query).value.isMatch s
  | .search records query, .records found =>
    found = records.filter fun r => (Predicate.compile o query).value.isMatch (.ofRecord r)
  | .searchAndSort records query, .records found =>
    found = arranged (SortDirective.takeFrom query).2 (records.filter fun r =>
      (Predicate.compile o (SortDirective.takeFrom query).1).value.isMatch (.ofRecord r))
  | .conditions query, .conditions c => c = (Query.conditions o query).value
  | .clear, .cleared => True
  | _, _ => False

/-- A step of a sound engine is answered as by itself and leaves the engine sound. -/
theorem perform_spec (step : Step) (h : e.Sound o) :
    AsStandalone o step (e.perform step).value.1 ∧ (e.perform step).value.2.Sound o := by
  cases step with
  | compile query =>
    obtain ⟨hvalue, hsound⟩ := compile_spec h query
    refine ⟨fun s => ?_, hsound⟩
    rw [Predicate.value_compile, ← hvalue]
    rfl
  | request query =>
    obtain ⟨hvalue, hsound⟩ := request_spec h query
    refine ⟨fun s => ?_, hsound⟩
    rw [Predicate.value_compile, ← hvalue]
  | search records query =>
    obtain ⟨hvalue, hsound⟩ := searchBy_spec id h records query
    refine ⟨?_, hsound⟩
    show (e.search records query).value.1 = _
    rw [Predicate.value_compile]
    exact hvalue
  | searchAndSort records query =>
    obtain ⟨hvalue, hsound⟩ := searchAndSort_spec h records query
    refine ⟨?_, hsound⟩
    show (e.searchAndSort records query).value.1 = _
    rw [Predicate.value_compile]
    exact hvalue
  | conditions query =>
    refine ⟨?_, h⟩
    show (Query.conditions e.options query).value = (Query.conditions o query).value
    rw [h.options]
  | clear => exact ⟨trivial, h.clear⟩

/-- In every run from a new engine, whatever room its caches have, every answer is the one that the
query compiled by itself gives. -/
theorem run_as_standalone (o : Options) (steps : List Step) :
    List.Forall₂ (AsStandalone o) steps ((ofOptions o).run steps).value.1 :=
  (Traced.eachWith_rel (fun _ step h => perform_spec step h) steps (sound_ofOptions o)).1

end RecordFilter.Engine
