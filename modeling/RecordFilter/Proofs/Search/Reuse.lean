import RecordFilter.Proofs.Search.Recency
import RecordFilter.Proofs.Search.Reports
import RecordFilter.Proofs.Search.Transparency

/-!
# When a predicate is used again

A request for a query is answered with the predicate of the last request for it as long as the query
is recent: the engine has not been cleared since, and fewer different other queries have been asked
for than there is room for.  Otherwise the query is compiled, once (`reuse_iff_recent`).
`request_cases` says all that a request can do, `perform_of_query?` and its companions all that a
step can; `Follows` ties the predicates kept to the queries asked for, along every run.
-/

namespace RecordFilter.Engine

/-- The query for which a step needs a predicate that is kept. -/
def Step.query? : Step → Option Text
  | .request query | .search _ query => some query
  | .searchAndSort _ query => some (SortDirective.takeFrom query).1
  | .compile _ | .conditions _ | .clear => none

/-- The queries asked for since the engine was last cleared, one step later. -/
def askedAfter (queries : List Text) : Step → List Text
  | .clear => []
  | step => queries ++ step.query?.toList

/-- The queries asked for in a run since the engine was last cleared. -/
def asked (steps : List Step) : List Text :=
  steps.foldl askedAfter []

/-- A query is recent: it was asked for, and there is room for its predicate beside those of the
different queries asked for since. -/
def Recent (capacity : Option Nat) (query : Text) (queries : List Text) : Prop :=
  ∃ before after, queries = before ++ query :: after ∧ query ∉ after ∧
    ∀ n, capacity = some n → after.dedup.length < max 1 n

/-- A new engine after a run. -/
def after (o : Options) (steps : List Step) : Engine :=
  ((ofOptions o).run steps).value.2

/-- The predicate that a query gets after a run. -/
def served (o : Options) (steps : List Step) (query : Text) : Numbered Predicate :=
  ((after o steps).request query).value.1

/-- A step is answered with a predicate: it yields it, or what it finds among the records. -/
def AnsweredWith (p : Numbered Predicate) : Step → Answer → Prop
  | .request _, .kept p' => p' = p
  | .search records _, .records found =>
    found = records.filter fun r => p.value.isMatch (.ofRecord r)
  | .searchAndSort records query, .records found =>
    found = arranged (SortDirective.takeFrom query).2
      (records.filter fun r => p.value.isMatch (.ofRecord r))
  | _, _ => False

/-- A predicate is the one that the last step of a run which needed one for the query got. -/
def LastServed (o : Options) (steps : List Step) (query : Text) (p : Numbered Predicate) : Prop :=
  ∃ earlier last later, steps = earlier ++ last :: later ∧ last.query? = some query ∧
    (∀ step ∈ later, step.query? ≠ some query) ∧
    p = served o earlier query

/-- A predicate is none of those that the steps of a run got. -/
def NeverServed (o : Options) (steps : List Step) (p : Numbered Predicate) : Prop :=
  ∀ earlier step later query, steps = earlier ++ step :: later → step.query? = some query →
    p.number ≠ (served o earlier query).number

theorem asked_concat (steps : List Step) (step : Step) :
    asked (steps ++ [step]) = askedAfter (asked steps) step := by
  simp [asked]

theorem askedAfter_of_ne_clear {step : Step} (h : step ≠ .clear) (queries : List Text) :
    askedAfter queries step = queries ++ step.query?.toList := by
  cases step with
  | clear => exact absurd rfl h
  | compile _ | request _ | search _ _ | searchAndSort _ _ | conditions _ => rfl

theorem askedAfter_of_query? {step : Step} {query : Text} (h : step.query? = some query)
    (queries : List Text) : askedAfter queries step = queries ++ [query] := by
  have hclear : step ≠ .clear := by
    rintro rfl
    cases h
  rw [askedAfter_of_ne_clear hclear, h]
  rfl

/-! ### One request -/

section Request

variable (e : Engine) (query : Text)

/-- A request finds a predicate and compiles nothing, or finds none and compiles one, to which it
gives the next number.  Either way it leaves it behind under its query. -/
theorem request_cases :
    (e.predicates.find? query = some (e.request query).value.1 ∧
        (e.request query).compilations = 0 ∧ (e.request query).value.2.next = e.next ∧
        (e.request query).value.2.predicates =
          e.predicates.insert query (e.request query).value.1) ∨
      (e.predicates.find? query = none ∧ (e.request query).value.1.number = e.next ∧
        (e.request query).compilations = 1 ∧ (e.request query).value.2.next = e.next + 1 ∧
        (e.request query).value.2.predicates =
          e.predicates.insert query (e.request query).value.1) := by
  cases hfind : e.predicates.find? query with
  | some entry =>
    left
    rw [request_of_found hfind]
    exact ⟨rfl, rfl, rfl, rfl⟩
  | none =>
    have hcompile : (e.compile query).compilations = 1 :=
      (Traced.compilations_bind_of_eq_zero rfl).trans
        (Predicate.compilations_compileWith e.options e.patterns query)
    right
    rw [request_of_missing hfind]
    exact ⟨rfl, rfl, hcompile, rfl, rfl⟩

theorem predicates_request : (e.request query).value.2.predicates =
    e.predicates.insert query (e.request query).value.1 := by
  rcases request_cases e query with ⟨-, -, -, h⟩ | ⟨-, -, -, -, h⟩
  · exact h
  · exact h

theorem next_le_request : e.next ≤ (e.request query).value.2.next := by
  rcases request_cases e query with ⟨-, -, h, -⟩ | ⟨-, -, -, h, -⟩
  · exact h.ge
  · omega

theorem number_lt_next_request (h : e.predicates.Holds fun _ p => p.number < e.next) :
    (e.request query).value.1.number < (e.request query).value.2.next := by
  rcases request_cases e query with ⟨hfind, -, hnext, -⟩ | ⟨-, hnumber, -, hnext, -⟩
  · rw [hnext]
    exact h.of_find? hfind
  · omega

end Request

/-! ### One step -/

section Step

variable (e : Engine)

/-- A step that needs a predicate requests it once and does nothing else to the engine. -/
theorem perform_of_query? {step : Step} {query : Text} (h : step.query? = some query) :
    (e.perform step).value.2 = (e.request query).value.2 ∧
      (e.perform step).compilations = (e.request query).compilations ∧
      AnsweredWith (e.request query).value.1 step (e.perform step).value.1 := by
  have hsearch : ∀ records : List Json,
      (e.searchBy id records query).value.2 = (e.request query).value.2 ∧
        (e.searchBy id records query).compilations = (e.request query).compilations ∧
        (e.searchBy id records query).value.1 =
          records.filter fun r => (e.request query).value.1.value.isMatch (.ofRecord r) := by
    intro records
    have hfilter : (Traced.filter (fun r =>
        (e.request query).value.1.value.run (.ofRecord (id r))) records).compilations = 0 :=
      Traced.Silent.compilations_eq
        (Traced.reports_filter (fun r => Predicate.silent_run _ (.ofRecord r)) records)
    refine ⟨rfl, ?_, Traced.value_filter _ records⟩
    exact Traced.compilations_bind_of_eq_zero
      ((Traced.compilations_bind_of_eq_zero rfl).trans hfilter)
  cases step with
  | request query' =>
    obtain rfl : query' = query := Option.some.inj h
    exact ⟨rfl, Traced.compilations_bind_of_eq_zero rfl, rfl⟩
  | search records query' =>
    obtain rfl : query' = query := Option.some.inj h
    obtain ⟨hengine, hcompilations, hfound⟩ := hsearch records
    exact ⟨hengine, (Traced.compilations_bind_of_eq_zero rfl).trans hcompilations, hfound⟩
  | searchAndSort records query' =>
    have htake : (SortDirective.takeFrom query').1 = query := Option.some.inj h
    obtain ⟨hengine, hcompilations, hfound⟩ := hsearch records
    have hsort : (e.searchAndSort records query').value.2 = (e.request query).value.2 ∧
        (e.searchAndSort records query').compilations = (e.request query).compilations ∧
        (e.searchAndSort records query').value.1 = arranged (SortDirective.takeFrom query').2
          (records.filter fun r => (e.request query).value.1.value.isMatch (.ofRecord r)) := by
      unfold searchAndSort searchAndSortBy
      rcases hdirective : SortDirective.takeFrom query' with ⟨head, _ | d⟩
      · obtain rfl : head = query := by rw [← htake, hdirective]
        exact ⟨hengine, (Traced.compilations_bind_of_eq_zero rfl).trans hcompilations, hfound⟩
      · obtain rfl : head = query := by rw [← htake, hdirective]
        exact ⟨hengine, (Traced.compilations_bind_of_eq_zero rfl).trans hcompilations,
          congrArg (sortAt d.key d.descending) hfound⟩
    obtain ⟨hengine, hcompilations, hfound⟩ := hsort
    exact ⟨hengine, (Traced.compilations_bind_of_eq_zero rfl).trans hcompilations, hfound⟩
  | compile _ | conditions _ | clear => simp [Step.query?] at h

/-- Any other step but clearing leaves the predicates alone. -/
theorem perform_of_query?_eq_none {step : Step} (h : step.query? = none) (hclear : step ≠ .clear) :
    (e.perform step).value.2.predicates = e.predicates ∧
      (e.perform step).value.2.next = e.next := by
  cases step with
  | compile query => exact ⟨rfl, rfl⟩
  | conditions query => exact ⟨rfl, rfl⟩
  | clear => exact absurd rfl hclear
  | request query | search records query | searchAndSort records query => simp [Step.query?] at h

/-- Numbers are given in ascending order. -/
theorem next_le_perform (step : Step) : e.next ≤ (e.perform step).value.2.next := by
  cases hquery : step.query? with
  | some query =>
    rw [(e.perform_of_query? hquery).1]
    exact e.next_le_request query
  | none =>
    by_cases hclear : step = .clear
    · subst hclear
      exact Nat.le_refl _
    · exact (e.perform_of_query?_eq_none hquery hclear).2.ge

end Step

/-! ### A run -/

section Run

variable (o : Options)

theorem after_concat (steps : List Step) (step : Step) :
    after o (steps ++ [step]) = ((after o steps).perform step).value.2 :=
  Traced.state_eachWith_concat perform (ofOptions o) steps step

theorem next_le_after_append (earlier later : List Step) :
    (after o earlier).next ≤ (after o (earlier ++ later)).next := by
  induction later using List.reverseRecOn with
  | nil => simp
  | append_singleton later step ih =>
    rw [← List.append_assoc, after_concat]
    exact ih.trans (next_le_perform _ step)

/-- What an engine keeps after a run: the predicates of the queries asked for last, each the one
that was served last, with a number given by then. -/
structure Follows (steps : List Step) (e : Engine) : Prop where
  capacity : e.predicates.capacity = o.cacheCapacity
  keys : e.predicates.keys = Cache.recent o.cacheCapacity (asked steps)
  served : e.predicates.Holds (LastServed o steps)
  numbered : e.predicates.Holds fun _ p => p.number < e.next

variable {o}

theorem LastServed.concat {steps : List Step} {query : Text} {p : Numbered Predicate}
    (h : LastServed o steps query p) {step : Step} (hstep : step.query? ≠ some query) :
    LastServed o (steps ++ [step]) query p := by
  obtain ⟨earlier, last, later, rfl, hlast, hlater, hp⟩ := h
  refine ⟨earlier, last, later ++ [step], by simp, hlast, ?_, hp⟩
  intro other hother
  rcases List.mem_append.1 hother with hold | hnew
  · exact hlater other hold
  · rw [List.mem_singleton.1 hnew]
    exact hstep

theorem Follows.of_query? {steps : List Step} (h : Follows o steps (after o steps)) {step : Step}
    {query : Text} (hquery : step.query? = some query) :
    Follows o (steps ++ [step]) ((after o steps).request query).value.2 := by
  have hpredicates := (after o steps).predicates_request query
  refine ⟨?_, ?_, ?_, ?_⟩
  · rw [hpredicates]
    exact h.capacity
  · rw [hpredicates, asked_concat, askedAfter_of_query? hquery, ← h.capacity]
    exact Cache.keys_insert (by rw [h.keys, h.capacity]) query _
  · rw [hpredicates]
    intro entry hentry
    rcases Cache.mem_insert hentry with rfl | ⟨hold, hkey⟩
    · exact ⟨steps, step, [], rfl, hquery, by simp, rfl⟩
    · refine (h.served entry hold).concat ?_
      rw [hquery]
      exact fun heq => hkey (Option.some.inj heq).symm
  · rw [hpredicates]
    refine Cache.Holds.insert ?_ (number_lt_next_request _ query h.numbered)
    intro entry hentry
    exact (h.numbered entry hentry).trans_le (next_le_request _ query)

/-- Steps that need no predicate, clearing apart, count for nothing. -/
theorem Follows.of_query?_eq_none {steps : List Step} {e e' : Engine} (h : Follows o steps e)
    {step : Step} (hquery : step.query? = none) (hclear : step ≠ .clear)
    (hpredicates : e'.predicates = e.predicates) (hnext : e'.next = e.next) :
    Follows o (steps ++ [step]) e' := by
  have hasked : asked (steps ++ [step]) = asked steps := by
    rw [asked_concat, askedAfter_of_ne_clear hclear, hquery]
    exact List.append_nil _
  refine ⟨?_, ?_, ?_, ?_⟩
  · rw [hpredicates]
    exact h.capacity
  · rw [hpredicates, hasked]
    exact h.keys
  · rw [hpredicates]
    intro entry hentry
    exact (h.served entry hentry).concat (by simp [hquery])
  · rw [hpredicates, hnext]
    exact h.numbered

/-- Along every run the engine keeps what it should. -/
theorem follows_after (o : Options) (steps : List Step) : Follows o steps (after o steps) := by
  have hnothing : Cache.recent o.cacheCapacity ([] : List Text) = [] :=
    List.eq_nil_of_subset_nil (Cache.recent_subset o.cacheCapacity [])
  induction steps using List.reverseRecOn with
  | nil => exact ⟨rfl, hnothing.symm, Cache.holds_empty _ _, Cache.holds_empty _ _⟩
  | append_singleton steps step ih =>
    rw [after_concat]
    cases hquery : step.query? with
    | some query =>
      rw [(perform_of_query? _ hquery).1]
      exact ih.of_query? hquery
    | none =>
      by_cases hclear : step = .clear
      · subst hclear
        refine ⟨ih.capacity, ?_, Cache.holds_clear _ _, Cache.holds_clear _ _⟩
        rw [asked_concat]
        exact hnothing.symm
      · obtain ⟨hpredicates, hnext⟩ := perform_of_query?_eq_none _ hquery hclear
        exact ih.of_query?_eq_none hquery hclear hpredicates hnext

/-- What is compiled now gets a number that no predicate served before has. -/
theorem neverServed_of_number {steps : List Step} {p : Numbered Predicate}
    (h : p.number = (after o steps).next) : NeverServed o steps p := by
  rintro earlier step later query rfl hquery heq
  have hnumber : (served o earlier query).number < ((after o earlier).request query).value.2.next :=
    number_lt_next_request _ query (follows_after o earlier).numbered
  have hlater : (after o (earlier ++ [step])).next ≤ (after o (earlier ++ step :: later)).next := by
    simpa using next_le_after_append o (earlier ++ [step]) later
  rw [after_concat, (perform_of_query? _ hquery).1] at hlater
  omega

end Run

/-- After every run: as many predicates are kept as there were different queries asked for since the
engine was last cleared, but no more than there is room for.  A step that needs the predicate of a
query compiles nothing and is answered with the very predicate that the last such step got, exactly
when the query is recent; otherwise the query is compiled, once, to a predicate that no step got
before.  Any other step but clearing leaves the predicates alone. -/
theorem reuse_iff_recent (o : Options) (steps : List Step) (step : Step) :
    ((after o steps).keptPredicates =
      match o.cacheCapacity with
      | none => (asked steps).dedup.length
      | some n => min (max 1 n) (asked steps).dedup.length) ∧
    (step.query? = none → step ≠ .clear →
      ((after o steps).perform step).value.2.predicates = (after o steps).predicates) ∧
    ∀ query, step.query? = some query →
      AnsweredWith (served o steps query) step ((after o steps).perform step).value.1 ∧
      ((((after o steps).perform step).compilations = 0 ∧
          LastServed o steps query (served o steps query)) ↔
        Recent o.cacheCapacity query (asked steps)) ∧
      (¬ Recent o.cacheCapacity query (asked steps) →
        ((after o steps).perform step).compilations = 1 ∧
          NeverServed o steps (served o steps query)) := by
  have hfollows := follows_after o steps
  refine ⟨?_, fun hnone hclear => (perform_of_query?_eq_none _ hnone hclear).1, ?_⟩
  · have hkept : (after o steps).keptPredicates = (after o steps).predicates.keys.length :=
      (List.length_map _).symm
    rw [hkept, hfollows.keys]
    exact Cache.length_recent ..
  · intro query hquery
    obtain ⟨-, hcompilations, hanswer⟩ := perform_of_query? (after o steps) hquery
    refine ⟨hanswer, ?_⟩
    have hrecent : ((after o steps).predicates.find? query).isSome ↔
        Recent o.cacheCapacity query (asked steps) := by
      rw [Cache.find?_isSome_iff, hfollows.keys]
      exact Cache.mem_recent_iff ..
    rw [hcompilations, ← hrecent]
    rcases request_cases (after o steps) query with ⟨hfind, hzero, -⟩ | ⟨hfind, hnumber, hone, -⟩
    · have hlast : LastServed o steps query (served o steps query) := hfollows.served.of_find? hfind
      simp [hfind, hzero, hlast]
    · have hnever : NeverServed o steps (served o steps query) := neverServed_of_number hnumber
      simp [hfind, hone, hnever]

/-- With room for two predicates, the first stays while a third query is made ready without being
kept, and goes when that query is asked for. -/
theorem reuse_iff_recent_two :
    let o : Options := { cacheCapacity := some 2 }
    let two := [Step.request ['a'], .searchAndSort [] "b x::desc".toList]
    ((after o (two ++ [.compile ['c']])).perform (.search [] ['a'])).compilations = 0 ∧
      ((after o (two ++ [.request ['c']])).perform (.search [] ['a'])).compilations = 1 ∧
      ((after o two).perform (.compile ['c'])).value.2.predicates = (after o two).predicates := by
  intro o two
  have hkept : Recent o.cacheCapacity ['a'] (asked (two ++ [.compile ['c']])) :=
    (Cache.mem_recent_iff ..).1 (by decide)
  have hgone : ¬ Recent o.cacheCapacity ['a'] (asked (two ++ [.request ['c']])) :=
    fun h => absurd ((Cache.mem_recent_iff ..).2 h) (by decide)
  obtain ⟨-, hreused, -⟩ := (reuse_iff_recent o (two ++ [.compile ['c']])
    (.search [] ['a'])).2.2 ['a'] rfl
  obtain ⟨-, -, hcompiled⟩ := (reuse_iff_recent o (two ++ [.request ['c']])
    (.search [] ['a'])).2.2 ['a'] rfl
  obtain ⟨-, hunchanged, -⟩ := reuse_iff_recent o two (.compile ['c'])
  exact ⟨(hreused.2 hkept).1, (hcompiled hgone).1, hunchanged rfl (by simp)⟩

end RecordFilter.Engine
