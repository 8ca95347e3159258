import RecordFilter.Proofs.Search.PatternUses
import RecordFilter.Proofs.Search.Reuse

/-!
# Compiling once

Between two clearings an engine with room for everything compiles a query once for all steps that
need its predicate, and a pattern once for all arguments that use it.  Making a query ready without
keeping the predicate compiles it each time, but compiles no pattern again; a text that is no
pattern is tried wherever it is used.  `Compiles` says what one step does; along a run what has been
compiled is told by the steps alone (`compiledIn`), and all that is reported and kept by what has
been compiled (`compiledOnce`).
-/

namespace RecordFilter

/-! ### Queries reported as compiled -/

/-- The query that an event tells has been compiled. -/
def Event.compiledQuery? : Event → Option Text
  | compiledQuery query _ => some query
  | _ => none

namespace Traced

variable {α β : Type}

/-- The queries that are reported as compiled on the way. -/
def compiledQueries (t : Traced α) : List Text :=
  t.events.filterMap Event.compiledQuery?

@[simp] theorem compiledQueries_pure (a : α) : (pure a : Traced α).compiledQueries = [] := rfl

@[simp] theorem compiledQueries_bind (t : Traced α) (f : α → Traced β) :
    (t >>= f).compiledQueries = t.compiledQueries ++ (f t.value).compiledQueries :=
  List.filterMap_append

theorem Silent.compiledQueries_eq {t : Traced α} (h : t.Silent) : t.compiledQueries = [] := by
  apply List.filterMap_eq_nil_iff.2
  intro e he
  have hsilent := h e he
  cases e <;> first | rfl | cases hsilent

end Traced

theorem Predicate.compiledQueries_compileWith (o : Options) (c : PatternCache) (query : Text) :
    (Predicate.compileWith o c query).compiledQueries = [query] := by
  have hparts : (Traced.eachWith (compilePart o) c (Query.subQueries query)).compiledQueries = [] :=
    Traced.Silent.compiledQueries_eq (Traced.reports_eachWith (silent_compilePart o) _ c)
  unfold Predicate.compileWith
  rw [Traced.compiledQueries_bind, hparts]
  rfl

namespace Engine

/-! ### What a step compiles -/

/-- The query that a step makes ready without keeping the predicate. -/
def Step.uncached? : Step → Option Text
  | .compile query => some query
  | .request _ | .search _ _ | .searchAndSort _ _ | .conditions _ | .clear => none

/-- What a step compiles when the predicates of some queries are kept. -/
def Step.compiles (kept : List Text) (step : Step) : List Text :=
  step.uncached?.toList ++ step.query?.toList.filter (!kept.contains ·)

theorem Step.compiles_of_query? {step : Step} {query : Text} (h : step.query? = some query)
    (kept : List Text) : step.compiles kept = [query].filter (!kept.contains ·) := by
  cases step with
  | request _ | search _ _ | searchAndSort _ _ =>
    rw [Step.compiles, h]
    rfl
  | compile _ | conditions _ | clear => cases h

/-- What the steps of a run compile, one after another, when some queries have been asked for. -/
def compiledIn (asked : List Text) : List Step → List Text
  | [] => []
  | step :: rest => step.compiles asked ++ compiledIn (askedAfter asked step) rest

/-- The events that those steps of a run report which satisfy a condition. -/
def reportedBy (p : Step → Bool) (e : Engine) : List Step → List Event
  | [] => []
  | step :: rest =>
    (if p step then (e.perform step).events else []) ++
      reportedBy p (e.perform step).value.2 rest

theorem compiledIn_concat (queries : List Text) (steps : List Step) (step : Step) :
    compiledIn queries (steps ++ [step]) =
      compiledIn queries steps ++ step.compiles (steps.foldl askedAfter queries) := by
  induction steps generalizing queries with
  | nil => simp [compiledIn]
  | cons s rest ih => simp [compiledIn, ih]

theorem reportedBy_concat (p : Step → Bool) (e : Engine) (steps : List Step) (step : Step) :
    reportedBy p e (steps ++ [step]) = reportedBy p e steps ++
      if p step then ((e.run steps).value.2.perform step).events else [] := by
  induction steps generalizing e with
  | nil => simp [reportedBy, run, Traced.eachWith]
  | cons s rest ih => simp [reportedBy, ih, run, Traced.eachWith]

/-- An engine whose patterns are those of some uses compiles queries on the way: it reports each of
them and what their uses report, and the patterns afterwards are those of these uses as well. -/
structure Compiles {α : Type} (us : List PatternUse) (e : Engine) (queries : List Text)
    (t : Traced (α × Engine)) : Prop where
  compiled : t.compiledQueries = queries
  reports : t.patternReports =
    PatternUse.reports us (queries.flatMap (Query.patternUses e.options))
  patterns : t.value.2.patterns.Keeps (us ++ queries.flatMap (Query.patternUses e.options))

section Step

variable {us : List PatternUse} {e : Engine} (h : e.patterns.Keeps us)

include h

theorem compiles_compile (query : Text) : Compiles us e [query] (e.compile query) := by
  obtain ⟨hreports, hkeeps⟩ := Predicate.makes_compileWith e.options query us e.patterns h
  have hqueries := Predicate.compiledQueries_compileWith e.options e.patterns query
  refine ⟨?_, ?_, ?_⟩
  · rw [← hqueries]
    simp [Engine.compile]
  · rw [List.flatMap_singleton, ← hreports]
    simp [Engine.compile]
  · rw [List.flatMap_singleton]
    exact hkeeps

theorem compiles_request (query : Text) :
    Compiles us e ([query].filter (!e.predicates.keys.contains ·)) (e.request query) := by
  cases hfind : e.predicates.find? query with
  | some entry =>
    have hkept : query ∈ e.predicates.keys := by
      apply Cache.find?_isSome_iff.1
      rw [hfind]
      rfl
    have hnone : [query].filter (!e.predicates.keys.contains ·) = [] := by simp [hkept]
    rw [hnone, request_of_found hfind]
    exact ⟨rfl, rfl, by simpa using h⟩
  | none =>
    have hkept : query ∉ e.predicates.keys := by
      intro hmem
      simpa [hfind] using Cache.find?_isSome_iff.2 hmem
    have hone : [query].filter (!e.predicates.keys.contains ·) = [query] := by simp [hkept]
    obtain ⟨hcompiled, hreports, hpatterns⟩ := compiles_compile h query
    rw [hone, request_of_missing hfind]
    exact ⟨hcompiled, hreports, hpatterns⟩

end Step

/-- A step that needs a predicate reports of what is compiled what its request reports. -/
theorem reports_perform_of_query? (e : Engine) {step : Step} {query : Text}
    (h : step.query? = some query) :
    (e.perform step).compiledQueries = (e.request query).compiledQueries ∧
      (e.perform step).patternReports = (e.request query).patternReports := by
  have hasked : ∀ (p : Predicate) (records : List Json),
      (Traced.filter (fun r => p.run (.ofRecord r)) records).compiledQueries = [] ∧
        (Traced.filter (fun r => p.run (.ofRecord r)) records).patternReports = [] := by
    intro p records
    constructor
    · apply Traced.Silent.compiledQueries_eq
      exact Traced.reports_filter (fun r => p.silent_run (.ofRecord r)) records
    · apply Traced.patternReports_eq_nil
      exact Traced.reports_filter
        (fun r => p.reports_run (fun _ _ => rfl) (.ofRecord r)) records
  have hsearch : ∀ records : List Json,
      (e.searchBy id records query).compiledQueries = (e.request query).compiledQueries ∧
        (e.searchBy id records query).patternReports = (e.request query).patternReports := by
    intro records
    simp [searchBy, hasked]
  cases step with
  | request query' =>
    obtain rfl : query' = query := Option.some.inj h
    simp [perform]
  | search records query' =>
    obtain rfl : query' = query := Option.some.inj h
    simp [perform, search, hsearch]
  | searchAndSort records query' =>
    have htake : (SortDirective.takeFrom query').1 = query := Option.some.inj h
    rcases hdirective : SortDirective.takeFrom query' with ⟨head, _ | d⟩
    · obtain rfl : head = query := by rw [← htake, hdirective]
      simp [perform, searchAndSort, searchAndSortBy, hdirective, hsearch]
    · obtain rfl : head = query := by rw [← htake, hdirective]
      have hsorting : (Traced.report (.sortingMatches d.key d.descending)).compiledQueries = [] ∧
          (Traced.report (.sortingMatches d.key d.descending)).patternReports = [] := ⟨rfl, rfl⟩
      simp [perform, searchAndSort, searchAndSortBy, hdirective, hsearch, hsorting]
  | compile _ | conditions _ | clear => simp [Step.query?] at h

/-- All that a step other than clearing compiles. -/
theorem compiles_perform {us : List PatternUse} {e : Engine} (h : e.patterns.Keeps us) {step : Step}
    (hclear : step ≠ .clear) :
    Compiles us e (step.compiles e.predicates.keys) (e.perform step) := by
  cases hquery : step.query? with
  | some query =>
    obtain ⟨hcompiled, hreports⟩ := e.reports_perform_of_query? hquery
    obtain ⟨hengine, -⟩ := e.perform_of_query? hquery
    have hrequest := compiles_request h query
    rw [Step.compiles_of_query? hquery]
    refine ⟨?_, ?_, ?_⟩
    · rw [hcompiled, hrequest.compiled]
    · rw [hreports, hrequest.reports]
    · rw [hengine]
      exact hrequest.patterns
  | none =>
    cases step with
    | compile query =>
      have hcompiles : (Step.compile query).compiles e.predicates.keys = [query] := rfl
      obtain ⟨hcompiled, hreports, hpatterns⟩ := compiles_compile h query
      rw [hcompiles]
      refine ⟨?_, ?_, hpatterns⟩
      · simpa [perform] using hcompiled
      · simpa [perform] using hreports
    | conditions query =>
      have hread : ∀ {P : Event → Prop}, (∀ t pattern e, P (.textRuleApplied t pattern e)) →
          (∀ key e, P (.conditionRuleApplied key e)) → (e.conditions query).Reports P := by
        intro P htext hcondition
        exact Traced.reports_each (Query.reports_conditionsOfPart htext hcondition e.options) _
      have hcompiled : (e.conditions query).compiledQueries = [] :=
        Traced.Silent.compiledQueries_eq (hread (fun _ _ _ => rfl) fun _ _ => rfl)
      have hreports : (e.conditions query).patternReports = [] :=
        Traced.patternReports_eq_nil (hread (fun _ _ _ => rfl) fun _ _ => rfl)
      have hcompiles : (Step.conditions query).compiles e.predicates.keys = [] := rfl
      have hsame : (e.perform (.conditions query)).value.2 = e := rfl
      rw [hcompiles]
      refine ⟨?_, ?_, by simpa [hsame] using h⟩
      · simpa [perform] using hcompiled
      · simpa [perform, PatternUse.reports] using hreports
    | clear => exact absurd rfl hclear
    | request _ | search _ _ | searchAndSort _ _ => cases hquery

/-! ### What a run compiles -/

section Run

variable {o : Options}

theorem sound_after (o : Options) (steps : List Step) : (after o steps).Sound o :=
  (Traced.eachWith_rel (fun _ step h => perform_spec step h) steps (sound_ofOptions o)).2

theorem run_after (o : Options) (earlier steps : List Step) :
    ((after o earlier).run steps).value.2 = after o (earlier ++ steps) := by
  induction steps using List.reverseRecOn with
  | nil =>
    rw [List.append_nil]
    rfl
  | append_singleton steps step ih =>
    rw [← List.append_assoc, after_concat, ← ih]
    exact Traced.state_eachWith_concat perform (after o earlier) steps step

/-- An engine is cleared by a run that has no step or ends in clearing. -/
def Cleared (steps : List Step) : Prop :=
  ∀ step ∈ steps.getLast?, step = .clear

theorem Cleared.asked_append {earlier : List Step} (h : Cleared earlier) (steps : List Step) :
    asked (earlier ++ steps) = asked steps := by
  have hnone : asked earlier = [] := by
    induction earlier using List.reverseRecOn with
    | nil => rfl
    | append_singleton front last _ =>
      rw [h last (by simp), asked_concat]
      rfl
  rw [asked, List.foldl_append, ← asked, hnone]
  rfl

theorem keeps_ofOptions (ho : o.cacheCapacity = none) : (ofOptions o).patterns.Keeps [] := by
  show (PatternCache.empty o.cacheCapacity).Keeps []
  rw [ho]
  exact PatternCache.keeps_empty

/-- Along every run the patterns kept are those of some uses. -/
theorem exists_keeps_after (ho : o.cacheCapacity = none) (steps : List Step) :
    ∃ us, (after o steps).patterns.Keeps us := by
  induction steps using List.reverseRecOn with
  | nil => exact ⟨[], keeps_ofOptions ho⟩
  | append_singleton steps step ih =>
    obtain ⟨us, hus⟩ := ih
    rw [after_concat]
    by_cases hclear : step = .clear
    · subst hclear
      exact ⟨[], hus.clear⟩
    · exact ⟨_, (compiles_perform hus hclear).patterns⟩

theorem Cleared.keeps {earlier : List Step} (h : Cleared earlier) (ho : o.cacheCapacity = none) :
    (after o earlier).patterns.Keeps [] := by
  induction earlier using List.reverseRecOn with
  | nil => exact keeps_ofOptions ho
  | append_singleton front last _ =>
    obtain ⟨us, hus⟩ := exists_keeps_after ho front
    rw [after_concat, h last (by simp)]
    exact hus.clear

/-- The uses of patterns that a run makes, one after another. -/
def usesIn (o : Options) (steps : List Step) : List PatternUse :=
  (compiledIn [] steps).flatMap (Query.patternUses o)

/-- What an engine that was cleared has compiled since. -/
structure HasCompiled (o : Options) (earlier steps : List Step) : Prop where
  requested : ∀ query, ((reportedBy (·.query?.isSome) (after o earlier) steps).filterMap
    Event.compiledQuery?).count query = if query ∈ asked steps then 1 else 0
  reports : ((after o earlier).run steps).patternReports = PatternUse.reports [] (usesIn o steps)
  patterns : (after o (earlier ++ steps)).patterns.Keeps (usesIn o steps)

theorem Cleared.hasCompiled {earlier : List Step} (h : Cleared earlier)
    (ho : o.cacheCapacity = none) {steps : List Step} (hclear : .clear ∉ steps) :
    HasCompiled o earlier steps := by
  induction steps using List.reverseRecOn with
  | nil =>
    refine ⟨fun _ => rfl, rfl, ?_⟩
    rw [List.append_nil]
    exact h.keeps ho
  | append_singleton steps step ih =>
    obtain ⟨hbefore, hlast⟩ : .clear ∉ steps ∧ step ≠ .clear := by
      simpa [eq_comm] using hclear
    obtain ⟨hrequested, hreports, hpatterns⟩ := ih hbefore
    have hoptions : (after o (earlier ++ steps)).options = o := (sound_after o _).options
    -- The predicates kept are those of the queries asked for since the engine was cleared.
    have hkeys : (after o (earlier ++ steps)).predicates.keys = (asked steps).dedup := by
      rw [(follows_after o _).keys, ho, h.asked_append]
      rfl
    have hcompiles : step.compiles (after o (earlier ++ steps)).predicates.keys =
        step.compiles (asked steps) := by
      simp [Step.compiles, hkeys]
    have huses : usesIn o (steps ++ [step]) = usesIn o steps ++
        (step.compiles (asked steps)).flatMap (Query.patternUses o) := by
      rw [usesIn, compiledIn_concat, List.flatMap_append]
      rfl
    have hstep := compiles_perform hpatterns hlast
    rw [hcompiles] at hstep
    obtain ⟨hcompiled, hstepReports, hstepPatterns⟩ := hstep
    rw [hoptions] at hstepReports hstepPatterns
    refine ⟨?_, ?_, ?_⟩
    · intro query
      rw [reportedBy_concat, run_after, List.filterMap_append, List.count_append, hrequested,
        asked_concat, askedAfter_of_ne_clear hlast]
      cases hquery : step.query? with
      | none => simp
      | some asking =>
        rw [Step.compiles_of_query? hquery, Traced.compiledQueries] at hcompiled
        simp only [Option.isSome_some, if_true, hcompiled]
        by_cases hsame : query = asking
        · subst hsame
          by_cases hasked : query ∈ asked steps
          · simp [hasked]
          · simp [hasked]
        · by_cases hasked : asking ∈ asked steps
          · simp [hsame, hasked]
          · simp [hsame, hasked, Ne.symm hsame]
    · have hevents : ((after o earlier).run (steps ++ [step])).patternReports =
          ((after o earlier).run steps).patternReports ++
            ((after o (earlier ++ steps)).perform step).patternReports := by
        rw [← run_after]
        unfold Traced.patternReports run
        rw [Traced.events_eachWith_concat, List.filter_append]
      rw [hevents, hreports, hstepReports, huses, PatternUse.reports_append, List.nil_append]
    · rw [← List.append_assoc, after_concat, huses]
      exact hstepPatterns

end Run

/-! ### What steps share -/

section Shared

variable {o : Options}

/-- A predicate that is kept stays under its query, as long as there is room and no clearing. -/
theorem find?_perform {e : Engine} (hroom : e.predicates.capacity = none) {query : Text}
    {p : Numbered Predicate} (h : e.predicates.find? query = some p) {step : Step}
    (hclear : step ≠ .clear) :
    (e.perform step).value.2.predicates.capacity = none ∧
      (e.perform step).value.2.predicates.find? query = some p := by
  cases hquery : step.query? with
  | none =>
    rw [(e.perform_of_query?_eq_none hquery hclear).1]
    exact ⟨hroom, h⟩
  | some asking =>
    rw [(e.perform_of_query? hquery).1, e.predicates_request asking]
    refine ⟨hroom, ?_⟩
    obtain ⟨hself, hothers⟩ :=
      Cache.find?_insert_of_unbounded hroom asking (e.request asking).value.1
    by_cases hsame : query = asking
    · subst hsame
      rcases e.request_cases query with ⟨hfind, -⟩ | ⟨hfind, -⟩
      · rw [hself, ← hfind, h]
      · rw [hfind] at h
        cases h
    · rw [hothers query hsame, h]

theorem find?_run {e : Engine} (hroom : e.predicates.capacity = none) {query : Text}
    {p : Numbered Predicate} (h : e.predicates.find? query = some p) {steps : List Step}
    (hclear : .clear ∉ steps) : (e.run steps).value.2.predicates.find? query = some p := by
  induction steps generalizing e with
  | nil => exact h
  | cons step rest ih =>
    obtain ⟨hstep, hrest⟩ : step ≠ .clear ∧ .clear ∉ rest := by
      simpa [eq_comm] using hclear
    obtain ⟨hroom', hfind⟩ := find?_perform hroom h hstep
    exact ih hroom' hfind hrest

/-- What a step was served is kept to the end of a run without clearing. -/
theorem find?_after_of_query? (ho : o.cacheCapacity = none) (before : List Step) {step : Step}
    {query : Text} (hquery : step.query? = some query) {later : List Step}
    (hclear : .clear ∉ later) :
    (after o (before ++ step :: later)).predicates.find? query = some (served o before query) := by
  have hroom : (after o before).predicates.capacity = none := by
    rw [(follows_after o before).capacity, ho]
  have hpredicates : (after o (before ++ [step])).predicates =
      (after o before).predicates.insert query (served o before query) := by
    rw [after_concat, (perform_of_query? _ hquery).1, predicates_request]
    rfl
  have hsplit : before ++ step :: later = before ++ [step] ++ later := by simp
  rw [hsplit, ← run_after]
  apply find?_run _ _ hclear
  · rw [hpredicates]
    exact hroom
  · rw [hpredicates]
    exact (Cache.find?_insert_of_unbounded hroom query _).1

end Shared

/-- What an engine does and keeps in the steps after it was cleared by a run. -/
structure CompiledOnce (o : Options) (earlier steps : List Step) : Prop where
  /-- The steps that need the predicate of a query report once that the query is compiled. -/
  queries : ∀ query, ((reportedBy (·.query?.isSome) (after o earlier) steps).filterMap
    Event.compiledQuery?).count query = if query ∈ asked steps then 1 else 0
  /-- All of them are answered with one predicate, the one that is kept in the end. -/
  shared : ∀ before step later query, steps = before ++ step :: later → step.query? = some query →
    AnsweredWith (served o (earlier ++ before) query) step
        ((after o (earlier ++ before)).perform step).value.1 ∧
      (after o (earlier ++ steps)).predicates.find? query =
        some (served o (earlier ++ before) query)
  /-- A pattern that some argument uses is compiled once. -/
  patterns : ∀ u : PatternUse, u.isValid →
    ((after o earlier).run steps).events.count (.compilingPattern u.source u.anyCase) =
      if u ∈ usesIn o steps then 1 else 0
  /-- A text that is no pattern is tried for every argument that uses it. -/
  failures : ∀ u : PatternUse, ¬ u.isValid →
    ((after o earlier).run steps).events.count (.compilingPattern u.source u.anyCase) =
      (usesIn o steps).count u
  /-- Every time there is one warning, which says what is wrong, and there is no other. -/
  warnings : ((after o earlier).run steps).events.filterMap Event.unusable? =
    (usesIn o steps).filterMap PatternUse.unusable?
  /-- The patterns kept for a way of searching are compiled for it and not kept for the other. -/
  apart : (after o (earlier ++ steps)).patterns.Sound ∧
    ∀ p ∈ (after o (earlier ++ steps)).patterns.exact.entries,
      ∀ q ∈ (after o (earlier ++ steps)).patterns.anyCase.entries, p.2.number ≠ q.2.number
  keptPredicates : (after o (earlier ++ steps)).keptPredicates = (asked steps).dedup.length
  keptPatterns : (after o (earlier ++ steps)).keptPatterns =
    ((usesIn o steps).filter PatternUse.isValid).dedup.length

/-- Where there is room for everything, queries and patterns are compiled once between two
clearings, and what is no pattern is never kept. -/
theorem compiledOnce {o : Options} (ho : o.cacheCapacity = none) {earlier steps : List Step}
    (hcleared : Cleared earlier) (hclear : .clear ∉ steps) : CompiledOnce o earlier steps := by
  obtain ⟨hrequested, hreports, hpatterns⟩ := hcleared.hasCompiled ho hclear
  -- Events that tell of patterns can be counted among these alone.
  have hcount : ∀ event : Event, event.tellsOfPattern →
      ((after o earlier).run steps).events.count event =
        (PatternUse.reports [] (usesIn o steps)).count event := by
    intro event hevent
    rw [← hreports, Traced.patternReports, List.count_filter hevent]
  refine ⟨hrequested, ?_, ?_, ?_, ?_, ?_, ?_, ?_⟩
  · rintro before step later query rfl hquery
    refine ⟨(perform_of_query? _ hquery).2.2, ?_⟩
    rw [← List.append_assoc]
    apply find?_after_of_query? ho _ hquery
    intro hmem
    exact hclear (by simp [hmem])
  · intro u hu
    rw [hcount _ rfl, PatternUse.count_compilingPattern_of_isValid hu]
    simp
  · intro u hu
    rw [hcount _ rfl, PatternUse.count_compilingPattern_of_not_isValid hu]
  · rw [← PatternUse.unusable?_reports [], ← hreports, Traced.patternReports,
      List.filterMap_filter]
    apply List.filterMap_congr
    intro event _
    cases event <;> rfl
  · exact ⟨(sound_after o _).patterns, hpatterns.apart false⟩
  · have hkept : (after o (earlier ++ steps)).keptPredicates =
        (after o (earlier ++ steps)).predicates.keys.length := (List.length_map _).symm
    rw [hkept, (follows_after o _).keys, ho, hcleared.asked_append]
    rfl
  · exact hpatterns.size_eq

/-- A pattern that is used for the exact case and for any, and a text that is none, in a query made
ready twice without being kept and searched for twice after the engine was cleared. -/
theorem compiledOnce_twice :
    let query := "a:/1,i/1,/* b:/1".toList
    let earlier := [Step.request query, .clear]
    let steps := [Step.compile query, .search [] query, .compile query, .request query]
    let events := ((after {} earlier).run steps).events
    Cleared earlier ∧ .clear ∉ steps ∧
      events.count (.compilingPattern ['1'] false) = 1 ∧
      events.count (.compilingPattern ['1'] true) = 1 ∧
      events.count (.compilingPattern ['*'] false) = 3 ∧
      events.filterMap Event.unusable? = List.replicate 3 (['*'], .malformed) ∧
      (after {} (earlier ++ steps)).keptPredicates = 1 ∧
      (after {} (earlier ++ steps)).keptPatterns = 2 := by
  intro query earlier steps events
  have hcleared : Cleared earlier := by simp [Cleared, earlier]
  have hclear : .clear ∉ steps := by simp [steps]
  have honce := compiledOnce (o := {}) rfl hcleared hclear
  have huses : usesIn {} steps = [⟨['1'], false⟩, ⟨['1'], true⟩, ⟨['*'], false⟩, ⟨['1'], false⟩,
      ⟨['1'], false⟩, ⟨['1'], true⟩, ⟨['*'], false⟩, ⟨['1'], false⟩,
      ⟨['1'], false⟩, ⟨['1'], true⟩, ⟨['*'], false⟩, ⟨['1'], false⟩] := by rfl
  have hvalid : PatternUse.isValid ⟨['1'], false⟩ ∧ PatternUse.isValid ⟨['1'], true⟩ ∧
      ¬ PatternUse.isValid ⟨['*'], false⟩ := by decide +kernel
  refine ⟨hcleared, hclear, ?_, ?_, ?_, ?_, ?_, ?_⟩
  · exact (honce.patterns ⟨['1'], false⟩ hvalid.1).trans (by simp [huses])
  · exact (honce.patterns ⟨['1'], true⟩ hvalid.2.1).trans (by simp [huses])
  · exact (honce.failures ⟨['*'], false⟩ hvalid.2.2).trans (by simp [huses])
  · rw [honce.warnings, huses]
    decide +kernel
  · rw [honce.keptPredicates]
    decide
  · rw [honce.keptPatterns, huses]
    simp [hvalid]

end Engine

end RecordFilter
