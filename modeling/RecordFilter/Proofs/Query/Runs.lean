import RecordFilter.Proofs.Query.Blocks
import RecordFilter.Query.Chain
import RecordFilter.Query.Conditions

/-!
# Runs of tokens and sub-queries

A sub-query is a run of tokens between bars, written down with single spaces and later read a second
time.  `MaximalRuns` says without a function what the runs of a list of tokens are; the sub-queries
are read back as exactly these (`subQueries_keep_tokens`), because tokens are fragments that joining
does not run together.
-/

namespace RecordFilter.Query

/-- The runs of a list between its bars, from first to last: none is empty or holds a bar, and only
bars are left out. -/
inductive MaximalRuns : List Text → List (List Text) → Prop
  | nil : MaximalRuns [] []
  | skip {ts : List Text} {runs : List (List Text)} : MaximalRuns ts runs →
      MaximalRuns (bar :: ts) runs
  | last {run : List Text} : run ≠ [] → bar ∉ run → MaximalRuns run [run]
  | run {run ts : List Text} {runs : List (List Text)} : run ≠ [] → bar ∉ run →
      MaximalRuns ts runs → MaximalRuns (run ++ bar :: ts) (run :: runs)

/-- The runs of a list of tokens. -/
def runsOf (ts : List Text) : List (List Text) :=
  (ts.splitOnP (· == bar)).filter (!·.isEmpty)

theorem tokenRuns_eq (query : Text) : tokenRuns query = runsOf (tokens query) := rfl

theorem runsOf_nil : runsOf [] = [] := by
  simp [runsOf]

/-- A bar parts the runs before it from those after it. -/
theorem runsOf_append_bar (ts us : List Text) :
    runsOf (ts ++ bar :: us) = runsOf ts ++ runsOf us := by
  unfold runsOf
  rw [List.splitOnP_append_cons ts us (by simp), List.filter_append]

theorem runsOf_of_not_mem {ts : List Text} (hne : ts ≠ []) (h : bar ∉ ts) : runsOf ts = [ts] := by
  have hall : ∀ t ∈ ts, (t == bar) = false := by
    intro t ht
    simpa using ne_of_mem_of_not_mem ht h
  unfold runsOf
  rw [List.splitOnP_eq_singleton hall]
  simp [hne]

/-- Tokens hold no bar, or begin with such tokens and a bar. -/
theorem not_mem_or_cut (ts : List Text) :
    bar ∉ ts ∨ ∃ before after, ts = before ++ bar :: after ∧ bar ∉ before := by
  by_cases h : bar ∈ ts
  · obtain ⟨before, after, heq, hbefore⟩ := List.eq_append_cons_of_mem h
    exact .inr ⟨before, after, heq, hbefore⟩
  · exact .inl h

theorem maximalRuns_runsOf (ts : List Text) : MaximalRuns ts (runsOf ts) := by
  induction hn : ts.length using Nat.strongRecOn generalizing ts with
  | _ n ih =>
    rcases not_mem_or_cut ts with h | ⟨before, after, rfl, h⟩
    · by_cases hne : ts = []
      · rw [hne, runsOf_nil]
        exact .nil
      · rw [runsOf_of_not_mem hne h]
        exact .last hne h
    · have later : MaximalRuns after (runsOf after) :=
        ih after.length (by simp at hn; omega) after rfl
      rw [runsOf_append_bar]
      by_cases hne : before = []
      · rw [hne, runsOf_nil]
        exact .skip later
      · rw [runsOf_of_not_mem hne h]
        exact .run hne h later

/-- A list of tokens has no other runs. -/
theorem MaximalRuns.eq_runsOf {ts : List Text} {runs : List (List Text)} (h : MaximalRuns ts runs) :
    runs = runsOf ts := by
  induction h with
  | nil => exact runsOf_nil.symm
  | skip _ ih => rw [ih]; exact (runsOf_append_bar [] _).symm
  | last hne hbar => exact (runsOf_of_not_mem hne hbar).symm
  | run hne hbar _ ih => rw [runsOf_append_bar, runsOf_of_not_mem hne hbar, ih]; rfl

theorem maximalRuns_iff {ts : List Text} {runs : List (List Text)} :
    MaximalRuns ts runs ↔ runs = runsOf ts := by
  constructor
  · exact MaximalRuns.eq_runsOf
  · rintro rfl
    exact maximalRuns_runsOf ts

/-- A run is not empty, holds no bar, and stands together in the list. -/
theorem MaximalRuns.mem {ts : List Text} {runs : List (List Text)} (h : MaximalRuns ts runs)
    {run : List Text} (hr : run ∈ runs) : run ≠ [] ∧ bar ∉ run ∧ run <:+: ts := by
  induction h with
  | nil => cases hr
  | skip _ ih =>
    obtain ⟨hne, hbar, hwithin⟩ := ih hr
    exact ⟨hne, hbar, hwithin.trans (List.suffix_cons _ _).isInfix⟩
  | last hne hbar =>
    rw [List.mem_singleton.1 hr]
    exact ⟨hne, hbar, List.infix_refl _⟩
  | @run first ts runs hne hbar _ ih =>
    rcases List.mem_cons.1 hr with rfl | hr
    · exact ⟨hne, hbar, (List.prefix_append _ _).isInfix⟩
    · obtain ⟨hne, hbar, hwithin⟩ := ih hr
      refine ⟨hne, hbar, hwithin.trans ?_⟩
      exact ((List.suffix_cons bar ts).trans (List.suffix_append first _)).isInfix

/-- A further token that is no bar lengthens the last run, or makes a run of its own when it comes
first or after a bar. -/
theorem MaximalRuns.concat {ts : List Text} {runs : List (List Text)} (h : MaximalRuns ts runs)
    {t : Text} (ht : t ≠ bar) :
    (∀ u ∈ ts.getLast?, u = bar) ∧ MaximalRuns (ts ++ [t]) (runs ++ [[t]]) ∨
      ∃ front run, runs = front ++ [run] ∧
        MaximalRuns (ts ++ [t]) (front ++ [run ++ [t]]) := by
  -- Of a list with a bar in front the last token is the bar or the last one after it.
  have hafter : ∀ us : List Text, (∀ u ∈ us.getLast?, u = bar) →
      ∀ u ∈ (bar :: us).getLast?, u = bar := by
    intro us hus u hu
    rw [List.getLast?_cons, Option.mem_some_iff] at hu
    cases hlast : us.getLast? with
    | none => rw [← hu, hlast, Option.getD_none]
    | some v => rw [← hu, hlast, Option.getD_some]; exact hus v hlast
  induction h with
  | nil =>
    left
    exact ⟨by simp, .last (by simp) (by simpa using ht.symm)⟩
  | skip _ ih =>
    rcases ih with ⟨hlast, own⟩ | ⟨front, run, heq, hlonger⟩
    · exact .inl ⟨hafter _ hlast, own.skip⟩
    · exact .inr ⟨front, run, heq, hlonger.skip⟩
  | @last run hne hbar =>
    right
    exact ⟨[], run, rfl, .last (by simp) (by simpa using ⟨hbar, ht.symm⟩)⟩
  | @run first ts runs hne hbar _ ih =>
    rw [List.append_assoc, List.cons_append]
    rcases ih with ⟨hlast, own⟩ | ⟨front, run, heq, hlonger⟩
    · left
      refine ⟨?_, own.run hne hbar⟩
      rw [List.getLast?_append_of_ne_nil first (List.cons_ne_nil bar ts)]
      exact hafter ts hlast
    · right
      refine ⟨first :: front, run, ?_, hlonger.run hne hbar⟩
      rw [heq, List.cons_append]

theorem runsOf_concat (ts : List Text) {t : Text} (ht : t ≠ bar) :
    (∀ u ∈ ts.getLast?, u = bar) ∧ runsOf (ts ++ [t]) = runsOf ts ++ [[t]] ∨
      ∃ front run, runsOf ts = front ++ [run] ∧ runsOf (ts ++ [t]) = front ++ [run ++ [t]] := by
  rcases (maximalRuns_runsOf ts).concat ht with ⟨hlast, own⟩ | ⟨front, run, heq, hlonger⟩
  · exact .inl ⟨hlast, own.eq_runsOf.symm⟩
  · exact .inr ⟨front, run, heq, hlonger.eq_runsOf.symm⟩

theorem fragments_of_mem_tokenRuns {query : Text} {run : List Text} (h : run ∈ tokenRuns query) :
    Fragments blanks .quotes run :=
  (fragments_split blanks .quotes query).within ((maximalRuns_runsOf _).mem h).2.2

/-- The tokens of a run are read again from the run written with single spaces. -/
theorem tokens_intercalate {query : Text} {run : List Text} (h : run ∈ tokenRuns query) :
    tokens ([' '].intercalate run) = run :=
  split_intercalate (by decide) (fragments_of_mem_tokenRuns h)

theorem map_tokens_subQueries (query : Text) :
    (subQueries query).map tokens = tokenRuns query := by
  unfold subQueries
  rw [List.map_map]
  exact (List.map_congr_left fun run h => tokens_intercalate h).trans (List.map_id _)

/-- A text without a blank outside its quotations that is no bar is one token. -/
theorem tokenRuns_of_unbroken {t : Text} (h : Unbroken blanks .quotes t) (hne : t ≠ [])
    (hbar : t ≠ bar) : tokenRuns t = [[t]] := by
  have htokens : tokens t = [t] := split_of_unbroken h hne
  rw [tokenRuns_eq, htokens, runsOf_of_not_mem (List.cons_ne_nil t []) (by simpa using hbar.symm)]

/-- A sub-query is its own only sub-query. -/
theorem subQueries_of_mem {query s : Text} (h : s ∈ subQueries query) : subQueries s = [s] := by
  obtain ⟨run, hrun, rfl⟩ := List.mem_map.1 h
  obtain ⟨hne, hbar, -⟩ := (maximalRuns_runsOf _).mem hrun
  unfold subQueries
  rw [tokenRuns_eq, tokens_intercalate hrun, runsOf_of_not_mem hne hbar, List.map_singleton]

/-- After a blank the tokens are read as if they stood alone. -/
theorem tokens_append_blank {query : Text} (h : Closed blanks .quotes query) (rest : Text) :
    tokens (query ++ ' ' :: rest) = tokens query ++ tokens rest :=
  split_append_cons h (by decide) false rest

theorem tokens_append_bar {query : Text} (h : Closed blanks .quotes query) (rest : Text) :
    tokens (query ++ [' ', '|', ' '] ++ rest) = tokens query ++ bar :: tokens rest := by
  have hclosed : Closed blanks .quotes ['|'] := by decide
  have hbar : tokens ('|' :: ' ' :: rest) = tokens ['|'] ++ tokens rest :=
    tokens_append_blank hclosed rest
  have hself : tokens ['|'] = [bar] := by decide
  rw [List.append_assoc]
  show tokens (query ++ ' ' :: '|' :: ' ' :: rest) = _
  rw [tokens_append_blank h, hbar, hself, List.singleton_append]

/-- Cutting a query into sub-queries keeps its tokens: there is one sub-query for each run of tokens
between bars, in order, and it is read again as the tokens of its run.  So a sub-query is not cut
any further, and each run has its list of conditions. -/
theorem subQueries_keep_tokens (query : Text) :
    (∀ runs, MaximalRuns (tokens query) runs ↔ runs = tokenRuns query) ∧
      (subQueries query).map tokens = tokenRuns query ∧
      (∀ s ∈ subQueries query, subQueries s = [s]) ∧
      ∀ o, (conditions o query).value.length = (tokenRuns query).length := by
  refine ⟨fun runs => maximalRuns_iff, map_tokens_subQueries query, fun s => subQueries_of_mem, ?_⟩
  intro o
  rw [conditions, Traced.value_each, List.length_map, subQueries, List.length_map]

/-- The sub-query of a quotation that holds a bar and of one that is never ended. -/
theorem subQueries_keep_tokens_quoted :
    ['\x22', '|', ' ', '\x22', ' ', 'b'] ∈
        subQueries ['\x22', '|', ' ', '\x22', '\n', 'b', ' ', '|', '\t', '|', ' ', '\x27', ' '] ∧
      subQueries ['\x22', '|', ' ', '\x22', ' ', 'b'] = [['\x22', '|', ' ', '\x22', ' ', 'b']] := by
  have h : ['\x22', '|', ' ', '\x22', ' ', 'b'] ∈
      subQueries ['\x22', '|', ' ', '\x22', '\n', 'b', ' ', '|', '\t', '|', ' ', '\x27', ' '] := by
    decide
  exact ⟨h, (subQueries_keep_tokens _).2.2.1 _ h⟩

end RecordFilter.Query
