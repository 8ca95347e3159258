import RecordFilter.Proofs.Query.Runs

/-!
# Queries written from their tokens

Tokens can be put down again in any arrangement: with single spaces between those of a run and bars
between the runs.  The query so written has the arranged runs (`tokenRuns_ofRuns`) as long as every
token can stand anywhere, which the tokens of a closed query do (`freeStanding_of_mem_tokenRuns`).
-/

namespace RecordFilter

section Closed

variable {separators : List Char} {d : Delimiters}

/-- What comes second is read in the state that the first leaves behind. -/
theorem openAfter_append (o : Option Char) (a b : Text) :
    openAfter separators d o (a ++ b) = openAfter separators d (openAfter separators d o a) b := by
  induction a generalizing o with
  | nil => cases o <;> simp [openAfter]
  | cons c rest ih =>
    cases o with
    | some close =>
      rw [List.cons_append, openAfter, openAfter]
      split
      · exact ih none
      · exact ih (some close)
    | none =>
      rw [List.cons_append, openAfter, openAfter]
      split
      · exact ih none
      · exact ih (d.closing? c)

theorem Closed.append {a b : Text} (ha : Closed separators d a) (hb : Closed separators d b) :
    Closed separators d (a ++ b) := by
  unfold Closed
  rw [openAfter_append, show openAfter separators d none a = none from ha]
  exact hb

theorem closed_singleton {c : Char} (hc : c ∈ separators) : Closed separators d [c] := by
  simp [Closed, openAfter, hc]

/-- After a closed text and a separator, the rest is closed when the whole is. -/
theorem Closed.of_append_cons {a b : Text} {c : Char} (ha : Closed separators d a)
    (hc : c ∈ separators) (h : Closed separators d (a ++ c :: b)) : Closed separators d b := by
  unfold Closed at h
  rw [openAfter_append, show openAfter separators d none a = none from ha, openAfter,
    if_pos hc] at h
  exact h

/-- Closed texts joined by a separator are closed together. -/
theorem closed_intercalate {c : Char} (hc : c ∈ separators) {fs : List Text}
    (h : ∀ f ∈ fs, Closed separators d f) : Closed separators d ([c].intercalate fs) := by
  induction fs with
  | nil => rfl
  | cons f fs ih =>
    have hf : Closed separators d f := h f List.mem_cons_self
    have hfs : Closed separators d ([c].intercalate fs) :=
      ih fun g hg => h g (List.mem_cons_of_mem f hg)
    cases fs with
    | nil => rwa [List.intercalate_singleton]
    | cons g gs =>
      rw [List.intercalate_cons_cons]
      exact (hf.append (closed_singleton hc)).append hfs

/-- The fragments of a closed text are closed. -/
theorem Closed.of_mem_split {t : Text} (h : Closed separators d t) :
    ∀ f ∈ split separators d false t, Closed separators d f := by
  induction hn : t.length using Nat.strongRecOn generalizing t with
  | _ n ih =>
    by_cases hempty : t = []
    · rw [hempty, split_nil]
      simp
    rcases unbroken_or_cut separators d t with whole | ⟨a, c, b, rfl, hc, hclosed, hunbroken⟩
    · rw [split_of_unbroken whole hempty]
      simpa using h
    · have later : ∀ f ∈ split separators d false b, Closed separators d f :=
        ih b.length (by simp at hn; omega) (hclosed.of_append_cons hc h) rfl
      intro f hf
      rw [split_append_cons hclosed hc] at hf
      rcases List.mem_append.1 hf with first | rest
      · by_cases ha : a = []
        · simp [ha, split_nil] at first
        · rw [split_of_unbroken hunbroken ha, List.mem_singleton] at first
          rwa [first]
      · exact later f rest

end Closed

namespace Query

/-- A token that can stand anywhere among others. -/
structure FreeStanding (t : Text) : Prop where
  nonempty : t ≠ []
  unbroken : Unbroken blanks .quotes t
  closed : Closed blanks .quotes t
  ne_bar : t ≠ bar

theorem fragments_of_freeStanding {ts : List Text} (h : ∀ t ∈ ts, FreeStanding t) :
    Fragments blanks .quotes ts where
  nonempty t ht := (h t ht).nonempty
  unbroken t ht := (h t ht).unbroken
  closed t ht := (h t (List.dropLast_subset ts ht)).closed

/-- The query with given runs of tokens: single spaces stand between the tokens of a run, bars
between the runs. -/
def ofRuns (runs : List (List Text)) : Text :=
  [' ', '|', ' '].intercalate (runs.map ([' '].intercalate))

/-- Tokens that can stand anywhere are read in the runs in which they are written. -/
theorem tokenRuns_ofRuns {runs : List (List Text)} (hne : ∀ run ∈ runs, run ≠ [])
    (h : ∀ run ∈ runs, ∀ t ∈ run, FreeStanding t) : tokenRuns (ofRuns runs) = runs := by
  induction runs with
  | nil => rfl
  | cons run rest ih =>
    have hrun : ∀ t ∈ run, FreeStanding t := h run List.mem_cons_self
    have htokens : tokens ([' '].intercalate run) = run :=
      split_intercalate (by decide) (fragments_of_freeStanding hrun)
    have hsingle : runsOf run = [run] :=
      runsOf_of_not_mem (hne run List.mem_cons_self) fun hbar => (hrun bar hbar).ne_bar rfl
    have hrest : tokenRuns (ofRuns rest) = rest :=
      ih (fun r hr => hne r (List.mem_cons_of_mem run hr))
        fun r hr => h r (List.mem_cons_of_mem run hr)
    cases rest with
    | nil =>
      show tokenRuns ([' ', '|', ' '].intercalate [[' '].intercalate run]) = [run]
      rw [List.intercalate_singleton, tokenRuns_eq, htokens, hsingle]
    | cons next others =>
      have hclosed : Closed blanks .quotes ([' '].intercalate run) :=
        closed_intercalate (by decide) fun t ht => (hrun t ht).closed
      have hwritten : ofRuns (run :: next :: others) =
          [' '].intercalate run ++ [' ', '|', ' '] ++ ofRuns (next :: others) :=
        List.intercalate_cons_cons
      rw [hwritten, tokenRuns_eq, tokens_append_bar hclosed, runsOf_append_bar, htokens, hsingle,
        ← tokenRuns_eq, hrest, List.singleton_append]

/-- Such a token is also a query by itself. -/
theorem tokenRuns_of_freeStanding {t : Text} (h : FreeStanding t) : tokenRuns t = [[t]] :=
  tokenRuns_of_unbroken h.unbroken h.nonempty h.ne_bar

/-- The tokens of a query that closes its quotations can stand anywhere. -/
theorem freeStanding_of_mem_tokenRuns {query : Text} (h : Closed blanks .quotes query)
    {run : List Text} (hrun : run ∈ tokenRuns query) : ∀ t ∈ run, FreeStanding t := by
  obtain ⟨-, hbar, hwithin⟩ := (maximalRuns_runsOf (tokens query)).mem hrun
  have fragments : Fragments blanks .quotes run := fragments_of_mem_tokenRuns hrun
  intro t ht
  refine ⟨fragments.nonempty t ht, fragments.unbroken t ht, ?_, ne_of_mem_of_not_mem ht hbar⟩
  exact h.of_mem_split t (hwithin.subset ht)

end Query

end RecordFilter
