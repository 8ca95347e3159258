import RecordFilter.Proofs.CommandLine.Sorting
import RecordFilter.Proofs.CommandLine.Switches
import RecordFilter.Proofs.Query.Continued
import RecordFilter.Proofs.Search.LastWord

/-!
# Conditions shown and conditions evaluated

The command can show the conditions of its query instead of reading records.  What it shows are the
conditions of the query as given; what it evaluates are those of the query without its directive.
The two are the same exactly where there is no directive (`run_tokens`).
-/

namespace RecordFilter

namespace Query

/-- The predicate of a query has a clause for each sub-query, made of its conditions. -/
theorem plain_eq (o : Options) (query : Text) :
    Predicate.plain o query =
      ⟨query, (conditions o query).value.map (Clause.plain o), o.faultPolicy⟩ := by
  unfold Predicate.plain conditions
  rw [Traced.value_each, List.map_map]
  rfl

/-- A query has the conditions of what its directive leaves of it exactly where there is none. -/
theorem conditions_takeFrom {o : Options} (ho : o.OnlyAliases) (query : Text) :
    (conditions o query).value = (conditions o (SortDirective.takeFrom query).1).value ↔
      (SortDirective.takeFrom query).2 = none := by
  rcases htake : SortDirective.takeFrom query with ⟨head, _ | d⟩
  · rw [SortDirective.eq_of_takeFrom_eq_none htake]
    simp
  · obtain ⟨gap, after, hquery, -⟩ := SortDirective.takeFrom_eq_some htake
    have hletter : 'c' ∈ gap ++ d.text ++ after := by
      have hending : 'c' ∈ SortDirective.ending d.descending := by
        cases d.descending <;> decide
      simp [SortDirective.text, hending]
    have hne := conditions_append_ne ho head hletter
    rw [← List.append_assoc, ← List.append_assoc, ← hquery] at hne
    simpa using hne

end Query

namespace CommandLine

variable {a : Arguments} {o : Options}

/-- The only rules that settings ask for are aliases. -/
theorem Arguments.onlyAliases_of_options {files : Configuration.Files}
    {environment : List (Text × Text)} (h : a.options files environment = .ok o) :
    o.OnlyAliases := by
  obtain ⟨-, -, h⟩ := exists_of_bind_eq_ok h
  obtain ⟨settings, -, h⟩ := exists_of_bind_eq_ok h
  obtain rfl := Except.ok.inj h
  exact Options.onlyAliases_ofSettings _

theorem matching_perm (a : Arguments) (o : Options) (records : List Json) :
    (a.matching o records).Perm (records.filter fun r =>
      (Predicate.plain o (SortDirective.takeFrom a.query).1).isMatch (.ofRecord r)) := by
  have hfound := (Engine.searchAndSort_spec (Engine.sound_ofOptions o) records a.query).1
  have harranged : ((Engine.ofOptions o).searchAndSort records a.query).value.1.Perm
      (records.filter fun r =>
        (Predicate.plain o (SortDirective.takeFrom a.query).1).isMatch (.ofRecord r)) := by
    rw [hfound]
    cases (SortDirective.takeFrom a.query).2 with
    | none => exact List.Perm.refl _
    | some d => exact sortAt_perm d.key d.descending _
  unfold Arguments.matching
  cases a.sort with
  | none => exact harranged
  | some key => exact (sortAt_perm key a.descending _).trans harranged

/-- The command that is to show conditions writes those of its query, whatever it is given to read.
The same command without this switch evaluates the predicate that has one clause for each sub-query
that the directive leaves, made of that sub-query's conditions, and writes the records that match
it.  The conditions are the same, sub-query by sub-query, exactly where the query has no
directive. -/
theorem run_tokens {args : List Text} {files : Configuration.Files}
    {environment : List (Text × Text)} (hargs : Arguments.ofTexts args = .ok a)
    (htokens : a.tokens = false) (hoptions : a.options files environment = .ok o) :
    let head := (SortDirective.takeFrom a.query).1
    let shown := (Query.conditions o a.query).value
    let compiled := (Query.conditions o head).value
    let p : Predicate := ⟨head, compiled.map (Clause.plain o), o.faultPolicy⟩
    (∀ input, (run ("--tokens".toList :: args) files environment).finish input =
        .success (conditionLines shown)) ∧
      ((Engine.ofOptions o).request head).value.1.value = p ∧
      (∀ {input : Text} {records : List Json}, readRecords input = .ok records →
        ∃ found, (run args files environment).finish input = .success (recordLines found) ∧
          found.Perm (records.filter fun r => p.isMatch (.ofRecord r))) ∧
      (shown = compiled ↔ (SortDirective.takeFrom a.query).2 = none) := by
  intro head shown compiled p
  have hp : Predicate.plain o head = p := Query.plain_eq o head
  refine ⟨?_, ?_, ?_, ?_⟩
  · intro input
    have hshow := Arguments.ofTexts_cons_tokens hargs htokens
    have hoptions' : ({ a with tokens := true } : Arguments).options files environment = .ok o :=
      hoptions
    unfold run
    simp only [hshow, hoptions']
    rfl
  · rw [← hp]
    exact (Engine.request_spec (Engine.sound_ofOptions o) head).1
  · intro input records hrecords
    refine ⟨a.matching o records, finish_run hargs hoptions htokens hrecords, ?_⟩
    rw [← hp]
    exact matching_perm a o records
  · exact Query.conditions_takeFrom (Arguments.onlyAliases_of_options hoptions) a.query

/-- Two sub-queries and no directive: a colon in a quotation makes none. -/
theorem run_tokens_two_parts :
    let args := ["-i".toList, "a:x | \x27b::asc\x27".toList]
    let a : Arguments := { query := "a:x | \x27b::asc\x27".toList, ignoreCase := true }
    let o : Options := { ignoreCase := true }
    Arguments.ofTexts args = .ok a ∧ a.options .empty [] = .ok o ∧
      (∀ input, (run ("--tokens".toList :: args) .empty []).finish input =
        .success (conditionLines (Query.conditions o a.query).value)) ∧
      SortDirective.takeFrom a.query = (a.query, none) ∧
      (Query.conditions o a.query).value =
        (Query.conditions o (SortDirective.takeFrom a.query).1).value := by
  intro args a o
  have hargs : Arguments.ofTexts args = .ok a := by decide
  have hoptions : a.options .empty [] = .ok o := by rfl
  have hquery : SortDirective.takeFrom a.query = (a.query, none) := by decide
  obtain ⟨hshown, -, -, hiff⟩ := run_tokens hargs rfl hoptions
  exact ⟨hargs, hoptions, hshown, hquery, hiff.2 (congrArg Prod.snd hquery)⟩

/-- A directive alone is shown as a condition, although no condition is evaluated. -/
theorem not_run_tokens :
    ¬ ∀ (args : List Text) (a : Arguments) (o : Options), Arguments.ofTexts args = .ok a →
      a.tokens = false → a.options .empty [] = .ok o →
      (run ("--tokens".toList :: args) .empty []).finish [] =
        .success (conditionLines
          (Query.conditions o (SortDirective.takeFrom a.query).1).value) := by
  intro h
  have hsame := h ["age::desc".toList] { query := "age::desc".toList } {} (by decide) rfl rfl
  exact absurd hsame (by decide)

end CommandLine

end RecordFilter
