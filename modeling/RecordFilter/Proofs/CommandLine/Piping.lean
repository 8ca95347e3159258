import RecordFilter.Proofs.CommandLine.Lines
import RecordFilter.Proofs.CommandLine.Sorting
import RecordFilter.Proofs.Search.Conjunction
import RecordFilter.Proofs.Search.LastWord

/-!
# Commands in a pipe

What one command writes may be given to another.  Where the first query closes its quotations and
has no directive, the two find what one command finds with both queries, a bar between them
(`run_piped`).  Three things carry this: the records are read back as they were, the bar asks for
what both queries ask for, and the directive of the second query is that of the whole.
-/

namespace RecordFilter

namespace Query

/-- A bar at the end of a query asks for nothing. -/
theorem isMatch_concat_bar (o : Options) {q : Text} (h : Closed blanks .quotes q) (s : Subject) :
    isMatch o (q ++ [' ', '|']) s = isMatch o q s := by
  have hbar : tokens ['|'] = [bar] := by decide
  rw [isMatch_eq, isMatch_eq, tokens_append_blank h, hbar, runsOf_append_bar, runsOf_nil,
    List.append_nil]

end Query

namespace CommandLine

variable {a : Arguments} {o : Options}

/-- The records that a query finds, in the order of its directive. -/
def found (o : Options) (query : Text) (records : List Json) : List Json :=
  Engine.arranged (SortDirective.takeFrom query).2
    (records.filter fun r => Query.isMatch o (SortDirective.takeFrom query).1 (.ofRecord r))

theorem found_eq (o : Options) {query head : Text} {d? : Option SortDirective}
    (h : SortDirective.takeFrom query = (head, d?)) (records : List Json) :
    found o query records =
      Engine.arranged d? (records.filter fun r => Query.isMatch o head (.ofRecord r)) := by
  unfold found
  rw [h]

/-- The command finds what its query finds, where it is given no field to sort by. -/
theorem matching_of_sort_eq_none (hsort : a.sort = none) (records : List Json) :
    a.matching o records = found o a.query records := by
  have hfound := (Engine.searchAndSort_spec (Engine.sound_ofOptions o) records a.query).1
  unfold Arguments.matching found Query.isMatch
  simp only [hsort, hfound, Predicate.value_compile]

/-- What a second query finds among the records of a first is what both find, a bar between
them, where the first closes its quotations and has no directive. -/
theorem found_found (o : Options) {q₁ : Text} (hclosed : Closed Query.blanks .quotes q₁)
    (hnone : SortDirective.takeFrom q₁ = (q₁, none)) (q₂ : Text) (records : List Json) :
    found o q₂ (found o q₁ records) = found o (q₁ ++ [' ', '|', ' '] ++ q₂) records := by
  have hspace : isWhiteSpace ' ' = true := by decide
  have hbar : SortDirective.takeFrom (q₁ ++ ' ' :: ['|']) = (q₁ ++ ' ' :: ['|'], none) :=
    SortDirective.takeFrom_append_of_none hspace q₁ (by decide) hnone
  have hboth : ∀ q, (records.filter fun r => Query.isMatch o q₁ (.ofRecord r)).filter
      (fun r => Query.isMatch o q (.ofRecord r)) =
        records.filter fun r => Query.isMatch o (q₁ ++ [' ', '|', ' '] ++ q) (.ofRecord r) := by
    intro q
    rw [List.filter_filter]
    apply List.filter_congr
    intro r _
    rw [Query.isMatch_append_bar o hclosed, Bool.and_comm]
  have hwhole : ∀ q : Text, q₁ ++ [' ', '|', ' '] ++ q = (q₁ ++ ' ' :: ['|']) ++ ' ' :: q := by
    intro q
    simp
  rw [found_eq o hnone]
  show found o q₂ (records.filter fun r => Query.isMatch o q₁ (.ofRecord r)) = _
  rcases hquery : SortDirective.takeFrom q₂ with ⟨head, _ | d⟩
  · obtain rfl := SortDirective.eq_of_takeFrom_eq_none hquery
    have htake := SortDirective.takeFrom_append_of_none hspace _ hquery hbar
    rw [← hwhole] at htake
    rw [found_eq o hquery, found_eq o htake]
    exact hboth head
  · obtain ⟨front, hfront, htake⟩ :=
      SortDirective.takeFrom_append_of_some hspace (q₁ ++ ' ' :: ['|']) hquery
    rw [← hwhole] at htake
    rw [found_eq o hquery, found_eq o htake]
    apply congrArg (Engine.arranged (some d))
    rcases hfront with rfl | ⟨rfl, rfl⟩
    · rw [hboth, hwhole]
    · -- Nothing stands before the directive, so the bar ends the query that is left.
      rw [List.filter_filter]
      apply List.filter_congr
      intro r _
      rw [Query.isMatch_concat_bar o hclosed, Query.isMatch_nil, Bool.true_and]

/-- The command with two hyphens before its query and nothing else has the default settings.  Let
commands differ in their queries alone, with no field to sort by, and let every record that is read
be no array and hold no numbers but integers.  Then a command with a second query that is given what
a command with a first one writes ends as the command with both, a bar between them, where the first
query closes its quotations and has no directive. -/
theorem run_piped :
    (∀ query, Arguments.ofTexts [['-', '-'], query] = .ok { query := query } ∧
      ∀ files, ({ query := query } : Arguments).options files [] = .ok {}) ∧
    ∀ {args : Text → List Text} {files : Configuration.Files} {environment : List (Text × Text)}
      {a : Arguments} {o : Options} {q₁ q₂ input : Text} {records : List Json},
      (∀ query, Arguments.ofTexts (args query) = .ok { a with query := query }) →
      a.options files environment = .ok o → a.tokens = false → a.sort = none →
      readRecords input = .ok records →
      (∀ r ∈ records, r.kind ≠ .array ∧ Json.OnlyIntegers r) →
      Closed Query.blanks .quotes q₁ → SortDirective.takeFrom q₁ = (q₁, none) →
      ∃ first last, (run (args q₁) files environment).finish input = .success first ∧
        (run (args q₂) files environment).finish first = .success last ∧
        (run (args (q₁ ++ [' ', '|', ' '] ++ q₂)) files environment).finish input =
          .success last := by
  refine ⟨fun query => ⟨rfl, fun _ => rfl⟩, ?_⟩
  intro args files environment a o q₁ q₂ input records hargs hoptions htokens hsort hrecords hall
    hclosed hnone
  have hrun : ∀ query {text : Text} {rs : List Json}, readRecords text = .ok rs →
      (run (args query) files environment).finish text =
        .success (recordLines (found o query rs)) := by
    intro query text rs hread
    rw [finish_run (hargs query) hoptions htokens hread]
    rw [matching_of_sort_eq_none (a := { a with query := query }) hsort]
  have hsub : found o q₁ records ⊆ records := by
    rw [found_eq o hnone]
    intro r hr
    exact List.mem_of_mem_filter hr
  have hlines : readRecords (recordLines (found o q₁ records)) = .ok (found o q₁ records) :=
    readRecords_recordLines (fun r hr => shaped_of_readRecords hrecords r (hsub hr))
      (fun r hr => (hall r (hsub hr)).2) (fun r hr => (hall r (hsub hr)).1)
  refine ⟨_, _, hrun q₁ hrecords, hrun q₂ hlines, ?_⟩
  rw [hrun _ hrecords, found_found o hclosed hnone]

/-- The second query is a directive and nothing else, so both together end in a bar. -/
theorem run_piped_directive :
    let args := fun query : Text => [['-', '-'], query]
    let input := "[\x7b\"b\":0\x7d,\x7b\"a\":0\x7d,\x7b\"a\":[0]\x7d]".toList
    let zero : Json := .number (.integer ⟨0, by decide⟩)
    let records : List Json := [.object [(['b'], zero)], .object [(['a'], zero)],
      .object [(['a'], .array [zero])]]
    readRecords input = .ok records ∧
      (∀ r ∈ records, r.kind ≠ .array ∧ Json.OnlyIntegers r) ∧
      Closed Query.blanks .quotes "a:?".toList ∧
      SortDirective.takeFrom "a:?".toList = ("a:?".toList, none) ∧
      ∃ first last, (run (args "a:?".toList) .empty []).finish input = .success first ∧
        (run (args "a::desc".toList) .empty []).finish first = .success last ∧
        (run (args "a:? | a::desc".toList) .empty []).finish input = .success last := by
  intro args input zero records
  have hrecords : readRecords input = .ok records := by rfl
  have hall : ∀ r ∈ records, r.kind ≠ .array ∧ Json.OnlyIntegers r := by
    intro r hr
    simp only [records, List.mem_cons, List.not_mem_nil, or_false] at hr
    rcases hr with rfl | rfl | rfl
    · exact ⟨by decide, .object (by simpa using .integer _)⟩
    · exact ⟨by decide, .object (by simpa using .integer _)⟩
    · exact ⟨by decide, .object (by simpa using .array (by simpa using .integer _))⟩
  have hclosed : Closed Query.blanks .quotes "a:?".toList := by decide
  have hnone : SortDirective.takeFrom "a:?".toList = ("a:?".toList, none) := by decide
  have hargs : ∀ query, Arguments.ofTexts (args query) = .ok { query := query } :=
    fun query => (run_piped.1 query).1
  exact ⟨hrecords, hall, hclosed, hnone,
    run_piped.2 hargs ((run_piped.1 []).2 .empty) rfl rfl hrecords hall hclosed hnone⟩

end CommandLine

end RecordFilter
