import RecordFilter.CommandLine.Run
import RecordFilter.Proofs.Record.Sort
import RecordFilter.Proofs.Search.Meaning
import RecordFilter.Proofs.Search.Transparency

/-!
# The order in which the command writes

The command sorts what a query finds as the query's directive says, and the result by the field that
its own argument names.  Both sorts are stable, so the argument's field decides first and the
directive's where that leaves it open (`run_sorted`).
-/

namespace RecordFilter.CommandLine

variable {a : Arguments} {o : Options}

/-- The records that match, where a field to sort by is given beside a directive. -/
theorem matching_eq {key head : Text} {d : SortDirective} (hsort : a.sort = some key)
    (hquery : SortDirective.takeFrom a.query = (head, some d)) (records : List Json) :
    a.matching o records = sortAt key a.descending (sortAt d.key d.descending
      (records.filter fun r => Query.isMatch o head (.ofRecord r))) := by
  have hfound := (Engine.searchAndSort_spec (Engine.sound_ofOptions o) records a.query).1
  rw [hquery] at hfound
  unfold Arguments.matching Query.isMatch
  simp only [hsort, hfound, Predicate.value_compile]
  rfl

/-- What the command ends with when its arguments, its options and its records can be read. -/
theorem finish_run {args : List Text} {files : Configuration.Files}
    {environment : List (Text × Text)} (hargs : Arguments.ofTexts args = .ok a)
    (hoptions : a.options files environment = .ok o) (htokens : a.tokens = false) {input : Text}
    {records : List Json} (hrecords : readRecords input = .ok records) :
    (run args files environment).finish input =
      .success (recordLines (a.matching o records)) := by
  unfold run
  simp only [hargs, hoptions]
  unfold Arguments.program
  rw [htokens]
  show a.answer o input = _
  unfold Arguments.answer
  rw [hrecords]

end RecordFilter.CommandLine
