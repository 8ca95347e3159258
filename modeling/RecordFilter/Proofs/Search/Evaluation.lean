import RecordFilter.Proofs.Record.Merge
import RecordFilter.Proofs.Search.Compilation

/-!
# What a predicate asks of a subject

A predicate sees a subject only through the values at its paths, so subjects that agree at every
path are the same to it; several records and the one they merge into are such subjects.
-/

namespace RecordFilter

section Congruence

variable {s s' : Subject} (h : ∀ path, s.dig path = s'.dig path)

include h

theorem Check.run_congr (policy : FaultPolicy) (c : Check) : c.run policy s = c.run policy s' := by
  unfold Check.run
  rw [h c.key]

theorem Clause.run_congr (policy : FaultPolicy) (c : Clause) :
    c.run policy s = c.run policy s' := by
  have hcheck : (fun c : Check => c.run policy s) = fun c => c.run policy s' :=
    funext (Check.run_congr h policy)
  unfold Clause.run
  rw [hcheck]

theorem Predicate.run_congr (p : Predicate) : p.run s = p.run s' := by
  have hclause : (fun c : Clause => c.run p.faultPolicy s) = fun c => c.run p.faultPolicy s' :=
    funext (Clause.run_congr h p.faultPolicy)
  unfold Predicate.run
  rw [hclause]

theorem Predicate.isMatch_congr (p : Predicate) : p.isMatch s = p.isMatch s' := by
  unfold Predicate.isMatch
  rw [p.run_congr h]

end Congruence

/-- Several records taken together have at every path what the record has that they merge into, so
every query answers alike on them and on it. -/
theorem composite_as_merge (records : List Json) :
    (∀ path, (Subject.composite records).dig path = (Subject.merge records).dig path) ∧
      ∀ o query, (Predicate.compile o query).value.isMatch (.composite records) =
        (Predicate.compile o query).value.isMatch (.single (Subject.merge records)) := by
  refine ⟨Subject.dig_composite records, fun o query => ?_⟩
  exact Predicate.isMatch_congr (Subject.dig_composite records) _

end RecordFilter
