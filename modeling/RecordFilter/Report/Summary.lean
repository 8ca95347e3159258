import RecordFilter.Report.Structure
import RecordFilter.Search.Predicate

/-!
# Options and predicates in reports

Options and predicates are reported as structures.  Of the rules of options only the keys and the
patterns are shown, and of the clauses of a predicate their number.
-/

namespace RecordFilter

/-- Options in a report. -/
def Options.report (o : Options) : Text :=
  Report.structureText "Options" [
    ("haystack_key", Text.quoted o.haystackKey),
    ("macros", Report.listText (o.conditionRules.map (·.1))),
    ("haystack_macros", Report.listText (o.textRules.map (·.pattern.source))),
    ("ignore_case", Report.boolText o.ignoreCase),
    ("haystack_as_one_token", Report.boolText o.onePhrase),
    ("fault_policy", o.faultPolicy.name.toList),
    ("cache_capacity", Report.optionText o.cacheCapacity)]

/-- A predicate in a report. -/
def Predicate.report (p : Predicate) : Text :=
  Report.structureText "Predicate" [
    ("query", Text.quoted p.query),
    ("clauses", Text.ofNat p.clauses.length),
    ("fault_policy", p.faultPolicy.name.toList)]

end RecordFilter
