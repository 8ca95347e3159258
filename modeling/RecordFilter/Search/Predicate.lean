import RecordFilter.Query.Conditions
import RecordFilter.Record.Subject
import RecordFilter.Search.Test

/-!
# Predicates

A predicate is a query made ready to be asked of records.  A subject matches when it matches every
clause.  It matches a clause when it passes every check that is not additive and, where there are
additive ones, one of these.  What has been decided is not tried again: the tests after the one that
decides report nothing.
-/

namespace RecordFilter

/-- A condition made ready to be tried (`CompiledToken`). -/
structure Check where
  polarity : Polarity
  key : Text
  combination : Combination
  tests : List Test
deriving Repr

namespace Check

/-- Makes a condition ready (`CompiledToken::compile`). -/
def ofCondition (o : Options) (c : PatternCache) (condition : Condition) :
    Traced (Check × PatternCache) := do
  let (tests, c) ← Traced.eachWith (Test.ofArgument o) c condition.arguments
  return (⟨condition.polarity, condition.key, condition.combination, tests⟩, c)

/-- What a test says about a value that may be absent; the policy decides where it has no
answer. -/
def answer (policy : FaultPolicy) (key : Text) (value : Option Json) (t : Test) : Traced Bool :=
  match value with
  | none => return false
  | some v =>
    match t.outcome v with
    | .ok b => return b
    | .error m => do
      Traced.report (.resolvingMismatch key m)
      return policy.outcome

/-- What a test contributes to a check: an excluding one reverses it. -/
def contribution (policy : FaultPolicy) (c : Check) (value : Option Json) (t : Test) :
    Traced Bool := do
  return (← answer policy c.key value t) != (c.polarity == .excluding)

/-- Whether a subject passes a check (`CompiledToken::matches`). -/
def run (policy : FaultPolicy) (c : Check) (s : Subject) : Traced Bool :=
  if c.tests.isEmpty then return true
  else
    let value := s.dig c.key
    match c.combination with
    | .any => Traced.any (c.contribution policy value) c.tests
    | .all => Traced.all (c.contribution policy value) c.tests

end Check

/-- A sub-query made ready to be asked (`Clause`). -/
structure Clause where
  required : List Check
  additive : List Check
deriving Repr

namespace Clause

/-- Makes the conditions of a sub-query ready (`Clause::compile`). -/
def ofConditions (o : Options) (c : PatternCache) (conditions : List Condition) :
    Traced (Clause × PatternCache) := do
  let (checks, c) ← Traced.eachWith (Check.ofCondition o) c conditions
  return (⟨checks.filter (·.polarity != .additive), checks.filter (·.polarity == .additive)⟩, c)

/-- Whether a subject matches a clause (`Clause::matches`). -/
def run (policy : FaultPolicy) (c : Clause) (s : Subject) : Traced Bool := do
  if ← Traced.all (·.run policy s) c.required then
    if c.additive.isEmpty then return true else Traced.any (·.run policy s) c.additive
  else return false

end Clause

/-- A query made ready to be asked (`Predicate`). -/
structure Predicate where
  query : Text
  clauses : List Clause
  faultPolicy : FaultPolicy
deriving Repr

namespace Predicate

/-- Makes a sub-query ready. -/
def compilePart (o : Options) (c : PatternCache) (subQuery : Text) :
    Traced (Clause × PatternCache) := do
  Clause.ofConditions o c (← Query.conditionsOfPart o subQuery)

/-- Makes a query ready, with the patterns compiled so far (`Predicate::compile`). -/
def compileWith (o : Options) (c : PatternCache) (query : Text) :
    Traced (Predicate × PatternCache) := do
  let (clauses, c) ← Traced.eachWith (compilePart o) c (Query.subQueries query)
  Traced.report (.compiledQuery query clauses.length)
  return (⟨query, clauses, o.faultPolicy⟩, c)

/-- Makes a query ready (`compile`). -/
def compile (o : Options) (query : Text) : Traced Predicate := do
  return (← compileWith o (.empty none) query).1

/-- Asks a predicate of a subject (`Predicate::matches`). -/
def run (p : Predicate) (s : Subject) : Traced Bool :=
  Traced.all (·.run p.faultPolicy s) p.clauses

/-- Whether a subject matches. -/
def isMatch (p : Predicate) (s : Subject) : Bool :=
  (p.run s).value

end Predicate

end RecordFilter
