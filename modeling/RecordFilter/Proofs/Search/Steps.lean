import RecordFilter.Search.Engine

/-!
# Runs of an engine

What an engine can be asked to do, one step after another.  A run yields the answers to its steps
and the engine as it is at the end.
-/

namespace RecordFilter.Engine

/-- What an engine can be asked to do. -/
inductive Step
  | compile (query : Text)
  | request (query : Text)
  | search (records : List Json) (query : Text)
  | searchAndSort (records : List Json) (query : Text)
  | conditions (query : Text)
  | clear

/-- What a step yields. -/
inductive Answer
  | predicate (p : Predicate)
  | kept (p : Numbered Predicate)
  | records (found : List Json)
  | conditions (c : List (List Condition))
  | cleared

/-- Takes a step. -/
def perform (e : Engine) : Step → Traced (Answer × Engine)
  | .compile query => do
    let (p, e) ← e.compile query
    return (.predicate p, e)
  | .request query => do
    let (p, e) ← e.request query
    return (.kept p, e)
  | .search records query => do
    let (found, e) ← e.search records query
    return (.records found, e)
  | .searchAndSort records query => do
    let (found, e) ← e.searchAndSort records query
    return (.records found, e)
  | .conditions query => do
    let c ← e.conditions query
    return (.conditions c, e)
  | .clear => return (.cleared, e.clear)

/-- Takes steps, one after another. -/
def run (e : Engine) (steps : List Step) : Traced (List Answer × Engine) :=
  Traced.eachWith perform e steps

end RecordFilter.Engine
