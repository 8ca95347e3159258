import RecordFilter.Record.Sort
import RecordFilter.Search.Predicate
import RecordFilter.Search.SortDirective

/-!
# Engines

An engine compiles queries under fixed options and keeps what it has compiled: predicates by their
query, patterns by their text.  A predicate that it keeps has a number of its own.  Every request
returns the engine as it is afterwards.
-/

namespace RecordFilter

/-- Options with the queries and patterns compiled under them (`Engine`). -/
structure Engine where
  options : Options
  patterns : PatternCache
  predicates : Cache Text (Numbered Predicate)
  /-- The number of the predicate that is kept next. -/
  next : Nat := 0

namespace Engine

/-- An engine that has not compiled anything (`Engine::new`). -/
def ofOptions (o : Options) : Engine :=
  { options := o, patterns := .empty o.cacheCapacity, predicates := ⟨o.cacheCapacity, []⟩ }

/-- Compiles a query without keeping the predicate (`Engine::compile`). -/
def compile (e : Engine) (query : Text) : Traced (Predicate × Engine) := do
  let (p, patterns) ← Predicate.compileWith e.options e.patterns query
  return (p, { e with patterns := patterns })

/-- Compiles a query and gives the predicate the next number. -/
def compileNext (query : Text) : StateT Engine Traced (Numbered Predicate) := fun e => do
  let (p, e) ← e.compile query
  return (⟨e.next, p⟩, { e with next := e.next + 1 })

/-- The predicate kept for a query (`Engine::compile_cached`); it is compiled when there is none. -/
def request (e : Engine) (query : Text) : Traced (Numbered Predicate × Engine) :=
  match e.predicates.get query with
  | (some entry, predicates) => do
    Traced.report (.reusedQuery query)
    return (entry, { e with predicates := predicates })
  | (none, predicates) => do
    let ((entry, predicates), e) ← (predicates.getOrInsert query (compileNext query)).run e
    return (entry, { e with predicates := predicates })

/-- The conditions of a query (`Engine::tokenize`). -/
def conditions (e : Engine) (query : Text) : Traced (List (List Condition)) :=
  Query.conditions e.options query

variable {α : Type}

/-- The records that match a query, each with something beside it, in their order. -/
def searchBy (record : α → Json) (e : Engine) (items : List α) (query : Text) :
    Traced (List α × Engine) := do
  let (entry, e) ← e.request query
  let found ← Traced.filter (fun a => entry.value.run (.ofRecord (record a))) items
  return (found, e)

/-- The records that match a query, each with something beside it, in the order that a directive at
its end asks for. -/
def searchAndSortBy (record : α → Json) (e : Engine) (items : List α) (query : Text) :
    Traced (List α × Engine) := do
  let (query, directive) := SortDirective.takeFrom query
  let (found, e) ← e.searchBy record items query
  match directive with
  | none => return (found, e)
  | some d =>
    Traced.report (.sortingMatches d.key d.descending)
    return (sortAtBy record d.key d.descending found, e)

/-- The records that match a query, in their order (`Engine::search`). -/
def search (e : Engine) (records : List Json) (query : Text) : Traced (List Json × Engine) :=
  e.searchBy id records query

/-- The records that match a query, in the order that a directive at its end asks for
(`Engine::search_and_sort`). -/
def searchAndSort (e : Engine) (records : List Json) (query : Text) :
    Traced (List Json × Engine) :=
  e.searchAndSortBy id records query

/-- The number of predicates kept (`cached_predicates`). -/
def keptPredicates (e : Engine) : Nat :=
  e.predicates.size

/-- The number of patterns kept (`cached_regexes`). -/
def keptPatterns (e : Engine) : Nat :=
  e.patterns.size

/-- Forgets all predicates and patterns (`clear_caches`). -/
def clear (e : Engine) : Engine :=
  { e with patterns := e.patterns.clear, predicates := e.predicates.clear }

@[simp] theorem value_run_compileNext (e : Engine) (query : Text) :
    ((compileNext query).run e).value =
      let compiled := (e.compile query).value
      (⟨e.next, compiled.1⟩, { compiled.2 with next := e.next + 1 }) :=
  rfl

@[simp] theorem events_run_compileNext (e : Engine) (query : Text) :
    ((compileNext query).run e).events = (e.compile query).events :=
  List.append_nil _

/-- A predicate that is kept is served and reported as used again. -/
theorem request_of_found {e : Engine} {query : Text} {entry : Numbered Predicate}
    (h : e.predicates.find? query = some entry) :
    e.request query =
      ⟨(entry, { e with predicates := e.predicates.insert query entry }),
        [.reusedQuery query]⟩ := by
  rw [request, Cache.get_of_found h]
  rfl

/-- A query without a predicate is compiled, and the predicate is kept from then on. -/
theorem request_of_missing {e : Engine} {query : Text} (h : e.predicates.find? query = none) :
    e.request query =
      let compiled := e.compile query
      let entry : Numbered Predicate := ⟨e.next, compiled.value.1⟩
      ⟨(entry, { compiled.value.2 with
        predicates := e.predicates.insert query entry, next := e.next + 1 }),
        compiled.events⟩ := by
  rw [request, Cache.get_of_missing h]
  dsimp only
  rw [Cache.getOrInsert_of_missing h]
  ext1
  · simp [StateT.run_bind]
  · simp [StateT.run_bind]

end Engine

end RecordFilter
