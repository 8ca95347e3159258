import RecordFilter.Query.Operator
import RecordFilter.Record.Kind
import RecordFilter.Report.Structure

/-!
# Events

What is reported while queries are read, compiled and evaluated.  An event has a level, a message
and named fields.  A rule that is applied is reported with what it puts in, and a text that is no
pattern with what is wrong with it.
-/

namespace RecordFilter

/-- An operator met a value of a kind that it cannot be applied to (`Fault::Incompatible`). -/
structure Mismatch where
  operator : Operator
  found : Json.Kind
deriving DecidableEq, Repr

/-- The wording of a mismatch. -/
def Mismatch.message (m : Mismatch) : String :=
  "cannot apply " ++ m.operator.name ++ " to " ++ m.found.phrase ++ " value"

/-- How much an event matters. -/
inductive Level
  | trace
  | debug
  | warn
deriving DecidableEq, Repr

/-- The name of a level. -/
def Level.name : Level → String
  | trace => "TRACE"
  | debug => "DEBUG"
  | warn => "WARN"

/-- What is reported. -/
inductive Event
  /-- A text rule replaced a piece of free text. -/
  | textRuleApplied (token pattern : Text) (expansion : TextExpansion)
  /-- A condition rule replaced the condition on a key. -/
  | conditionRuleApplied (key : Text) (expansion : Expansion)
  | compilingPattern (pattern : Text) (anyCase : Bool)
  /-- A literal is no pattern, so its argument never holds. -/
  | unusablePattern (pattern : Text) (fault : Pattern.Fault)
  | compiledQuery (query : Text) (clauses : Nat)
  /-- The fault policy decides about an argument. -/
  | resolvingMismatch (key : Text) (mismatch : Mismatch)
  /-- A query had been compiled before. -/
  | reusedQuery (query : Text)
  | sortingMatches (key : Text) (descending : Bool)
deriving DecidableEq, Repr

namespace Event

/-- The level of an event. -/
def level : Event → Level
  | textRuleApplied .. | conditionRuleApplied .. | compilingPattern .. | resolvingMismatch ..
  | reusedQuery .. => .trace
  | compiledQuery .. | sortingMatches .. => .debug
  | unusablePattern .. => .warn

/-- The message of an event. -/
def message : Event → String
  | textRuleApplied .. => "haystack macro"
  | conditionRuleApplied .. => "condition macro"
  | compilingPattern .. => "compiling regex"
  | unusablePattern .. => "invalid regex will never match"
  | compiledQuery .. => "compiled query"
  | resolvingMismatch .. => "resolving operator fault"
  | reusedQuery .. => "predicate cache hit"
  | sortingMatches .. => "sorting matches"

/-- The fields of an event. -/
def fields : Event → List (String × Json)
  | textRuleApplied token pattern expansion =>
    [("token", .string token), ("pattern", .string pattern),
      ("expansion", .string expansion.report)]
  | conditionRuleApplied key expansion =>
    [("key", .string key), ("expansion", .string expansion.report)]
  | compilingPattern pattern anyCase =>
    [("pattern", .string pattern), ("case_insensitive", .bool anyCase)]
  | unusablePattern pattern fault =>
    [("pattern", .string pattern), ("error", .ofString fault.message)]
  | compiledQuery query clauses => [("query", .string query), ("clauses", .ofNat clauses)]
  | resolvingMismatch key mismatch =>
    [("key", .string key), ("fault", .ofString mismatch.message)]
  | reusedQuery query => [("query", .string query)]
  | sortingMatches key descending => [("key", .string key), ("reverse", .bool descending)]

end Event

end RecordFilter
