import RecordFilter.Query.Split

/-!
# Tokens and sub-queries

The tokens of a query stand between blanks, blanks in quotation marks excepted.  A token that is a
bar by itself ends a sub-query; the others of a sub-query are joined by single spaces.
-/

namespace RecordFilter.Query

/-- The blanks between the tokens of a query (`WHITESPACE`). -/
def blanks : List Char := [' ', '\t', '\r', '\n']

/-- The token between two sub-queries. -/
def bar : Text := ['|']

/-- The tokens of a query. -/
def tokens (query : Text) : List Text :=
  split blanks .quotes false query

/-- The tokens of a query, sub-query by sub-query; empty sub-queries are dropped. -/
def tokenRuns (query : Text) : List (List Text) :=
  ((tokens query).splitOnP (· == bar)).filter (!·.isEmpty)

/-- The sub-queries of a query (`split_chain`). -/
def subQueries (query : Text) : List Text :=
  (tokenRuns query).map (List.intercalate [' '])

end RecordFilter.Query
