import RecordFilter.Text.WhiteSpace

/-!
# Sort directives

A query may end in a directive that tells by which field, and in which direction, its matches are
sorted.
-/

namespace RecordFilter

/-- The field to sort by and the direction (`SortKey`). -/
structure SortDirective where
  key : Text
  descending : Bool
deriving DecidableEq, Repr

namespace SortDirective

/-- The ending that sorts in a direction. -/
def ending (descending : Bool) : Text :=
  if descending then [':', ':', 'd', 'e', 's', 'c'] else [':', ':', 'a', 's', 'c']

/-- Reads a directive; its field must not be empty. -/
def ofText? (t : Text) : Option SortDirective :=
  let ofDirection (descending : Bool) : Option SortDirective :=
    (Text.dropEnding? (ending descending) t).map fun key => ⟨key, descending⟩
  ((ofDirection true).or (ofDirection false)).filter (!·.key.isEmpty)

/-- A directive as it stands at the end of a query. -/
def text (d : SortDirective) : Text :=
  d.key ++ ending d.descending

/-- Takes a directive from the end of a query (`SortKey::extract`); white space after it does not
count. -/
def takeFrom (query : Text) : Text × Option SortDirective :=
  let trimmed := Text.trimEnd query
  let (head, last) := (Text.cutAtLastBlank? trimmed).getD ([], trimmed)
  match ofText? last with
  | some d => (head, some d)
  | none => (query, none)

end SortDirective

end RecordFilter
