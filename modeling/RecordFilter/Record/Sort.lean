import RecordFilter.Record.Order
import RecordFilter.Record.Path

/-!
# Sorting records

Records are sorted by the value at a path, those without one last whatever the direction.  Records
that compare alike keep their order.
-/

namespace RecordFilter

/-- The order of two records by the value at a path (`compare_dug`). -/
def compareAt (key : Text) (descending : Bool) (a b : Json) : Ordering :=
  match a.dig key, b.dig key with
  | some v, some w => if descending then w.compareValues v else v.compareValues w
  | some _, none => .lt
  | none, some _ => .gt
  | none, none => .eq

/-- The order of two records by the values at several paths, the first the most significant. -/
def compareAtAll (keys : List Text) (a b : Json) : Ordering :=
  keys.foldl (fun o key => o.then (compareAt key false a b)) .eq

/-- Whether an order does not put the second before the first. -/
def isNotAfter (o : Ordering) : Bool :=
  o != .gt

/-- Records, each with something beside it, sorted by the value at a path. -/
def sortAtBy {α : Type} (record : α → Json) (key : Text) (descending : Bool) (xs : List α) :
    List α :=
  xs.mergeSort fun a b => isNotAfter (compareAt key descending (record a) (record b))

/-- Records sorted by the value at a path (`dig_sort`). -/
def sortAt (key : Text) (descending : Bool) (records : List Json) : List Json :=
  sortAtBy id key descending records

/-- Records, each with something beside it, sorted by the values at several paths. -/
def sortAtAllBy {α : Type} (record : α → Json) (keys : List Text) (xs : List α) : List α :=
  xs.mergeSort fun a b => isNotAfter (compareAtAll keys (record a) (record b))

/-- Records sorted by the values at several paths (`dig_sort_many`). -/
def sortAtAll (keys : List Text) (records : List Json) : List Json :=
  sortAtAllBy id keys records

end RecordFilter
