import RecordFilter.Json.Value

/-!
# The order of values

Values of different kinds stand in the order null, truth values, numbers, strings, arrays, objects.
Arrays compare item by item, objects by the number of their fields.
-/

namespace RecordFilter.Json

/-- The place of a value's kind among the kinds (`rank`). -/
def rank : Json → Nat
  | .null => 0
  | .bool _ => 1
  | .number _ => 2
  | .string _ => 3
  | .array _ => 4
  | .object _ => 5

mutual

/-- The order of two values (`compare_values`). -/
def compareValues : Json → Json → Ordering
  | .bool a, .bool b => compare a b
  | .number a, .number b => a.toDouble.totalOrder b.toDouble
  | .string a, .string b => compare a b
  | .array a, .array b => compareItems a b
  | .object a, .object b => compare a.length b.length
  | a, b => compare a.rank b.rank

/-- The order of two arrays: that of the first items that differ, else of the lengths. -/
def compareItems : List Json → List Json → Ordering
  | [], [] => .eq
  | [], _ :: _ => .lt
  | _ :: _, [] => .gt
  | a :: as, b :: bs => (compareValues a b).then (compareItems as bs)

end

end RecordFilter.Json
