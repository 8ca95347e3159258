import RecordFilter.Json.Value

/-!
# Kinds of values

Every JSON value is of one of six kinds.
-/

namespace RecordFilter.Json

/-- The kinds of JSON values. -/
inductive Kind
  | null
  | bool
  | number
  | string
  | array
  | object
deriving DecidableEq, Repr

/-- A value of a kind, in words. -/
def Kind.phrase : Kind → String
  | null => "a null"
  | bool => "a boolean"
  | number => "a number"
  | string => "a string"
  | array => "an array"
  | object => "an object"

/-- The kind of a value (`kind`). -/
def kind : Json → Kind
  | .null => .null
  | .bool _ => .bool
  | .number _ => .number
  | .string _ => .string
  | .array _ => .array
  | .object _ => .object

end RecordFilter.Json
