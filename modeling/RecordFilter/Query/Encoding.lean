import RecordFilter.Json.Value
import RecordFilter.Query.Condition
import RecordFilter.Query.Options

/-!
# Encoding conditions and settings

Conditions and settings as JSON structures.
-/

namespace RecordFilter

namespace Literal

mutual

/-- A literal as a value. -/
def toJson : Literal → Json
  | .number x => .number (.float x)
  | .bool b => .bool b
  | .text t => .string t
  | .list items => .array (toItems items)

/-- Several literals as values. -/
def toItems : List Literal → List Json
  | [] => []
  | l :: rest => toJson l :: toItems rest

end

end Literal

/-- An argument as a structure. -/
def Argument.toJson (a : Argument) : Json :=
  .ofFields [
    ("operator".toList, .ofString a.operator.name), ("literal".toList, a.literal.toJson),
    ("raw".toList, .string a.raw)]

/-- A condition as a structure. -/
def Condition.toJson (c : Condition) : Json :=
  .ofFields [
    ("polarity".toList, .ofString c.polarity.name), ("key".toList, .string c.key),
    ("compose".toList, .ofString c.combination.name),
    ("args".toList, .array (c.arguments.map Argument.toJson))]

/-- The capacity of a cache as a value. -/
def capacityToJson : Option Nat → Json
  | some n => .ofNat n
  | none => .null

/-- Settings as a structure. -/
def Settings.toJson (s : Settings) : Json :=
  .ofFields [
    ("haystack_key".toList, .string s.haystackKey), ("ignore_case".toList, .bool s.ignoreCase),
    ("haystack_as_one_token".toList, .bool s.onePhrase),
    ("fault_policy".toList, .ofString s.faultPolicy.word),
    ("cache_capacity".toList, capacityToJson s.cacheCapacity),
    ("aliases".toList, .ofFields (s.aliases.map fun a => (a.1, .string a.2)))]

end RecordFilter
