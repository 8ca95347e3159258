import RecordFilter.Json.Decoding
import RecordFilter.Query.Condition
import RecordFilter.Query.Options

/-!
# Decoding conditions and settings

Conditions and settings are given as JSON structures.  A literal is given as the number, truth
value, string or array that it is.  Every setting may be left out.
-/

namespace RecordFilter

/-- Decodes an operator. -/
def Operator.ofJson : Json → Decoded Operator :=
  Json.asChoice (Operator.all.map fun op => (op.name, op))

/-- Decodes a polarity. -/
def Polarity.ofJson : Json → Decoded Polarity :=
  Json.asChoice ([.including, .excluding, .additive].map fun p => (p.name, p))

/-- Decodes a combination. -/
def Combination.ofJson : Json → Decoded Combination :=
  Json.asChoice ([.any, .all].map fun c => (c.name, c))

/-- Decodes a fault policy. -/
def FaultPolicy.ofJson : Json → Decoded FaultPolicy :=
  Json.asChoice ([.opened, .closed].map fun p => (p.word, p))

namespace Literal

mutual

/-- The literal that a value is. -/
def ofJson? : Json → Option Literal
  | .number n => some (.number n.toDouble)
  | .bool b => some (.bool b)
  | .string t => some (.text t)
  | .array items => (ofItems? items).map .list
  | .null | .object _ => none

/-- The literals that several values are. -/
def ofItems? : List Json → Option (List Literal)
  | [] => some []
  | v :: rest => do
    let l ← ofJson? v
    let ls ← ofItems? rest
    return l :: ls

end

/-- Decodes a literal. -/
def ofJson (v : Json) : Decoded Literal :=
  match ofJson? v with
  | some l => .ok l
  | none => .error (.noForm "Literal")

end Literal

/-- Decodes an argument. -/
def Argument.ofJson : Json → Decoded Argument
  | .object fields => do
    let literal ← Json.optionalField fields "literal" Literal.ofJson
    let operator ← Json.optionalField fields "operator" Operator.ofJson
    let raw ← Json.optionalField fields "raw" Json.asText
    return {
      operator := ← Json.required "operator" operator
      literal := ← Json.required "literal" literal
      raw := ← Json.required "raw" raw }
  | .array items => do
    let expected := "struct Arg with 3 elements"
    let a : Argument := {
      operator := ← Json.requiredItem items 0 expected Operator.ofJson
      literal := ← Json.requiredItem items 1 expected Literal.ofJson
      raw := ← Json.requiredItem items 2 expected Json.asText }
    Json.noMoreThan 3 items
    return a
  | v => .error (.wrongKind v "struct Arg")

/-- Decodes a condition. -/
def Condition.ofJson : Json → Decoded Condition
  | .object fields => do
    let arguments ← Json.optionalField fields "args" (Json.asList Argument.ofJson)
    let combination ← Json.optionalField fields "compose" Combination.ofJson
    let key ← Json.optionalField fields "key" Json.asText
    let polarity ← Json.optionalField fields "polarity" Polarity.ofJson
    return {
      polarity := ← Json.required "polarity" polarity
      key := ← Json.required "key" key
      combination := ← Json.required "compose" combination
      arguments := ← Json.required "args" arguments }
  | .array items => do
    let expected := "struct ConditionToken with 4 elements"
    let c : Condition := {
      polarity := ← Json.requiredItem items 0 expected Polarity.ofJson
      key := ← Json.requiredItem items 1 expected Json.asText
      combination := ← Json.requiredItem items 2 expected Combination.ofJson
      arguments := ← Json.requiredItem items 3 expected (Json.asList Argument.ofJson) }
    Json.noMoreThan 4 items
    return c
  | v => .error (.wrongKind v "struct ConditionToken")

/-- Settings with the values that are given, and the usual ones for the others. -/
def Settings.ofGiven (haystackKey : Option Text) (ignoreCase onePhrase : Option Bool)
    (faultPolicy : Option FaultPolicy) (cacheCapacity : Option (Option Nat))
    (aliases : Option (List (Text × Text))) : Settings :=
  { haystackKey := haystackKey.getD defaultHaystackKey
    ignoreCase := ignoreCase.getD false
    onePhrase := onePhrase.getD false
    faultPolicy := faultPolicy.getD .closed
    cacheCapacity := cacheCapacity.getD none
    aliases := aliases.getD [] }

/-- Decodes settings. -/
def Settings.ofJson : Json → Decoded Settings
  | .object fields => do
    let aliases ← Json.optionalField fields "aliases" (Json.asMap Json.asText)
    let cacheCapacity ← Json.optionalField fields "cache_capacity" (Json.asOption Json.asNat)
    let faultPolicy ← Json.optionalField fields "fault_policy" FaultPolicy.ofJson
    let onePhrase ← Json.optionalField fields "haystack_as_one_token" Json.asBool
    let haystackKey ← Json.optionalField fields "haystack_key" Json.asText
    let ignoreCase ← Json.optionalField fields "ignore_case" Json.asBool
    return .ofGiven haystackKey ignoreCase onePhrase faultPolicy cacheCapacity aliases
  | .array items => do
    let haystackKey ← Json.optionalItem items 0 Json.asText
    let ignoreCase ← Json.optionalItem items 1 Json.asBool
    let onePhrase ← Json.optionalItem items 2 Json.asBool
    let faultPolicy ← Json.optionalItem items 3 FaultPolicy.ofJson
    let cacheCapacity ← Json.optionalItem items 4 (Json.asOption Json.asNat)
    let aliases ← Json.optionalItem items 5 (Json.asMap Json.asText)
    Json.noMoreThan 6 items
    return .ofGiven haystackKey ignoreCase onePhrase faultPolicy cacheCapacity aliases
  | v => .error (.wrongKind v "struct Settings")

end RecordFilter
