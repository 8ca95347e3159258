import RecordFilter.Json.Value
import RecordFilter.Text.Quoted

/-!
# Decoding values

A decoder takes a JSON value apart and says what it misses.  A structure is given as an object,
whose fields are looked at in the order of their names, or as an array of its fields in the order of
their declaration; unknown fields of an object do not count.  A name that stands for a choice is
given as a string or as an object with the name for its only field and null for its value.
-/

namespace RecordFilter

/-- What a decoder misses. -/
inductive DecodeError
  /-- A value of another kind, and what was expected. -/
  | wrongKind (found : Json) (expected : String)
  /-- A value of the right kind that is out of bounds, and what was expected. -/
  | outOfBounds (found : Json) (expected : String)
  | unknownName (name : Text) (known : List String)
  /-- An object that should have one field. -/
  | notOneField
  | missingField (name : String)
  | wrongLength (length : Nat) (expected : String)
  /-- No form of the named type fits. -/
  | noForm (name : String)
deriving Repr

namespace DecodeError

/-- A value in an error. -/
def shown : Json → Text
  | .null => "null".toList
  | .bool true => "boolean \x60true\x60".toList
  | .bool false => "boolean \x60false\x60".toList
  | .number (.integer i) => "integer \x60".toList ++ Text.ofInt i.val ++ ['\x60']
  | .number (.float x) => "floating point \x60".toList ++ x.text ++ ['\x60']
  | .string t => "string ".toList ++ Text.quoted t
  | .array _ => "sequence".toList
  | .object _ => "map".toList

/-- Names to choose from. -/
def oneOf (names : List String) : Text :=
  let marked := names.map fun n => '\x60' :: n.toList ++ ['\x60']
  match marked with
  | [a, b] => a ++ " or ".toList ++ b
  | [a] => a
  | _ => "one of ".toList ++ [',', ' '].intercalate marked

/-- The wording of an error. -/
def message : DecodeError → Text
  | wrongKind found expected =>
    "invalid type: ".toList ++ shown found ++ ", expected ".toList ++ expected.toList
  | outOfBounds found expected =>
    "invalid value: ".toList ++ shown found ++ ", expected ".toList ++ expected.toList
  | unknownName name known =>
    "unknown variant \x60".toList ++ name ++ "\x60, expected ".toList ++ oneOf known
  | notOneField => "invalid value: map, expected map with a single key".toList
  | missingField name => "missing field \x60".toList ++ name.toList ++ ['\x60']
  | wrongLength length expected =>
    "invalid length ".toList ++ Text.ofNat length ++ ", expected ".toList ++ expected.toList
  | noForm name => "data did not match any variant of untagged enum ".toList ++ name.toList

end DecodeError

/-- What a decoder returns. -/
abbrev Decoded (α : Type) := Except DecodeError α

namespace Json

variable {α : Type}

/-- Decodes a text. -/
def asText : Json → Decoded Text
  | .string t => .ok t
  | v => .error (.wrongKind v "a string")

/-- Decodes a truth value. -/
def asBool : Json → Decoded Bool
  | .bool b => .ok b
  | v => .error (.wrongKind v "a boolean")

/-- Decodes a natural number of 64 bits. -/
def asNat (v : Json) : Decoded Nat :=
  match v with
  | .number (.integer i) =>
    if i.val < 0 then .error (.outOfBounds v "usize") else .ok i.val.toNat
  | _ => .error (.wrongKind v "usize")

/-- Decodes a value that may be null. -/
def asOption (decode : Json → Decoded α) : Json → Decoded (Option α)
  | .null => .ok none
  | v => (decode v).map some

/-- Decodes a list. -/
def asList (decode : Json → Decoded α) : Json → Decoded (List α)
  | .array items => items.mapM decode
  | v => .error (.wrongKind v "a sequence")

/-- Decodes an object whose field names are not fixed. -/
def asMap (decode : Json → Decoded α) : Json → Decoded (List (Text × α))
  | .object fields => fields.mapM fun f => (decode f.2).map fun a => (f.1, a)
  | v => .error (.wrongKind v "a map")

/-- Decodes a name among those known. -/
def asName (known : List (String × α)) (name : Text) : Decoded α :=
  match known.find? fun k => k.1.toList = name with
  | some k => .ok k.2
  | none => .error (.unknownName name (known.map (·.1)))

/-- Decodes a choice. -/
def asChoice (known : List (String × α)) : Json → Decoded α
  | .string name => asName known name
  | .object [(name, value)] => do
    let a ← asName known name
    if value.isNull then return a else .error (.wrongKind value "unit")
  | .object _ => .error .notOneField
  | v => .error (.wrongKind v "string or map")

/-- Decodes a field of an object that may be missing. -/
def optionalField (fields : List (Text × Json)) (name : String) (decode : Json → Decoded α) :
    Decoded (Option α) :=
  match fields.lookup name.toList with
  | some v => (decode v).map some
  | none => .ok none

/-- A field that must not be missing. -/
def required (name : String) : Option α → Decoded α
  | some a => .ok a
  | none => .error (.missingField name)

/-- Decodes an item of an array that may be missing. -/
def optionalItem (items : List Json) (place : Nat) (decode : Json → Decoded α) :
    Decoded (Option α) :=
  match items[place]? with
  | some v => (decode v).map some
  | none => .ok none

/-- Decodes an item of an array; `expected` says what an array without it should have been. -/
def requiredItem (items : List Json) (place : Nat) (expected : String)
    (decode : Json → Decoded α) : Decoded α :=
  match items[place]? with
  | some v => decode v
  | none => .error (.wrongLength place expected)

/-- Refuses an array with more items than a structure has fields. -/
def noMoreThan (count : Nat) (items : List Json) : Decoded Unit :=
  if count < items.length then .error (.wrongLength items.length "fewer elements in array")
  else .ok ()

end Json

end RecordFilter
