import RecordFilter.Configuration.Error
import RecordFilter.Text.LowerCase

/-!
# Converting values

Values are converted loosely: words stand for truth values, truth values and text for numbers, and
numbers and truth values for text.
-/

namespace RecordFilter

/-- The nearest natural number of 64 bits, a half going away from zero. -/
def Reading.toNat64 : Reading → Nat
  | finite x =>
    let (n, d) := x.magnitude
    if x.negative then 0 else min ((2 * n + d) / (2 * d)) 0xFFFFFFFFFFFFFFFF
  | infinite negative => if negative then 0 else 0xFFFFFFFFFFFFFFFF
  | notANumber => 0

/-- Whether a number is not zero. -/
def Reading.isNonzero : Reading → Bool
  | finite x => x.code.val != 0
  | _ => true

namespace Configuration

/-- A conversion of the value under a key. -/
abbrev Converted (α : Type) := Except ConfigurationError α

/-- The truth value that a word in lower case stands for. -/
def truthOfWord? (t : Text) : Option Bool :=
  if ["1".toList, "true".toList, "on".toList, "yes".toList].contains t then some true
  else if ["0".toList, "false".toList, "off".toList, "no".toList].contains t then some false
  else none

/-- Converts to a truth value. -/
def asBool (key : Text) : Configuration → Converted Bool
  | .leaf _ (.bool b) => .ok b
  | .leaf _ (.integer i) => .ok (i != 0)
  | .leaf _ (.float x) => .ok x.isNonzero
  | .leaf origin (.text t) =>
    match truthOfWord? (Text.lowerCase t) with
    | some b => .ok b
    | none => .error (.wrongValue (.leaf origin (.text (Text.lowerCase t))) "a boolean" key)
  | v => .error (.wrongValue v "a boolean" key)

/-- The number that a text stands for: a word for a truth value, the digits excepted, or digits. -/
def natOfText? (t : Text) : Option Nat :=
  let word := Text.lowerCase t
  if ["true".toList, "on".toList, "yes".toList].contains word then some 1
  else if ["false".toList, "off".toList, "no".toList].contains word then some 0
  else Text.natural? t

/-- Converts to a natural number of 64 bits. -/
def asNat (key : Text) : Configuration → Converted Nat
  | .leaf _ (.bool b) => .ok b.toNat
  | .leaf origin (.integer i) =>
    if i < 0 then
      .error (.wrongValue (.leaf origin (.integer i)) "an unsigned 64 bit or less integer" key)
    else .ok i.toNat
  | .leaf _ (.float x) => .ok x.toNat64
  | .leaf origin (.text t) =>
    match natOfText? t with
    | some n => .ok n
    | none => .error (.wrongValue (.leaf origin (.text t)) "an integer" key)
  | v => .error (.wrongValue v "an integer" key)

/-- Converts to text. -/
def asText (key : Text) : Configuration → Converted Text
  | .leaf _ (.text t) => .ok t
  | .leaf _ (.bool b) => .ok (ConfigurationError.boolWord b)
  | .leaf _ (.integer i) => .ok (Text.ofInt i)
  | .leaf _ (.float x) => .ok x.text
  | v => .error (.wrongValue v "a string" key)

/-- The key of an entry of the table under a key. -/
def innerKey (key name : Text) : Text :=
  match name with
  | [] => key
  | c :: _ => if c = '[' then key ++ name else key ++ '.' :: name

/-- Converts to a table of texts. -/
def asTexts (key : Text) : Configuration → Converted (List (Text × Text))
  | .table es => es.mapM fun e => (e.2.asText (innerKey key e.1)).map fun t => (e.1, t)
  | v => .error (.noTable v)

/-- Converts to a choice: the name alone, or a table with the name for its only entry. -/
def asChoice {α : Type} (type : String) (known : List (String × α)) : Configuration → Converted α
  | .leaf _ (.text name) | .table [(name, _)] =>
    match known.find? fun k => k.1.toList = name with
    | some k => .ok k.2
    | none => .error (.unknownName type name)
  | _ => .error (.noName type)

end Configuration

end RecordFilter
