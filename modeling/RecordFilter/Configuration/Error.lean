import RecordFilter.Configuration.Basic
import RecordFilter.Number.Written
import RecordFilter.Text.Quoted

/-!
# Faults of configurations

What can be wrong with the files, the variables and the values of a configuration.
-/

namespace RecordFilter

/-- A number as configurations show it: never with an exponent. -/
def Reading.text : Reading → Text
  | finite x => x.plainText
  | infinite negative => (if negative then "-inf" else "inf").toList
  | notANumber => "NaN".toList

/-- What is wrong with a configuration. -/
inductive ConfigurationError
  | missingFile (name : Text)
  | unknownFormat (name : Text)
  | badFile (cause name : Text)
  /-- The value under a key cannot be converted. -/
  | wrongValue (found : Configuration) (expected : String) (key : Text)
  | noTable (found : Configuration)
  | unknownName (type : String) (name : Text)
  | noName (type : String)
  | noForm (type : String)
  /-- A path asks for a position before the first item of a list, or beyond what a list can hold. -/
  | noPlace (place : Int)
deriving Repr

namespace ConfigurationError

/-- A word between grave accents, after what it is. -/
def marked (what : String) (word : Text) : Text :=
  what.toList ++ ' ' :: '\x60' :: word ++ ['\x60']

/-- A truth value. -/
def boolWord (b : Bool) : Text :=
  (if b then "true" else "false").toList

/-- A value that cannot be converted. -/
def shownValue : Configuration → Text
  | .leaf _ .nothing => "unit value".toList
  | .leaf _ (.bool b) => marked "boolean" (boolWord b)
  | .leaf _ (.integer i) => marked "integer 64 bit" (Text.ofInt i)
  | .leaf _ (.float x) => marked "floating point" x.text
  | .leaf _ (.text t) => "string ".toList ++ Text.quoted t
  | .list _ _ => "sequence".toList
  | .table _ => "map".toList

/-- A number with a point, where it is finite. -/
def withPoint (x : Reading) : Text :=
  match x with
  | .finite _ => if x.text.contains '.' then x.text else x.text ++ ['.', '0']
  | _ => x.text

/-- A value that stands in place of a table. -/
def shownShape : Configuration → Text
  | .leaf _ (.integer i) => marked "integer" (Text.ofInt i)
  | .leaf _ (.float x) => marked "floating point" (withPoint x)
  | other => shownValue other

/-- The wording of an error. -/
def message : ConfigurationError → Text
  | missingFile name =>
    "configuration file \"".toList ++ name ++ "\" not found".toList
  | unknownFormat name =>
    "configuration file \"".toList ++ name ++ "\" is not of a registered file format".toList
  | badFile cause name => cause ++ " in ".toList ++ name
  | wrongValue found expected key =>
    let place := match found.origin? with
      | some origin => " in ".toList ++ origin
      | none => []
    "invalid type: ".toList ++ shownValue found ++ ", expected ".toList ++ expected.toList ++
      " for key ".toList ++ '\x60' :: key ++ '\x60' :: place
  | noTable found => "invalid type: ".toList ++ shownShape found ++ ", expected a map".toList
  | unknownName type name =>
    "enum ".toList ++ type.toList ++ " does not have variant constructor ".toList ++ name
  | noName type =>
    "value of enum ".toList ++ type.toList ++
      " should be represented by either string or table with exactly one key".toList
  | noForm type =>
    "data did not match any variant of untagged enum ".toList ++ type.toList
  | noPlace place => "no position ".toList ++ Text.ofInt place ++ " in a list".toList

end ConfigurationError

end RecordFilter
