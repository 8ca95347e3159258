import RecordFilter.Json.Reader
import RecordFilter.Text.WhiteSpace

/-!
# Reading records

Records are given as one JSON array, or as JSON values one after the other.  Reading stops at the
first fault and then gives no records.
-/

namespace RecordFilter

/-- Why records cannot be read. -/
inductive RecordError
  | inArray (e : JsonError)
  /-- The fault lies in the record with this number, counted from one. -/
  | inRecord (number : Nat) (e : JsonError)
deriving DecidableEq, Repr

/-- The wording of an error. -/
def RecordError.message : RecordError → String
  | inArray e => "invalid JSON array: " ++ e.message
  | inRecord number e => "invalid JSON record #" ++ toString number ++ ": " ++ e.message

/-- Whether a text holds one array: its first character after white space opens one. -/
def holdsArray (input : Text) : Bool :=
  (Text.trimStart input).head? = some '['

/-- Reads the records of a text (`read_records`). -/
def readRecords (input : Text) : Except RecordError (List Json) :=
  if holdsArray input then
    match Json.ofText input with
    | .ok (.array records) => .ok records
    | .ok record => .ok [record]
    | .error e => .error (.inArray e)
  else (Json.streamOfText input).mapError fun p => .inRecord (p.1 + 1) p.2

end RecordFilter
