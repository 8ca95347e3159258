import RecordFilter.Number.Written
import RecordFilter.Text.Basic

/-!
# JSON values

Records are JSON values.  A number is an integer of 64 bits, signed or not, or a finite number of
double precision; the two kinds compare alike and are written differently.  The fields of an object
stand in the order of their names, each name once.
-/

namespace RecordFilter

/-- An integer that fits 64 bits, with or without a sign. -/
structure Integer where
  val : Int
  bounds : -0x8000000000000000 ≤ val ∧ val < 0x10000000000000000
deriving DecidableEq, Repr

/-- The integer of a value, when it fits. -/
def Integer.ofInt? (i : Int) : Option Integer :=
  if h : -0x8000000000000000 ≤ i ∧ i < 0x10000000000000000 then some ⟨i, h⟩ else none

/-- A number of a record. -/
inductive Number
  | integer (i : Integer)
  | float (x : Double)
deriving DecidableEq, Repr

namespace Number

/-- The number of double precision nearest to a number. -/
def toDouble : Number → Double
  | integer i => .ofInt i.val
  | float x => x

/-- A number as records show it. -/
def text : Number → Text
  | integer i => .ofInt i.val
  | float x => x.text

end Number

/-- A JSON value. -/
inductive Json
  | null
  | bool (b : Bool)
  | number (n : Number)
  | string (t : Text)
  | array (items : List Json)
  | object (fields : List (Text × Json))
deriving Repr

namespace Json

/-- Gives a field its value, among fields in the order of their names. -/
def insertField (name : Text) (value : Json) : List (Text × Json) → List (Text × Json)
  | [] => [(name, value)]
  | (other, v) :: rest =>
    match compare name other with
    | .lt => (name, value) :: (other, v) :: rest
    | .eq => (name, value) :: rest
    | .gt => (other, v) :: insertField name value rest

/-- The object with the given fields; of two with one name the later counts. -/
def ofFields (fields : List (Text × Json)) : Json :=
  .object (fields.foldl (fun acc f => insertField f.1 f.2 acc) [])

/-- The integer value, for one that fits 64 bits, else the nearest number of double precision. -/
def ofNat (n : Nat) : Json :=
  match Integer.ofInt? n with
  | some i => .number (.integer i)
  | none => .number (.float (.ofInt n))

/-- Text given as a string. -/
def ofString (s : String) : Json :=
  .string s.toList

/-- The field of an object. -/
def field? (value : Json) (name : Text) : Option Json :=
  match value with
  | .object fields => fields.lookup name
  | _ => none

/-- Whether a value is null. -/
def isNull : Json → Bool
  | .null => true
  | _ => false

end Json

end RecordFilter
