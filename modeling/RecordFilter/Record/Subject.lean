import RecordFilter.Record.Path

/-!
# What a query is asked of

A query is asked of one record, or of several taken together: then a field is that of the last
record that has it.  A record that is an array stands for its items taken together.
-/

namespace RecordFilter

/-- A record, or several taken together (`Subject`). -/
inductive Subject
  | single (record : Json)
  | composite (records : List Json)
deriving Repr

namespace Subject

/-- What a record given by itself stands for. -/
def ofRecord : Json → Subject
  | .array records => composite records
  | record => single record

/-- The name of the kind of a subject. -/
def name : Subject → String
  | single _ => "Single"
  | composite _ => "Composite"

/-- The field of the last record that has it. -/
def lastField? (records : List Json) (name : Text) : Option Json :=
  records.reverse.findSome? (·.field? name)

/-- The value at a path, unless it is null (`Subject::dig`). -/
def dig : Subject → Text → Option Json
  | single record, path => record.dig path
  | composite records, path =>
    match Text.cutAt? '.' path with
    | some (name, rest) => (lastField? records name).bind (·.dig rest)
    | none => (lastField? records path).filter (!·.isNull)

/-- Fields with those of a record in place of the ones of their names; a record that is no object
has none.  The names in a record differ, so the order in which its own fields are put in is free. -/
def overlay (fields : List (Text × Json)) : Json → List (Text × Json)
  | .object own => own.foldr (fun f acc => Json.insertField f.1 f.2 acc) fields
  | _ => fields

/-- The fields of several records taken together, a later one in place of an earlier one of its
name. -/
def merge (records : List Json) : Json :=
  .object (records.foldl overlay [])

end Subject

end RecordFilter
