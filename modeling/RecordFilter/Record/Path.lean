import RecordFilter.Json.Value
import RecordFilter.Text.Digits

/-!
# Paths into records

A path names steps joined by points: a field of an object, or the position of an item of an array in
decimal digits.  A null at the end of a path counts as absent.
-/

namespace RecordFilter.Json

/-- One step into a value (`step`). -/
def step? (value : Json) (name : Text) : Option Json :=
  match value with
  | .object fields => fields.lookup name
  | .array items => (Text.natural? name).bind fun i => items[i]?
  | _ => none

/-- Several steps into a value. -/
def steps? (value : Json) (names : List Text) : Option Json :=
  names.foldl (fun v name => v.bind fun w => w.step? name) (some value)

/-- The steps of a path. -/
def pathSteps (path : Text) : List Text :=
  path.splitOn '.'

/-- The value at a path, unless it is null (`dig`). -/
def dig (value : Json) (path : Text) : Option Json :=
  (value.steps? (pathSteps path)).filter (!·.isNull)

end RecordFilter.Json
