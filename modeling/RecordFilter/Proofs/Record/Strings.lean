import RecordFilter.Proofs.Record.Path
import RecordFilter.Record.Subject

/-!
# The strings in a record

A function of texts can be applied to every string in a record, at any depth.  The names of fields
stay, so every path leads to what it led to before, with the function applied to the strings in it
(`Subject.dig_mapStrings`).
-/

namespace RecordFilter

namespace Json

mutual

/-- A value with a function applied to every string in it; the names of fields stay. -/
def mapStrings (f : Text → Text) : Json → Json
  | .null => .null
  | .bool b => .bool b
  | .number n => .number n
  | .string t => .string (f t)
  | .array items => .array (mapStringsItems f items)
  | .object fields => .object (mapStringsFields f fields)

/-- Values with a function applied to every string in them. -/
def mapStringsItems (f : Text → Text) : List Json → List Json
  | [] => []
  | v :: rest => mapStrings f v :: mapStringsItems f rest

/-- Fields with a function applied to every string in their values. -/
def mapStringsFields (f : Text → Text) : List (Text × Json) → List (Text × Json)
  | [] => []
  | (name, v) :: rest => (name, mapStrings f v) :: mapStringsFields f rest

end

variable (f : Text → Text)

theorem mapStringsItems_eq (items : List Json) :
    mapStringsItems f items = items.map (mapStrings f) := by
  induction items with
  | nil => rfl
  | cons v rest ih => rw [mapStringsItems, ih, List.map_cons]

theorem lookup_mapStringsFields (fields : List (Text × Json)) (name : Text) :
    (mapStringsFields f fields).lookup name = (fields.lookup name).map (mapStrings f) := by
  induction fields with
  | nil => rfl
  | cons field rest ih =>
    obtain ⟨other, v⟩ := field
    rw [mapStringsFields, List.lookup_cons, List.lookup_cons, ih]
    cases name == other <;> rfl

theorem isNull_mapStrings (value : Json) : (value.mapStrings f).isNull = value.isNull := by
  cases value <;> rfl

theorem field?_mapStrings (value : Json) (name : Text) :
    (value.mapStrings f).field? name = (value.field? name).map (mapStrings f) := by
  cases value with
  | object fields => exact lookup_mapStringsFields f fields name
  | _ => rfl

theorem step?_mapStrings (value : Json) (name : Text) :
    (value.mapStrings f).step? name = (value.step? name).map (mapStrings f) := by
  cases value with
  | object fields => exact lookup_mapStringsFields f fields name
  | array items =>
    rw [mapStrings, mapStringsItems_eq]
    unfold step?
    cases Text.natural? name with
    | none => rfl
    | some i => exact List.getElem?_map ..
  | _ => rfl

theorem steps?_mapStrings (value : Json) (names : List Text) :
    (value.mapStrings f).steps? names = (value.steps? names).map (mapStrings f) := by
  induction names generalizing value with
  | nil => rfl
  | cons name names ih =>
    rw [steps?_cons, steps?_cons, step?_mapStrings]
    cases value.step? name with
    | none => rfl
    | some v => exact ih v

theorem filter_map_mapStrings (value : Option Json) :
    (value.map (mapStrings f)).filter (!·.isNull) =
      (value.filter (!·.isNull)).map (mapStrings f) := by
  cases value with
  | none => rfl
  | some v =>
    rw [Option.map_some, Option.filter_some, Option.filter_some, isNull_mapStrings]
    cases v.isNull <;> rfl

theorem dig_mapStrings (value : Json) (path : Text) :
    (value.mapStrings f).dig path = (value.dig path).map (mapStrings f) := by
  rw [dig, steps?_mapStrings, filter_map_mapStrings]
  rfl

end Json

namespace Subject

/-- A subject with a function applied to every string in its records. -/
def mapStrings (f : Text → Text) : Subject → Subject
  | single record => single (record.mapStrings f)
  | composite records => composite (records.map (Json.mapStrings f))

theorem mapStrings_ofRecord (f : Text → Text) (record : Json) :
    (ofRecord record).mapStrings f = ofRecord (record.mapStrings f) := by
  cases record with
  | array items => exact congrArg composite (Json.mapStringsItems_eq f items).symm
  | _ => rfl

theorem lastField?_map (f : Text → Text) (records : List Json) (name : Text) :
    lastField? (records.map (Json.mapStrings f)) name =
      (lastField? records name).map (Json.mapStrings f) := by
  unfold lastField?
  rw [← List.map_reverse]
  induction records.reverse with
  | nil => rfl
  | cons record rest ih =>
    rw [List.map_cons, List.findSome?_cons, List.findSome?_cons, Json.field?_mapStrings, ih]
    cases record.field? name <;> rfl

/-- Paths lead to the same values, with the function applied to the strings in them. -/
theorem dig_mapStrings (f : Text → Text) (s : Subject) (path : Text) :
    (s.mapStrings f).dig path = (s.dig path).map (Json.mapStrings f) := by
  cases s with
  | single record => exact Json.dig_mapStrings f record path
  | composite records =>
    unfold mapStrings dig
    dsimp only
    split
    · next name rest _ =>
      rw [lastField?_map]
      cases lastField? records name with
      | none => rfl
      | some v => exact Json.dig_mapStrings f v rest
    · rw [lastField?_map, Json.filter_map_mapStrings]

end Subject

end RecordFilter
