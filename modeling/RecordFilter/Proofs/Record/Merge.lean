import RecordFilter.Proofs.Record.Path
import RecordFilter.Record.Subject

/-!
# Records taken together

Several records are never merged: a field is looked for from the last record to the first.  What is
found is what the merged record has (`dig_composite`), at every path.
-/

namespace RecordFilter

namespace Json

/-- Looking a name up compares it with the first name, then goes on. -/
theorem lookup_cons_ite (key name : Text) (value : Json) (rest : List (Text × Json)) :
    ((name, value) :: rest).lookup key = if key = name then some value else rest.lookup key := by
  by_cases h : key = name
  · rw [if_pos h, h, List.lookup_cons_self]
  · have hne : (key == name) = false := beq_eq_false_iff_ne.2 h
    rw [if_neg h, List.lookup_cons, hne]

theorem lookup_insertField (name key : Text) (value : Json) (fields : List (Text × Json)) :
    (insertField name value fields).lookup key =
      if key = name then some value else fields.lookup key := by
  induction fields with
  | nil => exact lookup_cons_ite key name value []
  | cons f rest ih =>
    obtain ⟨other, v⟩ := f
    rw [insertField]
    split
    · exact lookup_cons_ite key name value _
    · next heq =>
      have hname : name = other := Std.LawfulEqOrd.eq_of_compare heq
      rw [lookup_cons_ite, lookup_cons_ite, hname]
      by_cases h : key = other
      · rw [if_pos h, if_pos h]
      · rw [if_neg h, if_neg h, if_neg h]
    · next hgt =>
      -- The two names differ, so at most one of them is the key.
      have hne : name ≠ other := by
        rintro rfl
        simp at hgt
      rw [lookup_cons_ite, lookup_cons_ite, ih]
      by_cases h : key = name
      · have hother : key ≠ other := fun hk => hne (h.symm.trans hk)
        rw [if_neg hother, if_pos h, if_pos h]
      · rw [if_neg h, if_neg h]

end Json

namespace Subject

theorem lookup_overlay (fields : List (Text × Json)) (record : Json) (name : Text) :
    (overlay fields record).lookup name = (record.field? name).or (fields.lookup name) := by
  cases record with
  | object own =>
    rw [overlay, Json.field?]
    induction own with
    | nil => simp
    | cons f rest ih =>
      obtain ⟨other, v⟩ := f
      rw [List.foldr_cons, Json.lookup_insertField, ih, Json.lookup_cons_ite]
      by_cases h : name = other
      · rw [if_pos h, if_pos h, Option.some_or]
      · rw [if_neg h, if_neg h]
  | null | bool _ | number _ | string _ | array _ => rfl

theorem lookup_foldl_overlay (records : List Json) (fields : List (Text × Json)) (name : Text) :
    (records.foldl overlay fields).lookup name =
      (lastField? records name).or (fields.lookup name) := by
  induction records generalizing fields with
  | nil => rfl
  | cons record rest ih =>
    have hlast : lastField? (record :: rest) name =
        (lastField? rest name).or (record.field? name) := by
      simp [lastField?, List.findSome?_append]
    rw [List.foldl_cons, ih, lookup_overlay, hlast, Option.or_assoc]

/-- The merged record has the field of the last record that has it. -/
theorem step?_merge (records : List Json) (name : Text) :
    (merge records).step? name = lastField? records name := by
  show (records.foldl overlay []).lookup name = lastField? records name
  rw [lookup_foldl_overlay]
  simp

/-- Records taken together have at every path what the merged record has there. -/
theorem dig_composite (records : List Json) (path : Text) :
    (composite records).dig path = (single (merge records)).dig path := by
  show _ = (merge records).dig path
  cases h : Text.cutAt? '.' path with
  | none => rw [Json.dig_of_cutAt?_eq_none h, step?_merge, dig, h]
  | some cut =>
    obtain ⟨name, rest⟩ := cut
    rw [Json.dig_of_cutAt? h, step?_merge, dig, h]

end Subject

end RecordFilter
