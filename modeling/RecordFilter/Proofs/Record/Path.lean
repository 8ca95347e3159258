import RecordFilter.Record.Path

/-!
# Steps of a path

A path is followed step by step, so the step before its first point can be taken apart from the
rest.
-/

namespace RecordFilter

namespace Text

theorem cutAt?_eq_none {c : Char} {t : Text} (h : cutAt? c t = none) : c ∉ t := by
  induction t with
  | nil => simp
  | cons d rest ih =>
    rw [cutAt?] at h
    split at h
    · cases h
    · next hd =>
      rw [List.mem_cons, not_or]
      exact ⟨fun heq => hd heq.symm, ih (Option.map_eq_none_iff.1 h)⟩

end Text

namespace Json

theorem steps?_cons (value : Json) (name : Text) (names : List Text) :
    value.steps? (name :: names) = (value.step? name).bind (·.steps? names) := by
  have habsent : names.foldl (fun v name => v.bind fun w => w.step? name)
      (none : Option Json) = none := by
    induction names with
    | nil => rfl
    | cons n rest ih => exact ih
  cases h : value.step? name with
  | none => simp only [steps?, List.foldl_cons, Option.bind_some, h, habsent, Option.bind_none]
  | some v => simp only [steps?, List.foldl_cons, Option.bind_some, h]

/-- Along every path some object has a given value. -/
theorem exists_fields_dig_eq (path : Text) {value : Json} (hvalue : value.isNull = false) :
    ∃ fields, (object fields).dig path = some value := by
  have hfield : ∀ (name : Text) (names : List Text) (record : Json),
      (object [(name, record)]).steps? (name :: names) = record.steps? names := by
    intro name names record
    rw [steps?_cons, step?, List.lookup_cons_self, Option.bind_some]
  have hsteps : ∀ names : List Text, ∃ record : Json, record.steps? names = some value := by
    intro names
    induction names with
    | nil => exact ⟨value, rfl⟩
    | cons name names ih =>
      obtain ⟨record, hrecord⟩ := ih
      exact ⟨.object [(name, record)], (hfield name names record).trans hrecord⟩
  obtain ⟨name, names, hnames⟩ : ∃ name names, pathSteps path = name :: names :=
    List.exists_cons_of_ne_nil (List.splitOn_ne_nil _ _)
  obtain ⟨record, hrecord⟩ := hsteps names
  refine ⟨[(name, record)], ?_⟩
  rw [dig, hnames, hfield, hrecord, Option.filter_some, hvalue]
  rfl

theorem exists_dig_eq (path : Text) {value : Json} (hvalue : value.isNull = false) :
    ∃ record : Json, record.dig path = some value := by
  obtain ⟨fields, hfields⟩ := exists_fields_dig_eq path hvalue
  exact ⟨.object fields, hfields⟩

/-- A path with a point is followed by its first step and then by the path after the point. -/
theorem dig_of_cutAt? {path name rest : Text} (h : Text.cutAt? '.' path = some (name, rest))
    (value : Json) : value.dig path = (value.step? name).bind (·.dig rest) := by
  obtain ⟨rfl, hname⟩ := Text.cutAt?_eq_some h
  have hsteps : pathSteps (name ++ '.' :: rest) = name :: pathSteps rest :=
    List.splitOn_append_cons_self_of_not_mem hname rest
  unfold dig
  rw [hsteps, steps?_cons]
  cases value.step? name with
  | none => rfl
  | some v => rfl

/-- A path without a point is one step. -/
theorem dig_of_cutAt?_eq_none {path : Text} (h : Text.cutAt? '.' path = none) (value : Json) :
    value.dig path = (value.step? path).filter (!·.isNull) := by
  have hsteps : pathSteps path = [path] := List.splitOn_eq_singleton (Text.cutAt?_eq_none h)
  unfold dig
  rw [hsteps, steps?_cons]
  cases value.step? path with
  | none => rfl
  | some v => rfl

/-- Nothing is found in null. -/
theorem dig_null (path : Text) : null.dig path = none := by
  cases hcut : Text.cutAt? '.' path with
  | none =>
    rw [dig_of_cutAt?_eq_none hcut]
    rfl
  | some cut =>
    rw [dig_of_cutAt? hcut]
    rfl

end Json

end RecordFilter
