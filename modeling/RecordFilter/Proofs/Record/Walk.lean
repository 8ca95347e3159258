import RecordFilter.Proofs.Record.Path
import RecordFilter.Proofs.Text.Digits

/-!
# Walks into records

A path that is put together from two leads where the second leads from where the first does.  A walk
takes steps that are there: from an object to a field, from an array to the item at a position.
Written with points between its steps, in decimal digits where they are positions, a walk is a path
to where it ends (`dig_walk`).
-/

namespace RecordFilter.Json

theorem steps?_append (value : Json) (names names' : List Text) :
    value.steps? (names ++ names') = (value.steps? names).bind (·.steps? names') := by
  induction names generalizing value with
  | nil => rfl
  | cons name names ih =>
    rw [List.cons_append, steps?_cons, steps?_cons]
    cases value.step? name with
    | none => rfl
    | some v => exact ih v

theorem dig_ne_null (value : Json) (path : Text) : value.dig path ≠ some .null := by
  intro h
  have hnull := (Option.filter_eq_some_iff.1 h).2
  simp [isNull] at hnull

/-- A path with a point anywhere in it leads on from where its beginning leads.  A null there counts
as absent, and nothing is found in it anyway. -/
theorem dig_append_point (value : Json) (path rest : Text) :
    value.dig (path ++ '.' :: rest) = (value.dig path).bind (·.dig rest) := by
  have hsteps : pathSteps (path ++ '.' :: rest) = pathSteps path ++ pathSteps rest :=
    List.splitOn_append_cons_self path rest
  have hwhole : value.dig (path ++ '.' :: rest) =
      (value.steps? (pathSteps path)).bind (·.dig rest) := by
    unfold dig
    rw [hsteps, steps?_append]
    cases value.steps? (pathSteps path) with
    | none => rfl
    | some v => rfl
  rw [hwhole, dig]
  cases value.steps? (pathSteps path) with
  | none => rfl
  | some v =>
    cases v with
    | null => exact dig_null rest
    | _ => rfl

/-! ### Walks -/

/-- A step that is there, as it stands in a path: a name without a point to a field of an object, or
a position in decimal digits to an item of an array.  A position has 64 bits. -/
inductive HasStep : Json → Text → Json → Prop
  | field {fields : List (Text × Json)} {name : Text} {value : Json}
      (hname : '.' ∉ name) (h : fields.lookup name = some value) :
      HasStep (.object fields) name value
  | item {items : List Json} {i : Nat} {value : Json}
      (hbits : i < UInt64.size) (h : items[i]? = some value) :
      HasStep (.array items) (Text.ofNat i) value

/-- Steps one after another, each from where the one before it leads; there is at least one. -/
inductive Walk : Json → List Text → Json → Prop
  | last {value name found} (h : HasStep value name found) : Walk value [name] found
  | step {value name next names found} (h : HasStep value name next)
      (hrest : Walk next names found) : Walk value (name :: names) found

theorem HasStep.step?_eq {value found : Json} {name : Text} (h : HasStep value name found) :
    value.step? name = some found := by
  cases h with
  | field hname h => exact h
  | item hbits h =>
    rw [step?, Text.natural?_ofNat hbits]
    exact h

theorem HasStep.point_not_mem {value found : Json} {name : Text} (h : HasStep value name found) :
    '.' ∉ name := by
  cases h with
  | field hname h => exact hname
  | item hbits h =>
    intro hpoint
    exact absurd (Text.isDigit_of_mem_ofNat hpoint) (by decide)

namespace Walk

variable {value found : Json} {names : List Text}

theorem steps?_eq (h : Walk value names found) : value.steps? names = some found := by
  induction h with
  | last h =>
    rw [steps?_cons, h.step?_eq]
    rfl
  | step h hrest ih =>
    rw [steps?_cons, h.step?_eq]
    exact ih

/-- The steps of a walk come apart again where they are joined by points. -/
theorem pathSteps_intercalate (h : Walk value names found) :
    pathSteps (['.'].intercalate names) = names := by
  have hpoints : ∀ name ∈ names, '.' ∉ name := by
    induction h with
    | last h => exact List.forall_mem_singleton.2 h.point_not_mem
    | step h hrest ih => exact List.forall_mem_cons.2 ⟨h.point_not_mem, ih⟩
  have hsome : names ≠ [] := by
    cases h with
    | last => exact List.cons_ne_nil _ _
    | step => exact List.cons_ne_nil _ _
  exact List.splitOn_intercalate '.' hpoints hsome

end Walk

/-- Paths put together and paths taken apart.  A path with a point in it leads to what the part
after the point finds in what the part before it finds, and nowhere if that finds nothing.  What is
found is never null.  A walk that ends in a value other than null is found by its steps with points
between them; the text without steps is no walk, it asks for a field without a name. -/
theorem dig_walk (value : Json) :
    (∀ path rest : Text,
      value.dig (path ++ '.' :: rest) = (value.dig path).bind (·.dig rest)) ∧
      (∀ path : Text, value.dig path ≠ some .null) ∧
      ∀ (names : List Text) (found : Json), value.Walk names found → found ≠ .null →
        value.dig (['.'].intercalate names) = some found := by
  refine ⟨value.dig_append_point, value.dig_ne_null, ?_⟩
  intro names found h hfound
  have hvalue : found.isNull = false := by
    cases found with
    | null => exact absurd rfl hfound
    | _ => rfl
  rw [dig, h.pathSteps_intercalate, h.steps?_eq, Option.filter_some, hvalue]
  rfl

/-- Into an array, to a field whose name is a number, and to a field without a name. -/
theorem dig_walk_numbers :
    let found : Json := .bool false
    let record : Json := .object [(['a'], .array [.null, .object [(['0'], .object [([], found)])]])]
    let names : List Text := [['a'], ['1'], ['0'], []]
    record.Walk names found ∧ found ≠ .null ∧ record.dig "a.1.0.".toList = some found := by
  intro found record names
  have hwalk : record.Walk names found :=
    .step (.field (by decide) rfl) <| .step (.item (i := 1) (by decide) rfl) <|
      .step (.field (by decide) rfl) <| .last (.field (by decide) rfl)
  have hfound : found ≠ .null := Json.noConfusion
  exact ⟨hwalk, hfound, (dig_walk record).2.2 names found hwalk hfound⟩

end RecordFilter.Json
