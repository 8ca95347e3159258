import RecordFilter.Json.Value

/-!
# Induction over values

A statement about all JSON values is proved kind by kind, for arrays and objects from the values in
them.
-/

namespace RecordFilter.Json

/-- What passes from the values in an array or an object to the array or the object, and is true of
the values that hold none, is true of every value. -/
@[elab_as_elim]
theorem induction {P : Json → Prop} (null : P .null) (bool : ∀ b, P (.bool b))
    (number : ∀ n, P (.number n)) (string : ∀ t, P (.string t))
    (array : ∀ items, (∀ v ∈ items, P v) → P (.array items))
    (object : ∀ fields, (∀ f ∈ fields, P f.2) → P (.object fields)) (value : Json) : P value := by
  -- The parts of a value are lists of values, lists of fields and fields.
  refine Json.rec (motive_1 := P) (motive_2 := fun items => ∀ v ∈ items, P v)
    (motive_3 := fun fields => ∀ f ∈ fields, P f.2) (motive_4 := fun f => P f.2)
    null bool number string array object ?_ ?_ ?_ ?_ ?_ value
  · simp
  · intro v rest hv hrest
    exact List.forall_mem_cons.2 ⟨hv, hrest⟩
  · simp
  · intro f rest hf hrest
    exact List.forall_mem_cons.2 ⟨hf, hrest⟩
  · intro name v hv
    exact hv

end RecordFilter.Json
