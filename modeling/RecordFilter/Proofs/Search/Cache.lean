import RecordFilter.Search.Cache

/-!
# What a cache holds

A property of keys and values that holds of all entries goes on to hold under requests, insertions
and evictions, as long as what is inserted has it.
-/

namespace RecordFilter.Cache

variable {κ α : Type} {P : κ → α → Prop}

/-- Every entry has a property. -/
def Holds (P : κ → α → Prop) (c : Cache κ α) : Prop :=
  ∀ e ∈ c.entries, P e.1 e.2

theorem holds_empty (P : κ → α → Prop) (capacity : Option Nat) :
    (⟨capacity, []⟩ : Cache κ α).Holds P := by
  intro e he
  cases he

theorem holds_clear (P : κ → α → Prop) (c : Cache κ α) : c.clear.Holds P :=
  holds_empty P c.capacity

theorem withinCapacity_subset (capacity : Option Nat) (entries : List (κ × α)) :
    withinCapacity capacity entries ⊆ entries := by
  cases capacity with
  | none => exact List.Subset.refl entries
  | some n => exact List.drop_subset _ entries

variable [BEq κ]

theorem Holds.insert {c : Cache κ α} (h : c.Holds P) {key : κ} {value : α} (hv : P key value) :
    (c.insert key value).Holds P := by
  intro e he
  have hmem := withinCapacity_subset _ _ he
  rcases List.mem_append.1 hmem with hold | hnew
  · exact h e (List.mem_filter.1 hold).1
  · rw [List.mem_singleton.1 hnew]
    exact hv

theorem Holds.of_find? [LawfulBEq κ] {c : Cache κ α} (h : c.Holds P) {key : κ} {value : α}
    (hf : c.find? key = some value) : P key value := by
  obtain ⟨before, after, heq, -⟩ := List.lookup_eq_some_iff.1 hf
  exact h (key, value) (by rw [heq]; simp)

end RecordFilter.Cache
