import RecordFilter.Json.Reader

/-!
# The shape of values that are read

A value that a reader returns has the names of every object in order, each once, and nests no deeper
than the reader was allowed to go (`shaped_of_readValue`).  The guarantee is one for each function
of the reader, from that for what it calls.
-/

namespace RecordFilter

section Except

variable {ε α β : Type} {b : β}

theorem exists_of_map_eq_ok {x : Except ε α} {f : α → β} (h : x.map f = .ok b) :
    ∃ a, x = .ok a ∧ f a = b := by
  cases x with
  | error e => cases h
  | ok a => exact ⟨a, rfl, Except.ok.inj h⟩

theorem exists_of_bind_eq_ok {x : Except ε α} {f : α → Except ε β} (h : x >>= f = .ok b) :
    ∃ a, x = .ok a ∧ f a = .ok b := by
  cases x with
  | error e => cases h
  | ok a => exact ⟨a, rfl, h⟩

end Except

namespace Json

/-- Fields in the order of their names, no name twice. -/
def NamesInOrder (fields : List (Text × Json)) : Prop :=
  fields.Pairwise fun f g => compare f.1 g.1 = .lt

/-- A value that a reader may return when so many levels are left to it. -/
inductive Shaped : Nat → Json → Prop
  | null {depth : Nat} : Shaped (depth + 1) .null
  | bool {depth : Nat} (b : Bool) : Shaped (depth + 1) (.bool b)
  | number {depth : Nat} (n : Number) : Shaped (depth + 1) (.number n)
  | string {depth : Nat} (t : Text) : Shaped (depth + 1) (.string t)
  | array {depth : Nat} {items : List Json} : depth ≠ 0 → (∀ v ∈ items, Shaped depth v) →
      Shaped (depth + 1) (.array items)
  | object {depth : Nat} {fields : List (Text × Json)} : depth ≠ 0 → NamesInOrder fields →
      (∀ f ∈ fields, Shaped depth f.2) → Shaped (depth + 1) (.object fields)

/-- More levels allow the same values. -/
theorem Shaped.mono {depth depth' : Nat} {v : Json} (h : Shaped depth v) (hle : depth ≤ depth') :
    Shaped depth' v := by
  induction h generalizing depth' with
  | null => obtain ⟨d, rfl⟩ := Nat.exists_eq_add_of_lt hle; exact .null
  | bool b => obtain ⟨d, rfl⟩ := Nat.exists_eq_add_of_lt hle; exact .bool b
  | number n => obtain ⟨d, rfl⟩ := Nat.exists_eq_add_of_lt hle; exact .number n
  | string t => obtain ⟨d, rfl⟩ := Nat.exists_eq_add_of_lt hle; exact .string t
  | array hne _ ih =>
    obtain ⟨d, rfl⟩ := Nat.exists_eq_add_of_lt hle
    exact .array (by omega) fun v hv => ih v hv (by omega)
  | object hne hnames _ ih =>
    obtain ⟨d, rfl⟩ := Nat.exists_eq_add_of_lt hle
    exact .object (by omega) hnames fun f hf => ih f hf (by omega)

/-! ### Fields -/

theorem mem_insertField {name : Text} {value : Json} {fields : List (Text × Json)}
    {f : Text × Json} (h : f ∈ insertField name value fields) : f = (name, value) ∨ f ∈ fields := by
  induction fields with
  | nil => exact .inl (List.mem_singleton.1 h)
  | cons g rest ih =>
    rw [insertField] at h
    split at h
    · exact List.mem_cons.1 h
    · exact (List.mem_cons.1 h).imp_right (List.mem_cons_of_mem g)
    · rcases List.mem_cons.1 h with rfl | h
      · exact .inr List.mem_cons_self
      · exact (ih h).imp_right (List.mem_cons_of_mem g)

theorem namesInOrder_insertField (name : Text) (value : Json) {fields : List (Text × Json)}
    (h : NamesInOrder fields) : NamesInOrder (insertField name value fields) := by
  induction fields with
  | nil => exact List.pairwise_singleton _ _
  | cons g rest ih =>
    obtain ⟨hfirst, hrest⟩ := List.pairwise_cons.1 h
    rw [insertField]
    split
    · next hlt =>
      refine List.pairwise_cons.2 ⟨List.forall_mem_cons.2 ⟨hlt, fun f hf => ?_⟩, h⟩
      exact Std.TransCmp.lt_trans hlt (hfirst f hf)
    · next heq =>
      obtain rfl : name = g.1 := Std.LawfulEqOrd.eq_of_compare heq
      exact List.pairwise_cons.2 ⟨hfirst, hrest⟩
    · next hgt =>
      refine List.pairwise_cons.2 ⟨fun f hf => ?_, ih hrest⟩
      rcases mem_insertField hf with rfl | hf
      · exact Std.OrientedCmp.lt_of_gt hgt
      · exact hfirst f hf

/-! ### What is read -/

section Parts

variable {item : Text → Except JsonStop (Json × Text)} {P : Json → Prop}
  (hitem : ∀ {t v rest}, item t = .ok (v, rest) → P v)

include hitem

/-- The items that are read have what every item has. -/
theorem forall_of_readItems {fuel : Nat} {first : Bool} {seen items : List Json} {t rest : Text}
    (hseen : ∀ v ∈ seen, P v) (h : readItems item fuel first seen t = .ok (items, rest)) :
    ∀ v ∈ items, P v := by
  induction fuel generalizing first seen t with
  | zero => cases h
  | succ fuel ih =>
    -- An item is read either as the first one or after a comma.
    have hnext : ∀ u, (item u >>= fun p => readItems item fuel false (p.1 :: seen) p.2) =
        .ok (items, rest) → ∀ v ∈ items, P v := by
      intro u hread
      obtain ⟨⟨v, u'⟩, hv, hrest⟩ := exists_of_bind_eq_ok hread
      exact ih (List.forall_mem_cons.2 ⟨hitem hv, hseen⟩) hrest
    rw [readItems] at h
    split at h
    · cases h
    · obtain ⟨rfl, -⟩ := Prod.mk.inj (Except.ok.inj h)
      exact fun v hv => hseen v (List.mem_reverse.1 hv)
    split at h
    · exact hnext _ h
    split at h
    · split at h
      · cases h
      · cases h
      · exact hnext _ h
    · cases h

theorem of_readField {t rest : Text} {f : Text × Json} (h : readField item t = .ok (f, rest)) :
    P f.2 := by
  obtain ⟨⟨name, u⟩, -, h⟩ := exists_of_bind_eq_ok h
  dsimp only at h
  split at h
  · obtain ⟨⟨v, u'⟩, hv, h⟩ := exists_of_bind_eq_ok h
    obtain ⟨rfl, -⟩ := Prod.mk.inj (Except.ok.inj h)
    exact hitem hv
  · cases h
  · cases h

/-- The fields that are read have their names in order and what every value has. -/
theorem namesInOrder_of_readFields {fuel : Nat} {first : Bool} {seen fields : List (Text × Json)}
    {t rest : Text} (hnames : NamesInOrder seen) (hseen : ∀ f ∈ seen, P f.2)
    (h : readFields item fuel first seen t = .ok (fields, rest)) :
    NamesInOrder fields ∧ ∀ f ∈ fields, P f.2 := by
  induction fuel generalizing first seen t with
  | zero => cases h
  | succ fuel ih =>
    have hnext : ∀ u, (readField item u >>= fun p =>
        readFields item fuel false (insertField p.1.1 p.1.2 seen) p.2) = .ok (fields, rest) →
        NamesInOrder fields ∧ ∀ f ∈ fields, P f.2 := by
      intro u hread
      obtain ⟨⟨⟨name, v⟩, u'⟩, hfield, hrest⟩ := exists_of_bind_eq_ok hread
      refine ih (namesInOrder_insertField name v hnames) (fun f hf => ?_) hrest
      rcases mem_insertField hf with rfl | hf
      · exact of_readField hitem hfield
      · exact hseen f hf
    rw [readFields] at h
    split at h
    · cases h
    split at h
    · obtain ⟨rfl, -⟩ := Prod.mk.inj (Except.ok.inj h)
      exact ⟨hnames, hseen⟩
    split at h
    · split at h
      · exact hnext _ h
      · cases h
    split at h
    · split at h
      · cases h
      split at h
      · exact hnext _ h
      split at h
      · cases h
      · cases h
    · cases h

end Parts

theorem shaped_of_readWord {value v : Json} {word t rest : Text} {depth : Nat}
    (hvalue : Shaped depth value) (h : readWord value word t = .ok (v, rest)) :
    Shaped depth v := by
  induction word generalizing t with
  | nil =>
    obtain ⟨rfl, -⟩ := Prod.mk.inj (Except.ok.inj h)
    exact hvalue
  | cons w word ih =>
    cases t with
    | nil => cases h
    | cons c t =>
      rw [readWord] at h
      split at h
      · exact ih h
      · cases h

/-- A value that is read nests no deeper than it may, and the names in it are in order. -/
theorem shaped_of_readValue {depth : Nat} {t rest : Text} {v : Json}
    (h : readValue depth t = .ok (v, rest)) : Shaped depth v := by
  induction depth generalizing t v rest with
  | zero => cases h
  | succ depth ih =>
    rw [readValue] at h
    split at h
    · cases h
    split at h
    · exact shaped_of_readWord .null h
    split at h
    · exact shaped_of_readWord (.bool true) h
    split at h
    · exact shaped_of_readWord (.bool false) h
    split at h
    · obtain ⟨p, -, heq⟩ := exists_of_map_eq_ok h
      obtain ⟨rfl, -⟩ := Prod.mk.inj heq
      exact .number p.1
    split at h
    · obtain ⟨p, -, heq⟩ := exists_of_map_eq_ok h
      obtain ⟨rfl, -⟩ := Prod.mk.inj heq
      exact .number p.1
    split at h
    · obtain ⟨p, -, heq⟩ := exists_of_map_eq_ok h
      obtain ⟨rfl, -⟩ := Prod.mk.inj heq
      exact .string p.1
    split at h
    · split at h
      · cases h
      next hdepth =>
      obtain ⟨p, hp, heq⟩ := exists_of_map_eq_ok h
      obtain ⟨rfl, -⟩ := Prod.mk.inj heq
      exact .array hdepth (forall_of_readItems ih (by simp) hp)
    split at h
    · split at h
      · cases h
      next hdepth =>
      obtain ⟨p, hp, heq⟩ := exists_of_map_eq_ok h
      obtain ⟨rfl, -⟩ := Prod.mk.inj heq
      obtain ⟨hnames, hfields⟩ := namesInOrder_of_readFields ih .nil (by simp) hp
      exact .object hdepth hnames hfields
    · cases h

end Json

end RecordFilter
