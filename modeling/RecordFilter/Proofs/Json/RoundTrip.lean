import RecordFilter.Proofs.Json.Scalars
import RecordFilter.Proofs.Json.Shape

/-!
# Values read back from their text

The compact text of a value is read as the value, whatever follows it, where its numbers are
integers and it nests no deeper than may be read (`readValue_write`).  Arrays and objects are read
part by part, so what is shown of a reader of parts is that it reads what was written of each.
-/

namespace RecordFilter.Json

/-- A value whose numbers are all integers. -/
inductive OnlyIntegers : Json → Prop
  | null : OnlyIntegers .null
  | bool (b : Bool) : OnlyIntegers (.bool b)
  | integer (i : Integer) : OnlyIntegers (.number (.integer i))
  | string (t : Text) : OnlyIntegers (.string t)
  | array {items : List Json} : (∀ v ∈ items, OnlyIntegers v) → OnlyIntegers (.array items)
  | object {fields : List (Text × Json)} : (∀ f ∈ fields, OnlyIntegers f.2) →
      OnlyIntegers (.object fields)

/-! ### Texts of values -/

/-- A field as it stands in an object. -/
def writtenField (f : Text × Json) : Text :=
  writtenString f.1 ++ ':' :: write f.2

theorem writeItems_cons (v : Json) (items : List Json) :
    writeItems (v :: items) = write v ++ items.flatMap fun w => ',' :: write w := by
  induction items generalizing v with
  | nil => simp [writeItems]
  | cons w items ih => rw [writeItems, ih]; rfl

theorem writeFields_cons (f : Text × Json) (fields : List (Text × Json)) :
    writeFields (f :: fields) =
      writtenField f ++ fields.flatMap fun g => ',' :: writtenField g := by
  induction fields generalizing f with
  | nil => simp [writeFields, writtenField]
  | cons g fields ih => rw [writeFields, ih]; simp [writtenField]

/-- The text of a value begins with a character that neither is passed over nor ends an array. -/
theorem write_eq_cons {v : Json} (h : OnlyIntegers v) :
    ∃ c t, v.write = c :: t ∧ isBlank c = false ∧ c ≠ ']' := by
  cases h with
  | null => exact ⟨_, _, rfl, by decide⟩
  | bool b => cases b <;> exact ⟨_, _, rfl, by decide⟩
  | integer i =>
    show ∃ c t, Text.ofInt i.val = c :: t ∧ _
    unfold Text.ofInt
    split
    · exact ⟨_, _, rfl, by decide⟩
    · cases htext : Text.ofNat i.val.natAbs with
      | nil => exact absurd htext (Text.ofNat_ne_nil _)
      | cons c digits =>
        obtain ⟨hblank, -, -, -, -, hbracket⟩ := ne_of_isDigit
          (Text.isDigit_of_mem_ofNat (n := i.val.natAbs) (htext ▸ List.mem_cons_self))
        exact ⟨c, digits, rfl, hblank, hbracket⟩
  | string t => exact ⟨_, _, rfl, by decide⟩
  | array _ => exact ⟨_, _, rfl, by decide⟩
  | object _ => exact ⟨_, _, rfl, by decide⟩

/-- No item is written as nothing, so the text of the items bounds their number. -/
theorem length_le_length_writeItems {items : List Json} (h : ∀ v ∈ items, OnlyIntegers v) :
    items.length ≤ (writeItems items).length := by
  cases items with
  | nil => exact Nat.zero_le _
  | cons v items =>
    obtain ⟨c, t, htext, -⟩ := write_eq_cons (h v List.mem_cons_self)
    have := length_le_length_flatMap (f := fun w => ',' :: write w)
      (fun _ => List.cons_ne_nil _ _) items
    rw [writeItems_cons, htext, List.length_append, List.length_cons, List.length_cons]
    omega

theorem length_le_length_writeFields (fields : List (Text × Json)) :
    fields.length ≤ (writeFields fields).length := by
  cases fields with
  | nil => exact Nat.zero_le _
  | cons f fields =>
    have := length_le_length_flatMap (f := fun g => ',' :: writtenField g)
      (fun _ => List.cons_ne_nil _ _) fields
    have : 0 < (writtenField f).length :=
      List.length_pos_iff.2 (List.append_ne_nil_of_left_ne_nil (List.cons_ne_nil _ _) _)
    rw [writeFields_cons, List.length_append, List.length_cons]
    omega

/-! ### Arrays and objects -/

section Parts

variable {item : Text → Except JsonStop (Json × Text)}

/-- A reader reads a value from its text, where what follows does not go on with a number. -/
def ReadsBack (item : Text → Except JsonStop (Json × Text)) (v : Json) : Prop :=
  ∀ {rest}, EndsNumber rest → item (v.write ++ rest) = .ok (v, rest)

/-- What stands after a part of an array or object ends the part. -/
theorem endsNumber_flatMap {α : Type} {close : Char} (hclose : close = ']' ∨ close = '\x7d')
    (part : α → Text) (parts : List α) (rest : Text) :
    EndsNumber (parts.flatMap (fun a => ',' :: part a) ++ close :: rest) := by
  cases parts with
  | nil =>
    rcases hclose with rfl | rfl
    · exact endsNumber_cons (by decide) rest
    · exact endsNumber_cons (by decide) rest
  | cons a parts => exact endsNumber_cons (by decide) _

/-- Items are read after the first of them, each with the comma before it. -/
theorem readItems_after {items : List Json} (hread : ∀ v ∈ items, ReadsBack item v)
    (hints : ∀ v ∈ items, OnlyIntegers v) {fuel : Nat} (hfuel : items.length < fuel)
    (seen : List Json) (rest : Text) :
    readItems item fuel false seen (items.flatMap (fun v => ',' :: write v) ++ ']' :: rest) =
      .ok (seen.reverse ++ items, rest) := by
  induction items generalizing fuel seen with
  | nil =>
    obtain ⟨d, rfl⟩ := Nat.exists_eq_add_of_lt hfuel
    rw [List.flatMap_nil, List.nil_append, List.length_nil, Nat.zero_add, readItems,
      skipBlanks_cons (by decide), List.append_nil]
    rfl
  | cons v items ih =>
    obtain ⟨hv, hitems⟩ := List.forall_mem_cons.1 hread
    obtain ⟨hint, hints⟩ := List.forall_mem_cons.1 hints
    cases fuel with
    | zero => simp at hfuel
    | succ fuel =>
      obtain ⟨c, t, htext, hblank, hbracket⟩ := write_eq_cons hint
      have hvalue := hv (endsNumber_flatMap (.inl rfl) write items rest)
      have hrest := ih hitems hints (by simpa using hfuel) (v :: seen)
      rw [htext, List.cons_append] at hvalue
      rw [List.flatMap_cons, List.append_assoc, List.cons_append, htext, List.cons_append,
        readItems, skipBlanks_cons (by decide)]
      simp [skipBlanks_cons hblank, bind, Except.bind]
      split
      · next heq => cases heq
      · next heq => exact absurd (List.cons.inj heq).1 hbracket
      · simp [hvalue, hrest]

/-- The items of an array are read from their text. -/
theorem readItems_written {items : List Json} (hread : ∀ v ∈ items, ReadsBack item v)
    (hints : ∀ v ∈ items, OnlyIntegers v) {fuel : Nat} (hfuel : items.length < fuel)
    (rest : Text) :
    readItems item fuel true [] (writeItems items ++ ']' :: rest) = .ok (items, rest) := by
  cases fuel with
  | zero => simp at hfuel
  | succ fuel =>
    cases items with
    | nil => rw [writeItems, List.nil_append, readItems, skipBlanks_cons (by decide)]; rfl
    | cons v items =>
      obtain ⟨hv, hitems⟩ := List.forall_mem_cons.1 hread
      obtain ⟨hint, hints⟩ := List.forall_mem_cons.1 hints
      obtain ⟨c, t, htext, hblank, hbracket⟩ := write_eq_cons hint
      have hvalue := hv (endsNumber_flatMap (.inl rfl) write items rest)
      have hrest := readItems_after hitems hints (by simpa using hfuel) [v] rest
      rw [htext, List.cons_append] at hvalue
      rw [writeItems_cons, List.append_assoc, htext, List.cons_append, readItems,
        skipBlanks_cons hblank]
      simp [hvalue, hrest, bind, Except.bind]

theorem readField_written {f : Text × Json} (hf : ReadsBack item f.2) {rest : Text}
    (hrest : EndsNumber rest) :
    ∃ t, writtenField f ++ rest = '\x22' :: t ∧ readField item t = .ok (f, rest) := by
  refine ⟨f.1.flatMap writtenChar ++ '\x22' :: ':' :: (write f.2 ++ rest), ?_, ?_⟩
  · simp [writtenField, writtenString]
  · unfold readField
    rw [readString_written]
    simp [bind, Except.bind, skipBlanks_cons, hf hrest, isBlank, pure, Except.pure]

/-- A name after all others comes last. -/
theorem insertField_append {name : Text} {fields : List (Text × Json)}
    (h : ∀ f ∈ fields, compare f.1 name = .lt) (value : Json) :
    insertField name value fields = fields ++ [(name, value)] := by
  induction fields with
  | nil => rfl
  | cons f fields ih =>
    obtain ⟨hf, hfields⟩ := List.forall_mem_cons.1 h
    have hgt : compare name f.1 = .gt := Std.OrientedCmp.gt_of_lt hf
    rw [insertField, hgt]
    dsimp only
    rw [ih hfields, List.cons_append]

/-- Fields are read after the first of them, where their names come after those that were read. -/
theorem readFields_after {fields : List (Text × Json)}
    (hread : ∀ f ∈ fields, ReadsBack item f.2) {fuel : Nat} (hfuel : fields.length < fuel)
    {seen : List (Text × Json)} (hnames : NamesInOrder (seen ++ fields)) (rest : Text) :
    readFields item fuel false seen
        (fields.flatMap (fun f => ',' :: writtenField f) ++ '\x7d' :: rest) =
      .ok (seen ++ fields, rest) := by
  induction fields generalizing fuel seen with
  | nil =>
    obtain ⟨d, rfl⟩ := Nat.exists_eq_add_of_lt hfuel
    rw [List.flatMap_nil, List.nil_append, List.length_nil, Nat.zero_add, readFields,
      skipBlanks_cons (by decide), List.append_nil]
    rfl
  | cons f fields ih =>
    obtain ⟨hf, hfields⟩ := List.forall_mem_cons.1 hread
    cases fuel with
    | zero => simp at hfuel
    | succ fuel =>
      have hlast : ∀ g ∈ seen, compare g.1 f.1 = .lt := fun g hg =>
        (List.pairwise_append.1 hnames).2.2 g hg f List.mem_cons_self
      rw [List.append_cons] at hnames
      obtain ⟨t, htext, hfield⟩ := readField_written hf
        (endsNumber_flatMap (.inr rfl) writtenField fields rest)
      have hrest := ih hfields (by simpa using hfuel) hnames
      rw [List.flatMap_cons, List.append_assoc, List.cons_append, htext, readFields,
        skipBlanks_cons (by decide), List.append_cons]
      simp [skipBlanks_cons, isBlank, hfield, insertField_append hlast, hrest, bind, Except.bind]

/-- The fields of an object are read from their text. -/
theorem readFields_written {fields : List (Text × Json)}
    (hread : ∀ f ∈ fields, ReadsBack item f.2) {fuel : Nat} (hfuel : fields.length < fuel)
    (hnames : NamesInOrder fields) (rest : Text) :
    readFields item fuel true [] (writeFields fields ++ '\x7d' :: rest) = .ok (fields, rest) := by
  cases fuel with
  | zero => simp at hfuel
  | succ fuel =>
    cases fields with
    | nil => rw [writeFields, List.nil_append, readFields, skipBlanks_cons (by decide)]; rfl
    | cons f fields =>
      obtain ⟨hf, hfields⟩ := List.forall_mem_cons.1 hread
      obtain ⟨t, htext, hfield⟩ := readField_written hf
        (endsNumber_flatMap (.inr rfl) writtenField fields rest)
      have hnames : NamesInOrder ([f] ++ fields) := hnames
      have hrest := readFields_after hfields (by simpa using hfuel) hnames rest
      rw [writeFields_cons, List.append_assoc, htext, readFields, skipBlanks_cons (by decide)]
      simp [hfield, insertField, hrest, bind, Except.bind]

end Parts

/-! ### Values -/

/-- A value whose numbers are integers is read from its text, where it nests no deeper than may be
read. -/
theorem readValue_write {depth : Nat} {v : Json} (hshaped : Shaped depth v)
    (hints : OnlyIntegers v) : ReadsBack (readValue depth) v := by
  induction hshaped with
  | null => intro rest _; simp [write, readValue, skipBlanks_cons, isBlank, readWord]
  | bool b =>
    intro rest _
    cases b <;> simp [write, readValue, skipBlanks_cons, isBlank, readWord]
  | number n =>
    intro rest hrest
    cases hints with
    | integer i => exact readValue_integer _ i hrest
  | string t =>
    intro rest _
    simp [write, writtenString, readValue, skipBlanks_cons, isBlank, isDigit, digit?,
      readString_written, Except.map]
  | @array depth items hdepth _ ih =>
    intro rest _
    cases hints with
    | array hints =>
      have hfuel : items.length < (writeItems items ++ ']' :: rest).length + 1 := by
        have := length_le_length_writeItems hints
        rw [List.length_append]
        omega
      have hread := readItems_written (fun v hv => ih v hv (hints v hv)) hints hfuel rest
      rw [List.length_append, List.length_cons] at hread
      simp only [write, List.cons_append, List.append_assoc, List.nil_append, readValue]
      rw [skipBlanks_cons (by decide)]
      simp [isDigit, digit?, hdepth, hread, Except.map]
  | @object depth fields hdepth hnames _ ih =>
    intro rest _
    cases hints with
    | object hints =>
      have hfuel : fields.length < (writeFields fields ++ '\x7d' :: rest).length + 1 := by
        have := length_le_length_writeFields fields
        rw [List.length_append]
        omega
      have hread := readFields_written (fun f hf => ih f hf (hints f hf)) hfuel hnames rest
      rw [List.length_append, List.length_cons] at hread
      simp only [write, List.cons_append, List.append_assoc, List.nil_append, readValue]
      rw [skipBlanks_cons (by decide)]
      simp [isDigit, digit?, hdepth, hread, Except.map]

end RecordFilter.Json
