import Mathlib.Data.List.Forall2
import RecordFilter.Proofs.Record.Order

/-!
# Comparisons to sort by

Sorting asks of a comparison that nothing comes before itself, that two items the other way round
compare the other way round, that what does not come after an item does not come after the items
behind it, and that items at one place compare alike with every other.  The comparisons of values,
of records at a path and of records at several paths are `Consistent` (`consistent_comparisons`).
Which values are at one place is said apart from the comparison, kind by kind (`SamePlace`): numbers
where they are the same in double precision, objects where they have as many fields.
-/

namespace RecordFilter

section Consistent

variable {α : Type} {cmp : α → α → Ordering}

/-- A comparison that puts items in one order, some of them at one place. -/
structure Consistent (cmp : α → α → Ordering) : Prop where
  self (a : α) : cmp a a = .eq
  swap (a b : α) : cmp b a = (cmp a b).swap
  trans {a b c : α} : cmp a b ≠ .gt → cmp b c ≠ .gt → cmp a c ≠ .gt
  congr {a b : α} : cmp a b = .eq → ∀ c, cmp a c = cmp b c ∧ cmp c a = cmp c b

theorem Consistent.of_transCmp [Std.TransCmp cmp] : Consistent cmp where
  self _ := Std.ReflCmp.compare_self
  swap _ _ := Std.OrientedCmp.eq_swap
  trans hab hbc := by
    have hle := Std.TransCmp.isLE_trans (Ordering.ne_gt_iff_isLE.1 hab)
      (Ordering.ne_gt_iff_isLE.1 hbc)
    exact Ordering.ne_gt_iff_isLE.2 hle
  congr hab _ := ⟨Std.TransCmp.congr_left hab, Std.TransCmp.congr_right hab⟩

end Consistent

namespace Json

/-- Values at one place in the order of values. -/
inductive SamePlace : Json → Json → Prop
  | null : SamePlace .null .null
  | bool (b : Bool) : SamePlace (.bool b) (.bool b)
  | number {m n : Number} : m.toDouble = n.toDouble → SamePlace (.number m) (.number n)
  | string (t : Text) : SamePlace (.string t) (.string t)
  | array {as bs : List Json} : List.Forall₂ SamePlace as bs → SamePlace (.array as) (.array bs)
  | object {fields others : List (Text × Json)} : fields.length = others.length →
      SamePlace (.object fields) (.object others)

theorem compareItems_eq_eq_iff {as : List Json}
    (h : ∀ a ∈ as, ∀ b, compareValues a b = .eq ↔ SamePlace a b) (bs : List Json) :
    compareItems as bs = .eq ↔ List.Forall₂ SamePlace as bs := by
  induction as generalizing bs with
  | nil => cases bs <;> simp [compareItems]
  | cons a as ih =>
    obtain ⟨ha, has⟩ := List.forall_mem_cons.1 h
    cases bs with
    | nil => simp [compareItems]
    | cons b bs => rw [compareItems, Ordering.then_eq_eq, ha, ih has, List.forall₂_cons]

/-- Values compare equal where they are at one place. -/
theorem compareValues_eq_eq_iff (a b : Json) : compareValues a b = .eq ↔ SamePlace a b := by
  induction a using Json.induction generalizing b with
  | null =>
    cases b with
    | null => exact iff_of_true rfl .null
    | _ => exact iff_of_false nofun nofun
  | bool x =>
    cases b with
    | bool y =>
      have hcompare : compareValues (.bool x) (.bool y) = .eq ↔ x = y := Std.compare_eq_iff_eq
      rw [hcompare]
      exact ⟨fun h => h ▸ .bool x, fun h => by cases h; rfl⟩
    | _ => exact iff_of_false nofun nofun
  | number m =>
    cases b with
    | number n =>
      have hcompare : compareValues (.number m) (.number n) = .eq ↔
          m.toDouble.totalKey = n.toDouble.totalKey := Std.compare_eq_iff_eq
      rw [hcompare]
      refine ⟨fun h => .number (Double.totalKey_injective h), fun h => ?_⟩
      cases h with
      | number hsame => rw [hsame]
    | _ => exact iff_of_false nofun nofun
  | string s =>
    cases b with
    | string t =>
      have hcompare : compareValues (.string s) (.string t) = .eq ↔ s = t := Std.compare_eq_iff_eq
      rw [hcompare]
      exact ⟨fun h => h ▸ .string s, fun h => by cases h; rfl⟩
    | _ => exact iff_of_false nofun nofun
  | array items ih =>
    cases b with
    | array others =>
      rw [compareValues, compareItems_eq_eq_iff ih]
      exact ⟨.array, fun h => by cases h; assumption⟩
    | _ => exact iff_of_false nofun nofun
  | object fields ih =>
    cases b with
    | object others =>
      have hcompare : compareValues (.object fields) (.object others) = .eq ↔
          fields.length = others.length := Std.compare_eq_iff_eq
      rw [hcompare]
      exact ⟨.object, fun h => by cases h; assumption⟩
    | _ => exact iff_of_false nofun nofun

end Json

/-- The comparison of values is consistent, and it calls equal just those at one place.  So are the
comparisons by which records, each with something beside it, are sorted at a path, in either
direction, and at several paths. -/
theorem consistent_comparisons :
    Consistent Json.compareValues ∧
    (∀ a b, Json.compareValues a b = .eq ↔ Json.SamePlace a b) ∧
    ∀ {α : Type} (record : α → Json),
      (∀ key descending, Consistent fun a b => compareAt key descending (record a) (record b)) ∧
      ∀ keys, Consistent fun a b => compareAtAll keys (record a) (record b) := by
  refine ⟨.of_transCmp, Json.compareValues_eq_eq_iff, fun record => ⟨fun key descending => ?_,
    fun keys => ?_⟩⟩
  · exact @Consistent.of_transCmp _ _ (transCmp_comap record)
  · exact @Consistent.of_transCmp _ _ (transCmp_comap record)

/-- Objects with one field are at one place, and negative zero stands before positive zero, also
within arrays and for records at a path. -/
theorem consistent_comparisons_arrays :
    let a : Json := .array [.number (.float (.signedZero true)), .object [(['x'], .null)]]
    let b : Json := .array [.number (.float (.signedZero true)), .object [(['y'], .bool true)]]
    let c : Json := .array [.number (.float .zero)]
    let record (value : Json) : Json := .object [(['k'], value)]
    a.compareValues b = .eq ∧ b.compareValues c ≠ .gt ∧ a.compareValues c ≠ .gt ∧
      a.compareValues c = b.compareValues c ∧ a.SamePlace b ∧
      compareAt ['k'] true (record c) (record b) ≠ .gt ∧
      compareAt ['k'] true (record b) (record a) ≠ .gt ∧
      compareAt ['k'] true (record c) (record a) ≠ .gt := by
  intro a b c record
  obtain ⟨hvalues, hplace, hrecords⟩ := consistent_comparisons
  have hab : a.compareValues b = .eq := by decide
  have hbc : b.compareValues c ≠ .gt := by decide
  have hcb : compareAt ['k'] true (record c) (record b) ≠ .gt := by decide
  have hba : compareAt ['k'] true (record b) (record a) ≠ .gt := by decide
  exact ⟨hab, hbc, hvalues.trans (by rw [hab]; decide) hbc, (hvalues.congr hab c).1,
    (hplace a b).1 hab, hcb, hba, ((hrecords record).1 ['k'] true).trans hcb hba⟩

end RecordFilter
