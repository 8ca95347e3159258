import RecordFilter.Proofs.Json.Induction
import RecordFilter.Record.Sort

/-!
# The orders that records are sorted by

Values are in a consistent order: of two the one comparison is the other reversed, and what does not
come after a value does not come after the values that follow it.  Both laws are shown for arrays
from the laws for their items, so the second one is put in the form of an equation
(`compareItems_eq_then`): of three arrays in order, the outer two compare as the first pair that
differs.  The orders by a path and by several paths inherit the laws.
-/

namespace RecordFilter

/-- Of three items in a consistent order, the outer two compare as the first pair that differs. -/
theorem eq_then_of_isLE {α : Type} (cmp : α → α → Ordering) [Std.TransCmp cmp] {a b c : α}
    (hab : (cmp a b).isLE) (hbc : (cmp b c).isLE) : cmp a c = (cmp a b).then (cmp b c) := by
  cases h : cmp a b with
  | lt => exact Std.TransCmp.lt_of_lt_of_isLE h hbc
  | eq => exact Std.TransCmp.congr_left h
  | gt => simp [h] at hab

/-- Items that are compared by what stands beside them are in a consistent order if that is. -/
theorem transCmp_comap {α β : Type} {cmp : α → α → Ordering} [Std.TransCmp cmp] (f : β → α) :
    Std.TransCmp fun a b => cmp (f a) (f b) where
  eq_swap := Std.OrientedCmp.eq_swap
  isLE_trans := Std.TransCmp.isLE_trans

namespace Json

theorem compareValues_of_rank_ne {a b : Json} (h : a.rank ≠ b.rank) :
    compareValues a b = compare a.rank b.rank := by
  cases a <;> cases b <;> first | rfl | exact absurd rfl h

theorem rank_le_of_isLE {a b : Json} (h : (compareValues a b).isLE) : a.rank ≤ b.rank := by
  by_cases hrank : a.rank = b.rank
  · exact Nat.le_of_eq hrank
  · rw [compareValues_of_rank_ne hrank, Nat.isLE_compare] at h
    exact h

theorem compareValues_eq_lt {a b : Json} (h : a.rank < b.rank) : compareValues a b = .lt := by
  rw [compareValues_of_rank_ne (Nat.ne_of_lt h), Nat.compare_eq_lt]
  exact h

/-- Items compare in the reverse order when each of them does. -/
theorem compareItems_swap {as : List Json}
    (h : ∀ a ∈ as, ∀ b, compareValues a b = (compareValues b a).swap) (bs : List Json) :
    compareItems as bs = (compareItems bs as).swap := by
  induction as generalizing bs with
  | nil => cases bs <;> simp [compareItems]
  | cons a as ih =>
    obtain ⟨ha, has⟩ := List.forall_mem_cons.1 h
    cases bs with
    | nil => simp [compareItems]
    | cons b bs => rw [compareItems, compareItems, ha b, ih has bs, Ordering.swap_then]

theorem compareValues_swap (a b : Json) : compareValues a b = (compareValues b a).swap := by
  induction a using Json.induction generalizing b with
  | null => cases b <;> rfl
  | bool x =>
    cases b with
    | bool y => exact @Std.OrientedCmp.eq_swap _ (compare (α := Bool)) _ _ _
    | _ => rfl
  | number n =>
    cases b with
    | number m => exact @Std.OrientedCmp.eq_swap _ (compare (α := Int)) _ _ _
    | _ => rfl
  | string s =>
    cases b with
    | string t => exact @Std.OrientedCmp.eq_swap _ (compare (α := Text)) _ _ _
    | _ => rfl
  | array items ih =>
    cases b with
    | array others => exact compareItems_swap ih others
    | _ => rfl
  | object fields ih =>
    cases b with
    | object others => exact @Std.OrientedCmp.eq_swap _ (compare (α := Nat)) _ _ _
    | _ => rfl

/-- Of a value and two that follow it in order, the first and the last compare as the first pair
that differs. -/
def Chains (a : Json) : Prop :=
  ∀ b c, (compareValues a b).isLE → (compareValues b c).isLE →
    compareValues a c = (compareValues a b).then (compareValues b c)

/-- Values of later kinds are in order by their kinds. -/
theorem chains_of_same_kind {a : Json}
    (h : ∀ b c, a.rank = b.rank → b.rank = c.rank → (compareValues a b).isLE →
      (compareValues b c).isLE →
      compareValues a c = (compareValues a b).then (compareValues b c)) : a.Chains := by
  intro b c hab hbc
  rcases Nat.lt_or_eq_of_le (rank_le_of_isLE hab) with hb | hb
  · rw [compareValues_eq_lt hb, compareValues_eq_lt (Nat.lt_of_lt_of_le hb (rank_le_of_isLE hbc))]
    rfl
  · rcases Nat.lt_or_eq_of_le (rank_le_of_isLE hbc) with hc | hc
    · rw [compareValues_eq_lt hc, compareValues_eq_lt (hb ▸ hc)]
      cases h : compareValues a b <;> simp_all
    · exact h b c hb hc hab hbc

theorem compareItems_eq_then {as : List Json} (h : ∀ a ∈ as, a.Chains) {bs cs : List Json}
    (hab : (compareItems as bs).isLE) (hbc : (compareItems bs cs).isLE) :
    compareItems as cs = (compareItems as bs).then (compareItems bs cs) := by
  induction as generalizing bs cs with
  | nil => cases bs <;> cases cs <;> simp_all [compareItems]
  | cons a as ih =>
    obtain ⟨ha, has⟩ := List.forall_mem_cons.1 h
    cases bs with
    | nil => simp [compareItems] at hab
    | cons b bs =>
      cases cs with
      | nil => simp [compareItems] at hbc
      | cons c cs =>
        rw [compareItems] at hab hbc
        have hfirst : (compareValues a b).isLE := Ordering.isLE_left_of_isLE_then hab
        have hsecond : (compareValues b c).isLE := Ordering.isLE_left_of_isLE_then hbc
        rw [compareItems, compareItems, compareItems, ha b c hfirst hsecond]
        cases hx : compareValues a b with
        | lt => rfl
        | gt => simp [hx] at hfirst
        | eq =>
          have hrest : (compareItems as bs).isLE := by simpa [hx] using hab
          cases hy : compareValues b c with
          | gt => simp [hy] at hsecond
          | lt => cases hz : compareItems as bs <;> simp_all
          | eq =>
            have hrest' : (compareItems bs cs).isLE := by simpa [hy] using hbc
            simpa using ih has hrest hrest'

theorem chains (a : Json) : a.Chains := by
  induction a using Json.induction
  all_goals
    refine chains_of_same_kind fun b c hb hc hab hbc => ?_
    cases b <;> simp [rank] at hb
    cases c <;> simp [rank] at hc
  case null.null.null => rfl
  case bool.bool.bool => exact eq_then_of_isLE (compare (α := Bool)) hab hbc
  case number.number.number => exact eq_then_of_isLE (compare (α := Int)) hab hbc
  case string.string.string => exact eq_then_of_isLE (compare (α := Text)) hab hbc
  case array.array.array ih _ _ => exact compareItems_eq_then ih hab hbc
  case object.object.object => exact eq_then_of_isLE (compare (α := Nat)) hab hbc

/-- Values are in a consistent order. -/
instance : Std.TransCmp compareValues where
  eq_swap := compareValues_swap _ _
  isLE_trans {a b c} hab hbc := by
    rw [chains a b c hab hbc, Ordering.isLE_then_iff_or]
    cases h : compareValues a b <;> simp_all

end Json

/-- Records are in a consistent order by the value at a path, in either direction: those without
one follow those with one. -/
instance (key : Text) (descending : Bool) : Std.TransCmp (compareAt key descending) where
  eq_swap {a b} := by
    unfold compareAt
    cases a.dig key with
    | none => cases b.dig key <;> rfl
    | some v =>
      cases b.dig key with
      | none => rfl
      | some w => cases descending <;> exact Json.compareValues_swap _ _
  isLE_trans {a b c} hab hbc := by
    unfold compareAt at *
    cases ha : a.dig key with
    | none =>
      cases hb : b.dig key <;> cases hc : c.dig key <;> simp_all
    | some u =>
      cases hb : b.dig key with
      | none => cases hc : c.dig key <;> simp_all
      | some v =>
        cases hc : c.dig key with
        | none => rfl
        | some w =>
          simp only [ha, hb] at hab
          simp only [hb, hc] at hbc
          cases descending with
          | false => exact @Std.TransCmp.isLE_trans _ Json.compareValues _ _ _ _ hab hbc
          | true => exact @Std.TransCmp.isLE_trans _ Json.compareValues _ _ _ _ hbc hab

theorem foldl_then_eq (keys : List Text) (o : Ordering) (a b : Json) :
    keys.foldl (fun o key => o.then (compareAt key false a b)) o =
      o.then (compareAtAll keys a b) := by
  unfold compareAtAll
  induction keys generalizing o with
  | nil => simp
  | cons key keys ih =>
    rw [List.foldl_cons, List.foldl_cons, ih, ih (Ordering.eq.then _), ← Ordering.then_assoc]
    rfl

/-- Of several paths the first decides, and the others where it does not. -/
theorem compareAtAll_cons (key : Text) (keys : List Text) :
    compareAtAll (key :: keys) = compareLex (compareAt key false) (compareAtAll keys) := by
  funext a b
  exact foldl_then_eq keys _ a b

instance (keys : List Text) : Std.TransCmp (compareAtAll keys) := by
  induction keys with
  | nil => exact { eq_swap := rfl, isLE_trans := fun _ _ => rfl }
  | cons key keys ih =>
    rw [compareAtAll_cons]
    infer_instance

end RecordFilter
