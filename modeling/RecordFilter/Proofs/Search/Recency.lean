import Mathlib.Data.List.Dedup
import Mathlib.Data.List.DropRight
import RecordFilter.Proofs.Search.Cache

/-!
# Which keys a cache keeps

A cache keeps the keys touched last, each once, as many as it has room for (`keys_insert`).  Whether
a key is among them can be told from what was touched after it: there must be room for it beside the
different keys touched since (`mem_recent_iff`).
-/

namespace RecordFilter

section Lists

variable {β : Type}

theorem exists_last_of_mem {x : β} {xs : List β} (h : x ∈ xs) :
    ∃ before after, xs = before ++ x :: after ∧ x ∉ after := by
  obtain ⟨after, before, heq, hafter⟩ := List.eq_append_cons_of_mem (List.mem_reverse.2 h)
  refine ⟨before.reverse, after.reverse, ?_, by simpa using hafter⟩
  rw [← List.reverse_reverse xs, heq]
  simp

/-- An item is among the last ones when fewer come after it. -/
theorem mem_rtake_append_cons {x : β} (front : List β) {back : List β} (h : x ∉ back) (n : Nat) :
    x ∈ (front ++ x :: back).rtake n ↔ back.length < n := by
  unfold List.rtake
  by_cases hn : back.length < n
  · have hfront : (front ++ x :: back).length - n ≤ front.length := by simp; omega
    rw [List.drop_append_of_le_length hfront]
    simp [hn]
  · have hback : (front ++ x :: back).length - n = front.length + 1 + (back.length - n) := by
      simp; omega
    have hdrop : (front ++ x :: back).drop (front.length + 1) = back := by
      rw [List.drop_append]
      simp
    rw [hback, ← List.drop_drop, hdrop]
    constructor
    · intro hmem
      exact absurd (List.drop_subset _ back hmem) h
    · intro hlt
      exact absurd hlt hn

variable [DecidableEq β]

theorem filter_ne_of_not_mem {x : β} {xs : List β} (h : x ∉ xs) : xs.filter (· ≠ x) = xs :=
  List.filter_eq_self.2 fun y hy => by simpa using ne_of_mem_of_not_mem hy h

/-- A list without repetitions, continued by an item: where the item was it goes, and it comes
last. -/
theorem dedup_concat (xs : List β) (x : β) :
    (xs ++ [x]).dedup = xs.dedup.filter (· ≠ x) ++ [x] := by
  induction xs with
  | nil => rfl
  | cons y ys ih =>
    by_cases hlater : y ∈ ys
    · rw [List.cons_append, List.dedup_cons_of_mem (List.mem_append_left [x] hlater),
        List.dedup_cons_of_mem hlater, ih]
    · rw [List.dedup_cons_of_notMem hlater]
      by_cases hx : y = x
      · have hmem : y ∈ ys ++ [x] := by simp [hx]
        rw [List.cons_append, List.dedup_cons_of_mem hmem, ih]
        simp [hx]
      · have hnot : y ∉ ys ++ [x] := by simp [hx, hlater]
        rw [List.cons_append, List.dedup_cons_of_notMem hnot, ih]
        simp [hx]

/-- From the last items of a list without repetitions, one item can be taken out before or after
cutting, as long as one more is cut before. -/
theorem rtake_filter_rtake {xs : List β} (h : xs.Nodup) (x : β) (n : Nat) :
    ((xs.rtake (n + 1)).filter (· ≠ x)).rtake n = (xs.filter (· ≠ x)).rtake n := by
  induction xs using List.reverseRecOn generalizing n with
  | nil => simp
  | append_singleton ys y ih =>
    have hys : ys.Nodup := (List.nodup_append.1 h).1
    rw [List.rtake_concat_succ, List.filter_append, List.filter_append]
    by_cases hy : y = x
    · -- The item taken out is the last one, so it is not among the others.
      have hnot : x ∉ ys := fun hx =>
        (List.nodup_append.1 h).2.2 x hx y List.mem_cons_self hy.symm
      have hcut : x ∉ ys.rtake n := fun hx => hnot (List.drop_subset _ ys hx)
      rw [filter_ne_of_not_mem hnot, filter_ne_of_not_mem hcut]
      simp [hy, List.rtake_eq_reverse_take_reverse, List.take_take]
    · have hone : [y].filter (· ≠ x) = [y] := by simp [hy]
      rw [hone]
      cases n with
      | zero => simp
      | succ n => rw [List.rtake_concat_succ, List.rtake_concat_succ, ih hys]

/-- Without repetitions an item stands where it was last. -/
theorem dedup_append_cons {x : β} (before : List β) {after : List β} (h : x ∉ after) :
    ∃ front, (before ++ x :: after).dedup = front ++ x :: after.dedup := by
  obtain ⟨front, -, heq⟩ := List.sublist_suffix_of_union before (x :: after.dedup)
  refine ⟨front, ?_⟩
  rw [List.dedup_append, List.dedup_cons_of_notMem h, heq]

end Lists

namespace Cache

variable {κ α : Type}

/-- The keys of a cache, the one touched last at the end. -/
def keys (c : Cache κ α) : List κ :=
  c.entries.map (·.1)

/-- Of the keys touched, each once, those touched last, as many as there is room for. -/
def recent [DecidableEq κ] (capacity : Option Nat) (touched : List κ) : List κ :=
  match capacity with
  | none => touched.dedup
  | some n => touched.dedup.rtake (max 1 n)

section Recent

variable [DecidableEq κ]

theorem recent_subset (capacity : Option Nat) (touched : List κ) :
    recent capacity touched ⊆ touched := by
  cases capacity with
  | none => exact touched.dedup_subset
  | some n => exact List.Subset.trans (List.drop_subset _ _) touched.dedup_subset

/-- A key that is touched comes last and takes the place it had, or that of the key which was not
touched for the longest time. -/
theorem recent_concat (touched : List κ) (key : κ) (n : Nat) :
    recent (some n) (touched ++ [key]) =
      ((recent (some n) touched).filter (· ≠ key)).rtake (max 1 n - 1) ++ [key] := by
  obtain ⟨m, hm⟩ : ∃ m, max 1 n = m + 1 := ⟨max 1 n - 1, by omega⟩
  simp only [recent, hm, Nat.add_sub_cancel]
  rw [dedup_concat, List.rtake_concat_succ, rtake_filter_rtake touched.nodup_dedup]

/-- As many keys are kept as have been touched, but no more than there is room for. -/
theorem length_recent (capacity : Option Nat) (touched : List κ) :
    (recent capacity touched).length =
      match capacity with
      | none => touched.dedup.length
      | some n => min (max 1 n) touched.dedup.length := by
  cases capacity with
  | none => rfl
  | some n => simp only [recent, List.rtake, List.length_drop]; omega

/-- A key is kept when it has been touched and, if room is limited, there is room for it beside the
different keys touched since. -/
theorem mem_recent_iff (capacity : Option Nat) (touched : List κ) (key : κ) :
    key ∈ recent capacity touched ↔
      ∃ before after, touched = before ++ key :: after ∧ key ∉ after ∧
        ∀ n, capacity = some n → after.dedup.length < max 1 n := by
  have hlast : ∀ before after, touched = before ++ key :: after → key ∉ after →
      (key ∈ recent capacity touched ↔
        ∀ n, capacity = some n → after.dedup.length < max 1 n) := by
    rintro before after rfl hafter
    cases capacity with
    | none => simp [recent]
    | some m =>
      obtain ⟨front, heq⟩ := dedup_append_cons before hafter
      rw [recent, heq, mem_rtake_append_cons front (by simpa using hafter)]
      simp
  constructor
  · intro hmem
    obtain ⟨before, after, heq, hafter⟩ := exists_last_of_mem (recent_subset capacity touched hmem)
    exact ⟨before, after, heq, hafter, (hlast before after heq hafter).1 hmem⟩
  · rintro ⟨before, after, heq, hafter, hroom⟩
    exact (hlast before after heq hafter).2 hroom

end Recent

section Entries

variable [BEq κ] [LawfulBEq κ]

/-- What is inserted stands under its key alone; every other entry was there before. -/
theorem mem_insert {c : Cache κ α} {key : κ} {value : α} {e : κ × α}
    (he : e ∈ (c.insert key value).entries) : e = (key, value) ∨ e ∈ c.entries ∧ e.1 ≠ key := by
  rcases List.mem_append.1 (withinCapacity_subset c.capacity _ he) with hold | hnew
  · obtain ⟨hmem, hkey⟩ := List.mem_filter.1 hold
    exact .inr ⟨hmem, by simpa using hkey⟩
  · exact .inl (List.mem_singleton.1 hnew)

theorem find?_isSome_iff {c : Cache κ α} {key : κ} : (c.find? key).isSome ↔ key ∈ c.keys := by
  unfold find? keys
  rw [List.lookup_isSome_iff, List.mem_map]
  constructor
  · rintro ⟨e, he, heq⟩
    exact ⟨e, he, (beq_iff_eq.1 heq).symm⟩
  · rintro ⟨e, he, rfl⟩
    exact ⟨e, he, BEq.rfl⟩

/-- Where there is room for all, what is inserted is found under its key, and everything else where
it was. -/
theorem find?_insert_of_unbounded {c : Cache κ α} (hc : c.capacity = none) (key : κ) (value : α) :
    (c.insert key value).find? key = some value ∧
      ∀ key', key' ≠ key → (c.insert key value).find? key' = c.find? key' := by
  have hfind : ∀ key', (c.insert key value).find? key' =
      ((c.entries.filter (·.1 != key)).lookup key').or (List.lookup key' [(key, value)]) := by
    intro key'
    rw [← List.lookup_append]
    show (withinCapacity c.capacity _).lookup key' = _
    rw [hc]
    rfl
  constructor
  · have hothers : (c.entries.filter (·.1 != key)).lookup key = none := by
      apply List.lookup_eq_none_iff.2
      intro e he
      have hne : e.1 ≠ key := by simpa using (List.mem_filter.1 he).2
      simpa using hne.symm
    simp [hfind, hothers]
  · intro key' hne
    have hkey : (key' == key) = false := beq_false_of_ne hne
    have hothers : (c.entries.filter (·.1 != key)).lookup key' = c.entries.lookup key' := by
      induction c.entries with
      | nil => rfl
      | cons e rest ih =>
        obtain ⟨k, v⟩ := e
        by_cases hk : k = key
        · simp [hk, ih, List.lookup_cons, hkey]
        · simp [hk, ih, List.lookup_cons]
    rw [hfind, hothers, List.lookup_cons, hkey, List.lookup_nil]
    exact Option.or_none

variable [DecidableEq κ]

/-- Inserting a key touches it. -/
theorem keys_insert {c : Cache κ α} {touched : List κ} (h : c.keys = recent c.capacity touched)
    (key : κ) (value : α) : (c.insert key value).keys = recent c.capacity (touched ++ [key]) := by
  have hothers : (c.entries.filter (·.1 != key)).map (·.1) = c.keys.filter (· ≠ key) := by
    rw [keys, List.filter_map]
    congr 1
    apply List.filter_congr
    intro e _
    rw [Bool.eq_iff_iff]
    simp
  show (withinCapacity c.capacity (c.entries.filter (·.1 != key) ++ [(key, value)])).map (·.1) = _
  cases hcapacity : c.capacity with
  | none =>
    rw [hcapacity] at h
    rw [withinCapacity, List.map_append, hothers, h, recent, recent, dedup_concat]
    rfl
  | some n =>
    rw [hcapacity] at h
    obtain ⟨m, hm⟩ : ∃ m, max 1 n = m + 1 := ⟨max 1 n - 1, by omega⟩
    rw [recent_concat, ← h, ← hothers, hm, Nat.add_sub_cancel]
    show ((c.entries.filter (·.1 != key) ++ [(key, value)]).rtake (max 1 n)).map (·.1) = _
    rw [hm, List.rtake_concat_succ, List.map_append]
    simp [List.rtake]

end Entries

end Cache

end RecordFilter
