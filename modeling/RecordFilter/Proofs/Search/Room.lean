import Mathlib.Data.List.Perm.Subperm
import RecordFilter.Proofs.Search.History

/-!
# Caches with more and with less room

The same steps on two caches are not the same touches: a key that only the larger cache still holds
is touched there alone.  All the same the larger cache holds every key that the smaller one holds
(`hits_of_narrower`).  For the invariant the keys of the smaller cache stand among those of the
larger one in the same order, and the smaller cache lacks none of them before it is full
(`Nested`); so when a key goes from the larger cache, one goes from the smaller cache too, and it is
no later one.
-/

namespace RecordFilter.Cache

variable {κ α ε : Type}

/-- A capacity leaves room for no more entries than another. -/
def Narrower (small large : Option Nat) : Prop :=
  ∀ m, large = some m → ∃ n, small = some n ∧ n ≤ m

section Recent

variable [DecidableEq κ]

/-- How many of other keys have to go when a key comes to stand after them. -/
def excess (capacity : Option Nat) (others : Nat) : Nat :=
  match capacity with
  | none => 0
  | some n => others + 1 - max 1 n

theorem recent_concat_eq_drop (capacity : Option Nat) (touched : List κ) (key : κ) :
    let others := (recent capacity touched).filter (· ≠ key)
    recent capacity (touched ++ [key]) = others.drop (excess capacity others.length) ++ [key] := by
  intro others
  cases capacity with
  | none => exact dedup_concat touched key
  | some n =>
    have hexcess : excess (some n) others.length = others.length - (max 1 n - 1) := by
      simp only [excess]
      omega
    rw [recent_concat, hexcess]
    rfl

/-- As many keys have been touched as there is room for. -/
def Full (capacity : Option Nat) (touched : List κ) : Prop :=
  ∃ n, capacity = some n ∧ max 1 n ≤ touched.dedup.length

theorem Full.concat {capacity : Option Nat} {touched : List κ} (h : Full capacity touched)
    (key : κ) : Full capacity (touched ++ [key]) := by
  obtain ⟨n, hn, hlength⟩ := h
  have hsubset : touched.dedup ⊆ (touched ++ [key]).dedup := by
    intro k hk
    rw [List.mem_dedup] at hk ⊢
    exact List.mem_append_left [key] hk
  have hmore := (touched.nodup_dedup.subperm hsubset).length_le
  exact ⟨n, hn, hlength.trans hmore⟩

/-- A key that is held already takes the place of no other. -/
theorem excess_of_mem {capacity : Option Nat} {touched : List κ} {key : κ}
    (hkey : key ∈ recent capacity touched) :
    excess capacity ((recent capacity touched).filter (· ≠ key)).length = 0 := by
  have hfewer : ((recent capacity touched).filter (· ≠ key)).length <
      (recent capacity touched).length :=
    List.length_filter_lt_length_iff_exists.2 ⟨key, hkey, by simp⟩
  have hlength := length_recent capacity touched
  cases capacity with
  | none => rfl
  | some n =>
    simp only [excess]
    simp only at hlength
    omega

/-- Where a key has to go, there is no room left. -/
theorem full_of_excess {capacity : Option Nat} {touched : List κ} {key : κ}
    (h : excess capacity ((recent capacity touched).filter (· ≠ key)).length ≠ 0) :
    Full capacity touched := by
  have hfewer := List.length_filter_le (fun k => decide (k ≠ key)) (recent capacity touched)
  have hlength := length_recent capacity touched
  cases capacity with
  | none => exact absurd rfl h
  | some n =>
    simp only [excess] at h
    simp only at hlength
    refine ⟨n, rfl, ?_⟩
    omega

section Nested

variable {small large : Option Nat} {touched others : List κ}

/-- The keys that a cache holds are among those of another in the same order, and unless the first
one is full they are all the keys of the other. -/
structure Nested (small large : Option Nat) (touched others : List κ) : Prop where
  sublist : (recent small touched).Sublist (recent large others)
  full : recent small touched = recent large others ∨ Full small touched

theorem nested_nil (small large : Option Nat) : Nested small large ([] : List κ) [] := by
  have hnothing : ∀ capacity, recent capacity ([] : List κ) = [] := fun capacity =>
    List.eq_nil_of_subset_nil (recent_subset capacity [])
  refine ⟨?_, .inl ?_⟩
  · rw [hnothing, hnothing]
  · rw [hnothing, hnothing]

variable (h : Nested small large touched others)

include h

/-- When a key comes last in both, no more keys go from the larger cache than from the smaller. -/
theorem Nested.excess_le (hnarrower : Narrower small large) (key : κ) :
    excess large ((recent large others).filter (· ≠ key)).length ≤
      excess small ((recent small touched).filter (· ≠ key)).length := by
  cases large with
  | none => exact Nat.zero_le _
  | some m =>
    obtain ⟨n, rfl, hnm⟩ := hnarrower m rfl
    have hlarge := length_recent (some m) others
    have hsmall := length_recent (some n) touched
    simp only [excess] at *
    rcases h.full with heq | ⟨_, hn, hfull⟩
    · rw [heq]
      omega
    · obtain rfl := Option.some.inj hn
      -- A key that the larger cache lacks is new to both, and the smaller one, being full, loses a
      -- key for it as well.
      by_cases hkey : key ∈ recent (some m) others
      · have hnone := excess_of_mem hkey
        simp only [excess] at hnone
        omega
      · have hkey' : key ∉ recent (some n) touched := fun hmem => hkey (h.sublist.subset hmem)
        have hfewer := List.length_filter_le (fun k => decide (k ≠ key)) (recent (some m) others)
        rw [filter_ne_of_not_mem hkey']
        omega

/-- A key is touched in both caches. -/
theorem Nested.concat (hnarrower : Narrower small large) (key : κ) :
    Nested small large (touched ++ [key]) (others ++ [key]) := by
  have hexcess := h.excess_le hnarrower key
  have hothers := h.sublist.filter (· ≠ key)
  constructor
  · rw [recent_concat_eq_drop, recent_concat_eq_drop]
    exact ((hothers.drop _).trans (List.drop_sublist_drop_left _ hexcess)).append (.refl [key])
  · rcases h.full with heq | hfull
    · by_cases hsmall : excess small ((recent small touched).filter (· ≠ key)).length = 0
      · have hlarge : excess large ((recent large others).filter (· ≠ key)).length = 0 :=
          Nat.eq_zero_of_le_zero (hexcess.trans_eq hsmall)
        left
        rw [recent_concat_eq_drop, recent_concat_eq_drop, hsmall, hlarge, heq]
      · exact .inr ((full_of_excess hsmall).concat key)
    · exact .inr (hfull.concat key)

/-- A key is touched in the larger cache, which holds it, but not in the smaller. -/
theorem Nested.found {key : κ} (hlarge : key ∈ recent large others)
    (hsmall : key ∉ recent small touched) : Nested small large touched (others ++ [key]) := by
  have hothers := h.sublist.filter (· ≠ key)
  rw [filter_ne_of_not_mem hsmall] at hothers
  constructor
  · rw [recent_concat_eq_drop, excess_of_mem hlarge, List.drop_zero]
    exact hothers.trans (List.sublist_append_left _ _)
  · rcases h.full with heq | hfull
    · rw [heq] at hsmall
      exact absurd hlarge hsmall
    · exact .inr hfull

end Nested

end Recent

variable [DecidableEq κ] {small large : Option Nat}

/-- One step, taken by either cache by its own history. -/
theorem Nested.extended {h k : History κ α}
    (hnested : Nested small large (h.map Touch.key) (k.map Touch.key))
    (hnarrower : Narrower small large) (step : Step κ α ε) :
    Nested small large ((h.extended small step).map Touch.key)
      ((k.extended large step).map Touch.key) := by
  cases hlookup : step.lookup? with
  | some key =>
    by_cases hsmall : key ∈ h.held small
    · have hlarge : key ∈ k.held large := hnested.sublist.subset hsmall
      rw [History.extended_of_mem hlookup hsmall, History.extended_of_mem hlookup hlarge,
        List.map_append, List.map_append]
      exact hnested.concat hnarrower key
    · rw [History.extended_of_not_mem hlookup hsmall]
      cases hentry : step.entry? with
      | some e =>
        -- The smaller cache puts in the key that the larger one may have found.
        obtain rfl : e.1 = key := Step.key_of_entry? hlookup hentry
        by_cases hlarge : e.1 ∈ k.held large
        · rw [History.extended_of_mem hlookup hlarge, List.map_append, List.map_append]
          exact hnested.concat hnarrower e.1
        · rw [History.extended_of_not_mem hlookup hlarge, hentry, List.map_append, List.map_append]
          exact hnested.concat hnarrower e.1
      | none =>
        rw [Option.map_none, Option.toList_none, List.append_nil]
        by_cases hlarge : key ∈ k.held large
        · rw [History.extended_of_mem hlookup hlarge, List.map_append]
          exact hnested.found hlarge hsmall
        · rw [History.extended_of_not_mem hlookup hlarge, hentry, Option.map_none,
            Option.toList_none, List.append_nil]
          exact hnested
  | none =>
    cases step with
    | insert key value =>
      rw [History.extended_insert, History.extended_insert, List.map_append, List.map_append]
      exact hnested.concat hnarrower key
    | clear => exact nested_nil small large
    | get _ | getOrInsert _ _ | getOrTryInsert _ _ => simp [Step.lookup?] at hlookup

/-- Along every run the keys of the smaller cache are nested in those of the larger. -/
theorem nested_ofRun (hnarrower : Narrower small large) (steps : List (Step κ α ε)) :
    Nested small large ((History.ofRun small steps).map Touch.key)
      ((History.ofRun large steps).map Touch.key) := by
  induction steps using List.reverseRecOn with
  | nil => exact nested_nil small large
  | append_singleton steps step ih =>
    rw [History.ofRun_concat, History.ofRun_concat]
    exact ih.extended hnarrower step

variable [BEq κ] [LawfulBEq κ]

theorem keys_after_sublist (hnarrower : Narrower small large) (steps : List (Step κ α ε)) :
    (after small steps).keys.Sublist (after large steps).keys := by
  rw [(remembers_after small steps).keys, (remembers_after large steps).keys]
  exact (nested_ofRun hnarrower steps).sublist

/-- A cache with more room never does worse: after the same steps it holds every key that one with
less room holds, so it finds what that one finds, and it runs a computation only where that one runs
it too. -/
theorem hits_of_narrower (hnarrower : Narrower small large) (steps : List (Step κ α ε)) :
    (after small steps).keys ⊆ (after large steps).keys ∧
      (∀ key, ((after small steps).get key).1.isSome → ((after large steps).get key).1.isSome) ∧
      ∀ step : Step κ α ε,
        (after large steps).computations step ≤ (after small steps).computations step := by
  have hkeys := (keys_after_sublist hnarrower steps).subset
  have hfind : ∀ key, ((after small steps).find? key).isSome →
      ((after large steps).find? key).isSome := by
    intro key hsmall
    exact find?_isSome_iff.2 (hkeys (find?_isSome_iff.1 hsmall))
  refine ⟨hkeys, ?_, ?_⟩
  · intro key hsmall
    rw [isSome_get] at hsmall ⊢
    exact hfind key hsmall
  · intro step
    cases hlookup : step.lookup? with
    | some key =>
      rw [computations_of_lookup? hlookup, computations_of_lookup? hlookup]
      by_cases hsmall : ((after small steps).find? key).isSome
      · rw [if_pos (hfind key hsmall)]
        exact Nat.zero_le _
      · rw [if_neg hsmall]
        split
        · exact Nat.zero_le _
        · exact Nat.le_refl _
    | none =>
      rw [computations_of_lookup?_eq_none hlookup]
      exact Nat.zero_le _

/-- A key that only the larger cache still holds comes last there when it is looked up, before the
keys of the smaller cache; what is computed next goes in without a loss to them. -/
theorem hits_of_narrower_two_three :
    let steps : List (Step Char Nat Unit) :=
      [.insert 'a' 1, .insert 'b' 2, .insert 'c' 3, .get 'a', .getOrTryInsert 'd' (.ok 4)]
    let step : Step Char Nat Unit := .getOrInsert 'a' 5
    Narrower (some 2) (some 3) ∧ (after (some 2) steps).keys ⊆ (after (some 3) steps).keys ∧
      ((after (some 3) steps).get 'c').1.isSome ∧
      (after (some 3) steps).computations step ≤ (after (some 2) steps).computations step := by
  intro steps step
  have hnarrower : Narrower (some 2) (some 3) := by
    rintro m ⟨⟩
    exact ⟨2, rfl, by decide⟩
  obtain ⟨hkeys, hhits, hcomputations⟩ := hits_of_narrower (κ := Char) hnarrower steps
  exact ⟨hnarrower, hkeys, hhits 'c' (by decide), hcomputations step⟩

end RecordFilter.Cache
