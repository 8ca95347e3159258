import RecordFilter.Proofs.Search.CacheSteps
import RecordFilter.Proofs.Search.Recency

/-!
# A cache told from its history

The history of a cache lists the touches of its keys since it was last cleared: insertions, with
their values, and lookups that found their key.  Nothing else counts, neither a lookup that found
nothing nor a computation that failed.  From the history alone follows which keys are held, under
which values, and what every step does (`holds_recent_touches`).  `Remembers` is the invariant of a
run; a step keeps it because inserting a key, with whatever value, touches it.
-/

namespace RecordFilter.Cache

variable {κ α ε : Type}

/-- A key is touched: it is inserted with a value, or looked up and found. -/
inductive Touch (κ α : Type)
  | inserted (key : κ) (value : α)
  | found (key : κ)
deriving DecidableEq, Repr

namespace Touch

/-- The key that is touched. -/
def key : Touch κ α → κ
  | inserted key _ | found key => key

/-- The touch by which an entry is put in. -/
def ofEntry (e : κ × α) : Touch κ α :=
  inserted e.1 e.2

variable [DecidableEq κ]

/-- The value that a touch puts under a key. -/
def value? (k : κ) : Touch κ α → Option α
  | inserted key value => if key = k then some value else none
  | found _ => none

theorem value?_of_key_ne {t : Touch κ α} {k : κ} (h : t.key ≠ k) : t.value? k = none := by
  cases t with
  | inserted key value => exact if_neg h
  | found key => rfl

end Touch

/-- The touches since a cache was last cleared, in their order. -/
abbrev History (κ α : Type) :=
  List (Touch κ α)

namespace History

variable [DecidableEq κ]

/-- Of the keys touched, each once, those touched last, as many as there is room for. -/
def held (h : History κ α) (capacity : Option Nat) : List κ :=
  recent capacity (h.map Touch.key)

/-- The value with which a key was last inserted. -/
def latest? (h : History κ α) (key : κ) : Option α :=
  h.reverse.findSome? (·.value? key)

/-- The touch that a step is when given keys are held: it finds the key it looks up, or puts an
entry in. -/
def touch? (held : List κ) (step : Step κ α ε) : Option (Touch κ α) :=
  match step.lookup?.filter (· ∈ held) with
  | some key => some (.found key)
  | none => step.entry?.map Touch.ofEntry

/-- The history one step later. -/
def extended (h : History κ α) (capacity : Option Nat) : Step κ α ε → History κ α
  | .clear => []
  | step => h ++ (touch? (h.held capacity) step).toList

/-- The history of a run. -/
def ofRun (capacity : Option Nat) (steps : List (Step κ α ε)) : History κ α :=
  steps.foldl (fun h step => h.extended capacity step) []

theorem ofRun_concat (capacity : Option Nat) (steps : List (Step κ α ε)) (step : Step κ α ε) :
    ofRun capacity (steps ++ [step]) = (ofRun capacity steps).extended capacity step := by
  simp [ofRun]

theorem latest?_concat (h : History κ α) (t : Touch κ α) (key : κ) :
    latest? (h ++ [t]) key = (t.value? key).or (h.latest? key) := by
  unfold latest?
  rw [List.reverse_append, List.reverse_singleton, List.singleton_append, List.findSome?_cons]
  cases t.value? key <;> rfl

/-- What an insertion puts in is the last value of its key. -/
theorem latest?_inserted (h : History κ α) (key : κ) (value : α) :
    latest? (h ++ [.inserted key value]) key = some value := by
  simp [latest?_concat, Touch.value?]

/-- The key touched last is held, whatever the capacity. -/
theorem key_mem_held (h : History κ α) (t : Touch κ α) (capacity : Option Nat) :
    t.key ∈ held (h ++ [t]) capacity := by
  refine (mem_recent_iff ..).2 ⟨h.map Touch.key, [], by simp, List.not_mem_nil, ?_⟩
  intro n _
  exact Nat.lt_of_lt_of_le Nat.one_pos (Nat.le_max_left 1 n)

theorem extended_insert (h : History κ α) (capacity : Option Nat) (key : κ) (value : α) :
    h.extended capacity (.insert key value : Step κ α ε) = h ++ [.inserted key value] := rfl

section Lookup

variable {h : History κ α} {capacity : Option Nat} {step : Step κ α ε} {key : κ}
  (hkey : step.lookup? = some key)

include hkey

theorem extended_of_mem (hmem : key ∈ h.held capacity) :
    h.extended capacity step = h ++ [.found key] := by
  have htouch : touch? (h.held capacity) step = some (.found key) := by
    simp [touch?, hkey, Option.filter, hmem]
  cases step with
  | clear => simp [Step.lookup?] at hkey
  | _ => rw [extended, htouch, Option.toList_some]; simp

theorem extended_of_not_mem (hmem : key ∉ h.held capacity) :
    h.extended capacity step = h ++ (step.entry?.map Touch.ofEntry).toList := by
  have htouch : touch? (h.held capacity) step = step.entry?.map Touch.ofEntry := by
    simp [touch?, hkey, Option.filter, hmem]
  cases step with
  | clear => simp [Step.lookup?] at hkey
  | _ => rw [extended, htouch]; simp

end Lookup

end History

/-- A cache of a capacity holds the keys that its history tells, each with the value of its last
insertion. -/
structure Remembers [DecidableEq κ] (capacity : Option Nat) (h : History κ α) (c : Cache κ α) :
    Prop where
  room : c.capacity = capacity
  keys : c.keys = h.held capacity
  values : c.Holds fun key value => h.latest? key = some value

theorem remembers_nil [DecidableEq κ] (capacity : Option Nat) :
    Remembers capacity [] (⟨capacity, []⟩ : Cache κ α) where
  room := rfl
  keys := (List.eq_nil_of_subset_nil (recent_subset capacity [])).symm
  values := holds_empty _ capacity

section Remembers

variable [BEq κ] [LawfulBEq κ] [DecidableEq κ] {capacity : Option Nat} {h : History κ α}
  {c : Cache κ α} (hc : Remembers capacity h c)

include hc

theorem Remembers.find?_eq_none {key : κ} (hkey : key ∉ h.held capacity) :
    c.find? key = none := by
  rwa [← Option.not_isSome_iff_eq_none, find?_isSome_iff, hc.keys]

/-- A key that is held has the value with which it was last inserted. -/
theorem Remembers.find?_eq_some {key : κ} (hkey : key ∈ h.held capacity) :
    ∃ value, h.latest? key = some value ∧ c.find? key = some value := by
  rw [← hc.keys, ← find?_isSome_iff] at hkey
  obtain ⟨value, hfind⟩ := Option.isSome_iff_exists.1 hkey
  exact ⟨value, hc.values.of_find? hfind, hfind⟩

/-- A key is put in under the value that its last insertion has, be it this one or an earlier. -/
theorem Remembers.insert {t : Touch κ α} {value : α}
    (hvalue : History.latest? (h ++ [t]) t.key = some value) :
    Remembers capacity (h ++ [t]) (c.insert t.key value) := by
  refine ⟨hc.room, ?_, ?_⟩
  · have hkeys : c.keys = recent c.capacity (h.map Touch.key) := by
      rw [hc.room]
      exact hc.keys
    rw [History.held, List.map_append, ← hc.room]
    exact keys_insert hkeys t.key value
  · intro e he
    rcases mem_insert he with rfl | ⟨hold, hkey⟩
    · exact hvalue
    · rw [History.latest?_concat, Touch.value?_of_key_ne (Ne.symm hkey)]
      exact hc.values e hold

theorem Remembers.inserted (key : κ) (value : α) :
    Remembers capacity (h ++ [.inserted key value]) (c.insert key value) :=
  hc.insert (History.latest?_inserted h key value)

/-- A key that is found keeps its value. -/
theorem Remembers.found {key : κ} {value : α} (hfind : c.find? key = some value) :
    Remembers capacity (h ++ [.found key]) (c.insert key value) := by
  have hlatest : History.latest? (h ++ [.found key]) key = some value := by
    simp [History.latest?_concat, Touch.value?, hc.values.of_find? hfind]
  exact hc.insert hlatest

theorem Remembers.withEntry? (e : Option (κ × α)) :
    Remembers capacity (h ++ (e.map Touch.ofEntry).toList) (c.withEntry? e) := by
  cases e with
  | none =>
    rw [Option.map_none, Option.toList_none, List.append_nil]
    exact hc
  | some e => exact hc.inserted e.1 e.2

/-- What has been put in is found. -/
theorem Remembers.find?_insert (key : κ) (value : α) :
    (c.insert key value).find? key = some value := by
  have hkey : key ∈ History.held (h ++ [.inserted key value]) capacity :=
    History.key_mem_held h (.inserted key value) capacity
  obtain ⟨found, hlatest, hfind⟩ := (hc.inserted key value).find?_eq_some hkey
  rw [History.latest?_inserted] at hlatest
  rw [hfind, hlatest]

/-- A step goes by the history, and the history goes on with it. -/
theorem Remembers.next (step : Step κ α ε) :
    Remembers capacity (h.extended capacity step) (c.next step) := by
  cases hlookup : step.lookup? with
  | some key =>
    by_cases hkey : key ∈ h.held capacity
    · obtain ⟨value, -, hfind⟩ := hc.find?_eq_some hkey
      rw [next_of_found hlookup hfind, History.extended_of_mem hlookup hkey]
      exact hc.found hfind
    · rw [next_of_missing hlookup (hc.find?_eq_none hkey), History.extended_of_not_mem hlookup hkey]
      exact hc.withEntry? step.entry?
  | none =>
    cases step with
    | insert key value => exact hc.inserted key value
    | clear =>
      rw [← hc.room]
      exact remembers_nil c.capacity
    | get _ | getOrInsert _ _ | getOrTryInsert _ _ => simp [Step.lookup?] at hlookup

end Remembers

section Run

variable [BEq κ] [LawfulBEq κ] [DecidableEq κ]

/-- Along every run a cache goes by its history. -/
theorem remembers_after (capacity : Option Nat) (steps : List (Step κ α ε)) :
    Remembers capacity (History.ofRun capacity steps) (after capacity steps) := by
  induction steps using List.reverseRecOn with
  | nil => exact remembers_nil capacity
  | append_singleton steps step ih =>
    rw [History.ofRun_concat, after_concat]
    exact ih.next step

/-- After every run a cache holds the keys touched last since it was cleared, as many as it has room
for, each with the value with which it was last inserted.  A lookup of a key that is held yields its
value and computes nothing.  A lookup of another key runs its computation once, if it has one, and
is answered what that yields; one that fails leaves everything as it was.  What has been computed or
inserted is found next. -/
theorem holds_recent_touches (capacity : Option Nat) (steps : List (Step κ α ε)) :
    let c : Cache κ α := after capacity steps
    let h : History κ α := History.ofRun capacity steps
    c.keys = h.held capacity ∧
      (∀ key ∈ h.held capacity, ∃ value, h.latest? key = some value ∧ c.find? key = some value) ∧
      (∀ (step : Step κ α ε) (key : κ), step.lookup? = some key →
        c.answer step = (if key ∈ h.held capacity then .ok (h.latest? key)
          else step.answerOfMissing) ∧
        c.computations step = if key ∈ h.held capacity then 0 else step.computes.toNat) ∧
      (∀ (key : κ) (e : ε), key ∉ h.held capacity → c.next (.getOrTryInsert key (.error e)) = c) ∧
      ∀ (step : Step κ α ε) (key : κ) (value : α), step.entry? = some (key, value) →
        (step.lookup? = some key → key ∉ h.held capacity) →
        ((c.next step).get key).1 = some value := by
  intro c h
  have hc : Remembers capacity h c := remembers_after capacity steps
  refine ⟨hc.keys, fun key => hc.find?_eq_some, ?_, ?_, ?_⟩
  · intro step key hlookup
    by_cases hkey : key ∈ h.held capacity
    · obtain ⟨value, hlatest, hfind⟩ := hc.find?_eq_some hkey
      rw [answer, perform_of_found hlookup hfind, computations_of_lookup? hlookup, hfind,
        if_pos hkey, if_pos hkey, hlatest]
      exact ⟨rfl, rfl⟩
    · have hfind : c.find? key = none := hc.find?_eq_none hkey
      rw [answer, perform_of_missing hlookup hfind, computations_of_lookup? hlookup, hfind,
        if_neg hkey, if_neg hkey]
      exact ⟨rfl, rfl⟩
  · intro key e hkey
    exact next_of_missing rfl (hc.find?_eq_none hkey)
  · intro step key value hentry hmissing
    have hnext : c.next step = c.insert key value :=
      next_of_entry? hentry fun hlookup => hc.find?_eq_none (hmissing hlookup)
    rw [hnext, get, hc.find?_insert key value]

end Run

/-- With room for two, neither a lookup that finds nothing nor a computation that fails takes the
place of a key, but what is computed takes the place of the key not used for the longest time. -/
theorem holds_recent_touches_two :
    let steps : List (Step Char Nat Unit) :=
      [.insert 'a' 1, .insert 'b' 2, .insert 'a' 3, .get 'x', .getOrTryInsert 'x' (.error ()),
        .getOrInsert 'b' 4, .get 'a', .getOrInsert 'c' 5]
    let c := after (some 2) steps
    let hit : Step Char Nat Unit := .getOrInsert 'a' 6
    let miss : Step Char Nat Unit := .getOrTryInsert 'b' (.ok 6)
    let failure : Step Char Nat Unit := .getOrTryInsert 'b' (.error ())
    c.keys = ['a', 'c'] ∧ c.find? 'a' = some 3 ∧ c.computations hit = 0 ∧
      c.computations miss = 1 ∧ c.next failure = c ∧ ((c.next miss).get 'b').1 = some 6 := by
  intro steps c hit miss failure
  obtain ⟨hkeys, hvalues, hlookup, hfailed, hfound⟩ := holds_recent_touches (some 2) steps
  have hheld : 'a' ∈ (History.ofRun (some 2) steps).held (some 2) := by decide
  have hgone : 'b' ∉ (History.ofRun (some 2) steps).held (some 2) := by decide
  obtain ⟨value, hlatest, hfind⟩ := hvalues 'a' hheld
  have hvalue : some value = some 3 := hlatest.symm.trans (by decide)
  refine ⟨hkeys.trans (by decide), hfind.trans hvalue, ?_, ?_, ?_, ?_⟩
  · exact (hlookup hit 'a' rfl).2.trans (if_pos hheld)
  · exact (hlookup miss 'b' rfl).2.trans (if_neg hgone)
  · exact hfailed 'b' () hgone
  · exact hfound miss 'b' 6 rfl fun _ => hgone

end RecordFilter.Cache
