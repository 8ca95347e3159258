import RecordFilter.Search.Cache

/-!
# Runs of a cache

What a cache can be asked to do, one step after another.  A step that may compute a value carries
what its computation yields, and a step tells how often its computation was run.  A step that looks
up a key finds it and does nothing but touch it (`perform_of_found`), or goes on with what it
carries (`perform_of_missing`).
-/

namespace RecordFilter.Cache

variable {κ α ε : Type}

/-- What a cache can be asked to do. -/
inductive Step (κ α ε : Type)
  | get (key : κ)
  | insert (key : κ) (value : α)
  /-- `value` is what the computation yields. -/
  | getOrInsert (key : κ) (value : α)
  /-- `outcome` is what the computation yields. -/
  | getOrTryInsert (key : κ) (outcome : Except ε α)
  | clear

namespace Step

/-- The key that a step looks up. -/
def lookup? : Step κ α ε → Option κ
  | get key | getOrInsert key _ | getOrTryInsert key _ => some key
  | insert .. | clear => none

/-- Whether a step computes a value when it does not find its key. -/
def computes : Step κ α ε → Bool
  | getOrInsert .. | getOrTryInsert .. => true
  | get _ | insert .. | clear => false

/-- The entry that a step puts in, if it looks up no key or does not find it. -/
def entry? : Step κ α ε → Option (κ × α)
  | insert key value | getOrInsert key value | getOrTryInsert key (.ok value) => some (key, value)
  | get _ | getOrTryInsert _ (.error _) | clear => none

/-- What a step is answered, if it looks up no key or does not find it. -/
def answerOfMissing : Step κ α ε → Except ε (Option α)
  | getOrInsert _ value => .ok (some value)
  | getOrTryInsert _ outcome => outcome.map some
  | get _ | insert .. | clear => .ok none

/-- A lookup puts in nothing but the key it looks up. -/
theorem key_of_entry? {step : Step κ α ε} {key : κ} (h : step.lookup? = some key) {e : κ × α}
    (hentry : step.entry? = some e) : e.1 = key := by
  cases step with
  | getOrInsert key' value =>
    obtain rfl := Option.some.inj hentry
    exact Option.some.inj h
  | getOrTryInsert key' outcome =>
    cases outcome with
    | ok value =>
      obtain rfl := Option.some.inj hentry
      exact Option.some.inj h
    | error e => cases hentry
  | insert _ _ => cases h
  | get _ | clear => cases hentry

end Step

/-- A computation that is counted. -/
def counted {β : Type} (b : β) : StateM Nat β := do
  modify (· + 1)
  return b

variable [BEq κ]

/-- Takes a step and counts the computations that are run. -/
def perform (c : Cache κ α) : Step κ α ε → StateM Nat (Except ε (Option α) × Cache κ α)
  | .get key => return ((c.get key).map .ok id)
  | .insert key value => return (.ok none, c.insert key value)
  | .getOrInsert key value => do
    let (value, c) ← c.getOrInsert key (counted value)
    return (.ok (some value), c)
  | .getOrTryInsert key outcome => do
    let (outcome, c) ← c.getOrTryInsert key (counted outcome)
    return (outcome.map some, c)
  | .clear => return (.ok none, c.clear)

/-- What a step is answered. -/
def answer (c : Cache κ α) (step : Step κ α ε) : Except ε (Option α) :=
  ((c.perform step).run 0).1.1

/-- The cache after a step. -/
def next (c : Cache κ α) (step : Step κ α ε) : Cache κ α :=
  ((c.perform step).run 0).1.2

/-- How many computations a step runs. -/
def computations (c : Cache κ α) (step : Step κ α ε) : Nat :=
  ((c.perform step).run 0).2

/-- An empty cache after steps. -/
def after (capacity : Option Nat) (steps : List (Step κ α ε)) : Cache κ α :=
  steps.foldl next ⟨capacity, []⟩

theorem after_concat (capacity : Option Nat) (steps : List (Step κ α ε)) (step : Step κ α ε) :
    after capacity (steps ++ [step]) = (after capacity steps).next step := by
  simp [after]

theorem isSome_get (c : Cache κ α) (key : κ) :
    (c.get key).1.isSome = (c.find? key).isSome := by
  unfold get
  cases c.find? key <;> rfl

/-- A cache with an entry put in, if there is one to put in. -/
def withEntry? (c : Cache κ α) : Option (κ × α) → Cache κ α
  | none => c
  | some (key, value) => c.insert key value

section Lookup

variable {c : Cache κ α} {step : Step κ α ε} {key : κ} (h : step.lookup? = some key)

include h

/-- A key that is found is touched; nothing is computed. -/
theorem perform_of_found {value : α} (hfind : c.find? key = some value) (n : Nat) :
    (c.perform step).run n = ((.ok (some value), c.insert key value), n) := by
  cases step with
  | get key' =>
    obtain rfl : key' = key := Option.some.inj h
    rw [perform, get_of_found hfind]
    rfl
  | getOrInsert key' value' =>
    obtain rfl : key' = key := Option.some.inj h
    rw [perform, getOrInsert_of_found hfind]
    rfl
  | getOrTryInsert key' outcome =>
    obtain rfl : key' = key := Option.some.inj h
    rw [perform, getOrTryInsert_of_found hfind]
    rfl
  | insert _ _ | clear => simp [Step.lookup?] at h

/-- For a key that is not found a value is computed, if the step computes any; what comes of it is
put in and answered. -/
theorem perform_of_missing (hfind : c.find? key = none) (n : Nat) :
    (c.perform step).run n =
      ((step.answerOfMissing, c.withEntry? step.entry?), n + step.computes.toNat) := by
  cases step with
  | get key' =>
    obtain rfl : key' = key := Option.some.inj h
    rw [perform, get_of_missing hfind]
    rfl
  | getOrInsert key' value' =>
    obtain rfl : key' = key := Option.some.inj h
    rw [perform, getOrInsert_of_missing hfind]
    rfl
  | getOrTryInsert key' outcome =>
    obtain rfl : key' = key := Option.some.inj h
    rw [perform, getOrTryInsert_of_missing hfind]
    cases outcome with
    | ok value' => rfl
    | error e => rfl
  | insert _ _ | clear => simp [Step.lookup?] at h

end Lookup

theorem next_of_found {c : Cache κ α} {step : Step κ α ε} {key : κ} (h : step.lookup? = some key)
    {value : α} (hfind : c.find? key = some value) : c.next step = c.insert key value := by
  rw [next, perform_of_found h hfind]

theorem next_of_missing {c : Cache κ α} {step : Step κ α ε} {key : κ}
    (h : step.lookup? = some key) (hfind : c.find? key = none) :
    c.next step = c.withEntry? step.entry? := by
  rw [next, perform_of_missing h hfind]

/-- A computation is run when its step does not find the key, and then once. -/
theorem computations_of_lookup? {c : Cache κ α} {step : Step κ α ε} {key : κ}
    (h : step.lookup? = some key) :
    c.computations step = if (c.find? key).isSome then 0 else step.computes.toNat := by
  cases hfind : c.find? key with
  | some value => rw [computations, perform_of_found h hfind, Option.isSome_some, if_pos rfl]
  | none =>
    rw [computations, perform_of_missing h hfind, Nat.zero_add, Option.isSome_none]
    rfl

theorem computations_of_lookup?_eq_none {c : Cache κ α} {step : Step κ α ε}
    (h : step.lookup? = none) : c.computations step = 0 := by
  cases step with
  | insert _ _ | clear => rfl
  | get _ | getOrInsert _ _ | getOrTryInsert _ _ => cases h

/-- A step that has an entry to put in puts it in, unless it finds the key. -/
theorem next_of_entry? {c : Cache κ α} {step : Step κ α ε} {key : κ} {value : α}
    (h : step.entry? = some (key, value))
    (hfind : step.lookup? = some key → c.find? key = none) :
    c.next step = c.insert key value := by
  have hmissing : step.lookup? = some key → c.next step = c.insert key value := by
    intro hlookup
    rw [next_of_missing hlookup (hfind hlookup), h]
    rfl
  cases step with
  | insert key' value' =>
    obtain ⟨rfl, rfl⟩ := Prod.mk.inj (Option.some.inj h)
    rfl
  | getOrInsert key' value' =>
    obtain ⟨rfl, rfl⟩ := Prod.mk.inj (Option.some.inj h)
    exact hmissing rfl
  | getOrTryInsert key' outcome =>
    cases outcome with
    | ok value' =>
      obtain ⟨rfl, rfl⟩ := Prod.mk.inj (Option.some.inj h)
      exact hmissing rfl
    | error e => cases h
  | get _ | clear => cases h

end RecordFilter.Cache
