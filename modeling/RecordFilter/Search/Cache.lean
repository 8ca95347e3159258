import RecordFilter.Text.Basic

/-!
# Caches

A cache keeps values under keys.  A key is touched when it is inserted and when a request finds it;
when there is no room, the key that has not been touched for the longest time goes.  A cache with a
capacity has room for one entry at least.  What is computed for a key may have effects of its own;
they take place only where it is computed.
-/

namespace RecordFilter

/-- Values under keys, the key touched last at the end (`SharedCache`). -/
structure Cache (κ α : Type) where
  /-- The greatest number of entries, if there is one; zero counts as one. -/
  capacity : Option Nat
  entries : List (κ × α) := []
deriving Repr

namespace Cache

variable {κ α ε : Type} {m : Type → Type} [BEq κ] [Monad m]

/-- The number of entries (`len`). -/
def size (c : Cache κ α) : Nat :=
  c.entries.length

/-- Whether there is no entry. -/
def isEmpty (c : Cache κ α) : Bool :=
  c.entries.isEmpty

/-- The value under a key; the key is not touched. -/
def find? (c : Cache κ α) (key : κ) : Option α :=
  c.entries.lookup key

/-- Whether a key has a value; the key is not touched. -/
def contains (c : Cache κ α) (key : κ) : Bool :=
  (c.find? key).isSome

/-- The entries of the keys touched last, as many as there is room for. -/
def withinCapacity (capacity : Option Nat) (entries : List (κ × α)) : List (κ × α) :=
  match capacity with
  | none => entries
  | some n => entries.drop (entries.length - max 1 n)

/-- Puts a value under a key (`insert`). -/
def insert (c : Cache κ α) (key : κ) (value : α) : Cache κ α :=
  { c with
    entries := withinCapacity c.capacity (c.entries.filter (·.1 != key) ++ [(key, value)]) }

/-- The value under a key (`get`). -/
def get (c : Cache κ α) (key : κ) : Option α × Cache κ α :=
  match c.find? key with
  | some value => (some value, c.insert key value)
  | none => (none, c)

/-- The value under a key, computed and kept when there is none (`get_or_insert_with`). -/
def getOrInsert (c : Cache κ α) (key : κ) (compute : m α) : m (α × Cache κ α) :=
  match c.get key with
  | (some value, c) => return (value, c)
  | (none, c) => do
    let value ← compute
    return (value, c.insert key value)

/-- The value under a key, computed when there is none and kept unless that fails
(`get_or_try_insert_with`). -/
def getOrTryInsert (c : Cache κ α) (key : κ) (compute : m (Except ε α)) :
    m (Except ε α × Cache κ α) :=
  match c.get key with
  | (some value, c) => return (.ok value, c)
  | (none, c) => do
    match ← compute with
    | .ok value => return (.ok value, c.insert key value)
    | .error e => return (.error e, c)

/-- A cache without entries (`clear`). -/
def clear (c : Cache κ α) : Cache κ α :=
  { c with entries := [] }

section Requests

variable {c : Cache κ α} {key : κ}

theorem get_of_found {value : α} (h : c.find? key = some value) :
    c.get key = (some value, c.insert key value) := by
  rw [get, h]

theorem get_of_missing (h : c.find? key = none) : c.get key = (none, c) := by
  rw [get, h]

/-- For a key that is found nothing is computed. -/
theorem getOrInsert_of_found {value : α} (h : c.find? key = some value) (compute : m α) :
    c.getOrInsert key compute = return (value, c.insert key value) := by
  rw [getOrInsert, get_of_found h]

theorem getOrInsert_of_missing (h : c.find? key = none) (compute : m α) :
    c.getOrInsert key compute = do
      let value ← compute
      return (value, c.insert key value) := by
  rw [getOrInsert, get_of_missing h]

theorem getOrTryInsert_of_found {value : α} (h : c.find? key = some value)
    (compute : m (Except ε α)) :
    c.getOrTryInsert key compute = return (.ok value, c.insert key value) := by
  rw [getOrTryInsert, get_of_found h]

theorem getOrTryInsert_of_missing (h : c.find? key = none) (compute : m (Except ε α)) :
    c.getOrTryInsert key compute = do
      match ← compute with
      | .ok value => return (.ok value, c.insert key value)
      | .error e => return (.error e, c) := by
  rw [getOrTryInsert, get_of_missing h]

end Requests

end Cache

end RecordFilter
