import RecordFilter.Report.Event

/-!
# Traced values

A traced value comes with the events reported while it was computed, in their order.  Steps that
follow one another report one after the other.
-/

namespace RecordFilter

/-- A value with the events reported on the way to it. -/
@[ext] structure Traced (α : Type) where
  value : α
  events : List Event

namespace Traced

variable {α β σ : Type}

/-- A value without events. -/
def quiet (a : α) : Traced α := ⟨a, []⟩

/-- One step after another. -/
def andThen (t : Traced α) (f : α → Traced β) : Traced β :=
  ⟨(f t.value).value, t.events ++ (f t.value).events⟩

instance : Monad Traced where
  pure := quiet
  bind := andThen

/-- An event and nothing else. -/
def report (e : Event) : Traced Unit := ⟨(), [e]⟩

/-- Whether some item passes; the items after it are not tried. -/
def any (f : α → Traced Bool) : List α → Traced Bool
  | [] => quiet false
  | a :: rest => do if ← f a then return true else any f rest

/-- Whether all items pass; the items after one that fails are not tried. -/
def all (f : α → Traced Bool) : List α → Traced Bool
  | [] => quiet true
  | a :: rest => do if ← f a then all f rest else return false

/-- Applies a step to every item, in order. -/
def each (f : α → Traced β) : List α → Traced (List β)
  | [] => quiet []
  | a :: rest => do
    let b ← f a
    let bs ← each f rest
    return b :: bs

/-- Applies a step with a state to every item, in order. -/
def eachWith (f : σ → α → Traced (β × σ)) : σ → List α → Traced (List β × σ)
  | s, [] => quiet ([], s)
  | s, a :: rest => do
    let (b, s) ← f s a
    let (bs, s) ← eachWith f s rest
    return (b :: bs, s)

/-- The items that pass. -/
def filter (f : α → Traced Bool) : List α → Traced (List α)
  | [] => quiet []
  | a :: rest => do
    let keep ← f a
    let others ← filter f rest
    return if keep then a :: others else others

@[simp] theorem value_pure (a : α) : (pure a : Traced α).value = a := rfl

@[simp] theorem events_pure (a : α) : (pure a : Traced α).events = [] := rfl

@[simp] theorem value_quiet (a : α) : (quiet a).value = a := rfl

@[simp] theorem events_quiet (a : α) : (quiet a).events = [] := rfl

@[simp] theorem value_bind (t : Traced α) (f : α → Traced β) :
    (t >>= f).value = (f t.value).value := rfl

@[simp] theorem events_bind (t : Traced α) (f : α → Traced β) :
    (t >>= f).events = t.events ++ (f t.value).events := rfl

@[simp] theorem value_any (f : α → Traced Bool) (as : List α) :
    (any f as).value = as.any fun a => (f a).value := by
  induction as with
  | nil => rfl
  | cons a rest ih => cases h : (f a).value <;> simp [any, h, ih]

@[simp] theorem value_all (f : α → Traced Bool) (as : List α) :
    (all f as).value = as.all fun a => (f a).value := by
  induction as with
  | nil => rfl
  | cons a rest ih => cases h : (f a).value <;> simp [all, h, ih]

@[simp] theorem value_each (f : α → Traced β) (as : List α) :
    (each f as).value = as.map fun a => (f a).value := by
  induction as with
  | nil => rfl
  | cons a rest ih => simp [each, ih]

@[simp] theorem value_filter (f : α → Traced Bool) (as : List α) :
    (filter f as).value = as.filter fun a => (f a).value := by
  induction as with
  | nil => rfl
  | cons a rest ih => cases h : (f a).value <;> simp [filter, h, ih]

end Traced

end RecordFilter
