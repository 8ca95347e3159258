import RecordFilter.Pattern.Basic
import RecordFilter.Report.Traced
import RecordFilter.Search.Cache

/-!
# Compiled patterns

Patterns are compiled once and kept, those for any letter case apart from the others.  What is no
pattern is not kept.  Every pattern that has been compiled has a number of its own.
-/

namespace RecordFilter

/-- Something made to be shared, with the number that tells it from others. -/
structure Numbered (α : Type) where
  number : Nat
  value : α
deriving Repr

/-- The patterns compiled so far (`RegexCache`). -/
structure PatternCache where
  exact : Cache Text (Numbered Pattern)
  anyCase : Cache Text (Numbered Pattern)
  /-- The number of the pattern that is compiled next. -/
  next : Nat := 0
deriving Repr

namespace PatternCache

/-- A cache without patterns, with room for as many of either sort. -/
def empty (capacity : Option Nat) : PatternCache :=
  { exact := ⟨capacity, []⟩, anyCase := ⟨capacity, []⟩ }

/-- The patterns kept for a way of searching. -/
def part (c : PatternCache) (anyCase : Bool) : Cache Text (Numbered Pattern) :=
  if anyCase then c.anyCase else c.exact

/-- Puts other patterns in place of those kept for a way of searching. -/
def withPart (c : PatternCache) (anyCase : Bool) (p : Cache Text (Numbered Pattern)) :
    PatternCache :=
  if anyCase then { c with anyCase := p } else { c with exact := p }

/-- Compiles the pattern of a text and gives it the next number. -/
def compileNext (source : Text) (anyCase : Bool) :
    StateT Nat Traced (Except Pattern.Fault (Numbered Pattern)) := fun next => do
  Traced.report (.compilingPattern source anyCase)
  match Pattern.compile anyCase source with
  | .ok p => return (.ok ⟨next, p⟩, next + 1)
  | .error fault => return (.error fault, next)

/-- The pattern of a text (`RegexCache::get`); it is compiled when it is not kept. -/
def get (c : PatternCache) (source : Text) (anyCase : Bool) :
    Traced (Except Pattern.Fault (Numbered Pattern) × PatternCache) := do
  let ((found, part), next) ←
    ((c.part anyCase).getOrTryInsert source (compileNext source anyCase)).run c.next
  return (found, { c.withPart anyCase part with next := next })

/-- The number of patterns kept. -/
def size (c : PatternCache) : Nat :=
  c.exact.size + c.anyCase.size

/-- Whether no pattern is kept. -/
def isEmpty (c : PatternCache) : Bool :=
  c.size == 0

/-- Forgets all patterns. -/
def clear (c : PatternCache) : PatternCache :=
  { c with exact := c.exact.clear, anyCase := c.anyCase.clear }

@[simp] theorem next_withPart (c : PatternCache) (anyCase : Bool)
    (p : Cache Text (Numbered Pattern)) : (c.withPart anyCase p).next = c.next := by
  cases anyCase <;> rfl

section Get

variable {c : PatternCache} {source : Text} {anyCase : Bool}

/-- A pattern that is kept is found, and nothing is reported. -/
theorem get_of_found {p : Numbered Pattern} (h : (c.part anyCase).find? source = some p) :
    c.get source anyCase =
      ⟨(.ok p, c.withPart anyCase ((c.part anyCase).insert source p)), []⟩ := by
  rw [get, Cache.getOrTryInsert_of_found h]
  cases anyCase <;> rfl

/-- A pattern that is not kept is compiled, and kept from then on. -/
theorem get_of_missing {p : Pattern} (h : (c.part anyCase).find? source = none)
    (hcompile : Pattern.compile anyCase source = .ok p) :
    c.get source anyCase =
      ⟨(.ok ⟨c.next, p⟩, { c.withPart anyCase ((c.part anyCase).insert source ⟨c.next, p⟩) with
        next := c.next + 1 }), [.compilingPattern source anyCase]⟩ := by
  rw [get, Cache.getOrTryInsert_of_missing h]
  unfold compileNext
  rw [hcompile]
  rfl

/-- What is no pattern is tried, and leaves the patterns as they are. -/
theorem get_of_unusable {fault : Pattern.Fault} (h : (c.part anyCase).find? source = none)
    (hcompile : Pattern.compile anyCase source = .error fault) :
    c.get source anyCase = ⟨(.error fault, c), [.compilingPattern source anyCase]⟩ := by
  rw [get, Cache.getOrTryInsert_of_missing h]
  unfold compileNext
  rw [hcompile]
  cases anyCase <;> rfl

end Get

end PatternCache

end RecordFilter
