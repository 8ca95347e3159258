import Std.Data.HashMap
import RecordFilter.Pattern.BytePath

/-!
# The states of a set

An automaton reads a character of a set byte by byte.  Paths that end alike share the states of
their ends: a state is made once and kept in a table, where a newer state may take its place.
-/

namespace RecordFilter

/-- The states of an automaton: their number, and the bytes of memory that their ways on take. -/
structure Usage where
  states : Nat
  extra : Nat
deriving DecidableEq, Repr

namespace Usage

/-- With more states and ways. -/
def add (u : Usage) (states extra : Nat) : Usage :=
  ⟨u.states + states, u.extra + extra⟩

/-- The memory in bytes, of which a state takes 32 besides its ways on. -/
def bytes (u : Usage) : Nat :=
  32 * u.states + u.extra

end Usage

/-- An automaton in the making: its states, and the table of those that may be shared. -/
structure Sharing where
  usage : Usage
  /-- The state kept at a place of the table, with what it is known by. -/
  table : Std.HashMap Nat (List Nat × Nat)

namespace Sharing

/-- The hash of a list of numbers (FNV-1a). -/
def hash (key : List Nat) : UInt64 :=
  key.foldl (fun h n => (h ^^^ n.toUInt64) * 1099511628211) 14695981039346656037

/-- The state known by a key.  It is made, with so many bytes for its ways on, unless the table of
the given size still keeps it. -/
def state (size extra : Nat) (key : List Nat) (s : Sharing) : Nat × Sharing :=
  let place := (hash key).toNat % size
  let made : Nat × Sharing :=
    (s.usage.states, ⟨s.usage.add 1 extra, s.table.insert place (key, s.usage.states)⟩)
  match s.table[place]? with
  | some (known, id) => if known = key then (id, s) else made
  | none => made

end Sharing

/-! ### States still open -/

/-- A state that is still to be made: its ways on, each a range with the state after it, and the
range of the way that is being followed. -/
structure OpenState where
  ways : List (ByteRange × Nat)
  last : Option ByteRange
deriving DecidableEq, Repr

namespace OpenState

/-- A state that leads nowhere yet. -/
def start (last : Option ByteRange) : OpenState := ⟨[], last⟩

/-- The ways of a state, the one that is being followed leading to a given state. -/
def waysTo (o : OpenState) (next : Nat) : List (ByteRange × Nat) :=
  match o.last with
  | some r => o.ways ++ [(r, next)]
  | none => o.ways

end OpenState

namespace Sharing

/-- The state with given ways on. -/
def withWays (ways : List (ByteRange × Nat)) (s : Sharing) : Nat × Sharing :=
  s.state 10000 (8 * ways.length) (ways.flatMap fun w => [w.1.1, w.1.2, w.2])

/-- Makes so many of the states that are open, the last one first, and ends the way of the one
before them. -/
def close : Nat → Nat → List OpenState → Sharing → List OpenState × Sharing
  | _, _, [], s => ([], s)
  | 0, next, o :: rest, s => (⟨o.waysTo next, none⟩ :: rest, s)
  | n + 1, next, o :: rest, s =>
    let (id, s) := s.withWays (o.waysTo next)
    close n id rest s

/-- How many of the open states, first one first, follow a path. -/
def followed : List OpenState → BytePath → Nat
  | o :: rest, r :: path => if o.last = some r then followed rest path + 1 else 0
  | _, _ => 0

/-- Opens the states of the rest of a path. -/
def openRest : BytePath → List OpenState → List OpenState
  | [], os => os
  | r :: path, [] => path.foldl (fun os r => .start (some r) :: os) [.start (some r)]
  | r :: path, o :: rest =>
    path.foldl (fun os r => .start (some r) :: os) ({ o with last := some r } :: rest)

/-- Adds a path that leads to a given state. -/
def addPath (target : Nat) (s : List OpenState × Sharing) (path : BytePath) :
    List OpenState × Sharing :=
  let kept := followed s.1.reverse path
  let (os, s) := close (s.1.length - 1 - kept) target s.1 s.2
  (openRest (path.drop kept) os, s)

/-- Adds a path that is read from its end and leads to a given state. -/
def addReversed (target : Nat) (s : Sharing) (path : BytePath) : Sharing :=
  (path.foldl (fun (next, s) r => state 1000 0 [next, r.1, r.2] s) (target, s)).2

end Sharing

namespace Usage

/-- With the states that read the paths of a set from their first byte on. -/
def addForwards (paths : List BytePath) (u : Usage) : Usage :=
  let target := u.states
  let begun : List OpenState × Sharing := ([.start none], ⟨u.add 1 0, ∅⟩)
  let (os, s) := paths.foldl (Sharing.addPath target) begun
  let (root, s) := s.close (os.length - 1) target os
  (s.withWays ((root.head?.map (·.ways)).getD [])).2.usage

/-- With the states that read the paths of a set from their last byte on. -/
def addBackwards (paths : List BytePath) (u : Usage) : Usage :=
  let target := u.states + 1
  let begun : Sharing := ⟨u.add 2 (4 * paths.length), ∅⟩
  (paths.foldl (Sharing.addReversed target) begun).usage

end Usage

end RecordFilter
