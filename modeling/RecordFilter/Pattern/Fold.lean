import RecordFilter.Unicode.CaseMapping
import RecordFilter.Unicode.CharSet

/-!
# Letter case in sets

Two characters differ in letter case alone when case folding sends them to one representative.  The
closure of a set holds every character that differs in case alone from a member.
-/

namespace RecordFilter.CharSet

/-- The characters that case folding changes, each with its representative. -/
def foldPairs : List (Nat × Nat) :=
  foldRuns.flatMap CaseRun.pairs

/-- A set with every character that differs from a member in letter case alone. -/
def caseClosure (s : CharSet) : CharSet :=
  let reached := foldPairs.filterMap fun p => if s.hasCode p.1 then some (p.2, p.2) else none
  let s := s.union ⟨reached⟩
  let others := foldPairs.filterMap fun p => if s.hasCode p.2 then some (p.1, p.1) else none
  s.union ⟨others⟩

/-- A set with the letters of ASCII that differ from a member in letter case alone. -/
def asciiCaseClosure (s : CharSet) : CharSet :=
  let others := (List.range 26).flatMap fun i =>
    (if s.hasCode (65 + i) then [(97 + i, 97 + i)] else []) ++
      if s.hasCode (97 + i) then [(65 + i, 65 + i)] else []
  s.union ⟨others⟩

end RecordFilter.CharSet
