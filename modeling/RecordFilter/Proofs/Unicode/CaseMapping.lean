import RecordFilter.Text.LowerCase

/-!
# The mapping to lower case

What is in lower case stays there: no target of a run is covered by a run (`mapCode_mapCode`), and
no mapping leads to one of the two characters that lower case treats apart.  The runs are compared
as intervals, so the table is checked run by run and not character by character.
-/

namespace RecordFilter

namespace CaseRun

/-- A run that moves no code point to one that another run covers: the targets stand before or
behind that run, or in its gaps. -/
def avoids (r q : CaseRun) : Bool :=
  decide (r.target r.last < q.first) || decide (q.last < r.target r.first) ||
    (q.step == 2 && (r.step == 2 || r.first == r.last) &&
      decide ((r.target r.first + q.first) % 2 = 1))

/-- The run that covers the code points from one to another and moves none of them. -/
def fixed (first last : Nat) : CaseRun := ⟨first, last, 1, 0⟩

/-- A run that moves nothing below zero. -/
def IsNatural (r : CaseRun) : Prop := 0 ≤ (r.first : Int) + r.shift

variable {r q : CaseRun} {n : Nat}

theorem bounds_of_covers (h : r.covers n) : r.first ≤ n ∧ n ≤ r.last := by
  simp only [covers, Bool.and_eq_true, decide_eq_true_eq] at h
  exact h.1

theorem even_of_covers (h : r.covers n) (hstep : r.step = 2) : (n - r.first) % 2 = 0 := by
  simp only [covers, Bool.and_eq_true, decide_eq_true_eq, beq_iff_eq, hstep] at h
  exact h.2

/-- Where a run avoids another, this one covers none of its targets. -/
theorem not_covers_target (h : r.avoids q) (hnatural : r.IsNatural) (hn : r.covers n) :
    ¬ q.covers (r.target n) := by
  intro hq
  obtain ⟨hfirst, hlast⟩ := bounds_of_covers hn
  obtain ⟨hqfirst, hqlast⟩ := bounds_of_covers hq
  unfold IsNatural at hnatural
  simp only [avoids, Bool.or_eq_true, Bool.and_eq_true, decide_eq_true_eq, beq_iff_eq] at h
  unfold target at h hqfirst hqlast
  rcases h with (hbelow | habove) | ⟨⟨hstep, hown⟩, hodd⟩
  · omega
  · omega
  · have heven := even_of_covers hq hstep
    unfold target at heven
    rcases hown with hstep' | hsingle
    · have heven' := even_of_covers hn hstep'
      omega
    · omega

theorem hasCode_of_covers_fixed {s : CharSet} (h : s.hasCode n) :
    ∃ p ∈ s.ranges, (fixed p.1 p.2).covers n := by
  obtain ⟨p, hp, hbounds⟩ := List.any_eq_true.1 h
  simp only [Bool.and_eq_true, decide_eq_true_eq] at hbounds
  exact ⟨p, hp, by simp [fixed, covers, hbounds, Nat.mod_one]⟩

/-- A run that moves no code point into a set. -/
def keepsOutOf (s : CharSet) (r : CaseRun) : Bool :=
  s.ranges.all fun p => r.avoids (.fixed p.1 p.2)

theorem not_hasCode_target {s : CharSet} (h : r.keepsOutOf s) (hnatural : r.IsNatural)
    (hn : r.covers n) : ¬ s.hasCode (r.target n) := by
  intro hs
  obtain ⟨p, hp, hcovers⟩ := hasCode_of_covers_fixed hs
  exact not_covers_target (List.all_eq_true.1 h p hp) hnatural hn hcovers

/-- A run that covers no code point of a set. -/
def leaves (s : CharSet) (r : CaseRun) : Bool :=
  s.ranges.all fun p => decide (r.last < p.1) || decide (p.2 < r.first)

theorem not_covers_of_leaves {s : CharSet} (h : r.leaves s) (hn : s.hasCode n) :
    ¬ r.covers n := by
  intro hr
  obtain ⟨hfirst, hlast⟩ := bounds_of_covers hr
  obtain ⟨p, hp, hbounds⟩ := List.any_eq_true.1 hn
  have hapart := List.all_eq_true.1 h p hp
  simp only [Bool.and_eq_true, Bool.or_eq_true, decide_eq_true_eq] at hbounds hapart
  omega

/-- A code point is moved by a run that covers it, or by none. -/
theorem mapCode_cases (runs : List CaseRun) (n : Nat) :
    (∃ r ∈ runs, r.covers n ∧ mapCode runs n = r.target n) ∨
      (∀ r ∈ runs, ¬ r.covers n) ∧ mapCode runs n = n := by
  unfold mapCode
  cases hfind : runs.find? (·.covers n) with
  | none => exact .inr ⟨List.find?_eq_none.1 hfind, rfl⟩
  | some r =>
    have hcovers : r.covers n := by simpa using List.find?_some hfind
    exact .inl ⟨r, List.mem_of_find?_eq_some hfind, hcovers, rfl⟩

theorem mapCode_of_not_covers {runs : List CaseRun} (h : ∀ r ∈ runs, ¬ r.covers n) :
    mapCode runs n = n := by
  rw [mapCode, List.find?_eq_none.2 h]

/-! ### The table -/

theorem natural_lowerRuns {r : CaseRun} (h : r ∈ lowerRuns) : r.IsNatural := by
  have hall : (lowerRuns.all fun r => decide (0 ≤ (r.first : Int) + r.shift)) = true := by
    decide +kernel
  have hr := List.all_eq_true.1 hall r h
  rwa [decide_eq_true_eq] at hr

theorem avoids_lowerRuns {r q : CaseRun} (hr : r ∈ lowerRuns) (hq : q ∈ lowerRuns) :
    r.avoids q := by
  have hall : (lowerRuns.all fun r => lowerRuns.all fun q => r.avoids q) = true := by
    decide +kernel
  exact List.all_eq_true.1 (List.all_eq_true.1 hall r hr) q hq

/-- No run covers what a code point is moved to. -/
theorem not_covers_mapCode (n : Nat) : ∀ q ∈ lowerRuns, ¬ q.covers (mapCode lowerRuns n) := by
  intro q hq
  rcases mapCode_cases lowerRuns n with ⟨r, hr, hcovers, hmap⟩ | ⟨hnone, hmap⟩
  · rw [hmap]
    exact not_covers_target (avoids_lowerRuns hr hq) (natural_lowerRuns hr) hcovers
  · rw [hmap]
    exact hnone q hq

theorem mapCode_mapCode (n : Nat) :
    mapCode lowerRuns (mapCode lowerRuns n) = mapCode lowerRuns n :=
  mapCode_of_not_covers (not_covers_mapCode n)

/-- Code points outside a set that the runs keep out of are moved to others outside it. -/
theorem not_hasCode_mapCode {s : CharSet} (h : (lowerRuns.all (keepsOutOf s)) = true)
    (hn : ¬ s.hasCode n) : ¬ s.hasCode (mapCode lowerRuns n) := by
  rcases mapCode_cases lowerRuns n with ⟨r, hr, hcovers, hmap⟩ | ⟨-, hmap⟩
  · rw [hmap]
    exact not_hasCode_target (List.all_eq_true.1 h r hr) (natural_lowerRuns hr) hcovers
  · rwa [hmap]

/-- A character is moved to a character: to no surrogate, and not past the last code point. -/
theorem isValidChar_mapCode (c : Char) : (mapCode lowerRuns c.toNat).isValidChar := by
  have hvalid : c.toNat < 0xD800 ∨ 0xDFFF < c.toNat ∧ c.toNat < 0x110000 := c.valid
  have hkeep : (lowerRuns.all (keepsOutOf ⟨[(0xD800, 0xDFFF)]⟩)) = true := by decide +kernel
  have hbound : (lowerRuns.all fun r => decide (r.target r.last < 0x110000)) = true := by
    decide +kernel
  have hsurrogate : ∀ m, CharSet.hasCode ⟨[(0xD800, 0xDFFF)]⟩ m = true ↔ 0xD800 ≤ m ∧ m ≤ 0xDFFF :=
    fun m => by simp [CharSet.hasCode]
  have hout := not_hasCode_mapCode (n := c.toNat) hkeep (by rw [hsurrogate]; omega)
  rw [hsurrogate] at hout
  have hlast : mapCode lowerRuns c.toNat < 0x110000 := by
    rcases mapCode_cases lowerRuns c.toNat with ⟨r, hr, hcovers, hmap⟩ | ⟨-, hmap⟩
    · have htop := of_decide_eq_true (List.all_eq_true.1 hbound r hr)
      have hle := (bounds_of_covers hcovers).2
      rw [hmap]
      unfold target at htop ⊢
      omega
    · omega
  omega

end CaseRun

end RecordFilter
