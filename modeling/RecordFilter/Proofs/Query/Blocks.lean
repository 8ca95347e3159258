import Mathlib.Data.List.Basic
import RecordFilter.Query.Split

/-!
# Blocks and fragments

Splitting reads a text from left to right and remembers only which block is open, so a text that
closes its blocks can be read apart from what follows it.  From this come the two laws that the rest
relies on: a separator after a closed text cuts it off (`split_append_cons`), and fragments joined
by a separator are found again (`split_intercalate`), whether or not the last one leaves a block
open.
-/

namespace RecordFilter

section Blocks

variable {separators : List Char} {d : Delimiters}

/-- The delimiter that ends the block open after a text, where `open?` is the one that ends the
block open before it. -/
def openAfter (separators : List Char) (d : Delimiters) : Option Char → Text → Option Char
  | o, [] => o
  | some close, c :: rest =>
    if c = close then openAfter separators d none rest
    else openAfter separators d (some close) rest
  | none, c :: rest =>
    if c ∈ separators then openAfter separators d none rest
    else openAfter separators d (d.closing? c) rest

/-- A text that leaves no block open. -/
def Closed (separators : List Char) (d : Delimiters) (t : Text) : Prop :=
  openAfter separators d none t = none

instance (t : Text) : Decidable (Closed separators d t) :=
  inferInstanceAs (Decidable (_ = _))

/-- A text without a separator outside its blocks. -/
def Unbroken (separators : List Char) (d : Delimiters) (t : Text) : Prop :=
  ∀ p ∈ parts separators d t, p.isSeparator = false

/-- What comes second is read in the state that the first leaves behind. -/
theorem partsFrom_append (o : Option Char) (a b : Text) :
    partsFrom separators d o (a ++ b) =
      partsFrom separators d o a ++ partsFrom separators d (openAfter separators d o a) b := by
  induction a generalizing o with
  | nil => cases o <;> simp [partsFrom, openAfter]
  | cons c rest ih =>
    cases o with
    | some close =>
      rw [List.cons_append, partsFrom, partsFrom, openAfter]
      split
      · rw [ih, List.cons_append]
      · rw [ih, List.cons_append]
    | none =>
      rw [List.cons_append, partsFrom, partsFrom, openAfter]
      split
      · rw [ih, List.cons_append]
      · cases hc : d.closing? c with
        | some close => simp only [ih, List.cons_append]
        | none => simp only [ih, List.cons_append]

/-- Read from inside a block or not, a text has no separator at all or one before which every block
is closed. -/
theorem partsFrom_cut (o : Option Char) (t : Text) :
    (∀ p ∈ partsFrom separators d o t, p.isSeparator = false) ∨
      ∃ a c b, t = a ++ c :: b ∧ c ∈ separators ∧ openAfter separators d o a = none ∧
        ∀ p ∈ partsFrom separators d o a, p.isSeparator = false := by
  induction t generalizing o with
  | nil => left; cases o <;> simp [partsFrom]
  | cons c rest ih =>
    -- Where the first character is no separator, the cut of the rest is a cut of the whole.
    have extend : ∀ (o' : Option Char) (p : Part), p.isSeparator = false →
        (∀ t, partsFrom separators d o (c :: t) = p :: partsFrom separators d o' t) →
        (∀ t, openAfter separators d o (c :: t) = openAfter separators d o' t) →
        (∀ p ∈ partsFrom separators d o (c :: rest), p.isSeparator = false) ∨
          ∃ a e b, c :: rest = a ++ e :: b ∧ e ∈ separators ∧
            openAfter separators d o a = none ∧
            ∀ p ∈ partsFrom separators d o a, p.isSeparator = false := by
      intro o' p hp hparts hopen
      rcases ih o' with whole | ⟨a, e, b, rfl, he, hclosed, hunbroken⟩
      · left
        rw [hparts]
        exact List.forall_mem_cons.2 ⟨hp, whole⟩
      · right
        refine ⟨c :: a, e, b, rfl, he, ?_, ?_⟩
        · rw [hopen, hclosed]
        · rw [hparts]
          exact List.forall_mem_cons.2 ⟨hp, hunbroken⟩
    cases o with
    | some close =>
      by_cases hc : c = close
      · exact extend none (.delimiter c) rfl (fun t => by simp [partsFrom, hc])
          (fun t => by simp [openAfter, hc])
      · exact extend (some close) (.content c) rfl (fun t => by simp [partsFrom, hc])
          (fun t => by simp [openAfter, hc])
    | none =>
      by_cases hc : c ∈ separators
      · right
        exact ⟨[], c, rest, rfl, hc, rfl, by simp [partsFrom]⟩
      · cases hclose : d.closing? c with
        | some close =>
          exact extend (some close) (.delimiter c) rfl (fun t => by simp [partsFrom, hc, hclose])
            (fun t => by simp [openAfter, hc, hclose])
        | none =>
          exact extend none (.content c) rfl (fun t => by simp [partsFrom, hc, hclose])
            (fun t => by simp [openAfter, hc, hclose])

/-- A text is unbroken, or its first separator stands after a closed and unbroken text. -/
theorem unbroken_or_cut (separators : List Char) (d : Delimiters) (t : Text) :
    Unbroken separators d t ∨
      ∃ a c b, t = a ++ c :: b ∧ c ∈ separators ∧ Closed separators d a ∧
        Unbroken separators d a :=
  partsFrom_cut none t

/-- What is true of unbroken texts, and passes from what stands behind the first separator of a text
to the whole of it, is true of every text. -/
@[elab_as_elim]
theorem cut_induction (separators : List Char) (d : Delimiters) {P : Text → Prop}
    (unbroken : ∀ t, Unbroken separators d t → P t)
    (cut : ∀ a c b, Closed separators d a → Unbroken separators d a → c ∈ separators → P b →
      P (a ++ c :: b)) (t : Text) : P t := by
  induction hn : t.length using Nat.strongRecOn generalizing t with
  | _ n ih =>
    rcases unbroken_or_cut separators d t with whole | ⟨a, c, b, rfl, hc, hclosed, hunbroken⟩
    · exact unbroken t whole
    · exact cut a c b hclosed hunbroken hc (ih b.length (by simp at hn; omega) b rfl)

/-- A text in which no separator stands is unbroken, whatever blocks it has. -/
theorem unbroken_of_forall_not_mem {t : Text} (h : ∀ c ∈ t, c ∉ separators) :
    Unbroken separators d t := by
  rcases unbroken_or_cut separators d t with whole | ⟨a, c, b, rfl, hc, -⟩
  · exact whole
  · exact absurd hc (h c (by simp))

/-- A separator after a closed text parts it from what follows. -/
theorem split_append_cons {a : Text} (ha : Closed separators d a) {c : Char}
    (hc : c ∈ separators) (strip : Bool) (b : Text) :
    split separators d strip (a ++ c :: b) =
      split separators d strip a ++ split separators d strip b := by
  have hparts : parts separators d (a ++ c :: b) =
      parts separators d a ++ .separator c :: parts separators d b := by
    unfold parts
    rw [partsFrom_append, show openAfter separators d none a = none from ha, partsFrom, if_pos hc]
  unfold split
  rw [hparts, List.splitOnP_append_cons _ _ (by rfl), List.map_append, List.filter_append]

/-- With its delimiters kept, an unbroken text is its own only fragment. -/
theorem split_of_unbroken {t : Text} (h : Unbroken separators d t) (hne : t ≠ []) :
    split separators d false t = [t] := by
  have hkept : ∀ p ∈ parts separators d t, Part.kept? false p = some p.char := by
    intro p hp
    have := h p hp
    cases p <;> simp_all [Part.isSeparator, Part.kept?, Part.char]
  have hwhole : (parts separators d t).filterMap (Part.kept? false) = t := by
    rw [List.filterMap_congr hkept, List.filterMap_eq_map', map_char_parts]
  unfold split
  rw [List.splitOnP_eq_singleton h, List.map_singleton, hwhole]
  simp [hne]

/-- Fragments that joining does not run together: none is empty or holds a separator outside its
blocks, and every one that another follows closes its blocks. -/
structure Fragments (separators : List Char) (d : Delimiters) (fs : List Text) : Prop where
  nonempty : ∀ f ∈ fs, f ≠ []
  unbroken : ∀ f ∈ fs, Unbroken separators d f
  closed : ∀ f ∈ fs.dropLast, Closed separators d f

theorem Fragments.nil : Fragments separators d [] :=
  ⟨by simp, by simp, by simp⟩

theorem Fragments.singleton {f : Text} (hne : f ≠ []) (h : Unbroken separators d f) :
    Fragments separators d [f] :=
  ⟨by simpa using hne, by simpa using h, by simp⟩

theorem Fragments.cons {f : Text} {fs : List Text} (hne : f ≠ []) (hf : Unbroken separators d f)
    (hc : Closed separators d f) (h : Fragments separators d fs) :
    Fragments separators d (f :: fs) := by
  refine ⟨List.forall_mem_cons.2 ⟨hne, h.nonempty⟩, List.forall_mem_cons.2 ⟨hf, h.unbroken⟩, ?_⟩
  cases fs with
  | nil => simp
  | cons g gs => exact List.forall_mem_cons.2 ⟨hc, h.closed⟩

/-- What stands together among fragments are fragments. -/
theorem Fragments.within {fs gs : List Text} (h : Fragments separators d fs) (hi : gs <:+: fs) :
    Fragments separators d gs := by
  obtain ⟨before, after, rfl⟩ := hi
  refine ⟨fun f hf => h.nonempty f (by simp [hf]), fun f hf => h.unbroken f (by simp [hf]), ?_⟩
  intro f hf
  apply h.closed f
  have hmem : f ∈ gs := List.dropLast_subset gs hf
  by_cases ha : after = []
  · subst ha
    have hgs : gs ≠ [] := List.ne_nil_of_mem hmem
    rw [List.append_nil, List.dropLast_append_of_ne_nil hgs]
    exact List.mem_append_right _ hf
  · rw [List.dropLast_append_of_ne_nil ha]
    simp [hmem]

/-- The fragments that a text is split into, its delimiters kept. -/
theorem fragments_split (separators : List Char) (d : Delimiters) (t : Text) :
    Fragments separators d (split separators d false t) := by
  induction t using cut_induction separators d with
  | unbroken t whole =>
    by_cases hempty : t = []
    · rw [hempty, split_nil]
      exact .nil
    · rw [split_of_unbroken whole hempty]
      exact .singleton hempty whole
  | cut a c b hclosed hunbroken hc later =>
    rw [split_append_cons hclosed hc]
    by_cases ha : a = []
    · rw [ha, split_nil, List.nil_append]
      exact later
    · rw [split_of_unbroken hunbroken ha, List.singleton_append]
      exact later.cons ha hunbroken hclosed

/-- Fragments joined by a separator are what the joined text splits into. -/
theorem split_intercalate {c : Char} (hc : c ∈ separators) {fs : List Text}
    (h : Fragments separators d fs) : split separators d false ([c].intercalate fs) = fs := by
  induction fs with
  | nil => exact split_nil separators d false
  | cons f fs ih =>
    have hne : f ≠ [] := h.nonempty f List.mem_cons_self
    have hunbroken : Unbroken separators d f := h.unbroken f List.mem_cons_self
    cases fs with
    | nil => rw [List.intercalate_singleton, split_of_unbroken hunbroken hne]
    | cons g gs =>
      have hclosed : Closed separators d f := h.closed f (by simp)
      have rest : Fragments separators d (g :: gs) := h.within (List.suffix_cons f _).isInfix
      rw [List.intercalate_cons_cons, List.append_assoc, List.singleton_append,
        split_append_cons hclosed hc, split_of_unbroken hunbroken hne, ih rest,
        List.singleton_append]

end Blocks

end RecordFilter
