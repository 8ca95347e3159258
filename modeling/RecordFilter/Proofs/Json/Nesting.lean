import RecordFilter.Proofs.Json.Induction
import RecordFilter.Proofs.Json.RoundTrip
import RecordFilter.Proofs.Number.Numerals

/-!
# How deep a text nests

A text is read bracket by bracket, strings passed over.  Texts that leave as many arrays and objects
open as they found are `Balanced`; what is written of a value is (`exists_balanced_write`).  Within
such a text nothing is closed that was open before it, so no beginning of an object's text is
balanced but the empty one and the whole (`not_balanced_of_prefix_write`).
-/

namespace RecordFilter.Json

/-- Where a character of a text stands. -/
inductive Place
  | outside
  | inString
  /-- In a string, behind a backslash. -/
  | escaped
deriving DecidableEq, Repr

/-- What is known of a text that was read up to some place: where the next character stands, how
many arrays and objects are open, and how many were open at most. -/
structure Depth where
  place : Place
  level : Nat
  deepest : Nat
deriving DecidableEq, Repr

namespace Depth

/-- Reads one more character. -/
def next (s : Depth) (c : Char) : Depth :=
  match s.place with
  | .outside =>
    if c = '\x22' then { s with place := .inString }
    else if c = '[' ∨ c = '\x7b' then
      { s with level := s.level + 1, deepest := max s.deepest (s.level + 1) }
    else if c = ']' ∨ c = '\x7d' then { s with level := s.level - 1 }
    else s
  | .inString =>
    if c = '\x22' then { s with place := .outside }
    else if c = '\\' then { s with place := .escaped }
    else s
  | .escaped => { s with place := .inString }

/-- Reads a text. -/
def after (s : Depth) (t : Text) : Depth :=
  t.foldl next s

theorem after_cons (s : Depth) (c : Char) (t : Text) : s.after (c :: t) = (s.next c).after t :=
  rfl

theorem after_append (s : Depth) (t u : Text) : s.after (t ++ u) = (s.after t).after u :=
  List.foldl_append

/-- Where more is open before a character, no less is open after it, and the difference does not
grow. -/
theorem gap_next {s s' : Depth} (hplace : s.place = s'.place) (hlevel : s.level ≤ s'.level)
    (c : Char) : (s.next c).place = (s'.next c).place ∧ (s.next c).level ≤ (s'.next c).level ∧
      (s'.next c).level - (s.next c).level ≤ s'.level - s.level := by
  obtain ⟨place, level, deepest⟩ := s
  obtain ⟨place', level', deepest'⟩ := s'
  obtain rfl : place = place' := hplace
  dsimp only at hlevel
  cases place with
  | outside =>
    unfold next
    dsimp only
    split
    · exact ⟨rfl, hlevel, Nat.le_refl _⟩
    split
    · exact ⟨rfl, by dsimp only; omega, by dsimp only; omega⟩
    split
    · exact ⟨rfl, by dsimp only; omega, by dsimp only; omega⟩
    · exact ⟨rfl, hlevel, Nat.le_refl _⟩
  | inString =>
    unfold next
    dsimp only
    split
    · exact ⟨rfl, hlevel, Nat.le_refl _⟩
    split
    · exact ⟨rfl, hlevel, Nat.le_refl _⟩
    · exact ⟨rfl, hlevel, Nat.le_refl _⟩
  | escaped => exact ⟨rfl, hlevel, Nat.le_refl _⟩

theorem gap_after (s s' : Depth) (hplace : s.place = s'.place) (hlevel : s.level ≤ s'.level)
    (t : Text) : (s.after t).place = (s'.after t).place ∧ (s.after t).level ≤ (s'.after t).level ∧
      (s'.after t).level - (s.after t).level ≤ s'.level - s.level := by
  induction t generalizing s s' with
  | nil => exact ⟨hplace, hlevel, Nat.le_refl _⟩
  | cons c t ih =>
    obtain ⟨hplace, hlevel, hgap⟩ := gap_next hplace hlevel c
    obtain ⟨hplaces, hlevels, hgaps⟩ := ih _ _ hplace hlevel
    exact ⟨hplaces, hlevels, Nat.le_trans hgaps hgap⟩

end Depth

/-- How many arrays and objects are open in a text at most. -/
def nesting (t : Text) : Nat :=
  (Depth.after ⟨.outside, 0, 0⟩ t).deepest

/-- A text that closes what it opens, where it opens `k` levels at most. -/
def Balanced (k : Nat) (t : Text) : Prop :=
  ∀ n m : Nat, n ≤ m → Depth.after ⟨.outside, n, m⟩ t = ⟨.outside, n, max m (n + k)⟩

/-- A text that ends the string that it begins in, with its last character. -/
def EndsString (t : Text) : Prop :=
  ∀ n m : Nat, Depth.after ⟨.inString, n, m⟩ t = ⟨.outside, n, m⟩

/-- A text that leaves open the string that it begins in. -/
def StaysInString (t : Text) : Prop :=
  ∀ n m : Nat, Depth.after ⟨.inString, n, m⟩ t = ⟨.inString, n, m⟩

/-- Whether a character opens and closes nothing outside strings. -/
def isInert (c : Char) : Bool :=
  !(['\x22', '[', ']', '\x7b', '\x7d'].contains c)

/-! ### Strings -/

theorem staysInString_nil : StaysInString [] := fun _ _ => rfl

theorem StaysInString.append {t u : Text} (ht : StaysInString t) (hu : StaysInString u) :
    StaysInString (t ++ u) := by
  intro n m
  rw [Depth.after_append, ht, hu]

theorem StaysInString.cons {c : Char} {t : Text} (ht : StaysInString t) (hquote : c ≠ '\x22')
    (hbackslash : c ≠ '\\') : StaysInString (c :: t) := by
  intro n m
  have hnext : Depth.next ⟨.inString, n, m⟩ c = ⟨.inString, n, m⟩ := by
    simp [Depth.next, hquote, hbackslash]
  rw [Depth.after_cons, hnext, ht]

/-- Behind a backslash any character stays in the string. -/
theorem StaysInString.escape {t : Text} (ht : StaysInString t) (c : Char) :
    StaysInString ('\\' :: c :: t) :=
  ht

theorem StaysInString.endsString {t u : Text} (ht : StaysInString t) (hu : EndsString u) :
    EndsString (t ++ u) := by
  intro n m
  rw [Depth.after_append, ht, hu]

/-! ### Brackets -/

namespace Balanced

theorem nesting_eq {k : Nat} {t : Text} (h : Balanced k t) : nesting t = k := by
  rw [nesting, h 0 0 (Nat.le_refl 0)]
  simp

theorem append {j k : Nat} {t u : Text} (ht : Balanced j t) (hu : Balanced k u) :
    Balanced (max j k) (t ++ u) := by
  intro n m hle
  rw [Depth.after_append, ht n m hle, hu n _ (by omega)]
  congr 1
  omega

/-- Brackets around a text open one level more. -/
theorem bracket {k : Nat} {t : Text} (h : Balanced k t) {opening closing : Char}
    (hopening : opening = '[' ∨ opening = '\x7b') (hclosing : closing = ']' ∨ closing = '\x7d') :
    Balanced (k + 1) (opening :: (t ++ [closing])) := by
  intro n m _
  have hopen : Depth.next ⟨.outside, n, m⟩ opening = ⟨.outside, n + 1, max m (n + 1)⟩ := by
    rcases hopening with rfl | rfl <;> rfl
  have hclose : ∀ m', Depth.next ⟨.outside, n + 1, m'⟩ closing = ⟨.outside, n, m'⟩ := by
    intro m'
    rcases hclosing with rfl | rfl <;> rfl
  rw [Depth.after_cons, hopen, Depth.after_append, h _ _ (Nat.le_max_right _ _), Depth.after_cons,
    hclose, show max (max m (n + 1)) (n + 1 + k) = max m (n + (k + 1)) by omega]
  rfl

end Balanced

theorem balanced_of_all {t : Text} (h : t.all isInert) : Balanced 0 t := by
  intro n m hle
  rw [show max m (n + 0) = m by omega]
  induction t with
  | nil => rfl
  | cons c t ih =>
    rw [List.all_cons, Bool.and_eq_true] at h
    obtain ⟨hc, ht⟩ := h
    have hnext : Depth.next ⟨.outside, n, m⟩ c = ⟨.outside, n, m⟩ := by
      simp only [isInert, List.contains_cons, List.contains_nil, Bool.or_false, Bool.not_eq_true',
        Bool.or_eq_false_iff, beq_eq_false_iff_ne] at hc
      obtain ⟨hquote, harray, harrayEnd, hobject, hobjectEnd⟩ := hc
      simp [Depth.next, hquote, harray, harrayEnd, hobject, hobjectEnd]
    rw [Depth.after_cons, hnext, ih ht]

theorem EndsString.balanced {t : Text} (h : EndsString t) : Balanced 0 ('\x22' :: t) := by
  intro n m hle
  have hnext : Depth.next ⟨.outside, n, m⟩ '\x22' = ⟨.inString, n, m⟩ := rfl
  rw [Depth.after_cons, hnext, h, show max m (n + 0) = m by omega]

/-- Nothing that was open before a balanced text is closed within it. -/
theorem Balanced.le_level_after {k : Nat} {t u : Text} (h : Balanced k (t ++ u)) :
    1 ≤ (Depth.after ⟨.outside, 1, 1⟩ t).level := by
  -- What is open is compared with where nothing was open before.
  obtain ⟨hplace, hlevel, -⟩ :=
    Depth.gap_after ⟨.outside, 0, 1⟩ ⟨.outside, 1, 1⟩ rfl (Nat.zero_le _) t
  obtain ⟨-, -, hgap⟩ := Depth.gap_after _ _ hplace hlevel u
  rw [← Depth.after_append, ← Depth.after_append, h _ _ (Nat.zero_le _),
    h _ _ (Nat.le_refl _)] at hgap
  dsimp only at hgap
  omega

/-- What stands between a bracket and the one that closes it does not close it. -/
theorem not_balanced_of_prefix {k : Nat} {inside t : Text} (h : Balanced k inside)
    (ht : t <+: inside) (j : Nat) : ¬ Balanced j ('\x7b' :: t) := by
  obtain ⟨u, rfl⟩ := ht
  intro hbalanced
  have hlevel := h.le_level_after
  have hopen : Depth.next ⟨.outside, 0, 0⟩ '\x7b' = ⟨.outside, 1, 1⟩ := rfl
  have hafter := hbalanced 0 0 (Nat.le_refl 0)
  rw [Depth.after_cons, hopen] at hafter
  rw [hafter] at hlevel
  exact Nat.not_succ_le_zero 0 hlevel

/-! ### What is written -/

theorem staysInString_writtenChar (c : Char) : StaysInString (writtenChar c) := by
  unfold writtenChar
  split
  · exact staysInString_nil.escape _
  split
  · exact staysInString_nil.escape _
  split
  · exact staysInString_nil.escape _
  split
  · exact staysInString_nil.escape _
  split
  · exact staysInString_nil.escape _
  split
  · exact staysInString_nil.escape _
  split
  · exact staysInString_nil.escape _
  split
  · next hcontrol =>
    have hdigit : ∀ i < 32, hexChar (i / 16) ≠ '\x22' ∧ hexChar (i / 16) ≠ '\\' ∧
        hexChar (i % 16) ≠ '\x22' ∧ hexChar (i % 16) ≠ '\\' := by decide
    obtain ⟨hfirst, hfirst', hlast, hlast'⟩ := hdigit _ hcontrol
    have hdigits := (staysInString_nil.cons hlast hlast').cons hfirst hfirst'
    exact ((hdigits.cons (c := '0') (by decide) (by decide)).cons (by decide) (by decide)).escape _
  · next hquote hbackslash _ _ _ _ _ _ => exact staysInString_nil.cons hquote hbackslash

theorem endsString_written (t : Text) : EndsString (t.flatMap writtenChar ++ ['\x22']) := by
  induction t with
  | nil => exact fun _ _ => rfl
  | cons c t ih =>
    rw [List.flatMap_cons, List.append_assoc]
    exact (staysInString_writtenChar c).endsString ih

theorem balanced_writtenString (t : Text) : Balanced 0 (writtenString t) :=
  (endsString_written t).balanced

theorem isInert_of_has_numerals {c : Char} (h : numerals.has c = true) : isInert c = true := by
  have hnone : ['\x22', '[', ']', '\x7b', '\x7d'].all (!numerals.has ·) = true := by decide
  rw [isInert, Bool.not_eq_true', Bool.eq_false_iff]
  intro hmem
  have hnot := List.all_eq_true.1 hnone c (List.contains_iff_mem.1 hmem)
  rw [h] at hnot
  cases hnot

theorem exists_balanced_flatMap {α : Type} {f : α → Text} {as : List α}
    (h : ∀ a ∈ as, ∃ k, Balanced k (f a)) : ∃ k, Balanced k (as.flatMap f) := by
  induction as with
  | nil => exact ⟨0, balanced_of_all rfl⟩
  | cons a as ih =>
    obtain ⟨⟨j, ha⟩, has⟩ := List.forall_mem_cons.1 h
    obtain ⟨k, hrest⟩ := ih has
    exact ⟨_, ha.append hrest⟩

theorem balanced_cons {k : Nat} {t : Text} (h : Balanced k t) {c : Char} (hc : isInert c) :
    Balanced k (c :: t) := by
  have hfirst : Balanced 0 [c] := balanced_of_all (by simp [hc])
  have hboth := hfirst.append h
  rwa [Nat.zero_max] at hboth

theorem exists_balanced_writeItems {items : List Json}
    (h : ∀ v ∈ items, ∃ k, Balanced k v.write) : ∃ k, Balanced k (writeItems items) := by
  cases items with
  | nil => exact ⟨0, balanced_of_all rfl⟩
  | cons v items =>
    obtain ⟨⟨j, hv⟩, hitems⟩ := List.forall_mem_cons.1 h
    obtain ⟨k, hrest⟩ := exists_balanced_flatMap (f := fun w => ',' :: write w) fun w hw => by
      obtain ⟨i, hi⟩ := hitems w hw
      exact ⟨i, balanced_cons hi rfl⟩
    rw [writeItems_cons]
    exact ⟨_, hv.append hrest⟩

theorem exists_balanced_writeFields {fields : List (Text × Json)}
    (h : ∀ f ∈ fields, ∃ k, Balanced k f.2.write) : ∃ k, Balanced k (writeFields fields) := by
  have hfield : ∀ f ∈ fields, ∃ k, Balanced k (writtenField f) := by
    intro f hf
    obtain ⟨k, hvalue⟩ := h f hf
    exact ⟨_, (balanced_writtenString f.1).append (balanced_cons hvalue rfl)⟩
  cases fields with
  | nil => exact ⟨0, balanced_of_all rfl⟩
  | cons f fields =>
    obtain ⟨⟨j, hf⟩, hfields⟩ := List.forall_mem_cons.1 hfield
    obtain ⟨k, hrest⟩ := exists_balanced_flatMap (f := (',' :: writtenField ·)) fun g hg => by
      obtain ⟨i, hi⟩ := hfields g hg
      exact ⟨i, balanced_cons hi rfl⟩
    rw [writeFields_cons]
    exact ⟨_, hf.append hrest⟩

/-- What is written of a value closes what it opens. -/
theorem exists_balanced_write (v : Json) : ∃ k, Balanced k v.write := by
  induction v using Json.induction with
  | null => exact ⟨0, balanced_of_all rfl⟩
  | bool b => cases b <;> exact ⟨0, balanced_of_all rfl⟩
  | number n =>
    refine ⟨0, balanced_of_all (List.all_eq_true.2 fun c hc => ?_)⟩
    exact isInert_of_has_numerals (written_text n c hc)
  | string t => exact ⟨0, balanced_writtenString t⟩
  | array items ih =>
    obtain ⟨k, hitems⟩ := exists_balanced_writeItems ih
    exact ⟨k + 1, hitems.bracket (.inl rfl) (.inl rfl)⟩
  | object fields ih =>
    obtain ⟨k, hfields⟩ := exists_balanced_writeFields ih
    exact ⟨k + 1, hfields.bracket (.inr rfl) (.inr rfl)⟩

/-- A beginning of an object's text that is neither empty nor all of it is not balanced. -/
theorem not_balanced_of_prefix_write {fields : List (Text × Json)} {t : Text} (hne : t ≠ [])
    (ht : t <+: (object fields).write) (hproper : t ≠ (object fields).write) (j : Nat) :
    ¬ Balanced j t := by
  obtain ⟨k, hinside⟩ := exists_balanced_writeFields fun f (_ : f ∈ fields) =>
    exists_balanced_write f.2
  obtain ⟨c, t, rfl⟩ := List.exists_cons_of_ne_nil hne
  rw [write, List.cons_append] at ht hproper
  obtain ⟨rfl, hbegins⟩ := List.cons_prefix_cons.1 ht
  rcases List.prefix_concat_iff.1 hbegins with rfl | hshorter
  · exact absurd rfl hproper
  · exact not_balanced_of_prefix hinside hshorter j

end RecordFilter.Json
