import RecordFilter.Proofs.Query.Blocks

/-!
# What splitting keeps

The fragments of a text, one after the other, are the text without the separators outside its blocks
(`flatten_split`).  What is kept of a text can be told character by character, which decides whether
two splits can agree at all.
-/

namespace RecordFilter

variable {separators : List Char} {d : Delimiters}

/-- The characters of a text that separate nothing, where `open?` is the delimiter that ends the
block open before it. -/
def kept (separators : List Char) (d : Delimiters) (open? : Option Char) (t : Text) : Text :=
  ((partsFrom separators d open? t).filter (!·.isSeparator)).map Part.char

theorem flatten_splitOnP {α : Type} (p : α → Bool) (xs : List α) :
    (xs.splitOnP p).flatten = xs.filter (!p ·) := by
  induction xs with
  | nil => simp
  | cons x xs ih =>
    rw [List.splitOnP_cons_eq_if_modifyHead]
    cases hx : p x with
    | true => simp [hx, ih]
    | false =>
      obtain ⟨first, rest, hsplit⟩ := List.exists_cons_of_ne_nil (List.splitOnP_ne_nil p xs)
      rw [hsplit] at ih ⊢
      simpa [hx] using ih

/-- With delimiters kept, splitting drops separators and nothing else. -/
theorem flatten_split (t : Text) :
    (split separators d false t).flatten = kept separators d none t := by
  have hchar : ∀ p ∈ (parts separators d t).filter (!·.isSeparator),
      Part.kept? false p = some p.char := by
    intro p hp
    have hsep := (List.mem_filter.1 hp).2
    cases p <;> simp_all [Part.isSeparator, Part.kept?, Part.char]
  unfold split
  rw [List.flatten_filter_not_isEmpty, ← List.filterMap_flatten, flatten_splitOnP,
    List.filterMap_congr hchar, List.filterMap_eq_map']
  rfl

theorem kept_append (o : Option Char) (a b : Text) :
    kept separators d o (a ++ b) =
      kept separators d o a ++ kept separators d (openAfter separators d o a) b := by
  unfold kept
  rw [partsFrom_append, List.filter_append, List.map_append]

theorem kept_cons_separator {c : Char} (hc : c ∈ separators) (t : Text) :
    kept separators d none (c :: t) = kept separators d none t := by
  simp [kept, partsFrom, hc, Part.isSeparator]

/-- Inside a block, and outside where it is no separator, a character is kept. -/
theorem kept_cons {o : Option Char} {c : Char} (h : ¬ (o = none ∧ c ∈ separators)) (t : Text) :
    ∃ o', kept separators d o (c :: t) = c :: kept separators d o' t := by
  unfold kept
  cases o with
  | some close =>
    rw [partsFrom]
    split
    · exact ⟨none, rfl⟩
    · exact ⟨some close, rfl⟩
  | none =>
    rw [partsFrom, if_neg fun hc => h ⟨rfl, hc⟩]
    cases d.closing? c with
    | none => exact ⟨none, rfl⟩
    | some close => exact ⟨some close, rfl⟩

theorem kept_of_forall_not_mem {t : Text} (h : ∀ c ∈ t, c ∉ separators) (o : Option Char) :
    kept separators d o t = t := by
  induction t generalizing o with
  | nil => cases o <;> rfl
  | cons c t ih =>
    obtain ⟨hc, ht⟩ := List.forall_mem_cons.1 h
    obtain ⟨o', hcons⟩ := kept_cons (d := d) (fun hsep => hc hsep.2) t
    rw [hcons, ih ht]

/-- Nothing is kept of separators outside blocks, and something of every other text. -/
theorem kept_eq_nil {o : Option Char} {t : Text} (h : kept separators d o t = []) :
    t = [] ∨ o = none ∧ ∀ c ∈ t, c ∈ separators := by
  induction t with
  | nil => exact .inl rfl
  | cons c t ih =>
    right
    by_cases hc : o = none ∧ c ∈ separators
    · obtain ⟨rfl, hc⟩ := hc
      rw [kept_cons_separator hc] at h
      refine ⟨rfl, List.forall_mem_cons.2 ⟨hc, ?_⟩⟩
      rcases ih h with rfl | ⟨-, ht⟩
      · simp
      · exact ht
    · obtain ⟨o', hcons⟩ := kept_cons (d := d) hc t
      rw [hcons] at h
      exact absurd h (List.cons_ne_nil _ _)

/-- Separators at the end of a closed text make no fragment. -/
theorem split_append_separators {a s : Text} (ha : Closed separators d a)
    (hs : ∀ c ∈ s, c ∈ separators) (strip : Bool) :
    split separators d strip (a ++ s) = split separators d strip a := by
  induction s generalizing a with
  | nil => rw [List.append_nil]
  | cons c s ih =>
    obtain ⟨hc, hs⟩ := List.forall_mem_cons.1 hs
    have hrest : split separators d strip s = [] :=
      (ih (a := []) rfl hs).trans (split_nil ..)
    rw [split_append_cons ha hc, hrest, List.append_nil]

end RecordFilter
