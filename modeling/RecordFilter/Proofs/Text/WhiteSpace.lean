import Mathlib.Data.List.TakeDrop
import Mathlib.Data.List.TakeWhile
import RecordFilter.Text.WhiteSpace

/-!
# White space at the ends of a text

What trimming takes off and what cutting at the last white space leaves out, said as an equation for
the whole text.
-/

namespace RecordFilter.Text

/-- A text is what trimming its end leaves, and white space. -/
theorem exists_eq_trimEnd_append (t : Text) :
    ∃ after, t = trimEnd t ++ after ∧ ∀ c ∈ after, isWhiteSpace c := by
  refine ⟨(t.reverse.takeWhile isWhiteSpace).reverse, ?_, ?_⟩
  · unfold trimEnd
    rw [← List.reverse_append, List.takeWhile_append_dropWhile, List.reverse_reverse]
  · intro c hc
    exact List.mem_takeWhile_imp (List.mem_reverse.1 hc)

/-- A text that is not cut has no white space. -/
theorem cutAtLastBlank?_eq_none {t : Text} (h : cutAtLastBlank? t = none) :
    ∀ c ∈ t, ¬ isWhiteSpace c := by
  have hrest : t.reverse.dropWhile (!isWhiteSpace ·) = [] := by
    unfold cutAtLastBlank? at h
    rw [List.span_eq_takeWhile_dropWhile] at h
    split at h
    · next heq => exact congrArg Prod.snd heq
    · simp at h
  intro c hc
  have hall := List.dropWhile_eq_nil_iff.1 hrest c (List.mem_reverse.2 hc)
  simpa using hall

/-- A text that is cut is cut at its last white space. -/
theorem cutAtLastBlank?_eq_some {t head last : Text} (h : cutAtLastBlank? t = some (head, last)) :
    ∃ w, isWhiteSpace w ∧ t = head ++ w :: last ∧ ∀ c ∈ last, ¬ isWhiteSpace c := by
  unfold cutAtLastBlank? at h
  rw [List.span_eq_takeWhile_dropWhile] at h
  split at h
  · simp at h
  · next last' w head' heq =>
    obtain ⟨rfl, rfl⟩ := Prod.mk.inj (Option.some.inj h)
    obtain ⟨hlast, hhead⟩ := Prod.mk.inj heq
    refine ⟨w, ?_, ?_, ?_⟩
    · have hne : t.reverse.dropWhile (!isWhiteSpace ·) ≠ [] := by simp [hhead]
      have hfirst := List.head_dropWhile_not (!isWhiteSpace ·) hne
      simpa [hhead] using hfirst
    · have hwhole := congrArg List.reverse
        (List.takeWhile_append_dropWhile (p := (!isWhiteSpace ·)) (l := t.reverse))
      rw [hlast, hhead] at hwhole
      simpa using hwhole.symm
    · intro c hc
      rw [← hlast, List.mem_reverse] at hc
      simpa using List.mem_takeWhile_imp hc

/-- Cut or not, a text is its two parts with at most one white space between them, and the second
part has none. -/
theorem exists_gap_of_cutAtLastBlank? {t head last : Text}
    (h : (cutAtLastBlank? t).getD ([], t) = (head, last)) :
    ∃ gap, t = head ++ gap ++ last ∧
      (head = [] ∧ gap = [] ∨ ∃ w, gap = [w] ∧ isWhiteSpace w) ∧ ∀ c ∈ last, ¬ isWhiteSpace c := by
  cases hcut : cutAtLastBlank? t with
  | none =>
    rw [hcut] at h
    obtain ⟨rfl, rfl⟩ := Prod.mk.inj h
    exact ⟨[], rfl, .inl ⟨rfl, rfl⟩, cutAtLastBlank?_eq_none hcut⟩
  | some p =>
    rw [hcut] at h
    obtain rfl : p = (head, last) := h
    obtain ⟨w, hw, ht, hlast⟩ := cutAtLastBlank?_eq_some hcut
    exact ⟨[w], by simpa using ht, .inr ⟨w, rfl, hw⟩, hlast⟩

/-- Trimming leaves no white space at the end. -/
theorem not_isWhiteSpace_of_mem_getLast?_trimEnd {t : Text} {c : Char}
    (h : c ∈ (trimEnd t).getLast?) : ¬ isWhiteSpace c := by
  unfold trimEnd at h
  rw [List.getLast?_reverse] at h
  have hfirst := List.head?_dropWhile_not isWhiteSpace t.reverse
  rw [Option.mem_def.1 h] at hfirst
  simpa using hfirst

/-- White space at the end does not count in trimming. -/
theorem trimEnd_append_of_forall {t after : Text} (h : ∀ c ∈ after, isWhiteSpace c) :
    trimEnd (t ++ after) = trimEnd t := by
  have hafter : ∀ c ∈ after.reverse, isWhiteSpace c := by simpa using h
  unfold trimEnd
  rw [List.reverse_append, List.dropWhile_append_of_pos hafter]

/-! ### Texts with something before them -/

theorem trimEnd_append {a t : Text} (h : trimEnd t ≠ []) : trimEnd (a ++ t) = a ++ trimEnd t := by
  have hrest : (t.reverse.dropWhile isWhiteSpace).isEmpty = false := by
    rw [List.isEmpty_eq_false_iff]
    exact fun hnil => h (congrArg List.reverse hnil)
  simp [trimEnd, List.dropWhile_append, hrest]

/-- White space before white space is trimmed with it. -/
theorem trimEnd_append_cons_of_trimEnd_eq_nil {a t : Text} {w : Char} (hw : isWhiteSpace w)
    (h : trimEnd t = []) : trimEnd (a ++ w :: t) = trimEnd a := by
  have hrest : t.reverse.dropWhile isWhiteSpace = [] := List.reverse_eq_nil_iff.1 h
  simp [trimEnd, List.dropWhile_append, hrest, hw]

theorem trimEnd_of_forall {t : Text} (h : ∀ c ∈ t, ¬ isWhiteSpace c) : trimEnd t = t := by
  unfold trimEnd
  cases hrev : t.reverse with
  | nil => exact (List.reverse_eq_nil_iff.1 hrev).symm
  | cons c rest =>
    have hc : ¬ isWhiteSpace c := h c (List.mem_reverse.1 (hrev ▸ List.mem_cons_self))
    rw [List.dropWhile_cons_of_neg hc, ← hrev, List.reverse_reverse]

theorem trim_of_forall {t : Text} (h : ∀ c ∈ t, ¬ isWhiteSpace c) : trim t = t := by
  have hstart : trimStart t = t := by
    cases t with
    | nil => rfl
    | cons c rest => exact List.dropWhile_cons_of_neg (h c List.mem_cons_self)
  rw [trim, hstart, trimEnd_of_forall h]

theorem cutAtLastBlank?_append {head last : Text} {w : Char} (hw : isWhiteSpace w)
    (hlast : ∀ c ∈ last, ¬ isWhiteSpace c) :
    cutAtLastBlank? (head ++ w :: last) = some (head, last) := by
  have hall : ∀ c ∈ last.reverse, (!isWhiteSpace c) = true := by simpa using hlast
  unfold cutAtLastBlank?
  rw [List.span_eq_takeWhile_dropWhile, List.reverse_append, List.reverse_cons, List.append_assoc,
    List.takeWhile_append_of_pos hall, List.dropWhile_append_of_pos hall]
  simp [hw]

/-- A text is cut where its end is cut, or before an end that is not cut. -/
theorem cutAtLastBlank?_append_cons {w : Char} (hw : isWhiteSpace w) (a t : Text) :
    cutAtLastBlank? (a ++ w :: t) =
      some ((cutAtLastBlank? t).elim (a, t) fun p => (a ++ w :: p.1, p.2)) := by
  cases hcut : cutAtLastBlank? t with
  | none => exact cutAtLastBlank?_append hw (cutAtLastBlank?_eq_none hcut)
  | some p =>
    obtain ⟨w', hw', rfl, hlast⟩ := cutAtLastBlank?_eq_some hcut
    have hwhole : cutAtLastBlank? ((a ++ w :: p.1) ++ w' :: p.2) = some (a ++ w :: p.1, p.2) :=
      cutAtLastBlank?_append hw' hlast
    rwa [List.append_assoc, List.cons_append] at hwhole

end RecordFilter.Text
