import RecordFilter.Proofs.Search.Directive

/-!
# Directives behind other text

Whether a query ends in a directive depends on its last word alone, so a query keeps its directive,
or stays without one, when other text and white space are put before it.
-/

namespace RecordFilter.SortDirective

variable {q head : Text} {d : SortDirective}

/-- A directive is read from its text. -/
theorem ofText?_text (h : d.key ≠ []) : ofText? d.text = some d := by
  obtain ⟨key, descending⟩ := d
  have hdrop : ∀ ending : Text, Text.dropEnding? ending (key ++ ending) = some key := fun ending =>
    List.isSuffixOf?_eq_some_iff_append_eq.2 rfl
  have hother : Text.dropEnding? (ending true) (key ++ ending false) = none := by
    rw [Text.dropEnding?, Option.eq_none_iff_forall_ne_some]
    intro rest hrest
    have hend := congrArg List.reverse (List.isSuffixOf?_eq_some_iff_append_eq.1 hrest)
    simp [ending] at hend
  have hkey : key.isEmpty = false := by simpa using h
  cases descending with
  | true => simp [ofText?, text, hdrop, hkey]
  | false => simp [ofText?, text, hdrop, hother, hkey]

theorem not_isWhiteSpace_of_mem_ending {descending : Bool} {c : Char}
    (h : c ∈ ending descending) : ¬ isWhiteSpace c := by
  cases descending with
  | false =>
    simp only [ending, Bool.false_eq_true, ↓reduceIte, List.mem_cons, List.not_mem_nil,
      or_false] at h
    rcases h with rfl | rfl | rfl | rfl | rfl <;> decide
  | true =>
    simp only [ending, ↓reduceIte, List.mem_cons, List.not_mem_nil, or_false] at h
    rcases h with rfl | rfl | rfl | rfl | rfl | rfl <;> decide

theorem not_isWhiteSpace_of_mem_text (hkey : ∀ c ∈ d.key, ¬ isWhiteSpace c) :
    ∀ c ∈ d.text, ¬ isWhiteSpace c := by
  intro c hc
  rcases List.mem_append.1 hc with hname | hending
  · exact hkey c hname
  · exact not_isWhiteSpace_of_mem_ending hending

/-- A query cut before its last word; white space after the word does not count. -/
def cutLastWord (query : Text) : Text × Text :=
  (Text.cutAtLastBlank? (Text.trimEnd query)).getD ([], Text.trimEnd query)

/-- A query has the directive that its last word is read as. -/
theorem takeFrom_eq (q : Text) :
    takeFrom q =
      (ofText? (cutLastWord q).2).elim (q, none) fun d => ((cutLastWord q).1, some d) := by
  unfold takeFrom cutLastWord
  dsimp only
  cases ofText? ((Text.cutAtLastBlank? (Text.trimEnd q)).getD ([], Text.trimEnd q)).2 <;> rfl

theorem takeFrom_eq_some_iff :
    takeFrom q = (head, some d) ↔
      (cutLastWord q).1 = head ∧ ofText? (cutLastWord q).2 = some d := by
  rw [takeFrom_eq]
  cases ofText? (cutLastWord q).2 with
  | none => simp
  | some d' => simp

theorem snd_takeFrom (q : Text) : (takeFrom q).2 = ofText? (cutLastWord q).2 := by
  rw [takeFrom_eq]
  cases ofText? (cutLastWord q).2 <;> rfl

theorem takeFrom_of_snd_eq_none (h : (takeFrom q).2 = none) : takeFrom q = (q, none) := by
  rw [snd_takeFrom] at h
  rw [takeFrom_eq, h]
  rfl

theorem eq_of_takeFrom_eq_none (h : takeFrom q = (head, none)) : head = q := by
  have hself := takeFrom_of_snd_eq_none (congrArg Prod.snd h)
  exact congrArg Prod.fst (h.symm.trans hself)

section Append

variable {w : Char} (hw : isWhiteSpace w) (a : Text)

include hw

/-- The last word of a query stays the last when text and white space are put before it. -/
theorem cutLastWord_append_cons (hword : Text.trimEnd q ≠ []) :
    (cutLastWord (a ++ w :: q)).2 = (cutLastWord q).2 ∧
      ((cutLastWord (a ++ w :: q)).1 = a ++ w :: (cutLastWord q).1 ∨
        (cutLastWord q).1 = [] ∧ (cutLastWord (a ++ w :: q)).1 = a) := by
  have htrim : Text.trimEnd (a ++ w :: q) = a ++ w :: Text.trimEnd q := by
    rw [List.append_cons, Text.trimEnd_append hword, List.append_assoc, List.singleton_append]
  unfold cutLastWord
  rw [htrim, Text.cutAtLastBlank?_append_cons hw]
  cases Text.cutAtLastBlank? (Text.trimEnd q) with
  | none => exact ⟨rfl, .inr ⟨rfl, rfl⟩⟩
  | some p => exact ⟨rfl, .inl rfl⟩

/-- A directive is taken from behind any text and white space. -/
theorem takeFrom_append_text (hkey : d.key ≠ []) (hword : ∀ c ∈ d.text, ¬ isWhiteSpace c) :
    takeFrom (a ++ w :: d.text) = (a, some d) := by
  have hself := Text.trimEnd_of_forall hword
  have htrim : Text.trimEnd (a ++ w :: d.text) = a ++ w :: d.text := by
    have hne : Text.trimEnd d.text ≠ [] := by
      rw [hself]
      exact d.text_ne_nil
    rw [List.append_cons, Text.trimEnd_append hne, hself]
  have hcut : cutLastWord (a ++ w :: d.text) = (a, d.text) := by
    unfold cutLastWord
    rw [htrim, Text.cutAtLastBlank?_append hw hword]
    rfl
  rw [takeFrom_eq_some_iff, hcut]
  exact ⟨rfl, ofText?_text hkey⟩

/-- A query keeps its directive behind other text.  The white space between them goes with the
directive where nothing else stands before it. -/
theorem takeFrom_append_of_some (h : takeFrom q = (head, some d)) :
    ∃ front, (front = a ++ w :: head ∨ head = [] ∧ front = a) ∧
      takeFrom (a ++ w :: q) = (front, some d) := by
  obtain ⟨rfl, htext⟩ := takeFrom_eq_some_iff.1 h
  have hword : Text.trimEnd q ≠ [] := by
    intro hnil
    unfold cutLastWord at htext
    rw [hnil] at htext
    cases htext
  obtain ⟨hlast, hfront⟩ := cutLastWord_append_cons hw a hword
  refine ⟨_, hfront, takeFrom_eq_some_iff.2 ⟨rfl, ?_⟩⟩
  rw [hlast, htext]

/-- Text and white space put before a query without a directive give it none. -/
theorem takeFrom_append_of_none (hq : takeFrom q = (q, none)) (ha : takeFrom a = (a, none)) :
    takeFrom (a ++ w :: q) = (a ++ w :: q, none) := by
  apply takeFrom_of_snd_eq_none
  rw [snd_takeFrom]
  by_cases hword : Text.trimEnd q = []
  · have hcut : (cutLastWord (a ++ w :: q)).2 = (cutLastWord a).2 := by
      unfold cutLastWord
      rw [Text.trimEnd_append_cons_of_trimEnd_eq_nil hw hword]
    rw [hcut, ← snd_takeFrom, ha]
  · rw [(cutLastWord_append_cons hw a hword).1, ← snd_takeFrom, hq]

end Append

end RecordFilter.SortDirective
