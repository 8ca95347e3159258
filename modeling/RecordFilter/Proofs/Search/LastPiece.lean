import RecordFilter.Proofs.Search.LastWord
import RecordFilter.Search.Engine

/-!
# Directives recovered

A text has its directive from the last of its pieces between white space, if this is a field that is
named and an ending for a direction.  So a directive that is put behind a query is taken from it
again, whatever the query is, and the query comes back character by character; a text with another
last piece is left as it is (`searchAndSort_append_directive`).
-/

namespace RecordFilter

/-- A last step that reports nothing and leaves the value changes nothing. -/
theorem Traced.andThen_quiet {α : Type} (t : Traced α) : andThen t quiet = t := by
  unfold andThen quiet
  rw [List.append_nil]

namespace Text

/-- The pieces of a text between white space; empty ones are dropped. -/
def pieces (t : Text) : List Text :=
  (t.splitOnP isWhiteSpace).filter (!·.isEmpty)

theorem pieces_nil : pieces [] = [] := by
  simp [pieces]

/-- White space parts the pieces before it from those after it. -/
theorem pieces_append_cons {w : Char} (hw : isWhiteSpace w) (a b : Text) :
    pieces (a ++ w :: b) = pieces a ++ pieces b := by
  unfold pieces
  rw [List.splitOnP_append_cons a b hw, List.filter_append]

theorem pieces_of_forall_not {t : Text} (hne : t ≠ []) (h : ∀ c ∈ t, ¬ isWhiteSpace c) :
    pieces t = [t] := by
  have hall : ∀ c ∈ t, isWhiteSpace c = false := by simpa using h
  unfold pieces
  rw [List.splitOnP_eq_singleton hall]
  simp [hne]

/-- White space alone has no pieces. -/
theorem pieces_of_forall {t : Text} (h : ∀ c ∈ t, isWhiteSpace c) : pieces t = [] := by
  induction t with
  | nil => exact pieces_nil
  | cons w t ih =>
    obtain ⟨hw, ht⟩ := List.forall_mem_cons.1 h
    rw [← List.nil_append (w :: t), pieces_append_cons hw, ih ht, pieces_nil, List.nil_append]

theorem pieces_append_of_forall {t after : Text} (h : ∀ c ∈ after, isWhiteSpace c) :
    pieces (t ++ after) = pieces t := by
  cases after with
  | nil => rw [List.append_nil]
  | cons w after =>
    obtain ⟨hw, hafter⟩ := List.forall_mem_cons.1 h
    rw [pieces_append_cons hw, pieces_of_forall hafter, List.append_nil]

end Text

namespace SortDirective

variable {head : Text} {d : SortDirective}

/-! ### White space behind a text -/

theorem cutLastWord_append_of_forall {after : Text} (h : ∀ c ∈ after, isWhiteSpace c) (t : Text) :
    cutLastWord (t ++ after) = cutLastWord t := by
  unfold cutLastWord
  rw [Text.trimEnd_append_of_forall h]

/-- A directive is taken from before white space as if this were not there. -/
theorem takeFrom_append_of_forall {after t : Text} (hafter : ∀ c ∈ after, isWhiteSpace c)
    (h : takeFrom t = (head, some d)) : takeFrom (t ++ after) = (head, some d) := by
  rw [takeFrom_eq_some_iff] at h ⊢
  rwa [cutLastWord_append_of_forall hafter]

/-! ### The last piece -/

/-- The word that is cut off is the last piece; where nothing is cut off there are no pieces. -/
theorem getLast?_pieces (t : Text) : (Text.pieces t).getLast?.getD [] = (cutLastWord t).2 := by
  obtain ⟨after, htext, hafter⟩ := Text.exists_eq_trimEnd_append t
  have htrimmed : Text.pieces t = Text.pieces (Text.trimEnd t) := by
    conv_lhs => rw [htext]
    exact Text.pieces_append_of_forall hafter
  rcases hcut : cutLastWord t with ⟨before, last⟩
  obtain ⟨gap, hparts, hgap, hlast⟩ := Text.exists_gap_of_cutAtLastBlank? hcut
  rw [htrimmed, hparts]
  rcases hgap with ⟨rfl, rfl⟩ | ⟨w, rfl, hw⟩
  · by_cases hempty : last = []
    · rw [hempty]
      simp [Text.pieces_nil]
    · rw [List.append_nil, List.nil_append, Text.pieces_of_forall_not hempty hlast]
      rfl
  · have hnonempty : last ≠ [] := by
      rintro rfl
      -- The text would end in the white space before the word, which trimming has taken off.
      have hend : w ∈ (Text.trimEnd t).getLast? := by
        rw [hparts, List.append_nil, List.getLast?_concat]
        rfl
      exact Text.not_isWhiteSpace_of_mem_getLast?_trimEnd hend hw
    rw [List.append_assoc, List.singleton_append, Text.pieces_append_cons hw,
      Text.pieces_of_forall_not hnonempty hlast, List.getLast?_concat]
    rfl

/-- A text whose last piece is no directive has none. -/
theorem takeFrom_of_getLast?_pieces {t : Text}
    (h : ∀ d : SortDirective, d.key ≠ [] → (Text.pieces t).getLast? ≠ some d.text) :
    takeFrom t = (t, none) := by
  apply takeFrom_of_snd_eq_none
  rw [snd_takeFrom, Option.eq_none_iff_forall_ne_some]
  intro d hd
  obtain ⟨hword, hkey⟩ := ofText?_eq_some hd
  rw [← getLast?_pieces] at hword
  cases hlast : (Text.pieces t).getLast? with
  | none =>
    rw [hlast] at hword
    exact d.text_ne_nil hword.symm
  | some piece =>
    rw [hlast] at hword
    apply h d hkey
    rw [hlast]
    exact congrArg some hword

end SortDirective

namespace Engine

open SortDirective

variable (e : Engine) (records : List Json)

/-- With a directive, the rest of the text is searched for and what is found is sorted. -/
theorem searchAndSort_of_some {text q : Text} {d : SortDirective}
    (h : takeFrom text = (q, some d)) :
    (e.searchAndSort records text).value =
        (sortAt d.key d.descending (e.search records q).value.1, (e.search records q).value.2) ∧
      (e.searchAndSort records text).events =
        (e.search records q).events ++ [.sortingMatches d.key d.descending] := by
  unfold searchAndSort searchAndSortBy
  rw [h]
  exact ⟨rfl, rfl⟩

theorem searchAndSort_of_none {text : Text} (h : takeFrom text = (text, none)) :
    e.searchAndSort records text = e.search records text := by
  unfold searchAndSort searchAndSortBy search
  rw [h]
  exact Traced.andThen_quiet _

/-- A directive that is put behind a query is recovered, with the query as it was: after any white
space, with any white space behind it, be the query blank, with white space or another directive at
its end, or the field one that itself ends like a directive.  So its matches are those of the query,
sorted.  A text whose last piece is no directive is searched for as it stands. -/
theorem searchAndSort_append_directive :
    (∀ d : SortDirective, d.key ≠ [] → (∀ c ∈ d.key, ¬ isWhiteSpace c) →
      ∀ (q : Text) (w : Char) (after : Text), isWhiteSpace w → (∀ c ∈ after, isWhiteSpace c) →
        takeFrom (q ++ w :: d.text ++ after) = (q, some d) ∧
          (e.searchAndSort records (q ++ w :: d.text ++ after)).value =
            (sortAt d.key d.descending (e.search records q).value.1,
              (e.search records q).value.2) ∧
          (e.searchAndSort records (q ++ w :: d.text ++ after)).events =
            (e.search records q).events ++ [.sortingMatches d.key d.descending]) ∧
      ∀ text : Text,
        (∀ d : SortDirective, d.key ≠ [] → (Text.pieces text).getLast? ≠ some d.text) →
          takeFrom text = (text, none) ∧
            e.searchAndSort records text = e.search records text := by
  constructor
  · intro d hkey hname q w after hw hafter
    have htake : takeFrom (q ++ w :: d.text ++ after) = (q, some d) := by
      apply takeFrom_append_of_forall hafter
      exact takeFrom_append_text hw q hkey (not_isWhiteSpace_of_mem_text hname)
    exact ⟨htake, e.searchAndSort_of_some records htake⟩
  · intro text hlast
    have htake := takeFrom_of_getLast?_pieces hlast
    exact ⟨htake, e.searchAndSort_of_none records htake⟩

/-- A directive on a field that ends like one, behind a query that is itself a directive and a
space, with other white space on both sides; and an ending without a field, which is no
directive. -/
theorem searchAndSort_append_directive_nested :
    let e : Engine := .ofOptions {}
    let records : List Json := [.null, .string "a::asc".toList]
    let d : SortDirective := ⟨"x::desc".toList, false⟩
    let q := "a::asc ".toList
    let text := "a ::desc".toList
    d.key ≠ [] ∧ (∀ c ∈ d.key, ¬ isWhiteSpace c) ∧ isWhiteSpace '\u00a0' ∧
      (∀ c ∈ ['\n'], isWhiteSpace c) ∧
      takeFrom "a::asc \u00a0x::desc::asc\n".toList = (q, some d) ∧
      (e.searchAndSort records "a::asc \u00a0x::desc::asc\n".toList).value =
        (sortAt d.key false (e.search records q).value.1, (e.search records q).value.2) ∧
      (∀ d : SortDirective, d.key ≠ [] → (Text.pieces text).getLast? ≠ some d.text) ∧
      takeFrom text = (text, none) ∧ e.searchAndSort records text = e.search records text := by
  intro e records d q text
  have hname : ∀ c ∈ d.key, ¬ isWhiteSpace c := List.any_eq_false.1 (by decide)
  have hnamed : d.key ≠ [] := by decide
  have hafter : ∀ c ∈ ['\n'], isWhiteSpace c := List.forall_mem_singleton.2 (by decide)
  have hlast : ∀ d : SortDirective, d.key ≠ [] → (Text.pieces text).getLast? ≠ some d.text := by
    intro d hkey heq
    have hpiece : (Text.pieces text).getLast? = some "::desc".toList := by decide
    have hnone : ofText? "::desc".toList = none := by decide
    have hread := ofText?_text hkey
    rw [← Option.some.inj (hpiece.symm.trans heq), hnone] at hread
    cases hread
  obtain ⟨hsome, hnone⟩ := e.searchAndSort_append_directive records
  obtain ⟨htake, hvalue, -⟩ := hsome d hnamed hname q '\u00a0' ['\n'] (by decide) hafter
  exact ⟨hnamed, hname, by decide, hafter, htake, hvalue, hlast, hnone text hlast⟩

end Engine

end RecordFilter
