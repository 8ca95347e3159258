import RecordFilter.Proofs.Query.Kept
import RecordFilter.Proofs.Text.WhiteSpace
import RecordFilter.Query.Chain
import RecordFilter.Search.SortDirective

/-!
# Directives and tokens

A directive is taken from the end of a query at its last white space, whatever kind of white space
that is and whether it stands in quotation marks.  The tokens of a query are cut at blanks outside
quotation marks.  Where the two meet exactly is told by `tokens_takeFrom`: what is taken is the last
token where the rest of the query closes its quotations, and only blanks stand around the directive,
none of them inside a quotation that it opens.
-/

namespace RecordFilter

namespace SortDirective

variable {query head : Text} {d : SortDirective}

theorem ofText?_eq_some {t : Text} (h : ofText? t = some d) : t = d.text ∧ d.key ≠ [] := by
  have hdirection : ∀ descending, (Text.dropEnding? (ending descending) t).map
      (fun key => (⟨key, descending⟩ : SortDirective)) = some d → t = d.text := by
    intro descending hd
    obtain ⟨key, hkey, rfl⟩ := Option.map_eq_some_iff.1 hd
    exact (List.isSuffixOf?_eq_some_iff_append_eq.1 hkey).symm
  obtain ⟨hread, hkey⟩ := Option.filter_eq_some_iff.1 h
  refine ⟨?_, by simpa using hkey⟩
  rcases Option.or_eq_some_iff.1 hread with hdesc | ⟨-, hasc⟩
  · exact hdirection true hdesc
  · exact hdirection false hasc

/-- A query with a directive is the rest of it, a white space unless nothing stands before the
directive, the directive and white space. -/
theorem takeFrom_eq_some (h : takeFrom query = (head, some d)) :
    ∃ gap after, query = head ++ gap ++ d.text ++ after ∧
      (head = [] ∧ gap = [] ∨ ∃ w, gap = [w] ∧ isWhiteSpace w) ∧
      (∀ c ∈ d.text, ¬ isWhiteSpace c) ∧ ∀ c ∈ after, isWhiteSpace c := by
  obtain ⟨after, hquery, hafter⟩ := Text.exists_eq_trimEnd_append query
  unfold takeFrom at h
  rcases hcut : (Text.cutAtLastBlank? (Text.trimEnd query)).getD ([], Text.trimEnd query) with
    ⟨before, last⟩
  obtain ⟨gap, htrimmed, hgap, hlast⟩ := Text.exists_gap_of_cutAtLastBlank? hcut
  simp only [hcut] at h
  split at h
  · next d' htext =>
    obtain ⟨rfl, hd⟩ := Prod.mk.inj h
    obtain rfl := Option.some.inj hd
    obtain ⟨rfl, -⟩ := ofText?_eq_some htext
    exact ⟨gap, after, by rw [← htrimmed, ← hquery], hgap, hlast, hafter⟩
  · simp at h

theorem text_ne_nil (d : SortDirective) : d.text ≠ [] := by
  unfold text ending
  split <;> simp

end SortDirective

namespace Query

theorem isWhiteSpace_of_mem_blanks {c : Char} (h : c ∈ blanks) : isWhiteSpace c := by
  simp only [blanks, List.mem_cons, List.not_mem_nil, or_false] at h
  rcases h with rfl | rfl | rfl | rfl <;> decide

section Directive

variable {t after : Text} (ht : ∀ c ∈ t, ¬ isWhiteSpace c)

include ht

/-- A text without white space, with blanks outside its quotations after it, is one token. -/
theorem tokens_append_blanks (hne : t ≠ []) (hafter : ∀ c ∈ after, c ∈ blanks)
    (hclosed : after ≠ [] → Closed blanks .quotes t) : tokens (t ++ after) = [t] := by
  have hself : tokens t = [t] := by
    refine split_of_unbroken (unbroken_of_forall_not_mem fun c hc hblank => ?_) hne
    exact ht c hc (isWhiteSpace_of_mem_blanks hblank)
  by_cases hempty : after = []
  · rw [hempty, List.append_nil, hself]
  · exact (split_append_separators (hclosed hempty) hafter false).trans hself

/-- What follows a text without white space is dropped only where it is blanks outside the
quotations of the text. -/
theorem blanks_of_kept_append (h : kept blanks .quotes none (t ++ after) = t) :
    (∀ c ∈ after, c ∈ blanks) ∧ (after ≠ [] → Closed blanks .quotes t) := by
  have hself : kept blanks .quotes none t = t :=
    kept_of_forall_not_mem (fun c hc hblank => ht c hc (isWhiteSpace_of_mem_blanks hblank)) none
  rw [kept_append, hself] at h
  rcases kept_eq_nil (List.append_cancel_left (h.trans (List.append_nil t).symm)) with
    rfl | ⟨hclosed, hblanks⟩
  · simp
  · exact ⟨hblanks, fun _ => hclosed⟩

end Directive

/-- Where a text has the tokens of its beginning and one more, this one is what is kept of the
rest. -/
theorem kept_of_tokens_eq {head rest word : Text}
    (h : tokens (head ++ rest) = tokens head ++ [word]) :
    kept blanks .quotes (openAfter blanks .quotes none head) rest = word := by
  have hflat := congrArg List.flatten h
  unfold tokens at hflat
  rw [List.flatten_append, flatten_split, flatten_split, kept_append,
    List.flatten_singleton] at hflat
  exact List.append_cancel_left hflat

/-- A query with a directive consists of the rest, a gap, the directive and what follows it.  The
directive is the last token, after the tokens of the rest, exactly where the rest closes its
quotations, gap and end are blanks, and a directive with blanks after it closes its own. -/
theorem tokens_takeFrom {query head : Text} {d : SortDirective}
    (h : SortDirective.takeFrom query = (head, some d)) :
    ∃ gap after, query = head ++ gap ++ d.text ++ after ∧
      (∀ c ∈ gap ++ after, isWhiteSpace c) ∧ (∀ c ∈ d.text, ¬ isWhiteSpace c) ∧
      (tokens query = tokens head ++ [d.text] ↔
        Closed blanks .quotes head ∧ (∀ c ∈ gap ++ after, c ∈ blanks) ∧
          (after ≠ [] → Closed blanks .quotes d.text)) := by
  obtain ⟨gap, after, rfl, hgap, hword, hafter⟩ := SortDirective.takeFrom_eq_some h
  have haround : ∀ c ∈ gap ++ after, isWhiteSpace c := by
    rcases hgap with ⟨-, rfl⟩ | ⟨w, rfl, hw⟩
    · exact hafter
    · exact List.forall_mem_cons.2 ⟨hw, hafter⟩
  refine ⟨gap, after, rfl, haround, hword, ?_, ?_⟩
  · intro htokens
    -- The characters that are kept of either side are the same, so the gap is none of them.
    rw [List.append_assoc, List.append_assoc] at htokens
    have hkept := kept_of_tokens_eq htokens
    rcases hgap with ⟨rfl, rfl⟩ | ⟨w, rfl, hw⟩
    · obtain ⟨hblanks, hclosed⟩ := blanks_of_kept_append hword hkept
      exact ⟨rfl, hblanks, hclosed⟩
    · by_cases hcut : openAfter blanks .quotes none head = none ∧ w ∈ blanks
      · obtain ⟨hhead, hblank⟩ := hcut
        rw [hhead, List.singleton_append, kept_cons_separator hblank] at hkept
        obtain ⟨hblanks, hclosed⟩ := blanks_of_kept_append hword hkept
        exact ⟨hhead, List.forall_mem_cons.2 ⟨hblank, hblanks⟩, hclosed⟩
      · obtain ⟨o, hcons⟩ := kept_cons (d := .quotes) hcut (d.text ++ after)
        rw [List.singleton_append, hcons] at hkept
        exact absurd hw (hword w (hkept ▸ List.mem_cons_self))
  · rintro ⟨hhead, hblanks, hclosed⟩
    have hlast : tokens (d.text ++ after) = [d.text] :=
      tokens_append_blanks hword d.text_ne_nil (fun c hc => hblanks c (by simp [hc])) hclosed
    rcases hgap with ⟨rfl, rfl⟩ | ⟨w, rfl, -⟩
    · exact hlast
    · have hcut : tokens (head ++ w :: (d.text ++ after)) =
          tokens head ++ tokens (d.text ++ after) :=
        split_append_cons hhead (hblanks w (by simp)) false _
      rw [← hlast, ← hcut]
      simp

/-- A quotation before the directive that is closed, and a line end after it. -/
theorem tokens_takeFrom_closed_quotation :
    let query := "\x27b c\x27 a::desc\n".toList
    let head := "\x27b c\x27".toList
    let d : SortDirective := ⟨['a'], true⟩
    SortDirective.takeFrom query = (head, some d) ∧ tokens query = tokens head ++ [d.text] ∧
      ∃ gap after, query = head ++ gap ++ d.text ++ after ∧ Closed blanks .quotes head ∧
        (∀ c ∈ gap ++ after, c ∈ blanks) ∧ (after ≠ [] → Closed blanks .quotes d.text) := by
  intro query head d
  have hquery : SortDirective.takeFrom query = (head, some d) := by decide
  have htokens : tokens query = tokens head ++ [d.text] := by decide
  obtain ⟨gap, after, hparts, -, -, hiff⟩ := tokens_takeFrom hquery
  exact ⟨hquery, htokens, gap, after, hparts, hiff.1 htokens⟩

/-- The last white space of a query may stand in a quotation: then its one token is cut in two. -/
theorem not_tokens_takeFrom :
    ¬ ∀ (query head : Text) (d : SortDirective), SortDirective.takeFrom query = (head, some d) →
      tokens query = tokens head ++ [d.text] := by
  intro h
  have htake : SortDirective.takeFrom "\x22a b\x22::desc".toList =
      ("\x22a".toList, some ⟨"b\x22".toList, true⟩) := by decide
  exact absurd (h _ _ _ htake) (by decide)

end Query

end RecordFilter
