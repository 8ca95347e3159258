import RecordFilter.Proofs.Search.Conjunction
import RecordFilter.Proofs.Search.Outcome

/-!
# One more alternative

Two groups of a sub-query ask for one of several things: its additive conditions, and the pieces of
its free text.  Where a group has a member, another member is one more alternative, and what matched
before goes on to match (`isMatch_widened`).  The first member of a group is none: it makes a group
that asks for nothing ask for something.
-/

namespace RecordFilter

/-- Free text that is found is found among more pieces, unless it asks for nothing. -/
theorem Condition.holds_freeText_append {o : Options} {s : Subject} {key : Text}
    {pieces : List Text} (hsome : ∃ t ∈ pieces, t ≠ [])
    (h : Holds o s (.freeText key pieces)) (more : List Text) :
    Holds o s (.freeText key (pieces ++ more)) := by
  rcases h with hnone | ⟨a, ha, hout⟩
  · obtain ⟨t, ht, hne⟩ := hsome
    have hempty := List.filter_eq_nil_iff.1 (List.map_eq_nil_iff.1 hnone) t ht
    simp [hne] at hempty
  · refine .inr ⟨a, ?_, hout⟩
    show a ∈ ((pieces ++ more).filter (!·.isEmpty)).map Argument.freeText
    rw [List.filter_append, List.map_append]
    exact List.mem_append_left _ ha

namespace Query

/-- The pieces of free text are searched for one by one, unless they are joined. -/
theorem phrases_of_separate {o : Options} (ho : o.onePhrase = false) (pieces : List Text) :
    phrases o pieces = pieces.filter (!·.isEmpty) := by
  simp [phrases, ho]

/-- An additive condition beside another one is not asked for. -/
theorem conditionsHold_insert_additive {o : Options} {s : Subject} {c : Condition}
    (hc : c.polarity = .additive) {before after : List Condition}
    (hsome : ∃ d ∈ before ++ after, d.polarity = .additive)
    (h : conditionsHold o s (before ++ after) = true) :
    conditionsHold o s (before ++ c :: after) = true := by
  rw [conditionsHold_iff] at h ⊢
  obtain ⟨hrequired, hadditive⟩ := h
  have hmem : ∀ {d}, d ∈ before ++ after → d ∈ before ++ c :: after := by
    intro d hd
    rcases List.mem_append.1 hd with hd | hd
    · exact List.mem_append_left _ hd
    · exact List.mem_append_right _ (List.mem_cons_of_mem c hd)
  constructor
  · intro d hd hne
    rcases List.mem_append.1 hd with hd | hd
    · exact hrequired d (List.mem_append_left _ hd) hne
    · rcases List.mem_cons.1 hd with rfl | hd
      · exact absurd hc hne
      · exact hrequired d (List.mem_append_right _ hd) hne
  · intro _
    obtain ⟨d, hd, hadd, hholds⟩ := hadditive hsome
    exact ⟨d, hmem hd, hadd, hholds⟩

/-- The last condition of a sub-query may be put in place of one that asks for more. -/
theorem conditionsHold_last {o : Options} {s : Subject} {c d : Condition}
    (hc : c.polarity ≠ .additive) (hd : d.polarity ≠ .additive) (hcd : c.Holds o s → d.Holds o s)
    {before : List Condition} (h : conditionsHold o s (before ++ [c]) = true) :
    conditionsHold o s (before ++ [d]) = true := by
  rw [conditionsHold_insert o s hc, Bool.and_eq_true, Condition.isMatch_iff] at h
  rw [conditionsHold_insert o s hd, Bool.and_eq_true, Condition.isMatch_iff]
  exact ⟨hcd h.1, h.2⟩

theorem polarity_writtenCondition_additive (o : Options) {key : Text}
    (hkey : key.head? = some '+') (args : Text) :
    (writtenCondition o (key, args)).polarity = .additive := by
  obtain ⟨bare, rfl⟩ := List.head?_eq_some_iff.1 hkey
  rfl

section Run

variable {o : Options} (ho : o.WithoutRules) {s : Subject} {run : List Text}
  (h : conditionsHold o s (conditionsOfRun o run) = true) {t : Text}

include ho h

theorem conditionsHold_concat_additive {key args : Text}
    (hsome : ∃ c ∈ conditionsOfRun o run, c.polarity = .additive)
    (ht : Token.ofText t = .condition key args) (hkey : key.head? = some '+') :
    conditionsHold o s (conditionsOfRun o (run ++ [t])) = true := by
  obtain ⟨before, free, hrun, hlonger⟩ := conditionsOfRun_concat ho ht run
  rw [hrun] at h hsome
  rw [hlonger]
  exact conditionsHold_insert_additive (polarity_writtenCondition_additive o hkey args) hsome h

theorem conditionsHold_concat_freeText (hphrase : o.onePhrase = false)
    (hsome : ∃ u ∈ run, ∃ piece, Token.ofText u = .freeText piece ∧ piece ≠ []) {piece : Text}
    (ht : Token.ofText t = .freeText piece) :
    conditionsHold o s (conditionsOfRun o (run ++ [t])) = true := by
  obtain ⟨before, hrun, hlonger⟩ := conditionsOfRun_concat_freeText ho ht run
  have hpieces : ∃ p ∈ phrases o (freeTextOfRun o run), p ≠ [] := by
    obtain ⟨u, hu, p, hp, hne⟩ := hsome
    refine ⟨p, ?_, hne⟩
    rw [phrases_of_separate hphrase, freeTextOfRun_of_withoutRules ho]
    refine List.mem_filter.2 ⟨?_, by simpa using hne⟩
    refine List.mem_filterMap.2 ⟨.freeText p, ?_, rfl⟩
    exact hp ▸ List.mem_map_of_mem hu
  have hjoined : phrases o (freeTextOfRun o run ++ [piece]) =
      phrases o (freeTextOfRun o run) ++ phrases o [piece] := by
    rw [phrases_of_separate hphrase, phrases_of_separate hphrase, phrases_of_separate hphrase,
      List.filter_append]
  rw [hrun] at h
  rw [hlonger, hjoined]
  exact conditionsHold_last Polarity.noConfusion Polarity.noConfusion
    (fun hfree => Condition.holds_freeText_append hpieces hfree _) h

end Run

/-- A token after a query that closes its quotations, and does not end in a bar, joins the last
sub-query.  What that sub-query said goes on to hold, where the token takes nothing from it. -/
theorem isMatch_append_token {o : Options} {q part c t : Text} (hq : Closed blanks .quotes q)
    (hlast : (tokens q).getLast? ≠ some bar) (hpart : (subQueries q).getLast? = some part)
    (htoken : tokens c = [t]) (ht : t ≠ bar) {s : Subject}
    (hrun : conditionsHold o s (conditionsOfRun o (tokens part)) = true →
      conditionsHold o s (conditionsOfRun o (tokens part ++ [t])) = true)
    (hmatch : isMatch o q s = true) : isMatch o (q ++ [' '] ++ c) s = true := by
  have hruns : (runsOf (tokens q)).getLast? = some (tokens part) := by
    rw [← tokenRuns_eq, ← map_tokens_subQueries, List.getLast?_map, hpart]
    rfl
  rw [List.append_assoc, List.singleton_append]
  rw [isMatch_eq] at hmatch ⊢
  rw [tokens_append_blank hq, htoken]
  rcases runsOf_concat (tokens q) ht with ⟨hbar, -⟩ | ⟨front, run, heq, hlonger⟩
  · cases htokens : (tokens q).getLast? with
    | none =>
      rw [List.getLast?_eq_none_iff] at htokens
      rw [htokens, runsOf_nil] at hruns
      cases hruns
    | some u => exact absurd (htokens.trans (congrArg some (hbar u htokens))) hlast
  · rw [heq, List.getLast?_concat, Option.some.injEq] at hruns
    rw [heq, List.all_append, Bool.and_eq_true, List.all_cons, List.all_nil, Bool.and_true,
      hruns] at hmatch
    rw [hlonger, List.all_append, Bool.and_eq_true, List.all_cons, List.all_nil, Bool.and_true,
      hruns]
    exact ⟨hmatch.1, hrun hmatch.2⟩

/-- Alternatives only widen.  Where no rules are registered and free text is searched for piece by
piece, take a query that closes its quotations, does not end in a bar and matches.  It goes on to
match with an additive condition more if its last sub-query has one already, and with a piece of
free text more if its last sub-query has one already that is not empty. -/
theorem isMatch_widened {o : Options} (ho : o.WithoutRules) (hphrase : o.onePhrase = false)
    {q part : Text} (hq : Closed blanks .quotes q) (hlast : (tokens q).getLast? ≠ some bar)
    (hpart : (subQueries q).getLast? = some part) {s : Subject} (hmatch : isMatch o q s = true) :
    ((∃ c ∈ (conditionsOfPart o part).value, c.polarity = .additive) →
        ∀ c t key args, tokens c = [t] → Token.ofText t = .condition key args →
          key.head? = some '+' → isMatch o (q ++ [' '] ++ c) s = true) ∧
      ((∃ u ∈ tokens part, ∃ piece, Token.ofText u = .freeText piece ∧ piece ≠ []) →
        ∀ c t piece, tokens c = [t] → Token.ofText t = .freeText piece → t ≠ bar →
          isMatch o (q ++ [' '] ++ c) s = true) := by
  constructor
  · intro hsome c t key args htoken ht hkey
    rw [value_conditionsOfPart] at hsome
    have hbar : t ≠ bar := by
      rintro rfl
      cases ht
    exact isMatch_append_token hq hlast hpart htoken hbar
      (fun hrun => conditionsHold_concat_additive ho hrun hsome ht hkey) hmatch
  · intro hsome c t piece htoken ht hbar
    exact isMatch_append_token hq hlast hpart htoken hbar
      (fun hrun => conditionsHold_concat_freeText ho hrun hphrase hsome ht) hmatch

/-- After a bar, a further additive condition beside one that holds, and further free text beside
the empty piece and one that is found; neither closes its quotation. -/
theorem isMatch_widened_unclosed :
    let q := "-z:1 | +k:'a b' \"\" f".toList
    let part := "+k:'a b' \"\" f".toList
    let condition := "+m:\"c | d".toList
    let freeText := "'g | h".toList
    let s := Subject.ofRecord (.object
      [("haystack".toList, .string "off".toList), ("k".toList, .string "a b".toList)])
    Closed blanks .quotes q ∧ (tokens q).getLast? ≠ some bar ∧
      (subQueries q).getLast? = some part ∧ isMatch {} q s = true ∧
      isMatch {} (q ++ [' '] ++ condition) s = true ∧
      isMatch {} (q ++ [' '] ++ freeText) s = true := by
  intro q part condition freeText s
  have hclosed : Closed blanks .quotes q := by decide
  have hlast : (tokens q).getLast? ≠ some bar := by decide
  have hpart : (subQueries q).getLast? = some part := by decide
  have hmatch : isMatch {} q s = true := by decide
  obtain ⟨hcondition, hfreeText⟩ :=
    isMatch_widened (o := {}) ⟨rfl, rfl⟩ rfl hclosed hlast hpart hmatch
  refine ⟨hclosed, hlast, hpart, hmatch, ?_, ?_⟩
  · apply hcondition
    · refine ⟨⟨.additive, ['k'], .any, [.parse "a b".toList]⟩, ?_, rfl⟩
      exact List.mem_cons_self
    · show tokens condition = [condition]
      decide
    · show Token.ofText condition = .condition "+m".toList "\"c | d".toList
      decide
    · rfl
  · apply hfreeText
    · exact ⟨['f'], by decide, ['f'], by decide, by decide⟩
    · show tokens freeText = [freeText]
      decide
    · show Token.ofText freeText = .freeText freeText
      decide
    · decide

end Query

end RecordFilter
