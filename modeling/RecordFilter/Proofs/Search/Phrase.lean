import RecordFilter.Proofs.Search.Alternatives
import RecordFilter.Proofs.Search.LetterCase
import RecordFilter.Proofs.Text.Joined

/-!
# Free text as one phrase

Where all free text is one phrase, its pieces are joined by single spaces and the whole is searched
for.  Each piece stands in the phrase, also when both are put in lower case, so what contains the
phrase contains every piece (`Argument.outcome_of_phrase`).  A query therefore matches no more than
where the pieces are alternatives, and what it matches has them all (`Query.isMatch_onePhrase`).
-/

namespace RecordFilter

/-- Options under which all free text is one phrase, or its pieces are alternatives. -/
def Options.withOnePhrase (o : Options) (joined : Bool) : Options :=
  { o with onePhrase := joined }

namespace Json

/-- The text of a value that free text is searched for in. -/
def searchedText? : Json → Option Text
  | .string t => some t
  | .number n => some n.text
  | _ => none

theorem caseFolded_intercalate (folded : Bool) (ts : List Text) :
    caseFolded folded ([' '].intercalate ts) =
      [' '].intercalate (ts.map (caseFolded folded)) := by
  cases folded with
  | true => exact Text.lowerCase_intercalate ts
  | false =>
    have hsame : caseFolded false = id := rfl
    rw [hsame, List.map_id]
    rfl

theorem caseFolded_eq_nil {folded : Bool} {t : Text} : caseFolded folded t = [] ↔ t = [] := by
  cases folded with
  | true => exact Text.lowerCase_eq_nil
  | false => simp [caseFolded]

/-- A text is found in the text of a value, and in no value that has none. -/
theorem containsText_caseFolded_iff {t : Text} (hne : t ≠ []) (folded : Bool) (value : Json) :
    value.containsText folded (caseFolded folded t) = true ↔
      ∃ text, value.searchedText? = some text ∧
        caseFolded folded t <:+: caseFolded folded text := by
  have hneedle : (!(caseFolded folded t).isEmpty) = true := by
    simpa [caseFolded_eq_nil] using hne
  unfold containsText
  rw [hneedle, Bool.true_and]
  cases value with
  | string s => simp [searchedText?, Text.occursIn_iff]
  | number n =>
    -- The text of a number is searched as it is, but it is in lower case already.
    have hlower : caseFolded folded n.text = n.text := by
      cases folded with
      | true => exact Text.lowerCase_of_isLower fun c hc => isLower_of_mem_text hc
      | false => rfl
    simp [searchedText?, Text.occursIn_iff, hlower]
  | _ => simp [searchedText?]

end Json

/-- A piece of free text is found where the text of the field's value contains it. -/
theorem Argument.outcome_freeText_caseFolded_iff (o : Options) (s : Subject) (key : Text)
    {piece : Text} (hne : piece ≠ []) :
    (freeText piece).outcome o s key = true ↔
      ∃ value text, s.dig key = some value ∧ value.searchedText? = some text ∧
        Json.caseFolded o.ignoreCase piece <:+: Json.caseFolded o.ignoreCase text := by
  cases hdig : s.dig key with
  | none => simp [outcome_of_absent hdig]
  | some value =>
    rw [outcome_eq_containsText o hdig (.inl rfl)]
    simp [freeText, Json.containsText_caseFolded_iff hne]

/-- What contains a phrase contains each of its pieces. -/
theorem Argument.outcome_of_phrase {o : Options} {s : Subject} {key : Text} {pieces : List Text}
    (h : (freeText ([' '].intercalate pieces)).outcome o s key = true) {piece : Text}
    (hpiece : piece ∈ pieces) (hne : piece ≠ []) : (freeText piece).outcome o s key = true := by
  rw [outcome_freeText_caseFolded_iff o s key (Text.intercalate_ne_nil hpiece hne)] at h
  rw [outcome_freeText_caseFolded_iff o s key hne]
  obtain ⟨value, text, hdig, htext, hin⟩ := h
  refine ⟨value, text, hdig, htext, ?_⟩
  rw [Json.caseFolded_intercalate] at hin
  apply List.IsInfix.trans _ hin
  apply Text.infix_intercalate
  exact List.mem_map_of_mem hpiece

/-- The condition for free text holds where there is none, or a piece is found. -/
theorem Condition.holds_freeText_pieces_iff {o : Options} {s : Subject} {key : Text}
    {pieces : List Text} :
    Holds o s (.freeText key pieces) ↔ (∀ t ∈ pieces, t = []) ∨
      ∃ t ∈ pieces, t ≠ [] ∧ (Argument.freeText t).outcome o s key = true := by
  simp [Holds, freeText, List.filter_eq_nil_iff, and_assoc]

namespace Query

/-- More than one piece of free text makes a phrase. -/
theorem phrases_of_joined {o : Options} (ho : o.onePhrase = true) (pieces : List Text) :
    phrases o pieces =
      if 1 < (pieces.filter (!·.isEmpty)).length then
        [[' '].intercalate (pieces.filter (!·.isEmpty))]
      else pieces.filter (!·.isEmpty) := by
  simp [phrases, ho]

section Run

variable {o : Options} {s : Subject} {key : Text} {pieces : List Text}

/-- Where free text is found as one phrase, each of its pieces is found. -/
theorem outcome_of_holds_phrases (ho : o.onePhrase = true)
    (h : Condition.Holds o s (.freeText key (phrases o pieces))) {piece : Text}
    (hpiece : piece ∈ pieces) (hne : piece ≠ []) :
    (Argument.freeText piece).outcome o s key = true := by
  have hkept : piece ∈ pieces.filter (!·.isEmpty) := by simpa [hne] using hpiece
  rw [Condition.holds_freeText_pieces_iff, phrases_of_joined ho] at h
  by_cases hmany : 1 < (pieces.filter (!·.isEmpty)).length
  · rw [if_pos hmany] at h
    have hphrase : [' '].intercalate (pieces.filter (!·.isEmpty)) ≠ [] :=
      Text.intercalate_ne_nil hkept hne
    apply Argument.outcome_of_phrase _ hkept hne
    simpa [hphrase] using h
  · have hpos := List.length_pos_of_mem hkept
    obtain ⟨only, honly⟩ : ∃ only, pieces.filter (!·.isEmpty) = [only] := by
      apply List.length_eq_one_iff.1
      omega
    rw [honly] at hkept
    rw [if_neg hmany, honly, ← List.mem_singleton.1 hkept] at h
    simpa [hne] using h

/-- Free text whose pieces are all found is found where they are alternatives. -/
theorem holds_phrases_of_separate (ho : o.onePhrase = false)
    (h : ∀ piece ∈ pieces, piece ≠ [] → (Argument.freeText piece).outcome o s key = true) :
    Condition.Holds o s (.freeText key (phrases o pieces)) := by
  rw [Condition.holds_freeText_pieces_iff, phrases_of_separate ho]
  by_cases hempty : ∀ t ∈ pieces.filter (!·.isEmpty), t = []
  · exact .inl hempty
  · right
    simp only [not_forall] at hempty
    obtain ⟨t, ht, hne⟩ := hempty
    exact ⟨t, ht, hne, h t (List.mem_filter.1 ht).1 hne⟩

end Run

/-- Searching free text as one phrase only narrows.  A query that matches where all its free text is
one phrase matches where the pieces are alternatives, whatever rules there are and whether or not
letter case counts; and then each piece that is not empty, of each of its sub-queries, is contained
in the text of the field for free text. -/
theorem isMatch_onePhrase {o : Options} {query : Text} {s : Subject}
    (h : isMatch (o.withOnePhrase true) query s = true) :
    isMatch (o.withOnePhrase false) query s = true ∧
      ∀ part ∈ subQueries query, ∀ t ∈ freeTextOfRun o (tokens part), t ≠ [] →
        ∃ value text, s.dig o.haystackKey = some value ∧ value.searchedText? = some text ∧
          Json.caseFolded o.ignoreCase t <:+: Json.caseFolded o.ignoreCase text := by
  -- Of the conditions of a run the last alone depends on whether free text is joined.
  have hrun : ∀ joined run, conditionsOfRun (o.withOnePhrase joined) run =
      (compiledOfRun o run).map (·.1) ++
        [.freeText o.haystackKey (phrases (o.withOnePhrase joined) (freeTextOfRun o run))] :=
    fun _ _ => rfl
  have hfound : ∀ run ∈ runsOf (tokens query), ∀ t ∈ freeTextOfRun o run, t ≠ [] →
      (Argument.freeText t).outcome o s o.haystackKey = true := by
    intro run hmem t ht hne
    rw [isMatch_eq, List.all_eq_true] at h
    have hholds := h run hmem
    rw [hrun, conditionsHold_insert _ _ Polarity.noConfusion, Bool.and_eq_true,
      Condition.isMatch_iff] at hholds
    exact outcome_of_holds_phrases rfl hholds.1 ht hne
  constructor
  · rw [isMatch_eq, List.all_eq_true] at h ⊢
    intro run hmem
    have hholds := h run hmem
    rw [hrun] at hholds ⊢
    apply conditionsHold_last Polarity.noConfusion Polarity.noConfusion _ hholds
    intro _
    apply holds_phrases_of_separate rfl
    exact hfound run hmem
  · intro part hpart t ht hne
    rw [← Argument.outcome_freeText_caseFolded_iff o s _ hne]
    apply hfound _ _ t ht hne
    rw [← tokenRuns_eq, ← map_tokens_subQueries]
    exact List.mem_map_of_mem hpart

/-- A piece that a rule adds, where letter case is ignored: in the phrase the sigma that ends the
first piece stands before a letter, with a space between them. -/
theorem isMatch_onePhrase_sigma :
    let rule : ConditionRule := ⟨fun key args => some ⟨key, args, [['Α'], []]⟩⟩
    let o : Options := { conditionRules := [(['k'], rule)], ignoreCase := true }
    let query := "k:? ΑΣ".toList
    let s := Subject.ofRecord (.object
      [("haystack".toList, .string ['x', 'α', 'ς', ' ', 'α', 'x']), (['k'], .bool false)])
    freeTextOfRun o (tokens query) = [['Α', 'Σ'], ['Α'], []] ∧
      isMatch (o.withOnePhrase true) query s = true ∧
      isMatch (o.withOnePhrase false) query s = true := by
  intro rule o query s
  have hconditions : (conditions (o.withOnePhrase true) query).value =
      [[⟨.including, ['k'], .any, [.parse ['?']]⟩,
        ⟨.including, defaultHaystackKey, .any, [.freeText ['Α', 'Σ', ' ', 'Α']]⟩]] := by rfl
  have hpresent : Condition.isMatch (o.withOnePhrase true) s
      ⟨.including, ['k'], .any, [.parse ['?']]⟩ = true := by decide +kernel
  have hphrase : Condition.isMatch (o.withOnePhrase true) s
      ⟨.including, defaultHaystackKey, .any, [.freeText ['Α', 'Σ', ' ', 'Α']]⟩ = true := by
    have halpha : Text.lowerCase ['Α'] = ['α'] := by
      simp [Text.lowerCase, Text.lowerAfter, lowerChar_alpha]
    have hneedle : Text.lowerCase ['Α', 'Σ', ' ', 'Α'] = ['α', 'ς', ' ', 'α'] := by
      have hjoined := Text.lowerCase_append_space ['Α', 'Σ'] ['Α']
      rwa [lowerCase_alpha_sigma, halpha] at hjoined
    have htext : Text.lowerCase ['x', 'α', 'ς', ' ', 'α', 'x'] =
        ['x', 'α', 'ς', ' ', 'α', 'x'] := by
      have hlower : IsLower 'x' ∧ IsLower 'α' ∧ IsLower 'ς' := by decide +kernel
      apply Text.lowerCase_of_isLower
      simp [hlower, Text.isLower_space]
    rw [Condition.isMatch_iff]
    refine .inr ⟨_, List.mem_cons_self, ?_⟩
    have hfound : (Argument.freeText ['Α', 'Σ', ' ', 'Α']).outcome (o.withOnePhrase true) s
        defaultHaystackKey = true := by
      rw [Argument.outcome_freeText_caseFolded_iff _ _ _ (List.cons_ne_nil _ _)]
      refine ⟨.string ['x', 'α', 'ς', ' ', 'α', 'x'], _, rfl, rfl, ?_⟩
      show Text.lowerCase _ <:+: Text.lowerCase _
      rw [hneedle, htext]
      exact ⟨['x'], ['x'], rfl⟩
    simp [hfound]
  have hmatch : isMatch (o.withOnePhrase true) query s = true := by
    rw [isMatch_eq_all, hconditions]
    simp [conditionsHold, hpresent, hphrase]
  exact ⟨rfl, hmatch, (isMatch_onePhrase hmatch).1⟩

end Query

end RecordFilter
