import RecordFilter.Proofs.Query.ConditionText

/-!
# Quotations

A text between quotation marks is taken as it is, whatever stands in it but its own mark: bars,
colons, commas, brackets, blanks, backslashes and other marks mean nothing there.  Quotations with
spaces between them are free text (`conditionsOfRun_quotations`); after a key, with commas between
them, they are its arguments (`conditionsOfRun_quotedArguments`).
-/

namespace RecordFilter

/-- A text between quotation marks that do not stand in it. -/
structure Quotation where
  mark : Char
  inside : Text
  isMark : isQuote mark
  nonempty : inside ≠ []
  unmarked : mark ∉ inside

namespace Quotation

/-- A quotation as it stands in a query. -/
def text (q : Quotation) : Text :=
  q.mark :: q.inside ++ [q.mark]

theorem mark_not_mem (q : Quotation) {cs : List Char} (h : cs.any isQuote = false) : q.mark ∉ cs :=
  fun hmem => List.any_eq_false.1 h q.mark hmem q.isMark

theorem mark_ne (q : Quotation) {c : Char} (h : ¬ isQuote c) : q.mark ≠ c :=
  fun heq => h (heq ▸ q.isMark)

theorem stays_blanks (q : Quotation) : Stays Query.blanks .quotes q.text q.inside :=
  stays_quoted q.isMark (q.mark_not_mem (by decide)) q.unmarked q.nonempty

theorem stays_comma (q : Quotation) : Stays [','] .all q.text q.inside :=
  stays_quoted q.isMark (q.mark_not_mem (by decide)) q.unmarked q.nonempty

theorem freeStanding_text (q : Quotation) : Query.FreeStanding q.text where
  nonempty := List.cons_ne_nil _ _
  unbroken := q.stays_blanks.whole.unbroken
  closed := q.stays_blanks.whole.closed
  ne_bar := fun hbar => q.mark_ne (by decide) (List.cons.inj hbar).1

/-- A quotation by itself is free text: what stands inside, colons and backslashes included. -/
theorem ofText_text (q : Quotation) : Token.ofText q.text = .freeText q.inside := by
  have hcut : Token.cutKey? false q.text = none := by
    rw [text, List.cons_append, Token.cutKey?, if_neg (q.mark_ne (by decide)), if_pos q.isMark]
  have hunquoted : Token.unquoted? q.text = some q.inside := by
    rw [text, List.cons_append, Token.unquoted?, List.getLast?_concat, List.dropLast_concat,
      if_pos ⟨q.isMark, rfl⟩]
  rw [Token.ofText, hcut, Token.plainText, hunquoted]
  rfl

theorem insides_nonempty (qs : List Quotation) : ∀ t ∈ qs.map (·.inside), t ≠ [] := by
  rw [List.forall_mem_map]
  exact fun q _ => q.nonempty

end Quotation

/-- A key that stands in a query as it is: it does not name the field for free text, begins with no
sign, and none of its characters has a meaning of its own. -/
structure BareKey (key : Text) : Prop where
  named : key ≠ [] ∧ key ≠ ['_']
  unsigned : key.head? ≠ some '-' ∧ key.head? ≠ some '+'
  plain : ∀ c ∈ key, c ≠ ':' ∧ c ≠ '\\' ∧ ¬ isQuote c ∧ c ∉ Query.blanks

namespace BareKey

variable {key : Text} (h : BareKey key)

include h

theorem whole : Whole Query.blanks .quotes key := by
  refine (stays_plain (fun c hc => ?_) h.named.1).whole
  obtain ⟨-, -, hquote, hblank⟩ := h.plain c hc
  exact ⟨hblank, by simp [Delimiters.closing?, hquote]⟩

theorem colon_not_mem : ':' ∉ key := fun hmem => (h.plain ':' hmem).1 rfl

theorem splitKey_eq : Polarity.splitKey key = (.including, key) := by
  unfold Polarity.splitKey
  split
  · exact absurd rfl h.unsigned.1
  · exact absurd rfl h.unsigned.2
  · rfl

/-- A key and what stays together behind a colon make a token. -/
theorem freeStanding {args : Text} (hargs : Whole Query.blanks .quotes args) :
    Query.FreeStanding (key ++ ':' :: args) := by
  have hcolon : Whole Query.blanks .quotes [':'] := by decide
  exact Query.freeStanding_of_colon_mem (h.whole.append (hcolon.append hargs)) (by simp)

end BareKey

/-- The first colon after a text without colons, backslashes and quotation marks ends a key. -/
theorem Token.cutKey?_append_colon {key : Text}
    (h : ∀ c ∈ key, c ≠ ':' ∧ c ≠ '\\' ∧ ¬ isQuote c) (rest : Text) :
    cutKey? false (key ++ ':' :: rest) = some (key, rest) := by
  induction key with
  | nil => simp [cutKey?]
  | cons c key ih =>
    obtain ⟨⟨hcolon, hbackslash, hquote⟩, hkey⟩ := List.forall_mem_cons.1 h
    simp [cutKey?, hcolon, hbackslash, hquote, ih hkey]

theorem BareKey.plainKey {key : Text} (h : BareKey key) : PlainKey key where
  cut := Token.cutKey?_append_colon (fun c hc =>
    ⟨(h.plain c hc).1, (h.plain c hc).2.1, (h.plain c hc).2.2.1⟩) []
  sign := h.splitKey_eq
  unbroken := h.whole.unbroken

namespace Combination

/-- The words and signs for a combination. -/
def words : List Text :=
  [['o', 'r'], ['|'], ['a', 'n', 'd'], ['&']]

theorem parse?_eq_none_iff {arg : Text} : parse? arg = none ↔ arg ∉ words := by
  have hwords : arg ∈ words ↔
      (arg = ['o', 'r'] ∨ arg = ['|']) ∨ arg = ['a', 'n', 'd'] ∨ arg = ['&'] := by
    simp [words, or_assoc]
  rw [hwords, parse?]
  split
  · next hany => simp [hany]
  · next hany =>
    rw [or_iff_right hany]
    split
    · next hall => simp [hall]
    · next hall => simp [hall]

end Combination

namespace Query

/-- The query of quotations with spaces between them. -/
def ofQuotations (qs : List Quotation) : Text :=
  [' '].intercalate (qs.map Quotation.text)

/-- The query of a key with quotations for its arguments. -/
def ofQuotedArguments (key : Text) (qs : List Quotation) : Text :=
  key ++ ':' :: [','].intercalate (qs.map Quotation.text)

theorem tokenRuns_ofQuotations {qs : List Quotation} (hqs : qs ≠ []) :
    tokenRuns (ofQuotations qs) = [qs.map Quotation.text] := by
  have hruns : ofRuns [qs.map Quotation.text] = ofQuotations qs := List.intercalate_singleton
  rw [← hruns]
  refine tokenRuns_ofRuns ?_ ?_
  · simpa using hqs
  · intro run hrun t ht
    rw [List.mem_singleton.1 hrun] at ht
    obtain ⟨q, -, rfl⟩ := List.mem_map.1 ht
    exact q.freeStanding_text

theorem freeStanding_ofQuotedArguments {key : Text} (hkey : BareKey key) (qs : List Quotation) :
    FreeStanding (ofQuotedArguments key qs) := by
  apply hkey.freeStanding
  refine whole_intercalate (by decide) fun t ht => ?_
  obtain ⟨q, -, rfl⟩ := List.mem_map.1 ht
  exact q.stays_blanks.whole

theorem tokenRuns_ofQuotedArguments {key : Text} (hkey : BareKey key) (qs : List Quotation) :
    tokenRuns (ofQuotedArguments key qs) = [[ofQuotedArguments key qs]] :=
  tokenRuns_of_freeStanding (freeStanding_ofQuotedArguments hkey qs)

section WithoutRules

variable {o : Options} (ho : o.WithoutRules)

include ho

/-- Quotations ask for what stands inside, each for itself. -/
theorem conditionsOfRun_quotations (hphrase : o.onePhrase = false) (qs : List Quotation) :
    conditionsOfRun o (qs.map Quotation.text) =
      [⟨.including, o.haystackKey, .any, qs.map fun q => .freeText q.inside⟩] := by
  have htokens : (qs.map Quotation.text).map Token.ofText =
      (qs.map (·.inside)).map .freeText := by
    rw [List.map_map, List.map_map]
    exact List.map_congr_left fun q _ => q.ofText_text
  have hall := filter_nonempty (Quotation.insides_nonempty qs)
  have hphrases : phrases o (qs.map (·.inside)) = qs.map (·.inside) := by
    simp [phrases, hphrase, hall]
  rw [conditionsOfRun_of_withoutRules ho, htokens, Token.filterMap_condition?_freeText,
    Token.filterMap_freeText?_freeText, hphrases, Condition.freeText, hall, List.map_map,
    List.map_nil, List.nil_append]
  rfl

/-- Quoted arguments are read as what stands inside. -/
theorem conditionsOfRun_quotedArguments {key : Text} (hkey : BareKey key) {qs : List Quotation}
    (hfirst : ∀ q ∈ qs.head?, q.inside ∉ Combination.words) :
    conditionsOfRun o [ofQuotedArguments key qs] =
      [⟨.including, key, .any, qs.map fun q => .parse q.inside⟩,
        ⟨.including, o.haystackKey, .any, []⟩] := by
  have htoken : Token.ofText (ofQuotedArguments key qs) =
      .condition key ([','].intercalate (qs.map Quotation.text)) :=
    (hkey.plainKey.readsBack hkey.colon_not_mem .including).token _
  have harguments : split [','] .all true ([','].intercalate (qs.map Quotation.text)) =
      qs.map (·.inside) :=
    split_true_intercalate (by decide) fun q _ => q.stays_comma
  have hfield : Condition.fieldOf o.haystackKey key = key :=
    if_neg (not_or.2 hkey.named)
  have htake : Condition.takeCombination (qs.map (·.inside)) = (.any, qs.map (·.inside)) := by
    refine Condition.takeCombination_eq_any ?_
    rw [List.head?_map, Option.forall_mem_map]
    exact fun q hq => Combination.parse?_eq_none_iff.2 (hfirst q hq)
  have hwritten : writtenCondition o (key, [','].intercalate (qs.map Quotation.text)) =
      ⟨.including, key, .any, qs.map fun q => .parse q.inside⟩ := by
    rw [writtenCondition, hkey.splitKey_eq, harguments,
      Condition.compile_eq htake (Quotation.insides_nonempty qs), hfield, List.map_map]
    rfl
  rw [conditionsOfRun_condition htoken (value_compileCondition_of_withoutRules ho _), hwritten,
    phrases_nil]
  rfl

end WithoutRules

end Query

end RecordFilter
