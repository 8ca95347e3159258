import RecordFilter.Proofs.Number.Numerals
import RecordFilter.Proofs.Record.Path
import RecordFilter.Proofs.Search.FreeText
import RecordFilter.Proofs.Text.Settled

/-!
# Ignoring letter case

Where letter case is ignored, a query that only asks for things to be there goes on to find what it
finds where letter case counts (`isMatch_ignoringCase`), except for one thing.  The text searched
for and the text searched are put in lower case each by itself, and a capital sigma at the end of
the one may stand before a letter in the other.  So the search for a text that its neighbours can
change may be lost (`not_isMatch_ignoringCase`).
-/

namespace RecordFilter

/-- Options under which letter case is ignored, or counts. -/
def Options.ignoringCase (o : Options) (ignore : Bool) : Options :=
  { o with ignoreCase := ignore }

namespace Json

variable {v : Json} {l : Literal} {t : Text}

theorem equals_lowerCase (h : v.equals false l = true) : v.equals true l.lowerCase = true := by
  cases v with
  | string s =>
    cases l with
    | text t =>
      have hsame : s = t := eq_of_beq h
      exact beq_iff_eq.2 (congrArg Text.lowerCase hsame)
    | _ => exact h
  | _ => cases l <;> exact h

theorem equalsItem_lowerCase (h : equalsItem false l v = true) :
    equalsItem true l.lowerCase v = true := by
  cases l with
  | list items =>
    obtain ⟨item, hitem, heq⟩ := List.any_eq_true.1 h
    rw [Literal.lowerCase, Literal.lowerCaseAll_eq]
    exact List.any_eq_true.2 ⟨_, List.mem_map_of_mem hitem, equals_lowerCase heq⟩
  | _ => exact equals_lowerCase h

theorem isAmong_lowerCase (h : v.isAmong false l = true) : v.isAmong true l.lowerCase = true := by
  cases v with
  | array items =>
    obtain ⟨item, hitem, heq⟩ := List.any_eq_true.1 h
    exact List.any_eq_true.2 ⟨item, hitem, equalsItem_lowerCase heq⟩
  | _ => exact equalsItem_lowerCase h

theorem containsText_lowerCase (ht : t.Settled) (h : v.containsText false t = true) :
    v.containsText true (Text.lowerCase t) = true := by
  unfold containsText at h ⊢
  obtain ⟨hne, hfound⟩ := Bool.and_eq_true_iff.1 h
  refine Bool.and_eq_true_iff.2 ⟨?_, ?_⟩
  · simpa [Text.lowerCase_eq_nil] using hne
  · cases v with
    | string s => exact Text.occursIn_iff.2 (Text.lowerCase_infix ht (Text.occursIn_iff.1 hfound))
    | number n =>
      -- What stands in a number is in lower case already.
      have hlower : Text.lowerCase t = t := Text.lowerCase_of_isLower fun c hc =>
        isLower_of_mem_text ((Text.occursIn_iff.1 hfound).subset hc)
      rw [hlower]
      exact hfound
    | _ => simp at hfound

theorem holds?_lowerCase (ht : t.Settled) (h : v.holds? false l t = some true) :
    v.holds? true l.lowerCase (Text.lowerCase t) = some true := by
  cases v with
  | array items =>
    obtain ⟨item, hitem, heq⟩ := List.any_eq_true.1 (Option.some.inj h)
    exact congrArg some (List.any_eq_true.2 ⟨item, hitem, equals_lowerCase heq⟩)
  | string s =>
    have hfound := Text.occursIn_iff.1 (Option.some.inj h)
    exact congrArg some (Text.occursIn_iff.2 (Text.lowerCase_infix ht hfound))
  | _ => simp [holds?] at h

/-- Whether a value can hold something does not depend on what. -/
theorem holds?_eq_none (h : v.holds? false l t = none) (folded : Bool) (l' : Literal) (t' : Text) :
    v.holds? folded l' t' = none := by
  cases v with
  | array items => simp [holds?] at h
  | string s => simp [holds?] at h
  | _ => rfl

end Json

/-- The operators that ask for something to be there. -/
def Operator.searches : List Operator :=
  [unspecified, equal, containing, holds, among]

/-- The operators that look for text inside of text. -/
def Operator.lookInside : List Operator :=
  [unspecified, containing, holds]

namespace Test

variable {t : Test} {v : Json}

/-- A test made to ignore letter case. -/
def ignoringCase (t : Test) : Test :=
  { t with literal := t.literal.lowerCase, text := Text.lowerCase t.text, folded := true }

theorem operatorFor_of_searches (h : t.operator ∈ Operator.searches) (v : Json) :
    t.operatorFor v ∈ [.equal, .containing, .holds, .among] ∧
      (t.operatorFor v ∈ Operator.lookInside → t.operator ∈ Operator.lookInside) := by
  unfold operatorFor
  simp only [Operator.searches, List.mem_cons, List.not_mem_nil, or_false] at h
  rcases h with h | h | h | h | h
  all_goals
    rw [h]
    cases v <;> simp [Operator.lookInside]

/-- A test that is answered by yes where letter case counts is answered by yes where it is ignored,
and one without an answer there has none here. -/
theorem answer?_ignoringCase (hcounts : t.folded = false) {op : Operator}
    (hop : op ∈ [.equal, .containing, .holds, .among])
    (ht : op ∈ Operator.lookInside → t.text.Settled) :
    (t.answer? op v = some true → t.ignoringCase.answer? op v = some true) ∧
      (t.answer? op v = none → t.ignoringCase.answer? op v = none) := by
  obtain ⟨op', l, text, folded, pattern⟩ := t
  obtain rfl : folded = false := hcounts
  simp only [List.mem_cons, List.not_mem_nil, or_false] at hop
  rcases hop with rfl | rfl | rfl | rfl
  · refine ⟨fun h => congrArg some (Json.equals_lowerCase (Option.some.inj h)), fun h => ?_⟩
    exact absurd h (Option.some_ne_none _)
  · refine ⟨fun h => congrArg some ?_, fun h => absurd h (Option.some_ne_none _)⟩
    exact Json.containsText_lowerCase (ht (by decide)) (Option.some.inj h)
  · exact ⟨Json.holds?_lowerCase (ht (by decide)), fun h => Json.holds?_eq_none h _ _ _⟩
  · refine ⟨fun h => congrArg some (Json.isAmong_lowerCase (Option.some.inj h)), fun h => ?_⟩
    exact absurd h (Option.some_ne_none _)

theorem plain_of_ignoreCase {o : Options} {a : Argument} (ho : o.ignoreCase = true)
    (ha : ¬ a.operator.isPattern) :
    plain o a = ignoringCase ⟨a.operator, a.literal, a.raw, false, none⟩ := by
  rw [plain, if_neg ha, if_pos ho]
  rfl

theorem plain_of_not_ignoreCase {o : Options} {a : Argument} (ho : ¬ o.ignoreCase = true)
    (ha : ¬ a.operator.isPattern) : plain o a = ⟨a.operator, a.literal, a.raw, false, none⟩ := by
  rw [plain, if_neg ha, if_neg ho]

end Test

namespace Argument

variable {o : Options} {s : Subject} {key : Text} {a : Argument}

/-- An argument says nothing of a value that is absent, whatever its operator. -/
theorem outcome_of_absent (h : s.dig key = none) (a : Argument) : a.outcome o s key = false := by
  unfold outcome
  rw [h]

theorem outcome_eq_getD (o : Options) (a : Argument) {v : Json} (h : s.dig key = some v) :
    a.outcome o s key = ((Test.plain o a).answer? ((Test.plain o a).operatorFor v) v).getD
      o.faultPolicy.outcome := by
  unfold outcome Test.outcome
  rw [h]
  dsimp only
  cases (Test.plain o a).answer? ((Test.plain o a).operatorFor v) v <;> rfl

/-- Arguments that differ in their operators, signed and without a pattern, are answered by one
test. -/
theorem outcome_eq_answer? (o : Options) {op : Operator} (hsign : op ≠ .unspecified)
    (hpattern : ¬ op.isPattern) (l : Literal) (raw : Text) {v : Json} (hdig : s.dig key = some v) :
    (⟨op, l, raw⟩ : Argument).outcome o s key =
      ((Test.plain o ⟨.unspecified, l, raw⟩).answer? op v).getD o.faultPolicy.outcome := by
  have hunspecified : ¬ Operator.unspecified.isPattern := by decide
  have hop : ∀ t : Test, t.operator = op → t.operatorFor v = op := by
    intro t ht
    unfold Test.operatorFor
    rw [ht]
    cases op with
    | unspecified => exact absurd rfl hsign
    | _ => rfl
  rw [outcome_eq_getD o _ hdig]
  by_cases ho : o.ignoreCase = true
  · rw [Test.plain_of_ignoreCase ho hpattern, Test.plain_of_ignoreCase ho hunspecified, hop _ rfl]
    rfl
  · rw [Test.plain_of_not_ignoreCase ho hpattern, Test.plain_of_not_ignoreCase ho hunspecified,
      hop _ rfl]
    rfl

/-- A search for text, by its operator or for want of another. -/
theorem outcome_eq_containsText (o : Options) {v : Json} (hdig : s.dig key = some v)
    (ha : a.operator = .containing ∨ a.operator = .unspecified ∧ v.kind = .string) :
    a.outcome o s key = v.containsText o.ignoreCase (Json.caseFolded o.ignoreCase a.raw) := by
  obtain ⟨op, l, raw⟩ := a
  have hpattern : ¬ op.isPattern := by
    rcases ha with rfl | ⟨rfl, -⟩ <;> exact Bool.false_ne_true
  have hop : ∀ t : Test, t.operator = op → t.operatorFor v = .containing := by
    intro t ht
    unfold Test.operatorFor
    rcases ha with rfl | ⟨rfl, hv⟩
    · rw [ht]
    · cases v <;> simp_all [Json.kind]
  have hanswer : ∀ t : Test, t.answer? .containing v = some (v.containsText t.folded t.text) :=
    fun _ => rfl
  rw [outcome_eq_getD o _ hdig]
  by_cases ho : o.ignoreCase = true
  · rw [Test.plain_of_ignoreCase ho hpattern, hop _ rfl, hanswer, ho]
    rfl
  · rw [Test.plain_of_not_ignoreCase ho hpattern, hop _ rfl, hanswer, Bool.eq_false_iff.2 ho]
    rfl

/-- What a search finds where letter case counts it finds where it is ignored. -/
theorem outcome_ignoringCase (ha : a.operator ∈ Operator.searches)
    (hsettled : a.operator ∈ Operator.lookInside → a.raw.Settled)
    (h : a.outcome (o.ignoringCase false) s key = true) :
    a.outcome (o.ignoringCase true) s key = true := by
  have hpattern : ¬ a.operator.isPattern := by
    have hnone : ∀ op ∈ Operator.searches, ¬ op.isPattern := by decide
    exact hnone _ ha
  cases hdig : s.dig key with
  | none => simp [outcome_of_absent hdig] at h
  | some v =>
    rw [outcome_eq_getD _ _ hdig, Test.plain_of_not_ignoreCase Bool.false_ne_true hpattern] at h
    rw [outcome_eq_getD _ _ hdig, Test.plain_of_ignoreCase rfl hpattern]
    generalize ht : Test.mk a.operator a.literal a.raw false none = t at h ⊢
    have hcounts : t.folded = false := ht ▸ rfl
    obtain ⟨hop, hinside⟩ := Test.operatorFor_of_searches (t := t) (ht ▸ ha) v
    obtain ⟨hyes, hnone⟩ := Test.answer?_ignoringCase (v := v) hcounts hop fun hin => by
      have hlook := hinside hin
      rw [← ht] at hlook ⊢
      exact hsettled hlook
    change (t.ignoringCase.answer? (t.operatorFor v) v).getD o.faultPolicy.outcome = true
    cases hanswer : t.answer? (t.operatorFor v) v with
    | none =>
      rw [hnone hanswer]
      rwa [hanswer] at h
    | some b =>
      obtain rfl : b = true := by rwa [hanswer] at h
      rw [hyes hanswer]
      rfl

end Argument

namespace Query

/-- Every condition with arguments only asks for things to be there. -/
def OnlySearches (o : Options) (query : Text) : Prop :=
  ∀ cs ∈ (conditions o query).value, ∀ c ∈ cs, ∀ a ∈ c.arguments,
    c.polarity ≠ .excluding ∧ a.operator ∈ Operator.searches

/-- No neighbours change the lower case of a text that is looked for inside of text. -/
def LooksForSettled (o : Options) (query : Text) : Prop :=
  ∀ cs ∈ (conditions o query).value, ∀ c ∈ cs, ∀ a ∈ c.arguments,
    a.operator ∈ Operator.lookInside → a.raw.Settled

/-- A query that only asks for things to be there, and for no text that its neighbours can change,
goes on to match where letter case comes to be ignored. -/
theorem isMatch_of_settled {o : Options} {query : Text} {s : Subject}
    (hsearch : OnlySearches o query) (hsettled : LooksForSettled o query)
    (h : isMatch (o.ignoringCase false) query s = true) :
    isMatch (o.ignoringCase true) query s = true := by
  -- Conditions are read without regard to letter case.
  have hconditions : ∀ ignore, (conditions (o.ignoringCase ignore) query).value =
      (conditions o query).value := fun _ => rfl
  refine isMatch_mono ((hconditions true).trans (hconditions false).symm) ?_ h
  rw [hconditions]
  refine fun cs hcs c hc => Condition.Holds.mono fun a ha hout => ?_
  obtain ⟨hpolarity, hop⟩ := hsearch cs hcs c hc a ha
  rw [decide_eq_false hpolarity, Bool.ne_false_iff] at hout ⊢
  exact Argument.outcome_ignoringCase hop (hsettled cs hcs c hc a ha) hout

section Quotation

variable {o : Options} (ho : o.WithoutRules) (hphrase : o.onePhrase = false) (q : Quotation)

include ho hphrase

theorem conditions_quotation :
    (conditions o (ofQuotations [q])).value =
      [[⟨.including, o.haystackKey, .any, [.freeText q.inside]⟩]] := by
  rw [value_conditions, tokenRuns_ofQuotations (List.cons_ne_nil q []), List.map_singleton,
    conditionsOfRun_quotations ho hphrase]
  rfl

/-- One quotation is matched where its text is found. -/
theorem isMatch_quotation_iff (s : Subject) :
    isMatch o (ofQuotations [q]) s = true ↔
      (Argument.freeText q.inside).outcome o s o.haystackKey = true := by
  rw [isMatch_eq_all, conditions_quotation ho hphrase, List.all_cons, List.all_nil, Bool.and_true,
    conditionsHold_alone Polarity.noConfusion]
  simp [Condition.Holds]

/-- A text between quotation marks can be searched for without loss exactly when it is settled. -/
theorem isMatch_quotation_ignoringCase_iff :
    (∀ s, isMatch (o.ignoringCase false) (ofQuotations [q]) s = true →
        isMatch (o.ignoringCase true) (ofQuotations [q]) s = true) ↔ q.inside.Settled := by
  constructor
  · intro h
    refine Text.settled_iff.2 fun u hin => ?_
    obtain ⟨record, hrecord⟩ : ∃ record : Json, record.dig o.haystackKey = some (.string u) :=
      Json.exists_dig_eq o.haystackKey rfl
    have hdig : (Subject.single record).dig o.haystackKey = some (.string u) := hrecord
    have hfound : ∀ ignore, isMatch (o.ignoringCase ignore) (ofQuotations [q]) (.single record) =
        true ↔ (Json.string u).containsText ignore (Json.caseFolded ignore q.inside) = true := by
      intro ignore
      have hrules : (o.ignoringCase ignore).WithoutRules := ⟨ho.1, ho.2⟩
      have hout : (Argument.freeText q.inside).outcome (o.ignoringCase ignore) (.single record)
          o.haystackKey = (Json.string u).containsText ignore (Json.caseFolded ignore q.inside) :=
        Argument.outcome_eq_containsText (o.ignoringCase ignore) hdig (.inl rfl)
      rw [isMatch_quotation_iff hrules hphrase, ← hout]
      rfl
    have hcounts := (hfound false).2 ((Json.containsText_iff q.nonempty _).2 hin)
    have hlower := (hfound true).1 (h _ hcounts)
    exact Text.occursIn_iff.1 (Bool.and_eq_true_iff.1 hlower).2
  · intro hsettled s
    refine isMatch_of_settled ?_ ?_
    · unfold OnlySearches
      rw [conditions_quotation ho hphrase]
      simp [Argument.freeText, Operator.searches]
    · unfold LooksForSettled
      rw [conditions_quotation ho hphrase]
      simpa [Argument.freeText, Operator.lookInside] using hsettled

end Quotation

/-- Where letter case comes to be ignored, a query that only asks for things to be there loses no
match, unless it looks for a text whose lower case its neighbours can change.  Between quotation
marks every text of this kind, and no other, is lost in some record. -/
theorem isMatch_ignoringCase (o : Options) :
    (∀ (query : Text) (s : Subject), OnlySearches o query → LooksForSettled o query →
        isMatch (o.ignoringCase false) query s = true →
        isMatch (o.ignoringCase true) query s = true) ∧
      (o.WithoutRules → o.onePhrase = false → ∀ q : Quotation,
        ((∀ s, isMatch (o.ignoringCase false) (ofQuotations [q]) s = true →
            isMatch (o.ignoringCase true) (ofQuotations [q]) s = true) ↔ q.inside.Settled)) := by
  refine ⟨fun query s => isMatch_of_settled, fun ho hphrase q => ?_⟩
  exact isMatch_quotation_ignoringCase_iff ho hphrase q

theorem lowerChar_alpha : lowerChar 'Α' = ['α'] := by decide +kernel

theorem lowerCase_alpha_sigma : Text.lowerCase ['Α', 'Σ'] = ['α', 'ς'] := by
  have hend : Text.meetsCased [] = false := rfl
  simp [← Text.lowerBetween_nil, Text.lowerCase, Text.lowerBetween, Text.formAt,
    Text.meetsCased_cons_letter, lowerChar_alpha, hend]

/-- A capital sigma before a letter. -/
theorem isMatch_ignoringCase_medial :
    let query := "name:ΣΑ".toList
    let s := Subject.single (.object [("name".toList, .string "ΑΣΑ".toList)])
    OnlySearches {} query ∧ LooksForSettled {} query ∧
      isMatch (Options.ignoringCase {} false) query s = true ∧
      isMatch (Options.ignoringCase {} true) query s = true := by
  intro query s
  have hconditions : (conditions {} query).value =
      [[⟨.including, "name".toList, .any, [⟨.unspecified, .text "ΣΑ".toList, "ΣΑ".toList⟩]⟩,
        ⟨.including, defaultHaystackKey, .any, []⟩]] := by rfl
  have hsearch : OnlySearches {} query := by
    unfold OnlySearches
    rw [hconditions]
    simp [Operator.searches]
  have hsettled : LooksForSettled {} query := by
    have hforms : ∀ before rest, Text.lowerBetween before ['Σ', 'Α'] rest = ['σ', 'α'] := by
      intro before rest
      simp [Text.lowerBetween, Text.formAt, Text.meetsCased_cons_letter, lowerChar_alpha]
    have htext : Text.Settled ['Σ', 'Α'] := Text.settled_of_forall fun before rest => by
      rw [hforms, ← hforms [] [], Text.lowerBetween_nil]
      rfl
    unfold LooksForSettled
    rw [hconditions]
    simpa using fun _ => htext
  have hmatch : isMatch (Options.ignoringCase {} false) query s = true := by decide
  exact ⟨hsearch, hsettled, hmatch, (isMatch_ignoringCase {}).1 query s hsearch hsettled hmatch⟩

/-- A capital sigma at the end of a text that stands before a letter in the record. -/
theorem not_isMatch_ignoringCase :
    let query := "name:ΑΣ".toList
    let s := Subject.single (.object [("name".toList, .string "ΑΣΑ".toList)])
    OnlySearches {} query ∧ isMatch (Options.ignoringCase {} false) query s = true ∧
      isMatch (Options.ignoringCase {} true) query s = false := by
  intro query s
  have hconditions : ∀ ignore, (conditions (Options.ignoringCase {} ignore) query).value =
      [[⟨.including, "name".toList, .any, [⟨.unspecified, .text ['Α', 'Σ'], ['Α', 'Σ']⟩]⟩,
        ⟨.including, defaultHaystackKey, .any, []⟩]] := fun _ => rfl
  have hsearch : OnlySearches {} query := by
    unfold OnlySearches
    rw [show (conditions {} query).value = _ from hconditions false]
    simp [Operator.searches]
  have hname : Text.lowerCase ['Α', 'Σ', 'Α'] = ['α', 'σ', 'α'] := by
    simp [← Text.lowerBetween_nil, Text.lowerCase, Text.lowerBetween, Text.formAt,
      Text.meetsCased_cons_letter, lowerChar_alpha]
  have hout : (Argument.mk .unspecified (.text ['Α', 'Σ']) ['Α', 'Σ']).outcome
      (Options.ignoringCase {} true) s "name".toList = false := by
    have hcase : (Options.ignoringCase {} true).ignoreCase = true := rfl
    rw [Argument.outcome_eq_containsText (v := .string ['Α', 'Σ', 'Α']) _ rfl (.inr ⟨rfl, rfl⟩),
      hcase]
    simp only [Json.containsText, Json.caseFolded, if_true, lowerCase_alpha_sigma, hname]
    decide
  refine ⟨hsearch, by decide, ?_⟩
  rw [isMatch_eq_all, hconditions, List.all_cons, List.all_nil, Bool.and_true, Bool.eq_false_iff]
  intro h
  have hholds := ((conditionsHold_iff _ _ _).1 h).1 _ (List.mem_cons_self ..) Polarity.noConfusion
  simp [Condition.Holds] at hholds
  exact Bool.false_ne_true (hout.symm.trans hholds)

end Query

end RecordFilter
