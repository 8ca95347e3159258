import RecordFilter.Proofs.Query.RunConditions
import RecordFilter.Proofs.Query.Runs

/-!
# Rules act where they are addressed

Text rules are shown the free text that is written in a query and nothing that any rule adds;
condition rules are shown the keys of the conditions that are written and of those that text rules
add, and no key that a condition rule puts in their place.  So reading a query depends on its rules
only where the query addresses them (`conditions_congr`), and a rule that is not addressed may be
registered or replaced without any change, be it to the conditions or to what is reported
(`conditions_of_not_addressed`).
-/

namespace RecordFilter

namespace Traced

variable {α β : Type}

/-- Only the value of a step counts for what is done next. -/
theorem bind_congr {t : Traced α} {f g : α → Traced β} (h : f t.value = g t.value) :
    t >>= f = t >>= g := by
  show andThen t f = andThen t g
  unfold andThen
  rw [h]

theorem each_congr {f g : α → Traced β} {as : List α} (h : ∀ a ∈ as, f a = g a) :
    each f as = each g as := by
  induction as with
  | nil => rfl
  | cons a rest ih =>
    obtain ⟨ha, hrest⟩ := List.forall_mem_cons.1 h
    rw [each, each, ha, ih hrest]

end Traced

namespace Query

/-- The free text of a query, as text rules are shown it. -/
def freeTexts (query : Text) : List Text :=
  (tokenRuns query).flatMap fun run => (run.map Token.ofText).filterMap Token.freeText?

/-- The keys that condition rules are looked up for: those of the conditions written in a query, and
those of the conditions that text rules add to it. -/
inductive Addressed (o : Options) (query : Text) : Text → Prop
  | written {run : List Text} {token key args : Text} : run ∈ tokenRuns query → token ∈ run →
      Token.ofText token = .condition key args → Addressed o query (Polarity.splitKey key).2
  | added {t token key args : Text} {rule : TextRule} : t ∈ freeTexts query →
      rule ∈ o.textRules → rule.appliesTo t → token ∈ (rule.expand t).conditions →
      Token.ofText token = .condition key args → Addressed o query (Polarity.splitKey key).2

/-- Options that differ at most in rules that a query does not address. -/
structure AgreeOn (query : Text) (o o' : Options) : Prop where
  haystackKey : o'.haystackKey = o.haystackKey
  onePhrase : o'.onePhrase = o.onePhrase
  textRules : ∀ t ∈ freeTexts query,
    o'.textRules.filter (·.appliesTo t) = o.textRules.filter (·.appliesTo t)
  conditionRules : ∀ key, Addressed o query key → o'.conditionRule? key = o.conditionRule? key

/-! ### What is addressed -/

theorem tokens_mem_tokenRuns {query subQuery : Text} (h : subQuery ∈ subQueries query) :
    tokens subQuery ∈ tokenRuns query := by
  rw [← map_tokens_subQueries]
  exact List.mem_map_of_mem h

theorem mem_freeTexts {query t : Text} {run : List Text} (hrun : run ∈ tokenRuns query)
    (h : t ∈ (run.map Token.ofText).filterMap Token.freeText?) : t ∈ freeTexts query :=
  List.mem_flatMap.2 ⟨run, hrun, h⟩

/-- Where text rules apply, free text is replaced by what each of them makes of it. -/
theorem value_expandFreeText {rules : List TextRule} {t : Text}
    (h : rules.filter (·.appliesTo t) ≠ []) :
    (expandFreeText rules t).value = (rules.filter (·.appliesTo t)).flatMap fun rule =>
      (rule.expand t).conditions.map Token.ofText ++ (rule.expand t).freeText.map .freeText := by
  unfold expandFreeText
  cases happlying : rules.filter (·.appliesTo t) with
  | nil => exact absurd happlying h
  | cons first others =>
    simp only [Traced.value_bind, Traced.value_pure, Traced.value_each]
    rfl

/-- Among what text rules make of free text, the conditions are those that the rules which apply to
it add. -/
theorem condition_mem_expandFreeText_iff {rules : List TextRule} {t key args : Text} :
    .condition key args ∈ (expandFreeText rules t).value ↔
      ∃ rule ∈ rules, rule.appliesTo t ∧
        ∃ token ∈ (rule.expand t).conditions, Token.ofText token = .condition key args := by
  constructor
  · intro h
    by_cases hnone : rules.filter (·.appliesTo t) = []
    · unfold expandFreeText at h
      rw [hnone] at h
      cases List.mem_singleton.1 h
    · rw [value_expandFreeText hnone] at h
      obtain ⟨rule, hrule, hmem⟩ := List.mem_flatMap.1 h
      obtain ⟨hregistered, happlies⟩ := List.mem_filter.1 hrule
      refine ⟨rule, hregistered, happlies, ?_⟩
      rcases List.mem_append.1 hmem with hcondition | hfree
      · exact List.mem_map.1 hcondition
      · obtain ⟨fragment, -, hfragment⟩ := List.mem_map.1 hfree
        cases hfragment
  · rintro ⟨rule, hregistered, happlies, token, htoken, hread⟩
    have hrule : rule ∈ rules.filter (·.appliesTo t) := List.mem_filter.2 ⟨hregistered, happlies⟩
    rw [value_expandFreeText (List.ne_nil_of_mem hrule)]
    apply List.mem_flatMap_of_mem hrule
    apply List.mem_append_left
    exact hread ▸ List.mem_map_of_mem htoken

/-- The keys and arguments of the conditions of a run, those that text rules add last. -/
def conditionsToCompile (o : Options) (run : List Text) : List (Text × Text) :=
  (run.map Token.ofText ++ expandedOfRun o run).filterMap Token.condition?

/-- A query addresses the keys of the conditions that are compiled for it, and no others. -/
theorem addressed_iff {o : Options} {query key : Text} :
    Addressed o query key ↔
      ∃ run ∈ tokenRuns query, ∃ c ∈ conditionsToCompile o run,
        (Polarity.splitKey c.1).2 = key := by
  constructor
  · intro h
    cases h with
    | @written run token key args hrun htoken hread =>
      refine ⟨run, hrun, (key, args), List.mem_filterMap.2 ⟨.condition key args, ?_, rfl⟩, rfl⟩
      apply List.mem_append_left
      exact hread ▸ List.mem_map_of_mem htoken
    | @added t token key args rule ht hregistered happlies htoken hread =>
      obtain ⟨run, hrun, ht⟩ := List.mem_flatMap.1 ht
      refine ⟨run, hrun, (key, args), List.mem_filterMap.2 ⟨.condition key args, ?_, rfl⟩, rfl⟩
      apply List.mem_append_right
      apply List.mem_flatMap_of_mem ht
      exact condition_mem_expandFreeText_iff.2 ⟨rule, hregistered, happlies, token, htoken, hread⟩
  · rintro ⟨run, hrun, c, hc, rfl⟩
    obtain ⟨token, htoken, hcondition⟩ := List.mem_filterMap.1 hc
    obtain rfl := Token.condition?_eq_some.1 hcondition
    rcases List.mem_append.1 htoken with hwritten | hexpanded
    · obtain ⟨t, ht, hread⟩ := List.mem_map.1 hwritten
      exact .written hrun ht hread
    · obtain ⟨t, ht, hmade⟩ := List.mem_flatMap.1 hexpanded
      obtain ⟨rule, hregistered, happlies, token, htoken, hread⟩ :=
        condition_mem_expandFreeText_iff.1 hmade
      exact .added (mem_freeTexts hrun ht) hregistered happlies htoken hread

instance (o : Options) (query key : Text) : Decidable (Addressed o query key) :=
  decidable_of_iff _ addressed_iff.symm

/-! ### Options that agree where they are addressed -/

section AgreeOn

variable {o o' : Options} {query : Text} (h : AgreeOn query o o')

include h

theorem AgreeOn.expandFreeText_eq {t : Text} (ht : t ∈ freeTexts query) :
    expandFreeText o'.textRules t = expandFreeText o.textRules t := by
  unfold expandFreeText
  rw [h.textRules t ht]

theorem AgreeOn.compileCondition_eq {c : Text × Text}
    (hc : Addressed o query (Polarity.splitKey c.1).2) :
    compileCondition o' c = compileCondition o c := by
  unfold compileCondition
  simp only [h.conditionRules _ hc, h.haystackKey]

theorem AgreeOn.phrases_eq (ts : List Text) : phrases o' ts = phrases o ts := by
  unfold phrases
  rw [h.onePhrase]

/-- A sub-query is read alike, first its free text and then the conditions that come of it. -/
theorem AgreeOn.conditionsOfPart_eq {subQuery : Text} (hpart : subQuery ∈ subQueries query) :
    conditionsOfPart o' subQuery = conditionsOfPart o subQuery := by
  have hrun := tokens_mem_tokenRuns hpart
  have hcompiled : Traced.each (compileCondition o') (conditionsToCompile o (tokens subQuery)) =
      Traced.each (compileCondition o) (conditionsToCompile o (tokens subQuery)) :=
    Traced.each_congr fun c hc => h.compileCondition_eq (addressed_iff.2 ⟨_, hrun, c, hc, rfl⟩)
  simp only [conditionsToCompile, expandedOfRun, List.flatMap] at hcompiled
  unfold conditionsOfPart
  dsimp only
  rw [Traced.each_congr fun t ht => h.expandFreeText_eq (mem_freeTexts hrun ht)]
  apply Traced.bind_congr
  rw [Traced.value_each, hcompiled]
  simp only [h.haystackKey, h.phrases_eq]

/-- A query is read alike, and the same is reported, under options that differ at most in rules that
it does not address. -/
theorem conditions_congr : conditions o' query = conditions o query :=
  Traced.each_congr fun _ hpart => h.conditionsOfPart_eq hpart

end AgreeOn

/-- A rule that a query does not address changes nothing: neither a further text rule, wherever it
is put among the others, whose pattern is found in no free text that is written in the query, nor a
condition rule, in place of another or not, under a key that neither a written condition has nor one
that a text rule adds.  The conditions stay the same, whatever the other rules make of them, and so
does what is reported. -/
theorem conditions_of_not_addressed (o : Options) (query : Text) :
    (∀ (before after : List TextRule) (rule : TextRule), o.textRules = before ++ after →
      (∀ t ∈ freeTexts query, ¬ rule.appliesTo t) →
        conditions { o with textRules := before ++ rule :: after } query = conditions o query) ∧
      ∀ (key : Text) (rule : ConditionRule), ¬ Addressed o query key →
        conditions (o.withConditionRule key rule) query = conditions o query := by
  constructor
  · intro before after rule hrules hrule
    refine conditions_congr ⟨rfl, rfl, fun t ht => ?_, fun _ _ => rfl⟩
    have hskipped : (rule :: after).filter (·.appliesTo t) = after.filter (·.appliesTo t) :=
      List.filter_cons_of_neg (hrule t ht)
    rw [hrules, List.filter_append, List.filter_append, hskipped]
  · intro key rule hkey
    refine conditions_congr ⟨rfl, rfl, fun _ _ => rfl, fun k hk => ?_⟩
    have hne : k ≠ key := by
      rintro rfl
      exact hkey hk
    exact (Options.lookup_setRule key k rule o.conditionRules).trans (if_neg hne)

/-- Free text is replaced by a condition and other free text, the condition by one on another key
with free text of its own.  A rule for the other key, and one whose pattern is found in all that the
rules make of the free text, but not in what is written, change nothing. -/
theorem conditions_of_not_addressed_replaced :
    let folder : TextRule := ⟨⟨['^', '@'], .seq (.place .textStart) (.chars ⟨[(64, 64)]⟩)⟩,
      fun _ => { conditions := ["t:f,z".toList], freeText := [['z']] }⟩
    let kind : ConditionRule := ⟨fun _ args => some ⟨['z'], args, [['z']]⟩⟩
    let o : Options := { conditionRules := [(['t'], kind)], textRules := [folder] }
    let query := "@d -k:z".toList
    let further : TextRule := ⟨⟨['z'], .chars ⟨[(122, 122)]⟩⟩, fun _ => { freeText := [['y']] }⟩
    o.textRules = [] ++ [folder] ∧ (∀ t ∈ freeTexts query, ¬ further.appliesTo t) ∧
      ¬ Addressed o query ['z'] ∧
      ((conditions o query).value.map fun cs =>
          cs.map fun c => (c.key, c.arguments.map Argument.raw)) =
        [[(['k'], [['z']]), (['z'], [['f'], ['z']]), ("haystack".toList, [['z'], ['z']])]] ∧
      conditions { o with textRules := [further, folder] } query = conditions o query ∧
      conditions (o.withConditionRule ['z'] (.alias ['y'])) query = conditions o query := by
  intro folder kind o query further
  have hrules : o.textRules = [] ++ [folder] := rfl
  have hfurther : ∀ t ∈ freeTexts query, ¬ further.appliesTo t := by decide
  have hkey : ¬ Addressed o query ['z'] := by decide
  refine ⟨hrules, hfurther, hkey, by decide, ?_, ?_⟩
  · exact (conditions_of_not_addressed o query).1 [] [folder] further hrules hfurther
  · exact (conditions_of_not_addressed o query).2 ['z'] (.alias ['y']) hkey

end Query

end RecordFilter
