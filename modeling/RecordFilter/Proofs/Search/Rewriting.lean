import RecordFilter.Proofs.Search.FreeText

/-!
# Queries written from their conditions

The conditions shown for a query can be written down as a query of their own: those of a sub-query
with spaces between them, the sub-queries with bars.  It matches what the first one matches when
every condition is writable (`isMatch_ofConditions`), and need not otherwise
(`not_isMatch_ofConditions`).  No rule may be at work, since it would act a second time.
-/

namespace RecordFilter

namespace Argument

/-- Where text is searched for, what it would be compared as does not count. -/
theorem outcome_of_containing (o : Options) (s : Subject) (key : Text) {a b : Argument}
    (ha : a.operator = .containing) (hb : b.operator = .containing) (hraw : a.raw = b.raw) :
    a.outcome o s key = b.outcome o s key := by
  have hpattern : ∀ {c : Argument}, c.operator = .containing → ¬ c.operator.isPattern := by
    intro c hc
    rw [hc]
    decide
  have htest : ∀ value, (Test.plain o a).outcome value = (Test.plain o b).outcome value := by
    intro value
    unfold Test.plain
    rw [if_neg (hpattern ha), if_neg (hpattern hb), hraw]
    split
    · rw [Test.outcome_of_containing ha, Test.outcome_of_containing hb]
    · rw [Test.outcome_of_containing ha, Test.outcome_of_containing hb]
  unfold outcome
  simp only [htest]

/-- An argument read from its text has the outcomes it had. -/
theorem outcome_parse_bare (o : Options) (s : Subject) (key : Text) {a : Argument}
    (h : a.ReadsBack) : (parse a.bare).outcome o s key = a.outcome o s key := by
  have hparse : parse a.bare = ⟨a.operator, .coerce a.raw a.operator, a.raw⟩ := by
    rw [parse, h.operator]
  rw [hparse]
  rcases h.literal with hoperator | hliteral
  · exact outcome_of_containing o s key hoperator hoperator rfl
  · rw [← hliteral]

end Argument

/-- A condition holds when it does with its arguments read from their text. -/
theorem Condition.alike_reread (o : Options) (s : Subject) {c : Condition} (h : c.ReadsBack) :
    c.Alike o s c.reread := by
  have houtcome : ∀ a ∈ c.arguments,
      (Argument.parse a.bare).outcome o s c.key = a.outcome o s c.key :=
    fun a ha => a.outcome_parse_bare o s c.key (h.arguments a ha)
  refine ⟨rfl, or_congr List.map_eq_nil_iff.symm ?_⟩
  have hcombination : c.reread.combination = c.combination := rfl
  have harguments : c.reread.arguments = c.arguments.map fun a => .parse a.bare := rfl
  have hpolarity : c.reread.polarity = c.polarity := rfl
  have hkey : c.reread.key = c.key := rfl
  rw [hcombination, harguments, hpolarity, hkey]
  cases c.combination with
  | any =>
    simp only [List.mem_map, exists_exists_and_eq_and]
    exact exists_congr fun a => and_congr_right fun ha => by rw [houtcome a ha]
  | all =>
    rw [List.forall_mem_map]
    exact forall₂_congr fun a ha => by rw [houtcome a ha]

namespace Query

/-- The query written from conditions, sub-query by sub-query. -/
def ofConditions (conditions : List (List Condition)) : Text :=
  ofRuns (conditions.map (·.map Condition.text))

section WithoutRules

variable {o : Options} (ho : o.WithoutRules)

include ho

/-- A condition of a run is read from its text and names its own field, unless a colon stands in its
key. -/
theorem readsBack_of_mem (hkey : PlainKey o.haystackKey) {run : List Text}
    (hrun : ∀ t ∈ run, Unbroken blanks .quotes t) {c : Condition} (hc : c ∈ conditionsOfRun o run)
    (hcolon : ':' ∉ c.key) : c.ReadsBack ∧ Condition.fieldOf o.haystackKey c.key = c.key := by
  rw [conditionsOfRun_of_withoutRules ho] at hc
  rcases List.mem_append.1 hc with hwritten | hfree
  · obtain ⟨⟨key, args⟩, hread, rfl⟩ := List.mem_map.1 hwritten
    obtain ⟨token, htoken, hcondition⟩ := List.mem_filterMap.1 hread
    obtain ⟨t, ht, rfl⟩ := List.mem_map.1 htoken
    have hofText : Token.ofText t = .condition key args := Token.condition?_eq_some.1 hcondition
    exact ⟨Condition.readsBack_writtenCondition hkey (hrun t ht) hofText hcolon,
      Condition.fieldOf_fieldOf _ _⟩
  · rw [List.mem_singleton.1 hfree] at hcolon ⊢
    exact ⟨Condition.readsBack_freeText hkey hcolon _, ite_self _⟩

/-- The texts of conditions are a run that asks for them, with their arguments read once more, and
for no free text. -/
theorem conditionsOfRun_map_text {cs : List Condition} (hread : ∀ c ∈ cs, c.ReadsBack)
    (hwritable : ∀ c ∈ cs, c.Writable)
    (hfield : ∀ c ∈ cs, Condition.fieldOf o.haystackKey c.key = c.key) :
    conditionsOfRun o (cs.map Condition.text) =
      cs.map Condition.reread ++ [.freeText o.haystackKey []] := by
  have htokens : (cs.map Condition.text).map Token.ofText =
      cs.map fun c => .condition (c.polarity.sign ++ c.key) c.argumentsText := by
    rw [List.map_map]
    exact List.map_congr_left fun c hc => Condition.ofText_text (hread c hc)
  have hconditions : ((cs.map Condition.text).map Token.ofText).filterMap Token.condition? =
      cs.map fun c => (c.polarity.sign ++ c.key, c.argumentsText) := by
    rw [htokens, List.filterMap_map]
    exact List.filterMap_eq_map'.symm ▸ rfl
  have hfree : ((cs.map Condition.text).map Token.ofText).filterMap Token.freeText? = [] := by
    rw [htokens]
    simp [List.filterMap_map, Token.freeText?]
  rw [conditionsOfRun_of_withoutRules ho, hconditions, hfree, phrases_nil, List.map_map]
  congr 1
  exact List.map_congr_left fun c hc =>
    Condition.writtenCondition_text (hread c hc) (hwritable c hc) (hfield c hc)

/-- Conditions and their texts ask for the same. -/
theorem conditionsHold_map_text (s : Subject) {cs : List Condition}
    (hread : ∀ c ∈ cs, c.ReadsBack) (hwritable : ∀ c ∈ cs, c.Writable)
    (hfield : ∀ c ∈ cs, Condition.fieldOf o.haystackKey c.key = c.key) :
    conditionsHold o s (conditionsOfRun o (cs.map Condition.text)) = conditionsHold o s cs := by
  have hfree : (Condition.freeText o.haystackKey []).isMatch o s = true :=
    Condition.isMatch_of_isUnconstrained o s (by rfl)
  rw [conditionsOfRun_map_text ho hread hwritable hfield,
    conditionsHold_insert o s (by simp [Condition.freeText]), hfree, Bool.true_and, List.append_nil]
  refine conditionsHold_congr ?_ ?_
  · intro d hd
    obtain ⟨c, hc, rfl⟩ := List.mem_map.1 hd
    exact ⟨c, hc, (Condition.alike_reread o s (hread c hc)).symm⟩
  · intro c hc
    exact ⟨c.reread, List.mem_map_of_mem hc, Condition.alike_reread o s (hread c hc)⟩

end WithoutRules

/-- Without rules, a query written from the conditions shown for another matches what that one
matches, as long as each of them is writable and free text has a plain key. -/
theorem isMatch_ofConditions {o : Options} (ho : o.WithoutRules) (hkey : PlainKey o.haystackKey)
    {query : Text} (h : ∀ cs ∈ (conditions o query).value, ∀ c ∈ cs, c.Writable) (s : Subject) :
    isMatch o (ofConditions (conditions o query).value) s = isMatch o query s := by
  rw [value_conditions] at h
  have hread : ∀ run ∈ tokenRuns query, ∀ c ∈ conditionsOfRun o run,
      c.Writable ∧ c.ReadsBack ∧ Condition.fieldOf o.haystackKey c.key = c.key := by
    intro run hrun c hc
    have hwritable : c.Writable := h _ (List.mem_map_of_mem hrun) c hc
    have hunbroken := (fragments_of_mem_tokenRuns hrun).unbroken
    exact ⟨hwritable, readsBack_of_mem ho hkey hunbroken hc hwritable.key⟩
  have hruns : runsOf (tokens (ofConditions (conditions o query).value)) =
      (tokenRuns query).map fun run => (conditionsOfRun o run).map Condition.text := by
    rw [← tokenRuns_eq, value_conditions, ofConditions, List.map_map]
    refine tokenRuns_ofRuns ?_ ?_
    · intro texts htexts
      obtain ⟨run, -, rfl⟩ := List.mem_map.1 htexts
      simp [conditionsOfRun]
    · intro texts htexts t ht
      obtain ⟨run, hrun, rfl⟩ := List.mem_map.1 htexts
      obtain ⟨c, hc, rfl⟩ := List.mem_map.1 ht
      obtain ⟨hwritable, hreads, -⟩ := hread run hrun c hc
      exact Condition.freeStanding_text hreads hwritable
  rw [isMatch_eq, isMatch_eq, hruns, ← tokenRuns_eq, List.all_map, Bool.eq_iff_iff,
    List.all_eq_true, List.all_eq_true]
  refine forall₂_congr fun run hrun => ?_
  have hcs := hread run hrun
  rw [Function.comp_apply, conditionsHold_map_text ho s (fun c hc => (hcs c hc).2.1)
    (fun c hc => (hcs c hc).1) fun c hc => (hcs c hc).2.2]

/-- Written from its conditions, a query has one sign for each operator, backticks where they are
called for, and names the field for free text. -/
theorem isMatch_ofConditions_quoted :
    let query := "-k:and,'a b',!x \"c d\" | +_:~^a".toList
    PlainKey defaultHaystackKey ∧
      (∀ cs ∈ (conditions {} query).value, ∀ c ∈ cs, c.Writable) ∧
      ofConditions (conditions {} query).value =
        "-k:and,`a b`,!=x haystack:`%c d` | +haystack:/^a haystack:".toList ∧
      ∀ s, isMatch {} (ofConditions (conditions {} query).value) s = isMatch {} query s := by
  intro query
  have hkey : PlainKey defaultHaystackKey := by decide
  have hwritable : ∀ cs ∈ (conditions {} query).value, ∀ c ∈ cs, c.Writable := by decide
  have htext : ofConditions (conditions {} query).value =
      "-k:and,`a b`,!=x haystack:`%c d` | +haystack:/^a haystack:".toList := by decide
  exact ⟨hkey, hwritable, htext, isMatch_ofConditions ⟨rfl, rfl⟩ hkey hwritable⟩

/-- An argument that is the word for a combination, shown first where it was not first in the query,
is taken for the combination: the condition asks for nothing any more. -/
theorem not_isMatch_ofConditions :
    ¬ ∀ (o : Options) (query : Text) (s : Subject), o.WithoutRules →
      isMatch o (ofConditions (conditions o query).value) s = isMatch o query s := by
  intro h
  have hsame := h {} "name:or,or".toList (.ofRecord (.object [("name".toList, .string ['x'])]))
    ⟨rfl, rfl⟩
  have htext : ofConditions (conditions {} "name:or,or".toList).value =
      "name:or haystack:".toList := by decide
  rw [htext] at hsame
  exact absurd hsame (by decide)

end Query

end RecordFilter
