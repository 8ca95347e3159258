import Mathlib.Data.List.Perm.Basic
import RecordFilter.Proofs.Query.Written
import RecordFilter.Proofs.Search.Outcome

/-!
# The order in which a query is written

Sub-queries, the tokens within them and the arguments of a condition may change places: what is
asked for depends only on which of them there are.  Rules act on each token and each condition by
itself, so they carry every rearrangement of tokens over to conditions and free text; only joining
all free text to one phrase would show its order.
-/

namespace RecordFilter

/-- The tests of a check may change places. -/
theorem Check.value_run_perm (policy : FaultPolicy) (s : Subject) (c : Check) {tests : List Test}
    (h : tests.Perm c.tests) :
    (({ c with tests := tests } : Check).run policy s).value = (c.run policy s).value := by
  have hempty : tests.isEmpty = c.tests.isEmpty := h.isEmpty_eq
  have hcontribution : ∀ value, ({ c with tests := tests } : Check).contribution policy value =
      c.contribution policy value := fun _ => rfl
  unfold Check.run
  simp only [hempty, hcontribution]
  split
  · rfl
  · cases c.combination with
    | any => simp only [Traced.value_any, h.any_eq]
    | all => simp only [Traced.value_all, h.all_eq]

/-- The arguments of a condition may change places. -/
theorem Condition.isMatch_perm (o : Options) (s : Subject) (c : Condition)
    {arguments : List Argument} (h : arguments.Perm c.arguments) :
    ({ c with arguments := arguments } : Condition).isMatch o s = c.isMatch o s :=
  Check.value_run_perm o.faultPolicy s (Check.plain o c) (h.map (Test.plain o))

namespace Query

/-- Runs of tokens in another order, with the tokens of each run in another order. -/
def Reordered (runs others : List (List Text)) : Prop :=
  ∃ shuffled, List.Forall₂ List.Perm runs shuffled ∧ shuffled.Perm others

theorem exists_perm_of_mem {runs shuffled : List (List Text)}
    (h : List.Forall₂ List.Perm runs shuffled) :
    ∀ run ∈ runs, ∃ other ∈ shuffled, run.Perm other := by
  induction h with
  | nil => simp
  | @cons run other _ _ hperm _ ih =>
    intro r hr
    rcases List.mem_cons.1 hr with rfl | hr
    · exact ⟨other, List.mem_cons_self, hperm⟩
    · obtain ⟨found, hfound, hp⟩ := ih r hr
      exact ⟨found, List.mem_cons_of_mem other hfound, hp⟩

section Reordered

variable {runs others : List (List Text)} (h : Reordered runs others)

include h

theorem Reordered.exists_right : ∀ run ∈ runs, ∃ other ∈ others, run.Perm other := by
  obtain ⟨shuffled, htokens, hruns⟩ := h
  intro run hrun
  obtain ⟨other, hother, hperm⟩ := exists_perm_of_mem htokens run hrun
  exact ⟨other, hruns.mem_iff.1 hother, hperm⟩

theorem Reordered.exists_left : ∀ other ∈ others, ∃ run ∈ runs, run.Perm other := by
  obtain ⟨shuffled, htokens, hruns⟩ := h
  have hback : List.Forall₂ List.Perm shuffled runs :=
    htokens.flip.imp fun _ _ hperm => hperm.symm
  intro other hother
  obtain ⟨run, hrun, hperm⟩ := exists_perm_of_mem hback other (hruns.mem_iff.2 hother)
  exact ⟨run, hrun, hperm.symm⟩

end Reordered

/-- Pieces of free text may change places, unless they are joined. -/
theorem isMatch_freeText_perm {o : Options} (ho : o.onePhrase = false) (s : Subject)
    {ts us : List Text} (h : ts.Perm us) :
    (Condition.freeText o.haystackKey (phrases o ts)).isMatch o s =
      (Condition.freeText o.haystackKey (phrases o us)).isMatch o s := by
  have hphrases : (phrases o ts).Perm (phrases o us) := by
    simpa [phrases, ho] using h.filter (!·.isEmpty)
  have harguments := (hphrases.filter (!·.isEmpty)).map Argument.freeText
  exact Condition.isMatch_perm o s (.freeText o.haystackKey (phrases o us)) harguments

/-- Where all conditions but the last are among the others and the last ones are alike, every one
has one alike among the others. -/
theorem exists_alike_concat {o : Options} {s : Subject} {cs ds : List Condition} (h : cs ⊆ ds)
    {c d : Condition} (hlast : c.Alike o s d) :
    ∀ a ∈ cs ++ [c], ∃ b ∈ ds ++ [d], a.Alike o s b := by
  intro a ha
  rcases List.mem_append.1 ha with ha | ha
  · exact ⟨a, List.mem_append_left [d] (h ha), .refl o s a⟩
  · rw [List.mem_singleton.1 ha]
    exact ⟨d, List.mem_append_right ds (List.mem_singleton.2 rfl), hlast⟩

/-- The tokens of a run may change places.  Each condition of the one order is a condition of the
other, and the last one of either has the same free text. -/
theorem conditionsHold_perm {o : Options} (ho : o.onePhrase = false) (s : Subject)
    {run other : List Text} (h : run.Perm other) :
    conditionsHold o s (conditionsOfRun o run) = conditionsHold o s (conditionsOfRun o other) := by
  have hwritten : (run.map Token.ofText).Perm (other.map Token.ofText) := h.map _
  have hexpanded := (hwritten.filterMap Token.freeText?).flatMap
    fun t _ => List.Perm.refl (expandFreeText o.textRules t).value
  have hcompiled := ((hwritten.append hexpanded).filterMap Token.condition?).map
    fun c => (compileCondition o c).value
  have hadded := hcompiled.flatMap fun c _ => List.Perm.refl c.2
  have hconditions := hcompiled.map (·.1)
  have hfree := isMatch_freeText_perm ho s ((hexpanded.filterMap Token.freeText?).append hadded)
  have hlast := Condition.Alike.of_isMatch_eq (by rfl) hfree
  exact conditionsHold_congr (exists_alike_concat hconditions.subset hlast)
    (exists_alike_concat hconditions.symm.subset hlast.symm)

theorem tokenRuns_reordered {query : Text} (hquery : Closed blanks .quotes query)
    {others : List (List Text)} (h : Reordered (tokenRuns query) others) :
    tokenRuns (ofRuns others) = others := by
  apply tokenRuns_ofRuns
  · intro other hother
    obtain ⟨run, hrun, hperm⟩ := h.exists_left other hother
    have hne : run ≠ [] := ((maximalRuns_runsOf (tokens query)).mem hrun).1
    rintro rfl
    exact hne hperm.eq_nil
  · intro other hother t ht
    obtain ⟨run, hrun, hperm⟩ := h.exists_left other hother
    exact freeStanding_of_mem_tokenRuns hquery hrun t (hperm.mem_iff.2 ht)

/-- The order in which a query is written does not change what it matches, unless free text is
joined to one phrase: its sub-queries and the tokens of each may be rearranged when no quotation is
left open.  Nor does the order of its arguments change whether a condition is fulfilled, or that of
its tests whether a check is passed. -/
theorem isMatch_reordered (o : Options) (s : Subject) :
    (∀ query others, o.onePhrase = false → Closed blanks .quotes query →
        Reordered (tokenRuns query) others →
        isMatch o (ofRuns others) s = isMatch o query s) ∧
      (∀ (c : Condition) (arguments : List Argument), arguments.Perm c.arguments →
        ({ c with arguments := arguments } : Condition).isMatch o s = c.isMatch o s) ∧
      ∀ (policy : FaultPolicy) (c : Check) (tests : List Test), tests.Perm c.tests →
        (({ c with tests := tests } : Check).run policy s).value = (c.run policy s).value := by
  refine ⟨?_, fun c _ h => c.isMatch_perm o s h, fun policy c _ h => c.value_run_perm policy s h⟩
  intro query others ho hquery h
  have hruns : runsOf (tokens (ofRuns others)) = others := tokenRuns_reordered hquery h
  rw [isMatch_eq, isMatch_eq, hruns, Bool.eq_iff_iff, List.all_eq_true, List.all_eq_true]
  constructor
  · intro hall run hrun
    obtain ⟨other, hother, hperm⟩ := h.exists_right run hrun
    rw [conditionsHold_perm ho s hperm]
    exact hall other hother
  · intro hall other hother
    obtain ⟨run, hrun, hperm⟩ := h.exists_left other hother
    rw [← conditionsHold_perm ho s hperm]
    exact hall run hrun

/-- Two sub-queries change places, and in one of them free text, a quotation and a condition that a
rule replaces; so do two arguments of an excluding condition. -/
theorem isMatch_reordered_quoted :
    let o : Options := { conditionRules := [(['t'], .alias ['k'])] }
    let query := "a \"b \" t:1 | -x:y".toList
    let others := [["-x:y".toList], ["t:1".toList, "\"b \"".toList, ['a']]]
    Closed blanks .quotes query ∧ Reordered (tokenRuns query) others ∧
      (∀ s, isMatch o (ofRuns others) s = isMatch o query s) ∧
      ∀ s a b, Condition.isMatch o s ⟨.excluding, ['k'], .all, [b, a]⟩ =
        Condition.isMatch o s ⟨.excluding, ['k'], .all, [a, b]⟩ := by
  intro o query others
  have hclosed : Closed blanks .quotes query := by decide
  have hruns : tokenRuns query =
      [[['a'], "\"b \"".toList, "t:1".toList], ["-x:y".toList]] := by decide
  have htokens : [['a'], "\"b \"".toList, "t:1".toList].Perm
      ["t:1".toList, "\"b \"".toList, ['a']] := by decide
  have hreordered : Reordered (tokenRuns query) others := by
    rw [hruns]
    exact ⟨_, .cons htokens (.cons (.refl _) .nil), .swap _ _ []⟩
  refine ⟨hclosed, hreordered, fun s => ?_, fun s a b => ?_⟩
  · exact (isMatch_reordered o s).1 query others rfl hclosed hreordered
  · exact (isMatch_reordered o s).2.1 ⟨.excluding, ['k'], .all, [a, b]⟩ [b, a] (.swap a b [])

end Query

end RecordFilter
