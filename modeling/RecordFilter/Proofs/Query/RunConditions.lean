import RecordFilter.Query.Conditions

/-!
# The conditions of a run

The conditions of a sub-query depend on its tokens only.  Without rules they are the conditions as
written, in their order, and one for the free text.
-/

namespace RecordFilter

/-- Options under which no rule replaces conditions or free text. -/
structure Options.WithoutRules (o : Options) : Prop where
  conditionRules : o.conditionRules = []
  textRules : o.textRules = []

namespace Token

theorem condition?_eq_some {token : Token} {c : Text × Text} :
    token.condition? = some c ↔ token = .condition c.1 c.2 := by
  cases token with
  | condition key args => simp [condition?, Prod.ext_iff]
  | freeText t => simp [condition?]

theorem filterMap_condition?_freeText (ts : List Text) :
    (ts.map freeText).filterMap condition? = [] := by
  simp [List.filterMap_map, condition?]

theorem filterMap_freeText?_freeText (ts : List Text) :
    (ts.map freeText).filterMap freeText? = ts := by
  simp [List.filterMap_map, freeText?, Function.comp_def]

end Token

namespace Query

theorem filter_nonempty {ts : List Text} (h : ∀ t ∈ ts, t ≠ []) : ts.filter (!·.isEmpty) = ts :=
  List.filter_eq_self.2 fun t ht => by simpa using h t ht

theorem phrases_nil (o : Options) : phrases o [] = [] := by
  simp [phrases]

/-- The conditions that a run of tokens asks for. -/
def conditionsOfRun (o : Options) (run : List Text) : List Condition :=
  let written := run.map Token.ofText
  let expanded := (written.filterMap Token.freeText?).flatMap fun t =>
    (expandFreeText o.textRules t).value
  let compiled := ((written ++ expanded).filterMap Token.condition?).map fun c =>
    (compileCondition o c).value
  let freeText := expanded.filterMap Token.freeText? ++ compiled.flatMap (·.2)
  compiled.map (·.1) ++ [.freeText o.haystackKey (phrases o freeText)]

/-- What the rules make of the free text of a run. -/
def expandedOfRun (o : Options) (run : List Text) : List Token :=
  ((run.map Token.ofText).filterMap Token.freeText?).flatMap fun t =>
    (expandFreeText o.textRules t).value

/-- The conditions of a run, those that rules add last, each with the free text its own rule
adds. -/
def compiledOfRun (o : Options) (run : List Text) : List (Condition × List Text) :=
  ((run.map Token.ofText ++ expandedOfRun o run).filterMap Token.condition?).map fun c =>
    (compileCondition o c).value

/-- The pieces of free text of a run, those that rules add to conditions last. -/
def freeTextOfRun (o : Options) (run : List Text) : List Text :=
  (expandedOfRun o run).filterMap Token.freeText? ++ (compiledOfRun o run).flatMap (·.2)

/-- A run asks for its conditions and last for its free text. -/
theorem conditionsOfRun_eq (o : Options) (run : List Text) :
    conditionsOfRun o run =
      (compiledOfRun o run).map (·.1) ++
        [.freeText o.haystackKey (phrases o (freeTextOfRun o run))] := rfl

theorem value_conditionsOfPart (o : Options) (subQuery : Text) :
    (conditionsOfPart o subQuery).value = conditionsOfRun o (tokens subQuery) := by
  simp [conditionsOfPart, conditionsOfRun, List.flatMap]

/-- A run of one token that is a condition asks for this, and for the free text that its rule
adds. -/
theorem conditionsOfRun_condition {o : Options} {t key args : Text} {c : Condition}
    {freeText : List Text} (ht : Token.ofText t = .condition key args)
    (hcompiled : (compileCondition o (key, args)).value = (c, freeText)) :
    conditionsOfRun o [t] = [c, .freeText o.haystackKey (phrases o freeText)] := by
  have hcondition : [Token.condition key args].filterMap Token.condition? = [(key, args)] := rfl
  have hfree : [Token.condition key args].filterMap Token.freeText? = [] := rfl
  unfold conditionsOfRun
  simp [ht, hcondition, hfree, hcompiled]

/-- The condition that a key and arguments ask for as they are written. -/
def writtenCondition (o : Options) (c : Text × Text) : Condition :=
  .compile (Polarity.splitKey c.1).1 (Polarity.splitKey c.1).2 (split [','] .all true c.2)
    o.haystackKey

section WithoutRules

variable {o : Options} (h : o.WithoutRules)

include h

theorem value_expandFreeText_of_withoutRules (t : Text) :
    (expandFreeText o.textRules t).value = [.freeText t] := by
  rw [h.textRules]
  rfl

theorem value_compileCondition_of_withoutRules (c : Text × Text) :
    (compileCondition o c).value = (writtenCondition o c, []) := by
  have hrule : ∀ key, o.conditionRule? key = none := by
    intro key
    rw [Options.conditionRule?, h.conditionRules]
    rfl
  unfold compileCondition
  simp [hrule, writtenCondition]

theorem expandedOfRun_of_withoutRules (run : List Text) :
    expandedOfRun o run = ((run.map Token.ofText).filterMap Token.freeText?).map .freeText := by
  unfold expandedOfRun
  simp only [value_expandFreeText_of_withoutRules h, ← List.map_eq_flatMap]

theorem compiledOfRun_of_withoutRules (run : List Text) :
    compiledOfRun o run =
      ((run.map Token.ofText).filterMap Token.condition?).map fun c =>
        (writtenCondition o c, []) := by
  unfold compiledOfRun
  rw [expandedOfRun_of_withoutRules h, List.filterMap_append, Token.filterMap_condition?_freeText,
    List.append_nil]
  simp only [value_compileCondition_of_withoutRules h]

theorem freeTextOfRun_of_withoutRules (run : List Text) :
    freeTextOfRun o run = (run.map Token.ofText).filterMap Token.freeText? := by
  unfold freeTextOfRun
  rw [expandedOfRun_of_withoutRules h, compiledOfRun_of_withoutRules h,
    Token.filterMap_freeText?_freeText, List.flatMap_map]
  simp

theorem conditionsOfRun_of_withoutRules (run : List Text) :
    conditionsOfRun o run =
      ((run.map Token.ofText).filterMap Token.condition?).map (writtenCondition o) ++
        [.freeText o.haystackKey
          (phrases o ((run.map Token.ofText).filterMap Token.freeText?))] := by
  rw [conditionsOfRun_eq, freeTextOfRun_of_withoutRules h, compiledOfRun_of_withoutRules h,
    List.map_map]
  rfl

/-- A run of one token that is free text searches for it in one piece. -/
theorem conditionsOfRun_freeText {t piece : Text} (ht : Token.ofText t = .freeText piece)
    (hne : piece ≠ []) :
    conditionsOfRun o [t] = [⟨.including, o.haystackKey, .any, [.freeText piece]⟩] := by
  have hcondition : [Token.freeText piece].filterMap Token.condition? = [] := rfl
  have hfree : [Token.freeText piece].filterMap Token.freeText? = [piece] := rfl
  have hphrases : phrases o [piece] = [piece] := by simp [phrases, hne]
  have hkept : [piece].filter (!·.isEmpty) = [piece] := by simp [hne]
  rw [conditionsOfRun_of_withoutRules h, List.map_singleton, ht, hcondition, hfree, hphrases,
    Condition.freeText, hkept]
  rfl

/-- Without rules a condition after the others stands before the one for the free text, which stays
as it is. -/
theorem conditionsOfRun_concat {t key args : Text} (ht : Token.ofText t = .condition key args)
    (run : List Text) :
    ∃ before free, conditionsOfRun o run = before ++ [free] ∧
      conditionsOfRun o (run ++ [t]) = before ++ writtenCondition o (key, args) :: [free] := by
  rw [conditionsOfRun_of_withoutRules h, conditionsOfRun_of_withoutRules h]
  refine ⟨_, _, rfl, ?_⟩
  have hcondition : [Token.condition key args].filterMap Token.condition? = [(key, args)] := rfl
  have hfree : [Token.condition key args].filterMap Token.freeText? = [] := rfl
  simp only [List.map_append, List.map_singleton, ht, List.filterMap_append, hcondition, hfree,
    List.append_nil, List.append_assoc, List.singleton_append]

/-- Without rules free text after the others comes last among the pieces searched for. -/
theorem conditionsOfRun_concat_freeText {t piece : Text} (ht : Token.ofText t = .freeText piece)
    (run : List Text) :
    ∃ before,
      conditionsOfRun o run =
        before ++ [.freeText o.haystackKey (phrases o (freeTextOfRun o run))] ∧
      conditionsOfRun o (run ++ [t]) =
        before ++ [.freeText o.haystackKey (phrases o (freeTextOfRun o run ++ [piece]))] := by
  rw [conditionsOfRun_of_withoutRules h, conditionsOfRun_of_withoutRules h,
    freeTextOfRun_of_withoutRules h]
  refine ⟨_, rfl, ?_⟩
  have hcondition : [Token.freeText piece].filterMap Token.condition? = [] := rfl
  have hfree : [Token.freeText piece].filterMap Token.freeText? = [piece] := rfl
  simp only [List.map_append, List.map_singleton, ht, List.filterMap_append, hcondition, hfree,
    List.append_nil]

end WithoutRules

end Query

end RecordFilter
