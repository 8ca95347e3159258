import RecordFilter.Proofs.Query.Quotation
import RecordFilter.Proofs.Search.Outcome

/-!
# Queries with one condition

A key, a colon and a text that stays together ask for the condition that is compiled from them, and
for the free text that its rule adds (`isMatch_ofCondition`); rules for free text find none.  So a
condition with one argument that needs no quotation marks, and no rule for its key, asks for the
outcome of the argument at the key (`isMatch_ofArgument`).
-/

namespace RecordFilter

/-- An argument that stands in a query as it is: none of its characters parts or groups anything,
and it does not say how arguments combine. -/
structure BareArgument (arg : Text) : Prop where
  nonempty : arg ≠ []
  noWord : arg ∉ Combination.words
  plain : ∀ c ∈ arg, c ≠ ',' ∧ c ∉ Query.blanks ∧ Delimiters.all.closing? c = none

/-- Whether the rules of a query leave the arguments of a condition as they are, put `target` in
place of its key, which may be the key itself, and add some free text.  The text of the arguments is
that of the query. -/
def Options.Renames (o : Options) (key target : Text) (freeText : List Text) (args : Text) : Prop :=
  let args := split [','] .all true args
  ((o.conditionRule? key).bind (·.expand key args)).getD ⟨key, args, []⟩ = ⟨target, args, freeText⟩

namespace Options

variable {o : Options} {key : Text}

theorem renames_of_no_rule (h : o.conditionRule? key = none) (args : Text) :
    o.Renames key key [] args := by
  unfold Renames
  rw [h]
  rfl

/-- A rule may put in another key and add free text; an alias is such a rule that adds none. -/
theorem renames_of_rule {target : Text} {freeText : List Text}
    (h : o.conditionRule? key = some ⟨fun _ args => some ⟨target, args, freeText⟩⟩) (args : Text) :
    o.Renames key target freeText args := by
  unfold Renames
  rw [h]
  rfl

end Options

namespace Query

/-- A condition on a key with an argument, or with several and commas between them. -/
def ofArgument (key arg : Text) : Text :=
  key ++ ':' :: arg

variable {o : Options} {key : Text} (hkey : BareKey key)

include hkey

theorem value_compileCondition_of_renames {target args : Text} {freeText : List Text}
    (h : o.Renames key target freeText args) :
    (compileCondition o (key, args)).value =
      (.compile .including target (split [','] .all true args) o.haystackKey, freeText) := by
  unfold Options.Renames at h
  dsimp only at h
  unfold compileCondition
  simp only [hkey.splitKey_eq]
  cases hexpanded : (o.conditionRule? key).bind (·.expand key (split [','] .all true args)) with
  | none =>
    rw [hexpanded] at h
    obtain rfl : key = target := congrArg Expansion.key h
    obtain rfl : [] = freeText := congrArg Expansion.freeText h
    rfl
  | some e =>
    rw [hexpanded] at h
    obtain rfl : e = ⟨target, _, freeText⟩ := h
    rfl

/-- A query of one condition asks for what the condition does, and for the free text that its rule
adds. -/
theorem isMatch_ofCondition {args : Text} (hargs : Whole blanks .quotes args) {c : Condition}
    {freeText : List Text} (hpolarity : c.polarity = .including)
    (hcompiled : (compileCondition o (key, args)).value = (c, freeText)) (s : Subject) :
    isMatch o (ofArgument key args) s =
      (c.isMatch o s && (Condition.freeText o.haystackKey (phrases o freeText)).isMatch o s) := by
  have htoken : Token.ofText (ofArgument key args) = .condition key args :=
    (hkey.plainKey.readsBack hkey.colon_not_mem .including).token _
  have hruns : tokenRuns (ofArgument key args) = [[ofArgument key args]] :=
    tokenRuns_of_freeStanding (hkey.freeStanding hargs)
  have hincluding : (Condition.freeText o.haystackKey (phrases o freeText)).polarity =
      .including := rfl
  rw [isMatch_eq_all, value_conditions, hruns, List.map_singleton,
    conditionsOfRun_condition htoken hcompiled, List.all_cons, List.all_nil, Bool.and_true]
  simp [conditionsHold, hpolarity, hincluding]

/-- A condition on a key with one argument asks for the outcome of the argument at the key. -/
theorem isMatch_ofArgument {arg : Text} (harg : BareArgument arg)
    (hrule : o.conditionRule? key = none) (s : Subject) :
    isMatch o (ofArgument key arg) s = (Argument.parse arg).outcome o s key := by
  have hargument : Whole blanks .quotes arg := by
    refine (stays_plain (fun c hc => ?_) harg.nonempty).whole
    obtain ⟨-, hblank, hclosing⟩ := harg.plain c hc
    refine ⟨hblank, ?_⟩
    unfold Delimiters.closing? at hclosing ⊢
    split at hclosing
    · cases hclosing
    · next hquote => rw [if_neg hquote]
  have hsplit : split [','] .all true arg = [arg] := by
    refine (stays_plain (fun c hc => ?_) harg.nonempty).stripped
    obtain ⟨hcomma, -, hclosing⟩ := harg.plain c hc
    exact ⟨by simpa using hcomma, hclosing⟩
  have htake : Condition.takeCombination [arg] = (.any, [arg]) := by
    refine Condition.takeCombination_eq_any ?_
    simpa using Combination.parse?_eq_none_iff.2 harg.noWord
  have hwritten : Condition.compile .including key [arg] o.haystackKey =
      ⟨.including, key, .any, [.parse arg]⟩ := by
    rw [Condition.compile_eq htake (by simpa using harg.nonempty),
      show Condition.fieldOf o.haystackKey key = key from if_neg (not_or.2 hkey.named)]
    rfl
  have hcompiled : (compileCondition o (key, arg)).value =
      (⟨.including, key, .any, [.parse arg]⟩, []) := by
    rw [value_compileCondition_of_renames hkey (Options.renames_of_no_rule hrule arg), hsplit,
      hwritten]
  have hnothing : (Condition.freeText o.haystackKey (phrases o [])).isMatch o s = true := by
    rw [phrases_nil]
    exact Condition.isMatch_of_isUnconstrained o s rfl
  rw [isMatch_ofCondition hkey hargument rfl hcompiled, hnothing, Bool.and_true, Bool.eq_iff_iff,
    Condition.isMatch_iff]
  simp [Condition.Holds]

end Query

end RecordFilter
