import RecordFilter.Proofs.Search.Outcome

/-!
# Faults and the policy for them

The fault policy decides about an argument whose operator cannot be applied to the value at its
field, and about nothing else; an absent value is none it decides about.  Conditions and the way
they are read are the same under either policy, so a query is compared with itself argument by
argument (`isMatch_under`): what is decided for an argument counts for its condition, or against it
where the condition excludes.
-/

namespace RecordFilter

/-- Options with another fault policy. -/
def Options.under (o : Options) (policy : FaultPolicy) : Options :=
  { o with faultPolicy := policy }

namespace Argument

/-- The operator of an argument cannot be applied to the value that a subject has at a field. -/
def Faults (o : Options) (s : Subject) (key : Text) (a : Argument) : Prop :=
  ∃ value m, s.dig key = some value ∧ (Test.plain o a).outcome value = .error m

theorem any_not_isOk_iff (o : Options) (s : Subject) (key : Text) (a : Argument) :
    (s.dig key).any (fun value => !((Test.plain o a).outcome value).isOk) = true ↔
      a.Faults o s key := by
  unfold Faults
  rw [Option.any_eq_true]
  refine exists_congr fun value => ?_
  cases (Test.plain o a).outcome value with
  | ok answer => simp [Except.isOk, Except.toBool]
  | error m => simp [Except.isOk, Except.toBool]

instance (o : Options) (s : Subject) (key : Text) (a : Argument) : Decidable (a.Faults o s key) :=
  decidable_of_iff _ (any_not_isOk_iff o s key a)

variable {o : Options} {s : Subject} {key : Text} {a : Argument}

theorem outcome_of_faults (h : a.Faults o s key) (policy : FaultPolicy) :
    a.outcome (o.under policy) s key = policy.outcome := by
  obtain ⟨value, m, hdig, hfault⟩ := h
  have hplain : Test.plain (o.under policy) a = Test.plain o a := rfl
  unfold outcome
  simp only [hdig, hplain, hfault]
  rfl

theorem outcome_of_not_faults (h : ¬ a.Faults o s key) (policy policy' : FaultPolicy) :
    a.outcome (o.under policy) s key = a.outcome (o.under policy') s key := by
  have hplain : ∀ p, Test.plain (o.under p) a = Test.plain o a := fun _ => rfl
  unfold outcome
  cases hdig : s.dig key with
  | none => rfl
  | some value =>
    simp only [hplain]
    cases hout : (Test.plain o a).outcome value with
    | ok answer => rfl
    | error m => exact absurd ⟨value, m, hdig, hout⟩ h

/-- An outcome that the closed policy allows is allowed by the open one. -/
theorem outcome_opened_of_closed (h : a.outcome (o.under .closed) s key = true) :
    a.outcome (o.under .opened) s key = true := by
  by_cases hfault : a.Faults o s key
  · exact outcome_of_faults hfault .opened
  · rwa [outcome_of_not_faults hfault .opened .closed]

end Argument

namespace Condition

variable {o : Options} {s : Subject} {c : Condition}

/-- A condition that does not exclude goes on to hold when faults come to count as found. -/
theorem holds_opened_of_closed (hpolarity : c.polarity ≠ .excluding)
    (h : c.Holds (o.under .closed) s) : c.Holds (o.under .opened) s := by
  refine h.mono fun a _ hout => ?_
  rw [decide_eq_false hpolarity, Bool.ne_false_iff] at hout ⊢
  exact Argument.outcome_opened_of_closed hout

/-- A condition that excludes, or has no arguments, goes on to hold when faults come to count as not
found. -/
theorem holds_closed_of_opened (hpolarity : c.arguments ≠ [] → c.polarity = .excluding)
    (h : c.Holds (o.under .opened) s) : c.Holds (o.under .closed) s := by
  refine h.mono fun a ha hout => ?_
  rw [decide_eq_true (hpolarity (List.ne_nil_of_mem ha))] at hout ⊢
  exact fun hclosed => hout (Argument.outcome_opened_of_closed hclosed)

/-- Without a fault the policy does not count. -/
theorem holds_under_of_not_faults (h : ∀ a ∈ c.arguments, ¬ a.Faults o s c.key)
    (policy policy' : FaultPolicy) (hc : c.Holds (o.under policy) s) :
    c.Holds (o.under policy') s := by
  refine hc.mono fun a ha hout => ?_
  rwa [← Argument.outcome_of_not_faults (h a ha) policy policy']

end Condition

namespace Query

/-- Between the policies a query can only gain matches from the open one where no condition
excludes, and only lose them where all conditions with arguments exclude.  Of a subject on which no
argument faults both say the same. -/
theorem isMatch_under (o : Options) (query : Text) (s : Subject) :
    ((∀ cs ∈ (conditions o query).value, ∀ c ∈ cs, c.polarity ≠ .excluding) →
        isMatch (o.under .closed) query s = true → isMatch (o.under .opened) query s = true) ∧
      ((∀ cs ∈ (conditions o query).value, ∀ c ∈ cs, c.arguments ≠ [] →
          c.polarity = .excluding) →
        isMatch (o.under .opened) query s = true → isMatch (o.under .closed) query s = true) ∧
      ((∀ cs ∈ (conditions o query).value, ∀ c ∈ cs, ∀ a ∈ c.arguments, ¬ a.Faults o s c.key) →
        isMatch (o.under .closed) query s = isMatch (o.under .opened) query s) := by
  refine ⟨fun h => ?_, fun h => ?_, fun h => ?_⟩
  · refine isMatch_mono rfl fun cs hcs c hc => ?_
    exact Condition.holds_opened_of_closed (h cs hcs c hc)
  · refine isMatch_mono rfl fun cs hcs c hc => ?_
    exact Condition.holds_closed_of_opened (h cs hcs c hc)
  · rw [Bool.eq_iff_iff]
    constructor
    · refine isMatch_mono rfl fun cs hcs c hc => ?_
      exact Condition.holds_under_of_not_faults (h cs hcs c hc) .closed .opened
    · refine isMatch_mono rfl fun cs hcs c hc => ?_
      exact Condition.holds_under_of_not_faults (h cs hcs c hc) .opened .closed

/-- A list comes neither before nor after the number 1.  Where the comparison is one way of being
included or excluded among others the policies allow the same, and where nothing is compared they do
not count. -/
theorem isMatch_under_list :
    let s := Subject.single (.object [(['k'], .array [.string ['x']])])
    let included := "k:<1,has:x".toList
    let excluded := "-k:<1,has:y".toList
    let absent := "k:has:x -m:<1".toList
    (∀ cs ∈ (conditions {} included).value, ∀ c ∈ cs, c.polarity ≠ .excluding) ∧
      isMatch (Options.under {} .closed) included s = true ∧
      isMatch (Options.under {} .opened) included s = true ∧
      (∀ cs ∈ (conditions {} excluded).value, ∀ c ∈ cs, c.arguments ≠ [] →
        c.polarity = .excluding) ∧
      isMatch (Options.under {} .opened) excluded s = true ∧
      isMatch (Options.under {} .closed) excluded s = true ∧
      (∀ cs ∈ (conditions {} absent).value, ∀ c ∈ cs, ∀ a ∈ c.arguments, ¬ a.Faults {} s c.key) ∧
      isMatch (Options.under {} .closed) absent s =
        isMatch (Options.under {} .opened) absent s := by
  intro s included excluded absent
  have hincluded : ∀ cs ∈ (conditions {} included).value, ∀ c ∈ cs, c.polarity ≠ .excluding := by
    decide
  have hclosed : isMatch (Options.under {} .closed) included s = true := by decide
  have hexcluded : ∀ cs ∈ (conditions {} excluded).value, ∀ c ∈ cs, c.arguments ≠ [] →
      c.polarity = .excluding := by decide
  have hopened : isMatch (Options.under {} .opened) excluded s = true := by decide
  have habsent : ∀ cs ∈ (conditions {} absent).value, ∀ c ∈ cs, ∀ a ∈ c.arguments,
      ¬ a.Faults {} s c.key := by decide
  exact ⟨hincluded, hclosed, (isMatch_under {} included s).1 hincluded hclosed, hexcluded, hopened,
    (isMatch_under {} excluded s).2.1 hexcluded hopened, habsent,
    (isMatch_under {} absent s).2.2 habsent⟩

end Query

end RecordFilter
