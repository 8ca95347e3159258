import RecordFilter.Proofs.Search.Meaning

/-!
# When a condition holds

What an argument says about a subject, said of the argument as it is shown: nothing about an absent
value, what the policy decides where the operator cannot be applied, and else what the operator
answers.  A condition holds by these outcomes alone, whatever is tried first and wherever trying
ends, so a query says of a subject what the conditions shown for it say (`isMatch_iff_holds`).
-/

namespace RecordFilter

/-- What an argument says about a subject at the field of its condition. -/
def Argument.outcome (o : Options) (s : Subject) (key : Text) (a : Argument) : Bool :=
  match s.dig key with
  | none => false
  | some value =>
    match (Test.plain o a).outcome value with
    | .ok answer => answer
    | .error _ => o.faultPolicy.outcome

/-- A condition holds of a subject when it has no arguments, or when one of its arguments, or every
one if all are needed, has an outcome other than the one that counts against it. -/
def Condition.Holds (o : Options) (s : Subject) (c : Condition) : Prop :=
  c.arguments = [] ∨
    match c.combination with
    | .any => ∃ a ∈ c.arguments, a.outcome o s c.key ≠ decide (c.polarity = .excluding)
    | .all => ∀ a ∈ c.arguments, a.outcome o s c.key ≠ decide (c.polarity = .excluding)

/-- Where a pattern is wanted, a literal that is none is found in no value; this is an answer and no
fault, so the policy is not asked. -/
theorem Argument.outcome_of_unusable (o : Options) (s : Subject) (key : Text) {a : Argument}
    (ha : a.operator.isPattern) {e : Pattern.Fault}
    (he : Pattern.compile (a.operator == .patternAnyCase || o.ignoreCase) a.raw = .error e) :
    a.outcome o s key = false := by
  have hpattern : (Test.plain o a).pattern = none := by
    rw [Test.plain, if_pos ha, he]
    rfl
  have hoperator : (Test.plain o a).operator = a.operator := by
    rw [Test.plain, if_pos ha]
  have hanswer : ∀ value, (Test.plain o a).outcome value = .ok false := by
    intro value
    unfold Test.outcome Test.operatorFor
    rw [hoperator]
    cases hop : a.operator with
    | pattern => simp [Test.answer?, hpattern]
    | patternAnyCase => simp [Test.answer?, hpattern]
    | _ => simp [hop, Operator.isPattern] at ha
  unfold outcome
  cases s.dig key with
  | none => rfl
  | some value => simp only [hanswer]

/-- What a test contributes to its check is its argument's outcome, reversed by an excluding
condition. -/
theorem Check.value_contribution (o : Options) (s : Subject) (c : Condition) (a : Argument) :
    ((Check.plain o c).contribution o.faultPolicy (s.dig c.key) (Test.plain o a)).value =
      (a.outcome o s c.key != (c.polarity == .excluding)) := by
  have hanswer : (Check.answer o.faultPolicy c.key (s.dig c.key) (Test.plain o a)).value =
      a.outcome o s c.key := by
    unfold Check.answer Argument.outcome
    cases s.dig c.key with
    | none => rfl
    | some value => cases hout : (Test.plain o a).outcome value <;> simp [hout]
  rw [← hanswer]
  rfl

namespace Condition

/-- A condition is decided by the outcomes of its arguments. -/
theorem isMatch_eq (o : Options) (s : Subject) (c : Condition) :
    c.isMatch o s = (c.arguments.isEmpty ||
      match c.combination with
      | .any => c.arguments.any fun a => a.outcome o s c.key != (c.polarity == .excluding)
      | .all => c.arguments.all fun a => a.outcome o s c.key != (c.polarity == .excluding)) := by
  have htests : (Check.plain o c).tests = c.arguments.map (Test.plain o) := rfl
  have hkey : (Check.plain o c).key = c.key := rfl
  have hcombination : (Check.plain o c).combination = c.combination := rfl
  unfold isMatch Check.run
  rw [htests, List.isEmpty_map, hkey, hcombination]
  cases hempty : c.arguments.isEmpty with
  | true => simp
  | false =>
    cases c.combination with
    | any => simp [Function.comp_def, Check.value_contribution]
    | all => simp [Function.comp_def, Check.value_contribution]

theorem isMatch_iff (o : Options) (s : Subject) (c : Condition) :
    c.isMatch o s = true ↔ c.Holds o s := by
  have hcounts : ∀ a : Argument, (a.outcome o s c.key != (c.polarity == .excluding)) = true ↔
      a.outcome o s c.key ≠ decide (c.polarity = .excluding) := by
    intro a
    simp [Bool.beq_eq_decide_eq]
  rw [isMatch_eq, Bool.or_eq_true, List.isEmpty_iff, Holds]
  cases c.combination with
  | any => simp only [List.any_eq_true, hcounts]
  | all => simp only [List.all_eq_true, hcounts]

/-- A condition goes on to hold where no argument that counts for it comes to count against it. -/
theorem Holds.mono {o o' : Options} {s s' : Subject} {c : Condition}
    (h : ∀ a ∈ c.arguments, a.outcome o s c.key ≠ decide (c.polarity = .excluding) →
      a.outcome o' s' c.key ≠ decide (c.polarity = .excluding))
    (hc : c.Holds o s) : c.Holds o' s' := by
  rcases hc with hempty | hcounts
  · exact .inl hempty
  · right
    cases hcombination : c.combination with
    | any =>
      rw [hcombination] at hcounts
      obtain ⟨a, ha, hout⟩ := hcounts
      exact ⟨a, ha, h a ha hout⟩
    | all =>
      rw [hcombination] at hcounts
      exact fun a ha => h a ha (hcounts a ha)

/-- Two conditions of the same polarity that hold together. -/
def Alike (o : Options) (s : Subject) (c d : Condition) : Prop :=
  c.polarity = d.polarity ∧ (c.Holds o s ↔ d.Holds o s)

theorem Alike.refl (o : Options) (s : Subject) (c : Condition) : c.Alike o s c :=
  ⟨rfl, Iff.rfl⟩

theorem Alike.symm {o : Options} {s : Subject} {c d : Condition} (h : c.Alike o s d) :
    d.Alike o s c :=
  ⟨h.1.symm, h.2.symm⟩

theorem Alike.of_isMatch_eq {o : Options} {s : Subject} {c d : Condition}
    (hpolarity : c.polarity = d.polarity) (h : c.isMatch o s = d.isMatch o s) : c.Alike o s d :=
  ⟨hpolarity, by rw [← isMatch_iff, ← isMatch_iff, h]⟩

end Condition

namespace Query

/-- The conditions of a sub-query hold when each of them does that is not additive and, where some
are additive, one of these. -/
theorem conditionsHold_iff (o : Options) (s : Subject) (cs : List Condition) :
    conditionsHold o s cs = true ↔
      (∀ c ∈ cs, c.polarity ≠ .additive → c.Holds o s) ∧
        ((∃ c ∈ cs, c.polarity = .additive) → ∃ c ∈ cs, c.polarity = .additive ∧ c.Holds o s) := by
  have hrequired : (cs.filter (·.polarity != .additive)).all (·.isMatch o s) = true ↔
      ∀ c ∈ cs, c.polarity ≠ .additive → c.Holds o s := by
    simp [Condition.isMatch_iff, or_iff_not_imp_left]
  have hempty : (cs.filter (·.polarity == .additive)).isEmpty = true ↔
      ¬ ∃ c ∈ cs, c.polarity = .additive := by
    simp [List.isEmpty_iff, List.filter_eq_nil_iff]
  have hadditive : (cs.filter (·.polarity == .additive)).any (·.isMatch o s) = true ↔
      ∃ c ∈ cs, c.polarity = .additive ∧ c.Holds o s := by
    simp [Condition.isMatch_iff]
  rw [conditionsHold, Bool.and_eq_true, Bool.or_eq_true, hrequired, hempty, hadditive,
    ← imp_iff_not_or]

theorem conditionsHold_alone {o : Options} {s : Subject} {c : Condition}
    (hc : c.polarity ≠ .additive) : conditionsHold o s [c] = true ↔ c.Holds o s := by
  rw [conditionsHold_iff]
  simp [hc]

/-- Conditions go on to hold together where each of them goes on to hold. -/
theorem conditionsHold_mono {o o' : Options} {s s' : Subject} {cs : List Condition}
    (h : ∀ c ∈ cs, c.Holds o s → c.Holds o' s') (hcs : conditionsHold o s cs = true) :
    conditionsHold o' s' cs = true := by
  rw [conditionsHold_iff] at hcs ⊢
  obtain ⟨hrequired, hadditive⟩ := hcs
  constructor
  · intro c hc hne
    exact h c hc (hrequired c hc hne)
  · intro hsome
    obtain ⟨c, hc, hadd, hholds⟩ := hadditive hsome
    exact ⟨c, hc, hadd, h c hc hholds⟩

/-- A subject goes on to match where each condition shown for the query goes on to hold. -/
theorem isMatch_mono {o o' : Options} {query : Text} {s s' : Subject}
    (hconditions : (conditions o' query).value = (conditions o query).value)
    (h : ∀ cs ∈ (conditions o query).value, ∀ c ∈ cs, c.Holds o s → c.Holds o' s')
    (hmatch : isMatch o query s = true) : isMatch o' query s' = true := by
  rw [isMatch_eq_all, List.all_eq_true] at hmatch ⊢
  rw [hconditions]
  intro cs hcs
  exact conditionsHold_mono (h cs hcs) (hmatch cs hcs)

/-- What holds of conditions holds of others that are alike, whatever their number and order. -/
theorem conditionsHold_of_alike {o : Options} {s : Subject} {cs ds : List Condition}
    (hleft : ∀ c ∈ cs, ∃ d ∈ ds, c.Alike o s d) (hright : ∀ d ∈ ds, ∃ c ∈ cs, d.Alike o s c)
    (h : conditionsHold o s cs = true) : conditionsHold o s ds = true := by
  rw [conditionsHold_iff] at h ⊢
  obtain ⟨hrequired, hadditive⟩ := h
  constructor
  · intro d hd hne
    obtain ⟨c, hc, hpolarity, hholds⟩ := hright d hd
    exact hholds.2 (hrequired c hc (hpolarity ▸ hne))
  · rintro ⟨d, hd, hd'⟩
    obtain ⟨c, hc, hpolarity, -⟩ := hright d hd
    obtain ⟨c', hc', hadd, hcholds⟩ := hadditive ⟨c, hc, hpolarity ▸ hd'⟩
    obtain ⟨d', hd', hpolarity', hholds'⟩ := hleft c' hc'
    exact ⟨d', hd', hpolarity' ▸ hadd, hholds'.1 hcholds⟩

theorem conditionsHold_congr {o : Options} {s : Subject} {cs ds : List Condition}
    (hleft : ∀ c ∈ cs, ∃ d ∈ ds, c.Alike o s d) (hright : ∀ d ∈ ds, ∃ c ∈ cs, d.Alike o s c) :
    conditionsHold o s cs = conditionsHold o s ds := by
  rw [Bool.eq_iff_iff]
  exact ⟨conditionsHold_of_alike hleft hright, conditionsHold_of_alike hright hleft⟩

/-- A query matches a subject exactly when, in every sub-query, the conditions shown for it hold:
all that are not additive and, where some are additive, one of these.  A literal that should be a
pattern and is none has the outcome false, whatever the policy. -/
theorem isMatch_iff_holds (o : Options) (query : Text) (s : Subject) :
    (isMatch o query s = true ↔
      ∀ cs ∈ (conditions o query).value,
        (∀ c ∈ cs, c.polarity ≠ .additive → c.Holds o s) ∧
          ((∃ c ∈ cs, c.polarity = .additive) →
            ∃ c ∈ cs, c.polarity = .additive ∧ c.Holds o s)) ∧
      ∀ (a : Argument) (key : Text) (e : Pattern.Fault), a.operator.isPattern →
        Pattern.compile (a.operator == .patternAnyCase || o.ignoreCase) a.raw = .error e →
        a.outcome o s key = false := by
  refine ⟨?_, fun a key e ha he => a.outcome_of_unusable o s key ha he⟩
  rw [isMatch_eq_all, List.all_eq_true]
  simp only [conditionsHold_iff]

/-- A repetition of nothing is no pattern: wanted as one, and in any letter case, it is not found
even where a fault counts as found. -/
theorem isMatch_iff_holds_unusable :
    (Argument.parse ['i', '/', '*']).operator.isPattern = true ∧
      Pattern.compile true ['*'] = .error .malformed ∧
      ∀ s key,
        (Argument.parse ['i', '/', '*']).outcome { faultPolicy := .opened } s key = false := by
  have hoperator : (Argument.parse ['i', '/', '*']).operator.isPattern = true := by decide
  have hpattern : Pattern.compile true ['*'] = .error .malformed := by decide
  refine ⟨hoperator, hpattern, fun s key => ?_⟩
  exact (isMatch_iff_holds { faultPolicy := .opened } [] s).2 _ key .malformed hoperator hpattern

end Query

end RecordFilter
