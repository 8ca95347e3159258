import RecordFilter.Proofs.Query.ArgumentText
import RecordFilter.Proofs.Search.LetterCase

/-!
# Negation

A condition is negated by the operator of an argument and by its polarity; what the policy decides
stands between the two.  Each of them reverses what an argument says, so an excluding condition is
the negation of the including one that combines the arguments the other way, and a condition with
the opposite operator is the negation of the one with the operator, as long as there is a value that
the operator can be applied to (`isMatch_opposite`).
-/

namespace RecordFilter

namespace Operator

/-- The operator that answers no where another answers yes. -/
def opposite? : Operator → Option Operator
  | equal => some notEqual
  | holds => some holdsNot
  | among => some notAmong
  | _ => none

/-- Whether an operator can be applied to a value: only arrays and strings hold anything. -/
def Applies (op : Operator) (v : Json) : Prop :=
  op = holds → v.kind = .array ∨ v.kind = .string

theorem eq_of_opposite? {op opposite : Operator} (h : op.opposite? = some opposite) :
    op = equal ∧ opposite = notEqual ∨ op = holds ∧ opposite = holdsNot ∨
      op = among ∧ opposite = notAmong := by
  cases op <;> simp_all [opposite?]

end Operator

namespace Test

variable {op opposite : Operator} (h : op.opposite? = some opposite) (t : Test) (v : Json)

include h

/-- An operator and its opposite both have no answer, or opposite ones. -/
theorem answer?_opposite : t.answer? opposite v = (t.answer? op v).map (!·) := by
  rcases Operator.eq_of_opposite? h with ⟨rfl, rfl⟩ | ⟨rfl, rfl⟩ | ⟨rfl, rfl⟩
  · rfl
  · rfl
  · rfl

theorem answer?_isSome_iff : (t.answer? op v).isSome ↔ op.Applies v := by
  unfold Operator.Applies
  rcases Operator.eq_of_opposite? h with ⟨rfl, rfl⟩ | ⟨rfl, rfl⟩ | ⟨rfl, rfl⟩
  · simp [answer?]
  · cases v <;> simp [answer?, Json.holds?, Json.kind]
  · simp [answer?]

end Test

namespace Argument

variable {o : Options} {s : Subject} {key : Text} {v : Json}

/-- Written with the sign of an operator or of its opposite, an argument has the same literal. -/
theorem parse_opposite {op opposite : Operator} (h : op.opposite? = some opposite) {raw : Text}
    (hne : raw ≠ []) : parse (op.sign ++ raw) = ⟨op, .coerce raw op, raw⟩ ∧
      parse (opposite.sign ++ raw) = ⟨opposite, .coerce raw op, raw⟩ := by
  rcases Operator.eq_of_opposite? h with ⟨rfl, rfl⟩ | ⟨rfl, rfl⟩ | ⟨rfl, rfl⟩
  · exact ⟨parse_signed (by decide) hne, parse_signed (by decide) hne⟩
  · exact ⟨parse_signed (by decide) hne, parse_signed (by decide) hne⟩
  · exact ⟨parse_signed (by decide) hne, parse_signed (by decide) hne⟩

section Opposite

variable {op opposite : Operator} (h : op.opposite? = some opposite) (hdig : s.dig key = some v)
  (l : Literal) (raw : Text)

include h hdig

theorem outcome_eq_answer?_of_opposite? :
    (⟨op, l, raw⟩ : Argument).outcome o s key =
        ((Test.plain o ⟨.unspecified, l, raw⟩).answer? op v).getD o.faultPolicy.outcome ∧
      (⟨opposite, l, raw⟩ : Argument).outcome o s key =
        (((Test.plain o ⟨.unspecified, l, raw⟩).answer? op v).map (!·)).getD
          o.faultPolicy.outcome := by
  have hsigned : op ≠ .unspecified ∧ ¬ op.isPattern ∧
      opposite ≠ .unspecified ∧ ¬ opposite.isPattern := by
    rcases Operator.eq_of_opposite? h with ⟨rfl, rfl⟩ | ⟨rfl, rfl⟩ | ⟨rfl, rfl⟩ <;> decide
  obtain ⟨hop, hpattern, hop', hpattern'⟩ := hsigned
  refine ⟨outcome_eq_answer? o hop hpattern l raw hdig, ?_⟩
  rw [outcome_eq_answer? o hop' hpattern' l raw hdig, Test.answer?_opposite h]

/-- Of a value that an operator can be applied to, it and its opposite say opposite things. -/
theorem outcome_opposite (hv : op.Applies v) : (⟨opposite, l, raw⟩ : Argument).outcome o s key =
    !(⟨op, l, raw⟩ : Argument).outcome o s key := by
  obtain ⟨houtcome, hopposite⟩ := outcome_eq_answer?_of_opposite? (o := o) h hdig l raw
  have hsome := (Test.answer?_isSome_iff h (Test.plain o ⟨.unspecified, l, raw⟩) v).2 hv
  obtain ⟨b, hb⟩ := Option.isSome_iff_exists.1 hsome
  rw [houtcome, hopposite, hb]
  rfl

/-- Of any other value both say what the policy decides. -/
theorem outcome_of_not_applies (hv : ¬ op.Applies v) :
    (⟨op, l, raw⟩ : Argument).outcome o s key = o.faultPolicy.outcome ∧
      (⟨opposite, l, raw⟩ : Argument).outcome o s key = o.faultPolicy.outcome := by
  obtain ⟨houtcome, hopposite⟩ := outcome_eq_answer?_of_opposite? (o := o) h hdig l raw
  have hnone : (Test.plain o ⟨.unspecified, l, raw⟩).answer? op v = none := by
    rw [← Test.answer?_isSome_iff h (Test.plain o ⟨.unspecified, l, raw⟩)] at hv
    exact Option.not_isSome_iff_eq_none.1 hv
  rw [houtcome, hopposite, hnone]
  exact ⟨rfl, rfl⟩

end Opposite

end Argument

/-- The other way to combine. -/
def Combination.dual : Combination → Combination
  | any => all
  | all => any

namespace Condition

variable (o : Options) (s : Subject) (key : Text)

/-- A condition that excludes is the negation of one that includes and combines its arguments the
other way. -/
theorem isMatch_excluding (combination : Combination) {as : List Argument} (has : as ≠ []) :
    (⟨.excluding, key, combination, as⟩ : Condition).isMatch o s =
      !(⟨.including, key, combination.dual, as⟩ : Condition).isMatch o s := by
  have hempty : as.isEmpty = false := by simpa using has
  have hexcluding : (Polarity.excluding == .excluding) = true := by decide
  have hincluding : (Polarity.including == .excluding) = false := by decide
  rw [isMatch_eq, isMatch_eq, hempty, Bool.false_or, Bool.false_or]
  simp only [hexcluding, hincluding, Bool.bne_true, Bool.bne_false]
  cases combination with
  | any => exact List.not_all_eq_any_not.symm
  | all => exact List.not_any_eq_all_not.symm

/-- A condition with one argument says what the argument says, or the opposite if it excludes. -/
theorem isMatch_singleton (polarity : Polarity) (combination : Combination) (a : Argument) :
    (⟨polarity, key, combination, [a]⟩ : Condition).isMatch o s =
      (a.outcome o s key != (polarity == .excluding)) := by
  rw [isMatch_eq]
  cases combination <;> simp

/-- Of an absent value a condition with arguments holds if it excludes, and only then. -/
theorem isMatch_of_absent (h : s.dig key = none) (polarity : Polarity) (combination : Combination)
    {as : List Argument} (has : as ≠ []) :
    (⟨polarity, key, combination, as⟩ : Condition).isMatch o s = (polarity == .excluding) := by
  have hempty : as.isEmpty = false := by simpa using has
  obtain ⟨a, rest, rfl⟩ := List.exists_cons_of_ne_nil has
  rw [isMatch_eq, hempty, Bool.false_or]
  cases combination <;> cases polarity <;> simp [Argument.outcome_of_absent h]

/-- Negation laws.  Whatever values are absent and operators have no answer, a condition that
excludes is the negation of the including one that combines its arguments the other way.  Where
there is a value, an argument with the opposite operator, and the same literal, negates its
condition, as long as the operator can be applied to the value; else both say what the policy
decides.  Where there is none, all of these hold if they exclude and do not hold if they include.
Written with the signs of an operator and of its opposite, two arguments have the same literal. -/
theorem isMatch_opposite (o : Options) (s : Subject) (key : Text) :
    (∀ as : List Argument, as ≠ [] →
      (⟨.excluding, key, .any, as⟩ : Condition).isMatch o s =
          !(⟨.including, key, .all, as⟩ : Condition).isMatch o s ∧
        (⟨.excluding, key, .all, as⟩ : Condition).isMatch o s =
          !(⟨.including, key, .any, as⟩ : Condition).isMatch o s) ∧
    (∀ v, s.dig key = some v → ∀ (polarity : Polarity) (combination : Combination) (l : Literal)
        (raw : Text),
      let asks (op : Operator) : Bool :=
        (⟨polarity, key, combination, [⟨op, l, raw⟩]⟩ : Condition).isMatch o s
      asks .notEqual = !asks .equal ∧ asks .notAmong = !asks .among ∧
        (v.kind = .array ∨ v.kind = .string → asks .holdsNot = !asks .holds) ∧
        (¬ (v.kind = .array ∨ v.kind = .string) →
          asks .holds = (o.faultPolicy.outcome != (polarity == .excluding)) ∧
            asks .holdsNot = (o.faultPolicy.outcome != (polarity == .excluding)))) ∧
    (s.dig key = none → ∀ (combination : Combination) (as : List Argument), as ≠ [] →
      (⟨.including, key, combination, as⟩ : Condition).isMatch o s = false ∧
        (⟨.excluding, key, combination, as⟩ : Condition).isMatch o s = true) ∧
    ∀ op opposite : Operator, op.opposite? = some opposite → ∀ raw : Text, raw ≠ [] →
      Argument.parse (op.sign ++ raw) = ⟨op, .coerce raw op, raw⟩ ∧
        Argument.parse (opposite.sign ++ raw) = ⟨opposite, .coerce raw op, raw⟩ := by
  refine ⟨?_, ?_, ?_, fun op opposite h raw => Argument.parse_opposite h⟩
  · intro as has
    exact ⟨isMatch_excluding o s key .any has, isMatch_excluding o s key .all has⟩
  · intro v hdig polarity combination l raw asks
    have hasks : ∀ op, asks op =
        ((⟨op, l, raw⟩ : Argument).outcome o s key != (polarity == .excluding)) :=
      fun op => isMatch_singleton o s key polarity combination ⟨op, l, raw⟩
    have hopposite : ∀ op opposite : Operator, op.opposite? = some opposite → op.Applies v →
        asks opposite = !asks op := by
      intro op opposite h hv
      rw [hasks, hasks, Argument.outcome_opposite h hdig l raw hv, Bool.not_bne]
    refine ⟨hopposite .equal .notEqual rfl nofun, hopposite .among .notAmong rfl nofun,
      fun hv => hopposite .holds .holdsNot rfl fun _ => hv, fun hv => ?_⟩
    have hnot : ¬ Operator.holds.Applies v := fun happlies => hv (happlies rfl)
    obtain ⟨hholds, hholdsNot⟩ := Argument.outcome_of_not_applies (o := o) rfl hdig l raw hnot
    rw [hasks, hasks, hholds, hholdsNot]
    exact ⟨rfl, rfl⟩
  · intro habsent combination as has
    exact ⟨isMatch_of_absent o s key habsent .including combination has,
      isMatch_of_absent o s key habsent .excluding combination has⟩

/-- Under the open policy: a truth value neither comes before a number nor holds text, a list does
hold text, and nothing is said of a field that is not there. -/
theorem isMatch_opposite_list :
    let o : Options := { faultPolicy := .opened }
    let s := Subject.single (.object [(['k'], .bool true), (['t'], .array [.string ['x']])])
    let as := [Argument.parse "<1".toList, .parse "=f".toList]
    let asks (key : Text) (arg : String) : Bool :=
      (⟨.including, key, .any, [.parse arg.toList]⟩ : Condition).isMatch o s
    as ≠ [] ∧ s.dig ['k'] = some (.bool true) ∧ s.dig ['t'] = some (.array [.string ['x']]) ∧
      s.dig ['m'] = none ∧ Operator.holds.opposite? = some .holdsNot ∧
      (⟨.excluding, ['k'], .any, as⟩ : Condition).isMatch o s =
        !(⟨.including, ['k'], .all, as⟩ : Condition).isMatch o s ∧
      asks ['k'] "has:x" = true ∧ asks ['k'] "!has:x" = true ∧
      asks ['t'] "!has:x" = !asks ['t'] "has:x" ∧
      (⟨.excluding, ['m'], .all, as⟩ : Condition).isMatch o s = true := by
  intro o s as asks
  have has : as ≠ [] := List.cons_ne_nil _ _
  have hk : s.dig ['k'] = some (.bool true) := by rfl
  have ht : s.dig ['t'] = some (.array [.string ['x']]) := by rfl
  have hm : s.dig ['m'] = none := by rfl
  obtain ⟨hcombined, hpresent, -, hread⟩ := isMatch_opposite o s ['k']
  obtain ⟨-, hlist, -, -⟩ := isMatch_opposite o s ['t']
  obtain ⟨-, -, habsent, -⟩ := isMatch_opposite o s ['m']
  obtain ⟨hholds, hholdsNot⟩ := hread .holds .holdsNot rfl ['x'] (List.cons_ne_nil _ _)
  have hasks : ∀ key, asks key "has:x" =
        (⟨.including, key, .any, [⟨.holds, .coerce ['x'] .holds, ['x']⟩]⟩ : Condition).isMatch o s ∧
      asks key "!has:x" =
        (⟨.including, key, .any, [⟨.holdsNot, .coerce ['x'] .holds, ['x']⟩]⟩ :
          Condition).isMatch o s := by
    intro key
    rw [← hholds, ← hholdsNot]
    exact ⟨rfl, rfl⟩
  have hfaults := (hpresent _ hk .including .any (.coerce ['x'] .holds) ['x']).2.2.2 (by decide)
  have hfound := (hlist _ ht .including .any (.coerce ['x'] .holds) ['x']).2.2.1 (.inl rfl)
  refine ⟨has, hk, ht, hm, rfl, (hcombined as has).1, ?_, ?_, ?_, (habsent hm .all as has).2⟩
  · exact (hasks _).1.trans hfaults.1
  · exact (hasks _).2.trans hfaults.2
  · exact (hasks _).2.trans (hfound.trans (congrArg (!·) (hasks _).1.symm))

end Condition

end RecordFilter
