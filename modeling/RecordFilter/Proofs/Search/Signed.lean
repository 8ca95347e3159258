import RecordFilter.Proofs.Search.Negation

/-!
# What signed arguments say

An argument that begins with the sign of an operator, other than for a pattern, says of a value that
is there what the operator answers.  It is answered by its literal in the letter case that counts
(`Argument.outcome_of_sign`), whatever the operator.
-/

namespace RecordFilter

/-- A literal in the letter case that counts. -/
def Literal.caseFolded (folded : Bool) (l : Literal) : Literal :=
  if folded then l.lowerCase else l

/-- The number that a value is or that its text writes. -/
def Json.number? : Json → Option Double
  | .number v => some v.toDouble
  | .string s => writtenNumber? s
  | _ => none

namespace Literal

theorem coerce_eq_scalar {op : Operator} (hpattern : ¬ op.isPattern) (hlist : ¬ op.takesList)
    (raw : Text) : coerce raw op = scalar raw := by
  rw [coerce, if_neg hpattern, if_neg hlist]

theorem scalar_of_ofText? {t : Text} {x : Double} (h : Double.ofText? t = some x) :
    scalar t = .number x := by
  rw [scalar, h]

@[simp]
theorem caseFolded_number (folded : Bool) (x : Double) :
    (number x).caseFolded folded = .number x := by
  cases folded <;> rfl

@[simp]
theorem caseFolded_bool (folded b : Bool) : (bool b).caseFolded folded = .bool b := by
  cases folded <;> rfl

@[simp]
theorem caseFolded_text (folded : Bool) (t : Text) :
    (text t).caseFolded folded = .text (Json.caseFolded folded t) := by
  cases folded <;> rfl

@[simp]
theorem caseFolded_list (folded : Bool) (items : List Literal) :
    (list items).caseFolded folded = .list (items.map (caseFolded folded)) := by
  cases folded with
  | false =>
    have hkept : items.map (caseFolded false) = items := List.map_id items
    rw [hkept]
    rfl
  | true => exact congrArg list (lowerCaseAll_eq items)

end Literal

/-- A test that is answered by a literal and its text in the letter case that counts. -/
def Test.signed (o : Options) (l : Literal) (raw : Text) : Test :=
  ⟨.unspecified, l.caseFolded o.ignoreCase, Json.caseFolded o.ignoreCase raw, o.ignoreCase, none⟩

namespace Argument

variable {s : Subject} {key : Text} {v : Json} (o : Options) (l : Literal) (raw : Text)

/-- The answer of a signed argument on a value that is there; where its operator has none, the
policy decides. -/
theorem outcome_of_sign {op : Operator} (hsign : op ≠ .unspecified) (hpattern : ¬ op.isPattern)
    (hdig : s.dig key = some v) : (⟨op, l, raw⟩ : Argument).outcome o s key =
      ((Test.signed o l raw).answer? op v).getD o.faultPolicy.outcome := by
  have hunspecified : ¬ Operator.unspecified.isPattern := Bool.false_ne_true
  have htest : Test.plain o ⟨.unspecified, l, raw⟩ = Test.signed o l raw := by
    rw [Test.plain, if_neg hunspecified, Test.signed]
    cases o.ignoreCase <;> rfl
  rw [outcome_eq_answer? o hsign hpattern l raw hdig, htest]

variable (hdig : s.dig key = some v)

include hdig

theorem outcome_equal : (⟨.equal, l, raw⟩ : Argument).outcome o s key =
    v.equals o.ignoreCase (l.caseFolded o.ignoreCase) := by
  rw [outcome_of_sign o l raw (by decide) (by decide) hdig]
  rfl

theorem outcome_among : (⟨.among, l, raw⟩ : Argument).outcome o s key =
    v.isAmong o.ignoreCase (l.caseFolded o.ignoreCase) := by
  rw [outcome_of_sign o l raw (by decide) (by decide) hdig]
  rfl

omit hdig in
/-- An array holds a literal that one of its items equals. -/
theorem outcome_holds {items : List Json} (hdig : s.dig key = some (.array items)) :
    (⟨.holds, l, raw⟩ : Argument).outcome o s key =
      items.any (·.equals o.ignoreCase (l.caseFolded o.ignoreCase)) := by
  rw [outcome_of_sign o l raw (by decide) (by decide) hdig]
  rfl

end Argument

end RecordFilter
