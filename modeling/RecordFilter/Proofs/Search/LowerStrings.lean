import RecordFilter.Proofs.Record.Strings
import RecordFilter.Proofs.Search.LetterCase

/-!
# The letter case of records

Where letter case is ignored, the case that the texts of a record are written in does not show: a
query says the same of a record and of the record with every string in lower case
(`isMatch_lowerStrings`).  Operators look at a string through its lower case, which is its own, or
at the number that it writes, which its lower case writes too.  Only patterns look at it as it is.
-/

namespace RecordFilter

namespace Json

/-- A value with every string in lower case. -/
abbrev lowerStrings (value : Json) : Json :=
  value.mapStrings Text.lowerCase

variable (v : Json) (l : Literal) (t : Text)

theorem writtenNumber?_lowerCase : writtenNumber? (Text.lowerCase t) = writtenNumber? t :=
  Double.ofText?_trim_lowerCase t

theorem caseFolded_lowerCase : caseFolded true (Text.lowerCase t) = caseFolded true t :=
  Text.lowerCase_lowerCase t

theorem equals_lowerStrings : v.lowerStrings.equals true l = v.equals true l := by
  cases v with
  | string s =>
    cases l with
    | text t => exact congrArg (· == t) (caseFolded_lowerCase s)
    | number n => exact congrArg (Option.any (·.same n)) (writtenNumber?_lowerCase s)
    | _ => rfl
  | _ => cases l <;> rfl

theorem orderAgainst?_lowerStrings :
    v.lowerStrings.orderAgainst? true l = v.orderAgainst? true l := by
  cases v with
  | string s =>
    cases l with
    | text t => exact congrArg (fun u => some (compare u t)) (caseFolded_lowerCase s)
    | number n => exact congrArg (Option.map (·.order n)) (writtenNumber?_lowerCase s)
    | _ => rfl
  | _ => cases l <;> rfl

theorem equalsItem_lowerStrings : equalsItem true l v.lowerStrings = equalsItem true l v := by
  cases l with
  | list items => exact congrArg items.any (funext (equals_lowerStrings v))
  | _ => exact equals_lowerStrings v _

theorem isAmong_lowerStrings : v.lowerStrings.isAmong true l = v.isAmong true l := by
  cases v with
  | array items =>
    rw [lowerStrings, mapStrings, mapStringsItems_eq, isAmong, isAmong, List.any_map]
    exact congrArg items.any (funext fun item => equalsItem_lowerStrings item l)
  | _ => exact equalsItem_lowerStrings _ l

theorem holds?_lowerStrings : v.lowerStrings.holds? true l t = v.holds? true l t := by
  cases v with
  | array items =>
    rw [lowerStrings, mapStrings, mapStringsItems_eq, holds?, holds?, List.any_map]
    exact congrArg some (congrArg items.any (funext fun item => equals_lowerStrings item l))
  | string s => exact congrArg (fun u => some (Text.occursIn t u)) (caseFolded_lowerCase s)
  | _ => rfl

theorem containsText_lowerStrings : v.lowerStrings.containsText true t = v.containsText true t := by
  cases v with
  | string s => exact congrArg (fun u => !t.isEmpty && Text.occursIn t u) (caseFolded_lowerCase s)
  | _ => rfl

end Json

namespace Test

variable {t : Test}

theorem operatorFor_lowerStrings (v : Json) : t.operatorFor v.lowerStrings = t.operatorFor v := by
  unfold operatorFor
  cases t.operator <;> cases v <;> rfl

/-- A test that ignores letter case, other than for a pattern, has the same answer on a value and on
the value in lower case. -/
theorem answer?_lowerStrings (hfolded : t.folded = true) {op : Operator} (hop : ¬ op.isPattern)
    (v : Json) : t.answer? op v.lowerStrings = t.answer? op v := by
  unfold answer?
  rw [hfolded]
  simp only [Json.equals_lowerStrings, Json.orderAgainst?_lowerStrings, Json.holds?_lowerStrings,
    Json.isAmong_lowerStrings, Json.containsText_lowerStrings]
  cases op with
  | pattern => exact absurd rfl hop
  | patternAnyCase => exact absurd rfl hop
  | _ => rfl

theorem isPattern_operatorFor (h : ¬ t.operator.isPattern) (v : Json) :
    ¬ (t.operatorFor v).isPattern := by
  unfold operatorFor
  split
  · exact Bool.false_ne_true
  · exact Bool.false_ne_true
  · exact h

end Test

/-- Subjects whose records have every string in lower case. -/
abbrev Subject.lowerStrings (s : Subject) : Subject :=
  s.mapStrings Text.lowerCase

theorem Argument.outcome_lowerStrings {o : Options} (ho : o.ignoreCase = true) {a : Argument}
    (ha : ¬ a.operator.isPattern) (s : Subject) (key : Text) :
    a.outcome o s.lowerStrings key = a.outcome o s key := by
  have hdig' := Subject.dig_mapStrings Text.lowerCase s key
  cases hdig : s.dig key with
  | none =>
    rw [hdig] at hdig'
    rw [outcome_of_absent hdig, outcome_of_absent hdig']
  | some v =>
    rw [hdig] at hdig'
    rw [outcome_eq_getD o a hdig', outcome_eq_getD o a hdig, Test.plain_of_ignoreCase ho ha,
      Test.operatorFor_lowerStrings,
      Test.answer?_lowerStrings rfl (Test.isPattern_operatorFor ha v)]

namespace Query

/-- Where letter case is ignored, a query without patterns says the same of records and of the
records with every string in them in lower case. -/
theorem isMatch_lowerStrings {o : Options} (ho : o.ignoreCase = true) {query : Text}
    (h : ∀ cs ∈ (conditions o query).value, ∀ c ∈ cs, ∀ a ∈ c.arguments,
      ¬ a.operator.isPattern) :
    (∀ s : Subject, isMatch o query s.lowerStrings = isMatch o query s) ∧
      ∀ record : Json, isMatch o query (.ofRecord record.lowerStrings) =
        isMatch o query (.ofRecord record) := by
  have hsame : ∀ s : Subject, isMatch o query s.lowerStrings = isMatch o query s := by
    intro s
    have hout : ∀ cs ∈ (conditions o query).value, ∀ c ∈ cs, ∀ a ∈ c.arguments,
        a.outcome o s.lowerStrings c.key = a.outcome o s c.key := fun cs hcs c hc a ha =>
      Argument.outcome_lowerStrings ho (h cs hcs c hc a ha) s c.key
    rw [Bool.eq_iff_iff]
    constructor
    · refine isMatch_mono rfl fun cs hcs c hc => Condition.Holds.mono fun a ha hyes => ?_
      rwa [← hout cs hcs c hc a ha]
    · refine isMatch_mono rfl fun cs hcs c hc => Condition.Holds.mono fun a ha hyes => ?_
      rwa [hout cs hcs c hc a ha]
  refine ⟨hsame, fun record => ?_⟩
  rw [← hsame (.ofRecord record), Subject.lowerStrings, Subject.mapStrings_ofRecord]

/-- A list, a number in a text, an item of a list and a value that is no text, in capitals and in
small letters. -/
theorem isMatch_lowerStrings_operators :
    let o : Options := { ignoreCase := true }
    let query := "a:in:Xy,z b:>=1E3,!=q +c:has:T +c:!has:Z -d:X".toList
    let record := Json.object [(['a'], .array [.string "XY".toList]),
      (['b'], .string " 1E4 ".toList), (['c'], .array [.array [], .string "t".toList]),
      (['d'], .bool true)]
    (∀ cs ∈ (conditions o query).value, ∀ c ∈ cs, ∀ a ∈ c.arguments, ¬ a.operator.isPattern) ∧
      isMatch o query (.ofRecord record) = true ∧
      isMatch o query (.ofRecord record.lowerStrings) = true := by
  intro o query record
  have hpatterns : ∀ cs ∈ (conditions o query).value, ∀ c ∈ cs, ∀ a ∈ c.arguments,
      ¬ a.operator.isPattern := by decide +kernel
  have hmatch : isMatch o query (.ofRecord record) = true := by decide +kernel
  exact ⟨hpatterns, hmatch, ((isMatch_lowerStrings rfl hpatterns).2 record).trans hmatch⟩

end Query

end RecordFilter
