import RecordFilter.Proofs.Search.Integers
import RecordFilter.Proofs.Search.Signed

/-!
# Values and their own texts

A truth value, an integer or a string stands in an argument as its own text, and is equal to the
literal that is read from it: a number is read from digits and from every string that writes one,
whatever the letter case, and other text is kept as it is (`equals_ownText`).  The four strings that
are words for a truth value are read as one, which no string is equal to.
-/

namespace RecordFilter

/-- The words that are read as a truth value. -/
def Literal.truthWords : List Text :=
  [['t'], ['t', 'r', 'u', 'e'], ['f'], ['f', 'a', 'l', 's', 'e']]

namespace Json

/-- A value that is written in an argument as a text: a truth value by its word, an integer in
decimal digits, and a string, unless it is empty, as it is. -/
inductive WrittenAs : Json → Text → Prop
  | yes : WrittenAs (.bool true) ['t', 'r', 'u', 'e']
  | no : WrittenAs (.bool false) ['f', 'a', 'l', 's', 'e']
  | integer (n : Integer) : WrittenAs (.ofInteger n) (Text.ofInt n.val)
  | string {s : Text} (hne : s ≠ []) : WrittenAs (.string s) s

/-- Whether a value is a string with a word for a truth value. -/
def isTruthWord : Json → Bool
  | .string s => Literal.truthWords.contains s
  | _ => false

theorem WrittenAs.ne_nil {v : Json} {text : Text} (h : v.WrittenAs text) : text ≠ [] := by
  cases h with
  | yes => exact List.cons_ne_nil _ _
  | no => exact List.cons_ne_nil _ _
  | integer n => exact Text.ofInt_ne_nil n.val
  | string hne => exact hne

end Json

namespace Literal

theorem scalar_truthWord {t : Text} (h : t ∈ truthWords) : ∃ b, scalar t = .bool b := by
  simp only [truthWords, List.mem_cons, List.not_mem_nil, or_false] at h
  rcases h with rfl | rfl | rfl | rfl
  · exact ⟨true, by rfl⟩
  · exact ⟨true, by rfl⟩
  · exact ⟨false, by rfl⟩
  · exact ⟨false, by rfl⟩

/-- What is neither a number nor a word for a truth value is text. -/
theorem scalar_eq_text {t : Text} (hnumber : Double.ofText? t = none) (hword : t ∉ truthWords) :
    scalar t = .text t := by
  simp only [truthWords, List.mem_cons, List.not_mem_nil, or_false, not_or] at hword
  simp [scalar, hnumber, hword]

end Literal

namespace Json

/-- A value equals its own text, whichever letter case counts, unless it is a word for a truth
value. -/
theorem equals_ownText {v : Json} {text : Text} (h : v.WrittenAs text)
    (hword : v.isTruthWord = false) (folded : Bool) :
    v.equals folded ((Literal.scalar text).caseFolded folded) = true := by
  have hself : ∀ x : Double, x.same x = true := fun x => beq_self_eq_true x.key
  cases h with
  | yes =>
    have hread : Literal.scalar ['t', 'r', 'u', 'e'] = .bool true := by rfl
    rw [hread, Literal.caseFolded_bool]
    rfl
  | no =>
    have hread : Literal.scalar ['f', 'a', 'l', 's', 'e'] = .bool false := by rfl
    rw [hread, Literal.caseFolded_bool]
    rfl
  | integer n =>
    rw [Literal.scalar_of_ofText? (Double.ofText?_ofInt n.natAbs_lt), Literal.caseFolded_number]
    exact hself _
  | string hne =>
    cases hnumber : Double.ofText? text with
    | some x =>
      -- A text that is a number has no white space to trim, so it writes the same number.
      have hwritten : writtenNumber? text = some x := by
        rw [writtenNumber?, Double.trim_of_ofText? hnumber, hnumber]
      rw [Literal.scalar_of_ofText? hnumber, Literal.caseFolded_number, equals, hwritten]
      exact hself x
    | none =>
      have hplain : text ∉ Literal.truthWords := by simpa [isTruthWord] using hword
      rw [Literal.scalar_eq_text hnumber hplain, Literal.caseFolded_text]
      exact beq_self_eq_true _

/-- A word for a truth value is read as the truth value, which is no text. -/
theorem not_equals_ownText {v : Json} {text : Text} (h : v.WrittenAs text)
    (hword : v.isTruthWord = true) (folded : Bool) :
    v.equals folded ((Literal.scalar text).caseFolded folded) = false := by
  cases h with
  | string hne =>
    have hmem : text ∈ Literal.truthWords := by simpa [isTruthWord] using hword
    obtain ⟨b, hb⟩ := Literal.scalar_truthWord hmem
    rw [hb, Literal.caseFolded_bool]
    rfl
  | _ => cases hword

end Json

namespace Argument

section OwnText

variable {o : Options} {s : Subject} {key : Text} {v : Json} {text : Text} (h : v.WrittenAs text)

include h

theorem outcome_equal_ownText (hdig : s.dig key = some v) :
    (parse (Operator.equal.sign ++ text)).outcome o s key = !v.isTruthWord ∧
      (parse (Operator.notEqual.sign ++ text)).outcome o s key = v.isTruthWord := by
  have hopposite : Operator.equal.opposite? = some .notEqual := rfl
  obtain ⟨hequal, hnotEqual⟩ := parse_opposite hopposite h.ne_nil
  have hyes : (⟨.equal, .coerce text .equal, text⟩ : Argument).outcome o s key =
      !v.isTruthWord := by
    rw [outcome_equal o _ _ hdig, Literal.coerce_eq_scalar (by decide) (by decide)]
    cases hword : v.isTruthWord with
    | true => exact Json.not_equals_ownText h hword _
    | false => exact Json.equals_ownText h hword _
  rw [hequal, hnotEqual, outcome_opposite hopposite hdig _ _ nofun, hyes, Bool.not_not]
  exact ⟨rfl, rfl⟩

theorem outcome_holds_ownText (hword : v.isTruthWord = false) {items : List Json} (hmem : v ∈ items)
    (hdig : s.dig key = some (.array items)) :
    (parse (Operator.holds.sign ++ text)).outcome o s key = true ∧
      (parse (Operator.holdsNot.sign ++ text)).outcome o s key = false := by
  have hopposite : Operator.holds.opposite? = some .holdsNot := rfl
  have happlies : Operator.holds.Applies (.array items) := fun _ => .inl rfl
  obtain ⟨hholds, hholdsNot⟩ := parse_opposite hopposite h.ne_nil
  have hyes : (⟨.holds, .coerce text .holds, text⟩ : Argument).outcome o s key = true := by
    rw [outcome_holds o _ _ hdig, Literal.coerce_eq_scalar (by decide) (by decide),
      List.any_eq_true]
    exact ⟨v, hmem, Json.equals_ownText h hword _⟩
  rw [hholds, hholdsNot, outcome_opposite hopposite hdig _ _ happlies, hyes]
  exact ⟨rfl, rfl⟩

end OwnText

/-- A truth value, an integer or a string that is not empty equals its own text, and is not said to
differ from it.  Only of the strings that are words for a truth value the opposite is said.  Every
other of these values is held, by its own text, by each array that it is an item of. -/
theorem outcome_ownText (o : Options) (s : Subject) (key : Text) {v : Json} {text : Text}
    (h : v.WrittenAs text) :
    let asks (op : Operator) : Bool := (parse (op.sign ++ text)).outcome o s key
    (s.dig key = some v → asks .equal = !v.isTruthWord ∧ asks .notEqual = v.isTruthWord) ∧
      (v.isTruthWord = false → ∀ items, v ∈ items → s.dig key = some (.array items) →
        asks .holds = true ∧ asks .holdsNot = false) := by
  intro asks
  constructor
  · intro hdig
    exact outcome_equal_ownText h hdig
  · intro hword items hmem hdig
    exact outcome_holds_ownText h hword hmem hdig

/-- Where letter case is ignored: a string that writes a number with a capital, by itself and as an
item, and a word for a truth value. -/
theorem outcome_ownText_numeral :
    let o : Options := { ignoreCase := true }
    let v := Json.string "1E5".toList
    let w := Json.string ['f']
    let s := Subject.single
      (.object [(['a'], v), (['b'], w), (['c'], .array [.null, v])])
    let asks (key : Char) (arg : String) : Bool := (parse arg.toList).outcome o s [key]
    v.WrittenAs "1E5".toList ∧ w.WrittenAs ['f'] ∧
      v.isTruthWord = false ∧ w.isTruthWord = true ∧
      s.dig ['a'] = some v ∧ s.dig ['b'] = some w ∧ s.dig ['c'] = some (.array [.null, v]) ∧
      v ∈ [.null, v] ∧ asks 'a' "=1E5" = true ∧ asks 'a' "!=1E5" = false ∧
      asks 'b' "=f" = false ∧ asks 'b' "!=f" = true ∧
      asks 'c' "has:1E5" = true ∧ asks 'c' "!has:1E5" = false := by
  intro o v w s asks
  have hv : v.WrittenAs "1E5".toList := .string (List.cons_ne_nil _ _)
  have hw : w.WrittenAs ['f'] := .string (List.cons_ne_nil _ _)
  have ha : s.dig ['a'] = some v := by rfl
  have hb : s.dig ['b'] = some w := by rfl
  have hc : s.dig ['c'] = some (.array [.null, v]) := by rfl
  have hmem : v ∈ [.null, v] := List.mem_cons_of_mem _ List.mem_cons_self
  obtain ⟨hequal, hunequal⟩ := (outcome_ownText o s ['a'] hv).1 ha
  obtain ⟨hword, hnoWord⟩ := (outcome_ownText o s ['b'] hw).1 hb
  obtain ⟨hholds, hholdsNot⟩ := (outcome_ownText o s ['c'] hv).2 rfl _ hmem hc
  exact ⟨hv, hw, rfl, rfl, ha, hb, hc, hmem, hequal, hunequal, hword, hnoWord, hholds, hholdsNot⟩

end Argument

end RecordFilter
