import RecordFilter.Proofs.Number.Integers
import RecordFilter.Proofs.Number.Numerals
import RecordFilter.Proofs.Search.Signed

/-!
# Comparisons agree with each other

A value and a literal may have an order, or be of kinds that are not compared.  Equality has a table
of its own, which agrees with the order wherever there is one (`equals_eq_isEq`).  So all six
comparisons with one literal are decided by the order, or else the four that need one are decided by
the policy (`outcome_comparisons`).
-/

namespace RecordFilter

/-- A number is written in at least one character, and none of these is the sign of equality. -/
theorem Double.plain_of_ofText? {t : Text} {x : Double} (h : Double.ofText? t = some x) :
    t ≠ [] ∧ t.head? ≠ some '=' := by
  have hglyph : ¬ IsGlyph '=' := by
    rintro (hdigit | hother)
    · exact absurd hdigit (by decide)
    · exact absurd hother (by decide)
  have hempty : Double.ofText? [] = none := by decide
  constructor
  · rintro rfl
    cases hempty.symm.trans h
  · intro hequals
    exact hglyph (isGlyph_of_ofText? h '=' (List.mem_of_head? hequals))

namespace Json

/-- The order of a value and the literal of a text, in the letter case that counts, when they have
one. -/
def orderTo? (o : Options) (raw : Text) (v : Json) : Option Ordering :=
  v.orderAgainst? o.ignoreCase ((Literal.scalar raw).caseFolded o.ignoreCase)

/-- Where a value and a literal have an order, they are equal when neither comes before the
other. -/
theorem equals_eq_isEq {folded : Bool} {v : Json} {l : Literal} {order : Ordering}
    (h : v.orderAgainst? folded l = some order) : v.equals folded l = order.isEq := by
  cases v with
  | number v =>
    cases l with
    | number n =>
      rw [← Option.some.inj h]
      exact Double.same_eq_isEq_order _ _
    | _ => simp [orderAgainst?] at h
  | string s =>
    cases l with
    | number n =>
      obtain ⟨x, hx, rfl⟩ := Option.map_eq_some_iff.1 h
      rw [equals, hx]
      exact Double.same_eq_isEq_order _ _
    | text t =>
      rw [← Option.some.inj h, equals, Bool.eq_iff_iff, Ordering.isEq_iff_eq_eq,
        Std.compare_eq_iff_eq, beq_iff_eq]
    | _ => simp [orderAgainst?] at h
  | bool b =>
    cases l with
    | bool b' =>
      rw [← Option.some.inj h]
      cases b <;> cases b' <;> rfl
    | _ => simp [orderAgainst?] at h
  | _ => simp [orderAgainst?] at h

/-- Only numbers, and texts that write one, come before or after a number. -/
theorem orderAgainst?_number (folded : Bool) (v : Json) (x : Double) :
    v.orderAgainst? folded (.number x) = v.number?.map (·.order x) := by
  cases v <;> rfl

theorem orderTo?_of_ofText? {raw : Text} {x : Double} (h : Double.ofText? raw = some x)
    (o : Options) (v : Json) : v.orderTo? o raw = v.number?.map (·.order x) := by
  rw [orderTo?, Literal.scalar_of_ofText? h, Literal.caseFolded_number, orderAgainst?_number]

/-- What comes before a number comes before every greater one. -/
theorem orderTo?_of_isLE {a b : Text} {m n : Double} (ha : Double.ofText? a = some m)
    (hb : Double.ofText? b = some n) (hle : (m.order n).isLE) {o : Options} {v : Json}
    (h : v.orderTo? o a = some .lt) : v.orderTo? o b = some .lt := by
  rw [orderTo?_of_ofText? ha] at h
  rw [orderTo?_of_ofText? hb]
  obtain ⟨x, hx, hlt⟩ := Option.map_eq_some_iff.1 h
  rw [hx, Option.map_some, Option.some.injEq, Double.order, Int.compare_eq_lt]
  have hfirst : x.key < m.key := Int.compare_eq_lt.1 hlt
  have hsecond : m.key ≤ n.key := Int.isLE_compare.1 hle
  omega

end Json

namespace Operator

/-- The operators that compare a value with a literal. -/
def sixComparisons : List Operator :=
  [less, lessOrEqual, equal, notEqual, greaterOrEqual, greater]

/-- What an operator asks of the order of a value and a literal. -/
def admits : Operator → Ordering → Bool
  | less, order => order.isLT
  | lessOrEqual, order => order.isLE
  | greater, order => order.isGT
  | greaterOrEqual, order => order.isGE
  | notEqual, order => order.isNe
  | _, order => order.isEq

/-- The operator that asks for an order. -/
def ofOrdering : Ordering → Operator
  | .lt => less
  | .eq => equal
  | .gt => greater

theorem admits_iff {op : Operator} (hop : op ∈ [less, equal, greater]) (order : Ordering) :
    op.admits order = true ↔ op = ofOrdering order := by
  simp only [List.mem_cons, List.not_mem_nil, or_false] at hop
  rcases hop with rfl | rfl | rfl
  all_goals cases order <;> decide

/-- Every order is asked for by one of three operators. -/
theorem existsUnique_admits (order : Ordering) :
    ∃! op, op ∈ [less, equal, greater] ∧ op.admits order = true := by
  have hmem : ofOrdering order ∈ [less, equal, greater] := by
    cases order <;> decide
  refine ⟨ofOrdering order, ⟨hmem, (admits_iff hmem order).2 rfl⟩, ?_⟩
  rintro op ⟨hop, hadmits⟩
  exact (admits_iff hop order).1 hadmits

/-- The other operators say what two of these three say. -/
theorem admits_eq_or (order : Ordering) :
    lessOrEqual.admits order = (less.admits order || equal.admits order) ∧
      greaterOrEqual.admits order = (greater.admits order || equal.admits order) ∧
      notEqual.admits order = (less.admits order || greater.admits order) := by
  cases order with
  | lt => decide
  | eq => decide
  | gt => decide

variable {op : Operator}

theorem answer?_of_order (hop : op ∈ sixComparisons) {t : Test} {v : Json} {order : Ordering}
    (h : v.orderAgainst? t.folded t.literal = some order) :
    t.answer? op v = some (op.admits order) := by
  have hequals := Json.equals_eq_isEq h
  simp only [sixComparisons, List.mem_cons, List.not_mem_nil, or_false] at hop
  rcases hop with rfl | rfl | rfl | rfl | rfl | rfl
  · simp [Test.answer?, admits, h]
  · simp [Test.answer?, admits, h]
  · simp [Test.answer?, admits, hequals]
  · cases order <;> simp [Test.answer?, admits, hequals]
  · simp [Test.answer?, admits, h]
  · simp [Test.answer?, admits, h]

theorem answer?_of_no_order (hop : op ∈ [less, lessOrEqual, greater, greaterOrEqual]) {t : Test}
    {v : Json} (h : v.orderAgainst? t.folded t.literal = none) : t.answer? op v = none := by
  simp only [List.mem_cons, List.not_mem_nil, or_false] at hop
  rcases hop with rfl | rfl | rfl | rfl
  all_goals simp [Test.answer?, h]

end Operator

/-- The sign of less or greater is read before a literal, unless that begins with the sign of
equality. -/
theorem Operator.parse_open {op : Operator} (h : op = less ∨ op = greater) {c : Char} {rest : Text}
    (hc : c ≠ '=') : parse (op.sign ++ c :: rest) = (op, c :: rest) := by
  rcases h with rfl | rfl
  all_goals simp [parse, signs, sign, after?, List.isPrefixOf?, Option.filter, Ne.symm hc]

namespace Argument

/-- The six signs leave the same literal, unless it begins with the sign of equality: that would be
read as a part of the sign. -/
theorem parse_sixComparisons {op : Operator} (hop : op ∈ Operator.sixComparisons) {x : Text}
    (hne : x ≠ []) (hx : x.head? ≠ some '=') : parse (op.sign ++ x) = ⟨op, .scalar x, x⟩ := by
  have hread : Operator.parse (op.sign ++ x) = (op, x) := by
    obtain ⟨c, rest, rfl⟩ := List.exists_cons_of_ne_nil hne
    have hc : c ≠ '=' := fun heq => hx (congrArg some heq)
    by_cases hopen : op = .less ∨ op = .greater
    · exact Operator.parse_open hopen hc
    · refine Operator.parse_sign_append ?_ hne
      rintro hmem
      simp only [List.mem_cons, List.not_mem_nil, or_false] at hmem
      rcases hmem with rfl | hmem
      · exact absurd hop (by decide)
      · exact hopen hmem
  have hkinds : ∀ op ∈ Operator.sixComparisons, ¬ op.isPattern ∧ ¬ op.takesList := by decide
  unfold parse
  simp only [hread]
  rw [Literal.coerce_eq_scalar (hkinds op hop).1 (hkinds op hop).2]

section Outcome

variable {o : Options} {s : Subject} {key : Text} {v : Json} (hdig : s.dig key = some v)
  {x : Text} (hne : x ≠ []) (hx : x.head? ≠ some '=')

include hdig hne hx

/-- What a comparison says of a value is said by the order of the value and the literal. -/
theorem outcome_of_order {op : Operator} (hop : op ∈ Operator.sixComparisons) {order : Ordering}
    (h : v.orderTo? o x = some order) :
    (parse (op.sign ++ x)).outcome o s key = op.admits order := by
  have hsigned : ∀ op ∈ Operator.sixComparisons, op ≠ .unspecified ∧ ¬ op.isPattern := by decide
  have hanswer : (Test.signed o (.scalar x) x).answer? op v = some (op.admits order) :=
    Operator.answer?_of_order hop h
  rw [parse_sixComparisons hop hne hx,
    outcome_of_sign o _ _ (hsigned op hop).1 (hsigned op hop).2 hdig, hanswer]
  rfl

/-- Where there is no order the policy decides the comparisons that ask for one. -/
theorem outcome_of_no_order {op : Operator}
    (hop : op ∈ [.less, .lessOrEqual, .greater, .greaterOrEqual]) (h : v.orderTo? o x = none) :
    (parse (op.sign ++ x)).outcome o s key = o.faultPolicy.outcome := by
  have hsigned : ∀ op ∈ [.less, .lessOrEqual, .greater, .greaterOrEqual],
      op ∈ Operator.sixComparisons ∧ op ≠ .unspecified ∧ ¬ op.isPattern := by decide
  obtain ⟨hsix, hsign, hpattern⟩ := hsigned op hop
  have hanswer : (Test.signed o (.scalar x) x).answer? op v = none :=
    Operator.answer?_of_no_order hop h
  rw [parse_sixComparisons hsix hne hx, outcome_of_sign o _ _ hsign hpattern hdig, hanswer]
  rfl

/-- Where there is an order, one of three comparisons holds, and the others follow from these. -/
theorem outcome_of_ordered (h : (v.orderTo? o x).isSome) :
    let asks (op : Operator) : Bool := (parse (op.sign ++ x)).outcome o s key
    (∃! op, op ∈ [.less, .equal, .greater] ∧ asks op = true) ∧
      asks .lessOrEqual = (asks .less || asks .equal) ∧
      asks .greaterOrEqual = (asks .greater || asks .equal) ∧
      asks .notEqual = (asks .less || asks .greater) := by
  intro asks
  obtain ⟨order, horder⟩ := Option.isSome_iff_exists.1 h
  have hasks : ∀ op ∈ Operator.sixComparisons, asks op = op.admits order :=
    fun op hop => outcome_of_order hdig hne hx hop horder
  have hthree : ∀ op ∈ [Operator.less, .equal, .greater], op ∈ Operator.sixComparisons := by
    decide
  constructor
  · have hone := Operator.existsUnique_admits order
    refine (existsUnique_congr fun op => and_congr_right fun hop => ?_).2 hone
    rw [hasks op (hthree op hop)]
  · rw [hasks .less (by decide), hasks .equal (by decide), hasks .greater (by decide),
      hasks .lessOrEqual (by decide), hasks .greaterOrEqual (by decide),
      hasks .notEqual (by decide)]
    exact Operator.admits_eq_or order

end Outcome

/-- What is less than a number is less than every greater one. -/
theorem outcome_less_of_isLE {o : Options} {s : Subject} {key : Text} {v : Json}
    (hdig : s.dig key = some v) {a b : Text} {m n : Double} (ha : Double.ofText? a = some m)
    (hb : Double.ofText? b = some n) (hle : (m.order n).isLE) (hsome : (v.orderTo? o a).isSome)
    (hless : (parse (Operator.less.sign ++ a)).outcome o s key = true) :
    (parse (Operator.less.sign ++ b)).outcome o s key = true := by
  obtain ⟨hane, ha'⟩ := Double.plain_of_ofText? ha
  obtain ⟨hbne, hb'⟩ := Double.plain_of_ofText? hb
  obtain ⟨order, horder⟩ := Option.isSome_iff_exists.1 hsome
  have hlt : order = .lt := by
    rw [outcome_of_order hdig hane ha' (by decide) horder] at hless
    exact Ordering.isLT_iff_eq_lt.1 hless
  have hbelow := Json.orderTo?_of_isLE ha hb hle (hlt ▸ horder)
  exact outcome_of_order hdig hbne hb' (by decide) hbelow

/-- Comparisons of a value that is there with one literal.  If the two have an order, the value is
either less than the literal or equal to it or greater, and never two of these; less or equal,
greater or equal, and not equal say what they say of these three.  If they have none, the four
comparisons that ask for an order say what the policy decides.  A value that is less than a number
is less than every greater number. -/
theorem outcome_comparisons (o : Options) (s : Subject) (key : Text) {v : Json}
    (hdig : s.dig key = some v) :
    let asks (op : Operator) (x : Text) : Bool := (parse (op.sign ++ x)).outcome o s key
    (∀ x : Text, x ≠ [] → x.head? ≠ some '=' →
      ((v.orderTo? o x).isSome →
        (∃! op, op ∈ [.less, .equal, .greater] ∧ asks op x = true) ∧
          asks .lessOrEqual x = (asks .less x || asks .equal x) ∧
          asks .greaterOrEqual x = (asks .greater x || asks .equal x) ∧
          asks .notEqual x = (asks .less x || asks .greater x)) ∧
      (v.orderTo? o x = none →
        ∀ op ∈ [.less, .lessOrEqual, .greater, .greaterOrEqual],
          asks op x = o.faultPolicy.outcome)) ∧
    ∀ (a b : Text) (m n : Double), Double.ofText? a = some m → Double.ofText? b = some n →
      (m.order n).isLE → (v.orderTo? o a).isSome → asks .less a = true →
        asks .less b = true := by
  intro asks
  constructor
  · intro x hne hx
    constructor
    · intro hsome
      exact outcome_of_ordered hdig hne hx hsome
    · intro hnone op hop
      exact outcome_of_no_order hdig hne hx hop hnone
  · intro a b m n ha hb hle hsome hless
    exact outcome_less_of_isLE hdig ha hb hle hsome hless

/-- A text that writes ten, compared with ten, with a truth value, and with eleven and twelve. -/
theorem outcome_comparisons_numeral :
    let o : Options := { ignoreCase := true, faultPolicy := .opened }
    let v := Json.string " 1E1 ".toList
    let s := Subject.single (.object [(['k'], v)])
    let asks (op : Operator) (x : String) : Bool :=
      (parse (op.sign ++ x.toList)).outcome o s ['k']
    s.dig ['k'] = some v ∧ "10.0".toList ≠ [] ∧ "10.0".toList.head? ≠ some '=' ∧
      (v.orderTo? o "10.0".toList).isSome ∧ v.orderTo? o ['t'] = none ∧
      Double.ofText? "11".toList = some (.ofInt 11) ∧
      Double.ofText? "12".toList = some (.ofInt 12) ∧
      ((Double.ofInt 11).order (.ofInt 12)).isLE ∧ (v.orderTo? o "11".toList).isSome ∧
      (∃! op, op ∈ [.less, .equal, .greater] ∧ asks op "10.0" = true) ∧
      asks .notEqual "10.0" = (asks .less "10.0" || asks .greater "10.0") ∧
      asks .greaterOrEqual "t" = true ∧ asks .less "11" = true ∧ asks .less "12" = true := by
  intro o v s asks
  have hdig : s.dig ['k'] = some v := by rfl
  obtain ⟨hone, hnumbers⟩ := outcome_comparisons o s ['k'] hdig
  have hne : "10.0".toList ≠ [] := by decide
  have hx : "10.0".toList.head? ≠ some '=' := by decide
  have hordered : (v.orderTo? o "10.0".toList).isSome := by decide +kernel
  have hnone : v.orderTo? o ['t'] = none := by rfl
  have heleven : Double.ofText? "11".toList = some (.ofInt 11) := by decide +kernel
  have htwelve : Double.ofText? "12".toList = some (.ofInt 12) := by decide +kernel
  have hle : ((Double.ofInt 11).order (.ofInt 12)).isLE := by decide +kernel
  have hbelow : (v.orderTo? o "11".toList).isSome := by decide +kernel
  have hless : asks .less "11" = true := by decide +kernel
  obtain ⟨hequal, -, -, hunequal⟩ := (hone _ hne hx).1 hordered
  have hpolicy := (hone ['t'] (by decide) (by decide)).2 hnone .greaterOrEqual (by decide)
  exact ⟨hdig, hne, hx, hordered, hnone, heleven, htwelve, hle, hbelow, hequal, hunequal, hpolicy,
    hless, hnumbers _ _ _ _ heleven htwelve hle hbelow hless⟩

end Argument

end RecordFilter
