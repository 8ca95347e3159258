import RecordFilter.Proofs.Record.Path
import RecordFilter.Proofs.Record.Sort
import RecordFilter.Proofs.Search.Comparisons
import RecordFilter.Proofs.Search.OneArgument

/-!
# Integers in conditions and in sorting

Values that are integers are compared as the numbers of double precision nearest to them, with each
other and with the literal of a condition.  So they are ordered as integers, except that two of them
that round to one number count as equal (`compare_integers`); this needs both to be at least 2^53 in
magnitude.
-/

namespace RecordFilter

theorem Integer.natAbs_lt (n : Integer) : n.val.natAbs < 2 ^ 64 := by
  have := n.bounds
  omega

namespace Json

/-- The value that is an integer. -/
def ofInteger (n : Integer) : Json :=
  .number (.integer n)

theorem compareValues_ofInteger (m n : Integer) :
    compareValues (ofInteger m) (ofInteger n) =
      if Double.ofInt m.val = Double.ofInt n.val then .eq else compare m.val n.val :=
  Double.totalOrder_ofInt m.natAbs_lt n.natAbs_lt

/-- An object with one field has its value there, unless a point in its name makes a path of it. -/
theorem dig_ofFields_single {key : Text} (hkey : '.' ∉ key) {value : Json}
    (hvalue : value.isNull = false) : (object [(key, value)]).dig key = some value := by
  have hcut : Text.cutAt? '.' key = none := by
    rw [Option.eq_none_iff_forall_ne_some]
    rintro ⟨name, rest⟩ h
    obtain ⟨rfl, -⟩ := Text.cutAt?_eq_some h
    exact hkey (by simp)
  rw [dig_of_cutAt?_eq_none hcut, step?, List.lookup_cons_self, Option.filter_some, hvalue]
  rfl

end Json

/-- Integers are sorted by the numbers nearest to them, so a record never stands behind one that
should follow it unless the two integers round to one number. -/
theorem pairwise_sortAt_integers (key : Text) (descending : Bool) (records : List Json) :
    (sortAt key descending records).Pairwise fun a b => ∀ m n : Integer,
      a.dig key = some (.ofInteger m) → b.dig key = some (.ofInteger n) →
        Double.ofInt m.val = Double.ofInt n.val ∨
          if descending then n.val < m.val else m.val < n.val := by
  have hsorted : InOrder (compareAt key descending) (sortAt key descending records) :=
    inOrder_sorted records
  refine hsorted.imp fun {a b} hab m n hm hn => ?_
  by_cases hround : Double.ofInt m.val = Double.ofInt n.val
  · exact .inl hround
  · right
    have hne : m.val ≠ n.val := fun h => hround (congrArg Double.ofInt h)
    rw [compareAt, hm, hn] at hab
    cases descending with
    | false =>
      have hle : (compare m.val n.val).isLE := by
        simpa [Json.compareValues_ofInteger, hround] using hab
      rw [Int.isLE_compare] at hle
      exact Int.lt_iff_le_and_ne.2 ⟨hle, hne⟩
    | true =>
      have hle : (compare n.val m.val).isLE := by
        simpa [Json.compareValues_ofInteger, Ne.symm hround] using hab
      rw [Int.isLE_compare] at hle
      exact Int.lt_iff_le_and_ne.2 ⟨hle, Ne.symm hne⟩

/-! ### Conditions -/

/-- An integer and the literal of another are in the order of the numbers nearest to them. -/
theorem Json.orderTo?_ofInt (o : Options) (m n : Integer) :
    (ofInteger m).orderTo? o (Text.ofInt n.val) =
      some (if Double.ofInt m.val = Double.ofInt n.val then .eq else compare m.val n.val) := by
  rw [orderTo?_of_ofText? (Double.ofText?_ofInt n.natAbs_lt),
    ← Double.order_ofInt m.natAbs_lt n.natAbs_lt]
  rfl

/-- A comparison with an integer needs no quotation marks. -/
theorem bareArgument_comparison {op : Operator} (hop : op ∈ Operator.sixComparisons) (n : Integer) :
    BareArgument (op.sign ++ Text.ofInt n.val) where
  nonempty := List.append_ne_nil_of_right_ne_nil _ (Text.ofInt_ne_nil n.val)
  noWord := by
    simp only [Operator.sixComparisons, List.mem_cons, List.not_mem_nil, or_false] at hop
    rcases hop with rfl | rfl | rfl | rfl | rfl | rfl <;> simp [Operator.sign, Combination.words]
  plain c hc := by
    have hsigns : ∀ op ∈ Operator.sixComparisons, ∀ c ∈ op.sign, c ∈ ['=', '<', '>', '!'] := by
      simp [Operator.sixComparisons, Operator.sign]
    have hchar : c ∈ ['=', '<', '>', '!', '-'] ∨ c.isDigit = true := by
      rcases List.mem_append.1 hc with hc | hc
      · exact .inl (List.mem_append_left ['-'] (hsigns op hop c hc))
      · rcases Text.mem_ofInt hc with rfl | hdigit
        · exact .inl (by decide)
        · exact .inr hdigit
    have hne : ∀ d : Char, d ∉ ['=', '<', '>', '!', '-'] → d.isDigit = false → c ≠ d := by
      rintro d hsign hdigit rfl
      rcases hchar with h | h
      · exact hsign h
      · exact Bool.false_ne_true (hdigit.symm.trans h)
    have hquote : isQuote c = false := by
      simp [isQuote, hne '\x22' (by decide) rfl, hne '\x27' (by decide) rfl,
        hne '\x60' (by decide) rfl]
    refine ⟨hne ',' (by decide) rfl, ?_, ?_⟩
    · simp [Query.blanks, hne ' ' (by decide) rfl, hne '\t' (by decide) rfl,
        hne '\r' (by decide) rfl, hne '\n' (by decide) rfl]
    · simp [Delimiters.closing?, hquote, hne '(' (by decide) rfl, hne '[' (by decide) rfl]

namespace Query

/-- A condition that compares a field with an integer, asked of a subject with an integer there. -/
theorem isMatch_comparison {o : Options} {op : Operator} (hop : op ∈ Operator.sixComparisons)
    {key : Text} (hkey : BareKey key) (hrule : o.conditionRule? key = none) {s : Subject}
    {m : Integer} (hdig : s.dig key = some (.ofInteger m)) (n : Integer) :
    isMatch o (ofArgument key (op.sign ++ Text.ofInt n.val)) s =
      op.admits (if Double.ofInt m.val = Double.ofInt n.val then .eq
        else compare m.val n.val) := by
  obtain ⟨hne, hx⟩ := Double.plain_of_ofText? (Double.ofText?_ofInt n.natAbs_lt)
  rw [isMatch_ofArgument hkey (bareArgument_comparison hop n) hrule,
    Argument.outcome_of_order hdig hne hx hop (Json.orderTo?_ofInt o m n)]

/-- Integers are compared by the numbers of double precision nearest to them: as the integers they
are, except that two which round to one number count as equal, and of these neither is below 2^53 in
magnitude.  So are the values that records are sorted by, and so is a field of a record with the
integer written in a condition. -/
theorem compare_integers (o : Options) :
    (∀ m n : Integer, Json.compareValues (.ofInteger m) (.ofInteger n) =
      if Double.ofInt m.val = Double.ofInt n.val then .eq else compare m.val n.val) ∧
    (∀ m n : Integer, m.val.natAbs < 2 ^ 53 ∨ n.val.natAbs < 2 ^ 53 →
      Double.ofInt m.val = Double.ofInt n.val → m.val = n.val) ∧
    (∀ (key : Text) (descending : Bool) (records : List Json),
      (sortAt key descending records).Perm records ∧
      (sortAt key descending records).Pairwise fun a b => ∀ m n : Integer,
        a.dig key = some (.ofInteger m) → b.dig key = some (.ofInteger n) →
          Double.ofInt m.val = Double.ofInt n.val ∨
            if descending then n.val < m.val else m.val < n.val) ∧
    (∀ (key : Text) (m : Integer), '.' ∉ key →
      (Subject.ofRecord (.object [(key, .ofInteger m)])).dig key = some (.ofInteger m)) ∧
    ∀ (key : Text) (s : Subject) (m n : Integer), BareKey key → o.conditionRule? key = none →
      s.dig key = some (.ofInteger m) →
        (isMatch o (ofArgument key ('<' :: Text.ofInt n.val)) s = true ↔
          m.val < n.val ∧ Double.ofInt m.val ≠ Double.ofInt n.val) ∧
        (isMatch o (ofArgument key ('=' :: Text.ofInt n.val)) s = true ↔
          Double.ofInt m.val = Double.ofInt n.val) ∧
        (isMatch o (ofArgument key ('>' :: Text.ofInt n.val)) s = true ↔
          n.val < m.val ∧ Double.ofInt m.val ≠ Double.ofInt n.val) := by
  refine ⟨Json.compareValues_ofInteger, ?_, ?_, ?_, ?_⟩
  · intro m n hexact h
    exact Double.eq_of_ofInt_eq m.natAbs_lt n.natAbs_lt hexact h
  · intro key descending records
    exact ⟨sortAt_perm key descending records, pairwise_sortAt_integers key descending records⟩
  · intro key m hkey
    exact Json.dig_ofFields_single hkey rfl
  · intro key s m n hkey hrule hdig
    have hcompare : ∀ op ∈ Operator.sixComparisons,
        isMatch o (ofArgument key (op.sign ++ Text.ofInt n.val)) s =
          op.admits (if Double.ofInt m.val = Double.ofInt n.val then .eq
            else compare m.val n.val) :=
      fun op hop => isMatch_comparison hop hkey hrule hdig n
    have hless := hcompare .less (by decide)
    have hequal := hcompare .equal (by decide)
    have hgreater := hcompare .greater (by decide)
    simp only [Operator.sign, List.singleton_append] at hless hequal hgreater
    rw [hless, hequal, hgreater]
    by_cases hround : Double.ofInt m.val = Double.ofInt n.val
    · simp [hround, Operator.admits]
    · have hne : m.val ≠ n.val := fun h => hround (congrArg Double.ofInt h)
      simp [hround, Operator.admits, hne, Ordering.isLT_iff_eq_lt, Ordering.isGT_iff_eq_gt,
        Std.compare_eq_lt, Std.compare_eq_gt]

/-- Below 2^53 an integer is told from the next one: a record with it sorts before a record with the
next, and is less than the next but not equal to it. -/
theorem compare_integers_adjacent :
    let m : Integer := ⟨0x1FFFFFFFFFFFFF, by decide⟩
    let n : Integer := ⟨0x20000000000000, by decide⟩
    let a : Json := .object [(['k'], .ofInteger m)]
    let b : Json := .object [(['k'], .ofInteger n)]
    m.val.natAbs < 2 ^ 53 ∧ m.val ≠ n.val ∧ Double.ofInt m.val ≠ Double.ofInt n.val ∧
      sortAt ['k'] false [b, a] = [a, b] ∧ m.val < n.val ∧
      BareKey ['k'] ∧ ({} : Options).conditionRule? ['k'] = none ∧
      (Subject.ofRecord a).dig ['k'] = some (.ofInteger m) ∧
      isMatch {} (ofArgument ['k'] ('<' :: Text.ofInt n.val)) (.ofRecord a) = true ∧
      isMatch {} (ofArgument ['k'] ('=' :: Text.ofInt n.val)) (.ofRecord a) = false := by
  intro m n a b
  obtain ⟨hvalues, hexact, hsort, hdig, hconditions⟩ := compare_integers {}
  have hm : m.val.natAbs < 2 ^ 53 := by decide
  have hne : m.val ≠ n.val := by decide
  have hround : Double.ofInt m.val ≠ Double.ofInt n.val := fun h => hne (hexact m n (.inl hm) h)
  have hsorted : sortAt ['k'] false [b, a] = [a, b] := by
    have hafter : compareAt ['k'] false b a = .gt := by
      show Json.compareValues (.ofInteger n) (.ofInteger m) = .gt
      rw [hvalues, if_neg (Ne.symm hround)]
      decide
    simp [sortAt, sortAtBy, List.mergeSort, hafter, isNotAfter]
  have hlt : m.val < n.val := by
    obtain ⟨-, hpair⟩ := hsort ['k'] false [b, a]
    rw [hsorted, List.pairwise_pair] at hpair
    exact (hpair m n rfl rfl).resolve_left hround
  have hkey : BareKey ['k'] := ⟨by decide, by decide, List.forall_mem_singleton.2 (by decide)⟩
  have hrule : ({} : Options).conditionRule? ['k'] = none := rfl
  have hfield : (Subject.ofRecord a).dig ['k'] = some (.ofInteger m) := hdig ['k'] m (by decide)
  obtain ⟨hless, hequal, -⟩ := hconditions ['k'] (.ofRecord a) m n hkey hrule hfield
  exact ⟨hm, hne, hround, hsorted, hlt, hkey, hrule, hfield, hless.2 ⟨hlt, hround⟩,
    Bool.eq_false_iff.2 fun h => hround (hequal.1 h)⟩

/-- Two integers that differ by one round to 2^53: neither comes before the other, and the one
equals the other where a condition asks. -/
theorem not_compare_integers :
    let m : Integer := ⟨0x20000000000001, by decide⟩
    let n : Integer := ⟨0x20000000000000, by decide⟩
    compare m.val n.val = .gt ∧ Json.compareValues (.ofInteger m) (.ofInteger n) = .eq ∧
      isMatch {} (ofArgument ['k'] ('=' :: Text.ofInt n.val))
        (.ofRecord (.object [(['k'], .ofInteger m)])) = true ∧
      isMatch {} (ofArgument ['k'] ('>' :: Text.ofInt n.val))
        (.ofRecord (.object [(['k'], .ofInteger m)])) = false :=
  ⟨by decide, by rfl, by rfl, by rfl⟩

end Query

end RecordFilter
