import RecordFilter.Proofs.Record.Stability
import RecordFilter.Proofs.Search.LastWord
import RecordFilter.Proofs.Search.LetterCase
import RecordFilter.Proofs.Search.OneArgument
import RecordFilter.Proofs.Search.Transparency

/-!
# Fields that are there

A condition may ask for records that have a field, and a directive puts the records that have its
field before the others, in either direction.  They look for the field in different places when a
record is an array: the condition in the items taken together, the directive in the array itself.
Where a search finds no array on which they differ, the records that fulfil the condition come
first (`searchAndSort_present`); every array on which they differ comes out of place beside some
other record.
-/

namespace RecordFilter

/-- Whether there is a value at a path of a record. -/
def Json.has (record : Json) (path : Text) : Bool :=
  (record.dig path).isSome

/-- Whether there is a value at a path of a subject. -/
def Subject.has (s : Subject) (path : Text) : Bool :=
  (s.dig path).isSome

theorem Subject.has_ofRecord {record : Json} (h : record.kind ≠ .array) (path : Text) :
    (ofRecord record).has path = record.has path := by
  cases record with
  | array items => exact absurd rfl h
  | null | bool _ | number _ | string _ | object _ => rfl

/-- Sorting by a field puts the records that have it first. -/
theorem pairwise_sortAt_has (key : Text) (descending : Bool) (records : List Json) :
    (sortAt key descending records).Pairwise fun a b => b.has key → a.has key :=
  pairwise_sortAtBy_isSome id key descending records

/-- Two records with the same value, or both without one, are left as they stand. -/
theorem sortAt_pair {key : Text} (descending : Bool) {a b : Json} (h : a.dig key = b.dig key) :
    sortAt key descending [a, b] = [a, b] := by
  have htie : compareAt key descending a b = compareAt key descending a a := by
    unfold compareAt
    rw [h]
  have hle : (compareAt key descending a b).isLE := by
    rw [htie, @Std.ReflCmp.compare_self _ (compareAt key descending)]
    rfl
  exact sorted_of_inOrder (List.pairwise_pair.2 hle)

namespace Query

/-- The condition on a key that its field is there. -/
def present (key : Text) : Text :=
  ofArgument key Operator.present.sign

theorem isMatch_present {o : Options} {key : Text} (hkey : BareKey key)
    (hrule : o.conditionRule? key = none) (s : Subject) :
    isMatch o (present key) s = s.has key := by
  have hbare : BareArgument Operator.present.sign :=
    ⟨by decide, by decide, List.forall_mem_singleton.2 (by decide)⟩
  have hparse : Argument.parse Operator.present.sign = ⟨.present, .text [], []⟩ := by rfl
  rw [present, isMatch_ofArgument hkey hbare hrule, hparse]
  unfold Subject.has
  cases hdig : s.dig key with
  | none => simp [Argument.outcome_of_absent hdig]
  | some value =>
    rw [Argument.outcome_eq_answer? o (by decide) (by decide) _ _ hdig]
    rfl

end Query

/-- Records of which those that fulfil the condition stand before those that do not. -/
def PresentFirst (o : Options) (key : Text) (records : List Json) : Prop :=
  records.Pairwise fun a b => Query.isMatch o (Query.present key) (.ofRecord b) = true →
    Query.isMatch o (Query.present key) (.ofRecord a) = true

section Presence

variable {o : Options} {key : Text} (hkey : BareKey key) (hrule : o.conditionRule? key = none)

include hkey hrule

theorem presentFirst_iff (records : List Json) : PresentFirst o key records ↔
    records.Pairwise fun a b =>
      (Subject.ofRecord b).has key = true → (Subject.ofRecord a).has key = true := by
  unfold PresentFirst
  simp only [Query.isMatch_present hkey hrule]

/-- Every record of which the condition and the directive say different things stands, in some list
that sorting leaves as it is, on the wrong side of another record. -/
theorem exists_not_presentFirst {r : Json}
    (h : (Subject.ofRecord r).has key ≠ r.has key) :
    ∃ records, r ∈ records ∧ (∀ descending, sortAt key descending records = records) ∧
      ¬ PresentFirst o key records := by
  cases hdig : r.dig key with
  | none =>
    -- The directive misses the field that the condition finds: a record without any is before it.
    refine ⟨[.null, r], by simp, fun descending => ?_, ?_⟩
    · exact sortAt_pair descending ((Json.dig_null key).trans hdig.symm)
    · have hfound : (Subject.ofRecord r).has key = true := by
        simpa [Json.has, hdig] using h
      rw [presentFirst_iff hkey hrule, List.pairwise_pair]
      intro hfirst
      have habsent := hfirst hfound
      rw [Subject.has_ofRecord (by decide), Json.has, Json.dig_null] at habsent
      cases habsent
  | some v =>
    -- The condition misses the field that the directive finds: a record with its value is behind.
    have hvalue : v.isNull = false := by
      simpa using (Option.filter_eq_some_iff.1 hdig).2
    obtain ⟨fields, hfields⟩ := Json.exists_fields_dig_eq key hvalue
    refine ⟨[r, .object fields], by simp, fun descending => ?_, ?_⟩
    · exact sortAt_pair descending (hdig.trans hfields.symm)
    · have hmissed : (Subject.ofRecord r).has key = false := by
        simpa [Json.has, hdig] using h
      have hbehind : (Subject.ofRecord (.object fields)).has key = true :=
        congrArg Option.isSome hfields
      rw [presentFirst_iff hkey hrule, List.pairwise_pair, hmissed]
      exact fun hfirst => Bool.false_ne_true (hfirst hbehind)

end Presence

namespace Engine

section Directive

variable {o : Options} {e : Engine} (he : e.Sound o) {key : Text}

include he

/-- A directive behind a query and a blank sorts what the query finds. -/
theorem searchAndSort_append_text {d : SortDirective} (hkey : d.key ≠ [])
    (hword : ∀ c ∈ d.key, ¬ isWhiteSpace c) (q : Text) (records : List Json) :
    (e.searchAndSort records (q ++ ' ' :: d.text)).value.1 =
      sortAt d.key d.descending (records.filter fun r => Query.isMatch o q (.ofRecord r)) := by
  have htake : SortDirective.takeFrom (q ++ ' ' :: d.text) = (q, some d) :=
    SortDirective.takeFrom_append_text (by decide) q hkey
      (SortDirective.not_isWhiteSpace_of_mem_text hword)
  rw [(searchAndSort_spec he records _).1, htake]
  unfold Query.isMatch
  simp only [Predicate.value_compile]
  rfl

/-- In the order of a field, ascending or descending, the matches of a query that have the field
come before those that do not.  The condition on the field says the same of every record that is no
array.  So the matches that fulfil the condition come before those that do not, where the two agree
on each of the matches; and for every record on which they do not agree there are records that come
out the other way round. -/
theorem searchAndSort_present (hkey : BareKey key) (hword : ∀ c ∈ key, ¬ isWhiteSpace c)
    (hrule : o.conditionRule? key = none) :
    (∀ (q : Text) (records : List Json) (descending : Bool),
      let found := (e.searchAndSort records
        (q ++ ' ' :: (⟨key, descending⟩ : SortDirective).text)).value.1
      found.Perm (records.filter fun r => Query.isMatch o q (.ofRecord r)) ∧
        found.Pairwise (fun a b => b.has key → a.has key) ∧
        ((∀ r ∈ found, (Subject.ofRecord r).has key = r.has key) → PresentFirst o key found)) ∧
      (∀ r : Json, r.kind ≠ .array → (Subject.ofRecord r).has key = r.has key) ∧
      ∀ r : Json, (Subject.ofRecord r).has key ≠ r.has key →
        ∃ records, r ∈ records ∧ ∀ descending, ¬ PresentFirst o key (e.searchAndSort records
          (' ' :: (⟨key, descending⟩ : SortDirective).text)).value.1 := by
  have hfound := fun (q : Text) (records : List Json) (descending : Bool) =>
    searchAndSort_append_text he (d := ⟨key, descending⟩) hkey.named.1 hword q records
  refine ⟨?_, fun r hr => Subject.has_ofRecord hr key, ?_⟩
  · intro q records descending found
    have hsorted : found.Pairwise fun a b => b.has key → a.has key := by
      simp only [found, hfound]
      exact pairwise_sortAt_has key descending _
    refine ⟨?_, hsorted, fun hagree => ?_⟩
    · simp only [found, hfound]
      exact sortAt_perm key descending _
    · rw [presentFirst_iff hkey hrule]
      refine hsorted.imp_of_mem fun {a b} ha hb hab => ?_
      rw [hagree a ha, hagree b hb]
      exact hab
  · intro r hr
    obtain ⟨records, hmem, hsort, hlast⟩ := exists_not_presentFirst hkey hrule hr
    refine ⟨records, hmem, fun descending => ?_⟩
    have hall : records.filter (fun r => Query.isMatch o [] (.ofRecord r)) = records :=
      List.filter_eq_self.2 fun r _ => Query.isMatch_nil o (.ofRecord r)
    have hsame := hfound [] records descending
    rw [hall, hsort descending] at hsame
    rw [List.nil_append] at hsame
    rw [hsame]
    exact hlast

end Directive

/-- A new engine puts the object with the field before the one without it; an array with an object
that has the field comes out of place beside some record. -/
theorem searchAndSort_present_objects :
    let e := ofOptions {}
    let without : Json := .object [(['a'], .bool true)]
    let withField : Json := .object [(['k'], .bool true)]
    let found := (e.searchAndSort [without, withField] " k::desc".toList).value.1
    let r : Json := .array [withField]
    e.Sound {} ∧ BareKey ['k'] ∧ (∀ c ∈ ['k'], ¬ isWhiteSpace c) ∧
      ({} : Options).conditionRule? ['k'] = none ∧
      (∀ r ∈ found, (Subject.ofRecord r).has ['k'] = r.has ['k']) ∧ without.kind ≠ .array ∧
      (Subject.ofRecord r).has ['k'] ≠ r.has ['k'] ∧
      PresentFirst {} ['k'] found ∧
      ∃ records, r ∈ records ∧ ∀ descending, ¬ PresentFirst {} ['k'] (e.searchAndSort records
        (' ' :: (⟨['k'], descending⟩ : SortDirective).text)).value.1 := by
  intro e without withField found r
  have he : e.Sound {} := sound_ofOptions {}
  have hkey : BareKey ['k'] := ⟨by decide, by decide, List.forall_mem_singleton.2 (by decide)⟩
  have hword : ∀ c ∈ ['k'], ¬ isWhiteSpace c := List.forall_mem_singleton.2 (by decide)
  have hrule : ({} : Options).conditionRule? ['k'] = none := rfl
  obtain ⟨hfound, hobject, hdisordered⟩ := searchAndSort_present he hkey hword hrule
  have hwithout : without.kind ≠ .array := by decide
  have hwith : withField.kind ≠ .array := by decide
  obtain ⟨hperm, -, hfirst⟩ := hfound [] [without, withField] true
  have hagree : ∀ r ∈ found, (Subject.ofRecord r).has ['k'] = r.has ['k'] := by
    intro r hr
    have hmem := (List.mem_filter.1 (hperm.mem_iff.1 hr)).1
    rcases List.mem_cons.1 hmem with rfl | hmem
    · exact hobject _ hwithout
    · rw [List.mem_singleton.1 hmem]
      exact hobject _ hwith
  have hdiffer : (Subject.ofRecord r).has ['k'] ≠ r.has ['k'] := by decide
  exact ⟨he, hkey, hword, hrule, hagree, hwithout, hdiffer, hfirst hagree, hdisordered r hdiffer⟩

/-- An array with an object that has the field fulfils the condition and comes last. -/
theorem not_searchAndSort_present :
    let a : Json := .object [(['a'], .bool true)]
    let b : Json := .array [.object [(['k'], .bool true)]]
    ((ofOptions {}).searchAndSort [a, b] " k::asc".toList).value.1 = [a, b] ∧
      Query.isMatch {} "k:?".toList (.ofRecord a) = false ∧
      Query.isMatch {} "k:?".toList (.ofRecord b) = true := by
  intro a b
  refine ⟨?_, by rfl, by rfl⟩
  have hsort : sortAt ['k'] false [a, b] = [a, b] := sortAt_pair false (by rfl)
  have hall : [a, b].filter (fun r => Query.isMatch {} [] (.ofRecord r)) = [a, b] :=
    List.filter_eq_self.2 fun r _ => Query.isMatch_nil {} (.ofRecord r)
  have hfound := searchAndSort_append_text (sound_ofOptions {}) (d := ⟨['k'], false⟩)
    (by decide) (List.forall_mem_singleton.2 (by decide)) [] [a, b]
  rw [hall, hsort] at hfound
  exact hfound

end Engine

end RecordFilter
