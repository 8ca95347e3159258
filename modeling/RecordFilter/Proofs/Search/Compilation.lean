import Mathlib.Data.List.Forall2
import RecordFilter.Proofs.Search.Cache
import RecordFilter.Search.Predicate

/-!
# Compilation without caches

What a query is compiled to, said without a cache: every argument has its own test, with its own
pattern.  A pattern cache is sound when each pattern it keeps is what its text compiles to for its
letter case; every stage of compilation keeps a sound cache sound and then yields what it yields
without one (`Predicate.compileWith_spec`).
-/

namespace RecordFilter

namespace Traced

variable {σ α β : Type}

/-- A step that keeps an invariant of the state, and whose result the invariant relates to its item,
keeps it over a list and relates the results to the items in order. -/
theorem eachWith_rel {I : σ → Prop} {R : α → β → Prop} {f : σ → α → Traced (β × σ)}
    (h : ∀ s a, I s → R a (f s a).value.1 ∧ I (f s a).value.2) (as : List α) {s : σ} (hs : I s) :
    List.Forall₂ R as (eachWith f s as).value.1 ∧ I (eachWith f s as).value.2 := by
  induction as generalizing s with
  | nil => exact ⟨.nil, hs⟩
  | cons a rest ih =>
    obtain ⟨hvalue, hstate⟩ := h s a hs
    obtain ⟨hvalues, hfinal⟩ := ih hstate
    exact ⟨.cons hvalue hvalues, hfinal⟩

/-- Where the invariant determines the result of a step, the results are those of the items. -/
theorem eachWith_spec {I : σ → Prop} {f : σ → α → Traced (β × σ)} {g : α → β}
    (h : ∀ s a, I s → (f s a).value.1 = g a ∧ I (f s a).value.2) (as : List α) {s : σ} (hs : I s) :
    (eachWith f s as).value.1 = as.map g ∧ I (eachWith f s as).value.2 := by
  obtain ⟨hvalues, hfinal⟩ := eachWith_rel (R := fun a b => b = g a) h as hs
  refine ⟨?_, hfinal⟩
  clear hfinal
  generalize (eachWith f s as).value.1 = bs at hvalues
  induction hvalues with
  | nil => rfl
  | cons hvalue _ ih => rw [hvalue, ih, List.map_cons]

/-- One item more is one step more. -/
theorem state_eachWith_concat (f : σ → α → Traced (β × σ)) (s : σ) (as : List α) (a : α) :
    (eachWith f s (as ++ [a])).value.2 = (f (eachWith f s as).value.2 a).value.2 := by
  induction as generalizing s with
  | nil => rfl
  | cons b rest ih => exact ih (f s b).value.2

theorem events_eachWith_concat (f : σ → α → Traced (β × σ)) (s : σ) (as : List α) (a : α) :
    (eachWith f s (as ++ [a])).events =
      (eachWith f s as).events ++ (f (eachWith f s as).value.2 a).events := by
  induction as generalizing s with
  | nil => simp [eachWith]
  | cons b rest ih => simp [eachWith, ih]

end Traced

namespace PatternCache

/-- Every pattern kept is what its text compiles to, for the letter case it is kept for. -/
def Sound (c : PatternCache) : Prop :=
  ∀ anyCase, (c.part anyCase).Holds fun source entry =>
    Pattern.compile anyCase source = .ok entry.value

theorem sound_empty (capacity : Option Nat) : (empty capacity).Sound := by
  intro anyCase
  cases anyCase with
  | true => exact Cache.holds_empty _ capacity
  | false => exact Cache.holds_empty _ capacity

theorem sound_clear (c : PatternCache) : c.clear.Sound := by
  intro anyCase
  cases anyCase with
  | true => exact Cache.holds_clear _ c.anyCase
  | false => exact Cache.holds_clear _ c.exact

/-- Replacing the patterns of one letter case leaves those of the other alone. -/
theorem part_withPart (c : PatternCache) (anyCase other : Bool)
    (p : Cache Text (Numbered Pattern)) :
    (c.withPart anyCase p).part other = if other = anyCase then p else c.part other := by
  cases anyCase <;> cases other <;> rfl

theorem Sound.withPart {c : PatternCache} (h : c.Sound) {anyCase : Bool}
    {p : Cache Text (Numbered Pattern)}
    (hp : p.Holds fun source entry => Pattern.compile anyCase source = .ok entry.value) :
    (c.withPart anyCase p).Sound := by
  intro other
  rw [part_withPart]
  split
  · next heq => rw [heq]; exact hp
  · exact h other

/-- A sound cache yields the pattern that the text compiles to, or what is wrong with the text. -/
theorem get_spec {c : PatternCache} (h : c.Sound) (source : Text) (anyCase : Bool) :
    (c.get source anyCase).value.1.map (·.value) = Pattern.compile anyCase source ∧
      (c.get source anyCase).value.2.Sound := by
  cases hfind : (c.part anyCase).find? source with
  | some entry =>
    have hcompile : Pattern.compile anyCase source = .ok entry.value := (h anyCase).of_find? hfind
    rw [get_of_found hfind, hcompile]
    exact ⟨rfl, h.withPart ((h anyCase).insert hcompile)⟩
  | none =>
    cases hcompile : Pattern.compile anyCase source with
    | error fault =>
      rw [get_of_unusable hfind hcompile]
      exact ⟨rfl, h⟩
    | ok p =>
      have hkept : ((c.part anyCase).insert source ⟨c.next, p⟩).Holds fun source entry =>
          Pattern.compile anyCase source = .ok entry.value := (h anyCase).insert hcompile
      rw [get_of_missing hfind hcompile]
      exact ⟨rfl, h.withPart hkept⟩

end PatternCache

/-- The test of an argument, with a pattern of its own. -/
def Test.plain (o : Options) (a : Argument) : Test :=
  if a.operator.isPattern then
    ⟨a.operator, a.literal, a.raw, false,
      (Pattern.compile (a.operator == .patternAnyCase || o.ignoreCase) a.raw).toOption⟩
  else if o.ignoreCase then
    ⟨a.operator, a.literal.lowerCase, Text.lowerCase a.raw, true, none⟩
  else ⟨a.operator, a.literal, a.raw, false, none⟩

/-- The check of a condition. -/
def Check.plain (o : Options) (c : Condition) : Check :=
  ⟨c.polarity, c.key, c.combination, c.arguments.map (Test.plain o)⟩

/-- The clause of a list of conditions. -/
def Clause.plain (o : Options) (conditions : List Condition) : Clause :=
  ⟨(conditions.map (Check.plain o)).filter (·.polarity != .additive),
    (conditions.map (Check.plain o)).filter (·.polarity == .additive)⟩

/-- The predicate of a query. -/
def Predicate.plain (o : Options) (query : Text) : Predicate :=
  ⟨query, (Query.subQueries query).map fun s => Clause.plain o (Query.conditionsOfPart o s).value,
    o.faultPolicy⟩

theorem Test.ofArgument_spec (o : Options) {c : PatternCache} (a : Argument) (h : c.Sound) :
    (Test.ofArgument o c a).value.1 = Test.plain o a ∧ (Test.ofArgument o c a).value.2.Sound := by
  unfold Test.ofArgument Test.plain
  split
  · obtain ⟨hvalue, hsound⟩ :=
      PatternCache.get_spec h a.raw (a.operator == .patternAnyCase || o.ignoreCase)
    rw [← hvalue]
    rcases hget : (c.get a.raw (a.operator == .patternAnyCase || o.ignoreCase)).value with
      ⟨_ | entry, c'⟩
    · rw [hget] at hsound
      exact ⟨by simp [hget, Except.map, Except.toOption], by simpa [hget] using hsound⟩
    · rw [hget] at hsound
      exact ⟨by simp [hget, Except.map, Except.toOption], by simpa [hget] using hsound⟩
  · split
    · exact ⟨rfl, h⟩
    · exact ⟨rfl, h⟩

theorem Check.ofCondition_spec (o : Options) {c : PatternCache} (condition : Condition)
    (h : c.Sound) :
    (Check.ofCondition o c condition).value.1 = Check.plain o condition ∧
      (Check.ofCondition o c condition).value.2.Sound := by
  obtain ⟨htests, hsound⟩ := Traced.eachWith_spec (fun _ a hc => Test.ofArgument_spec o a hc)
    condition.arguments h
  refine ⟨?_, hsound⟩
  show (⟨_, _, _, (Traced.eachWith (Test.ofArgument o) c condition.arguments).value.1⟩ : Check) = _
  rw [htests, Check.plain]

theorem Clause.ofConditions_spec (o : Options) {c : PatternCache} (conditions : List Condition)
    (h : c.Sound) :
    (Clause.ofConditions o c conditions).value.1 = Clause.plain o conditions ∧
      (Clause.ofConditions o c conditions).value.2.Sound := by
  obtain ⟨hchecks, hsound⟩ := Traced.eachWith_spec
    (fun _ condition hc => Check.ofCondition_spec o condition hc) conditions h
  refine ⟨?_, hsound⟩
  unfold Clause.plain
  rw [← hchecks]
  rfl

theorem Predicate.compilePart_spec (o : Options) {c : PatternCache} (subQuery : Text)
    (h : c.Sound) :
    (Predicate.compilePart o c subQuery).value.1 =
        Clause.plain o (Query.conditionsOfPart o subQuery).value ∧
      (Predicate.compilePart o c subQuery).value.2.Sound :=
  Clause.ofConditions_spec o (Query.conditionsOfPart o subQuery).value h

/-- With a sound cache a query compiles to its own predicate, and the cache stays sound. -/
theorem Predicate.compileWith_spec (o : Options) {c : PatternCache} (query : Text) (h : c.Sound) :
    (Predicate.compileWith o c query).value.1 = Predicate.plain o query ∧
      (Predicate.compileWith o c query).value.2.Sound := by
  obtain ⟨hclauses, hsound⟩ := Traced.eachWith_spec
    (fun _ s hc => Predicate.compilePart_spec o s hc) (Query.subQueries query) h
  refine ⟨?_, hsound⟩
  unfold Predicate.plain
  rw [← hclauses]
  rfl

theorem Predicate.value_compile (o : Options) (query : Text) :
    (Predicate.compile o query).value = Predicate.plain o query :=
  (Predicate.compileWith_spec o query (PatternCache.sound_empty none)).1

end RecordFilter
