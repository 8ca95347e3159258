import RecordFilter.Proofs.Search.Compilation
import RecordFilter.Proofs.Search.Recency
import RecordFilter.Proofs.Search.Reports

/-!
# Which patterns are compiled

An argument with a pattern uses it for any letter case or for the exact one.  What compiling a query
reports of patterns, and which of them are kept afterwards, depends on nothing but the uses so far
and those of the query, in their order (`Predicate.makes_compileWith`): a pattern is compiled where
it is used first, and a text that is no pattern wherever it is used.  Here the caches have room for
everything.
-/

namespace RecordFilter

/-- The text that an event tells to be no pattern, with what is wrong with it. -/
def Event.unusable? : Event → Option (Text × Pattern.Fault)
  | unusablePattern pattern fault => some (pattern, fault)
  | _ => none

/-- A text as a pattern, in one of the two ways of searching. -/
structure PatternUse where
  source : Text
  anyCase : Bool
deriving DecidableEq, Repr

namespace PatternUse

/-- Whether the text is a pattern. -/
def isValid (u : PatternUse) : Bool :=
  (Pattern.compile u.anyCase u.source).toOption.isSome

/-- What is wrong with the text, if it is no pattern. -/
def fault? (u : PatternUse) : Option Pattern.Fault :=
  match Pattern.compile u.anyCase u.source with
  | .ok _ => none
  | .error fault => some fault

/-- The text with what is wrong with it, if it is no pattern. -/
def unusable? (u : PatternUse) : Option (Text × Pattern.Fault) :=
  u.fault?.map (u.source, ·)

/-- What is reported of a pattern that is used after others. -/
def report (before : List PatternUse) (u : PatternUse) : List Event :=
  match u.fault? with
  | none => if u ∈ before then [] else [.compilingPattern u.source u.anyCase]
  | some fault => [.compilingPattern u.source u.anyCase, .unusablePattern u.source fault]

/-- What is reported of patterns that are used after others, one after another. -/
def reports : List PatternUse → List PatternUse → List Event
  | _, [] => []
  | before, u :: us => u.report before ++ reports (before ++ [u]) us

theorem reports_append (before us vs : List PatternUse) :
    reports before (us ++ vs) = reports before us ++ reports (before ++ us) vs := by
  induction us generalizing before with
  | nil => simp [reports]
  | cons u us ih => simp [reports, ih]

theorem isValid_iff_fault? (u : PatternUse) : u.isValid ↔ u.fault? = none := by
  unfold isValid fault?
  cases Pattern.compile u.anyCase u.source <;> simp [Except.toOption]

theorem isValid_of_compile {u : PatternUse} {p : Pattern}
    (h : Pattern.compile u.anyCase u.source = .ok p) : u.isValid := by
  rw [isValid, h]
  rfl

theorem fault?_of_compile {u : PatternUse} {fault : Pattern.Fault}
    (h : Pattern.compile u.anyCase u.source = .error fault) : u.fault? = some fault := by
  rw [fault?, h]

theorem report_of_isValid {u : PatternUse} (h : u.isValid) (before : List PatternUse) :
    u.report before = if u ∈ before then [] else [.compilingPattern u.source u.anyCase] := by
  rw [report, u.isValid_iff_fault?.1 h]

/-- A text that is no pattern is tried, whatever has been used before, and there is a warning. -/
theorem exists_report_of_not_isValid {u : PatternUse} (h : ¬ u.isValid) :
    ∃ fault, u.fault? = some fault ∧ ∀ before, u.report before =
      [.compilingPattern u.source u.anyCase, .unusablePattern u.source fault] := by
  rw [isValid_iff_fault?] at h
  obtain ⟨fault, hfault⟩ := Option.ne_none_iff_exists'.1 h
  refine ⟨fault, hfault, fun before => ?_⟩
  rw [report, hfault]

/-- One use has its own pattern compiled, unless it has been used before, and no other. -/
theorem count_compilingPattern_report (before : List PatternUse) (u v : PatternUse) :
    (v.report before).count (.compilingPattern u.source u.anyCase) =
      if v = u then if u.isValid ∧ u ∈ before then 0 else 1 else 0 := by
  have hsame : (v.source = u.source ∧ v.anyCase = u.anyCase) ↔ v = u := by
    cases v
    cases u
    simp
  by_cases hvalid : v.isValid
  · rw [report_of_isValid hvalid]
    by_cases hv : v = u
    · subst hv
      by_cases hbefore : v ∈ before
      · simp [hvalid, hbefore]
      · simp [hbefore]
    · by_cases hbefore : v ∈ before
      · simp [hv, hbefore]
      · simp [hv, hbefore, hsame]
  · obtain ⟨fault, -, hreport⟩ := exists_report_of_not_isValid hvalid
    rw [hreport]
    by_cases hv : v = u
    · subst hv
      simp [hvalid]
    · simp [hv, hsame]

/-- A pattern is compiled once, unless it has been used before. -/
theorem count_compilingPattern_of_isValid {u : PatternUse} (hu : u.isValid)
    (before us : List PatternUse) :
    (reports before us).count (.compilingPattern u.source u.anyCase) =
      if u ∈ before then 0 else if u ∈ us then 1 else 0 := by
  induction us generalizing before with
  | nil => simp [reports]
  | cons v us ih =>
    rw [reports, List.count_append, ih, count_compilingPattern_report]
    by_cases hv : v = u
    · subst hv
      by_cases hbefore : v ∈ before
      · simp [hu, hbefore]
      · simp [hbefore]
    · simp [hv, Ne.symm hv]

/-- A text that is no pattern is tried each time it is used. -/
theorem count_compilingPattern_of_not_isValid {u : PatternUse} (hu : ¬ u.isValid)
    (before us : List PatternUse) :
    (reports before us).count (.compilingPattern u.source u.anyCase) = us.count u := by
  induction us generalizing before with
  | nil => simp [reports]
  | cons v us ih =>
    rw [reports, List.count_append, ih, count_compilingPattern_report, List.count_cons]
    by_cases hv : v = u
    · simp [hv, hu, Nat.add_comm]
    · simp [hv]

/-- Each time it is tried there is a warning that says what is wrong, and there is no other. -/
theorem unusable?_reports (before us : List PatternUse) :
    (reports before us).filterMap Event.unusable? = us.filterMap unusable? := by
  induction us generalizing before with
  | nil => rfl
  | cons u us ih =>
    have hone : (u.report before).filterMap Event.unusable? = u.unusable?.toList := by
      by_cases hvalid : u.isValid
      · rw [report_of_isValid hvalid, unusable?, u.isValid_iff_fault?.1 hvalid]
        split <;> rfl
      · obtain ⟨fault, hfault, hreport⟩ := exists_report_of_not_isValid hvalid
        rw [hreport, unusable?, hfault]
        rfl
    rw [reports, List.filterMap_append, ih, hone]
    cases hunusable : u.unusable? <;> simp [hunusable]

/-- The texts that are patterns in a way of searching, as they are used. -/
def sources (anyCase : Bool) (us : List PatternUse) : List Text :=
  (us.filter fun u => u.isValid && u.anyCase == anyCase).map (·.source)

theorem mem_sources {anyCase : Bool} {us : List PatternUse} {source : Text} :
    source ∈ sources anyCase us ↔ ⟨source, anyCase⟩ ∈ us ∧ isValid ⟨source, anyCase⟩ := by
  simp only [sources, List.mem_map, List.mem_filter, Bool.and_eq_true, beq_iff_eq]
  constructor
  · rintro ⟨⟨source', anyCase'⟩, ⟨hmem, hvalid, rfl⟩, rfl⟩
    exact ⟨hmem, hvalid⟩
  · rintro ⟨hmem, hvalid⟩
    exact ⟨⟨source, anyCase⟩, ⟨hmem, hvalid, rfl⟩, rfl⟩

theorem sources_concat (anyCase : Bool) (us : List PatternUse) (u : PatternUse) :
    sources anyCase (us ++ [u]) =
      if u.isValid ∧ anyCase = u.anyCase then sources anyCase us ++ [u.source]
      else sources anyCase us := by
  by_cases h : u.isValid ∧ anyCase = u.anyCase
  · simp [sources, h]
  · have hnone : (u.isValid && u.anyCase == anyCase) = false := by
      rw [Bool.eq_false_iff]
      intro htrue
      simp only [Bool.and_eq_true, beq_iff_eq] at htrue
      exact h ⟨htrue.1, htrue.2.symm⟩
    simp [sources, h, hnone]

end PatternUse

/-! ### The patterns kept -/

namespace PatternCache

/-- The patterns kept after uses, where there is room for all: each valid one, the one used last at
the end, with a number that no other has. -/
structure Keeps (us : List PatternUse) (c : PatternCache) : Prop where
  capacity : ∀ anyCase, (c.part anyCase).capacity = none
  keys : ∀ anyCase, (c.part anyCase).keys = (PatternUse.sources anyCase us).dedup
  numbered : ∀ anyCase, (c.part anyCase).Holds fun _ p => p.number < c.next
  apart : ∀ anyCase, ∀ p ∈ (c.part anyCase).entries, ∀ q ∈ (c.part !anyCase).entries,
    p.2.number ≠ q.2.number

variable {us : List PatternUse} {c : PatternCache}

/-- Where nothing is kept nothing has been used. -/
theorem keeps_of_entries_eq_nil (hroom : ∀ anyCase, (c.part anyCase).capacity = none)
    (hempty : ∀ anyCase, (c.part anyCase).entries = []) : c.Keeps [] where
  capacity := hroom
  keys := by
    intro anyCase
    rw [Cache.keys, hempty]
    rfl
  numbered := by
    intro anyCase e he
    rw [hempty] at he
    cases he
  apart := by
    intro anyCase p hp
    rw [hempty] at hp
    cases hp

theorem keeps_empty : (empty none).Keeps [] := by
  apply keeps_of_entries_eq_nil
  · intro anyCase
    cases anyCase <;> rfl
  · intro anyCase
    cases anyCase <;> rfl

theorem Keeps.clear (h : c.Keeps us) : c.clear.Keeps [] := by
  apply keeps_of_entries_eq_nil
  · intro anyCase
    cases anyCase with
    | true => exact h.capacity true
    | false => exact h.capacity false
  · intro anyCase
    cases anyCase <;> rfl

theorem Keeps.mem_keys_iff (h : c.Keeps us) (anyCase : Bool) (source : Text) :
    source ∈ (c.part anyCase).keys ↔
      ⟨source, anyCase⟩ ∈ us ∧ PatternUse.isValid ⟨source, anyCase⟩ := by
  rw [h.keys, List.mem_dedup]
  exact PatternUse.mem_sources

/-- A pattern that is found or compiled is the one used last. -/
theorem Keeps.insert (h : c.Keeps us) {u : PatternUse} (hu : u.isValid) {entry : Numbered Pattern}
    {next : Nat} (hnext : c.next ≤ next) (hentry : entry.number < next)
    (hother : ∀ q ∈ (c.part !u.anyCase).entries, entry.number ≠ q.2.number) :
    ({ c.withPart u.anyCase ((c.part u.anyCase).insert u.source entry) with
      next := next } : PatternCache).Keeps (us ++ [u]) := by
  have hpart : ∀ anyCase, ({ c.withPart u.anyCase ((c.part u.anyCase).insert u.source entry) with
      next := next } : PatternCache).part anyCase =
        if anyCase = u.anyCase then (c.part u.anyCase).insert u.source entry
        else c.part anyCase := fun anyCase => c.part_withPart u.anyCase anyCase _
  have hmono : ∀ anyCase, (c.part anyCase).Holds fun _ p => p.number < next :=
    fun anyCase e he => (h.numbered anyCase e he).trans_le hnext
  refine ⟨?_, ?_, ?_, ?_⟩
  · intro anyCase
    rw [hpart]
    split
    · exact h.capacity u.anyCase
    · exact h.capacity anyCase
  · intro anyCase
    rw [hpart, PatternUse.sources_concat]
    by_cases hcase : anyCase = u.anyCase
    · subst hcase
      have hkeys : (c.part u.anyCase).keys =
          Cache.recent (c.part u.anyCase).capacity (PatternUse.sources u.anyCase us) := by
        rw [h.keys, h.capacity]
        rfl
      simp only [hu, and_self, if_true]
      rw [Cache.keys_insert hkeys, h.capacity]
      rfl
    · simp only [hcase, and_false, if_false]
      exact h.keys anyCase
  · intro anyCase
    rw [hpart]
    split
    · exact (hmono u.anyCase).insert hentry
    · exact hmono anyCase
  · intro anyCase p hp q hq
    rw [hpart] at hp hq
    -- The new entry stands in one of the two parts, on either side of the inequality.
    by_cases hcase : anyCase = u.anyCase
    · subst hcase
      simp only [if_true, Bool.not_eq_self, if_false] at hp hq
      rcases Cache.mem_insert hp with rfl | ⟨hold, -⟩
      · exact hother q hq
      · exact h.apart u.anyCase p hold q hq
    · have hnot : (!anyCase) = u.anyCase := by
        cases anyCase <;> cases hflag : u.anyCase <;> simp_all
      rw [if_neg hcase] at hp
      rw [if_pos hnot] at hq
      rcases Cache.mem_insert hq with rfl | ⟨hold, -⟩
      · apply Ne.symm
        apply hother p
        rwa [← hnot, Bool.not_not]
      · apply h.apart anyCase p hp
        rwa [hnot]

/-- A text that is no pattern leaves what is kept alone. -/
theorem Keeps.unusable (h : c.Keeps us) {u : PatternUse} (hu : ¬ u.isValid) :
    c.Keeps (us ++ [u]) where
  capacity := h.capacity
  keys := by
    intro anyCase
    rw [PatternUse.sources_concat, if_neg fun hvalid => hu hvalid.1]
    exact h.keys anyCase
  numbered := h.numbered
  apart := h.apart

/-- Asking for a pattern uses it: it is there if it has been used before, is compiled otherwise, and
is there afterwards, unless the text is no pattern. -/
theorem Keeps.get (h : c.Keeps us) (u : PatternUse) :
    (∀ fault, (c.get u.source u.anyCase).value.1 = .error fault ↔ u.fault? = some fault) ∧
      (c.get u.source u.anyCase).events =
        (if u.isValid ∧ u ∈ us then [] else [.compilingPattern u.source u.anyCase]) ∧
      (c.get u.source u.anyCase).value.2.Keeps (us ++ [u]) := by
  have hfind : ((c.part u.anyCase).find? u.source).isSome ↔ u ∈ us ∧ u.isValid :=
    Cache.find?_isSome_iff.trans (h.mem_keys_iff u.anyCase u.source)
  -- What is found is inserted again, so it is the pattern used last in either case.
  cases hfound : (c.part u.anyCase).find? u.source with
  | some p =>
    obtain ⟨hmem, hvalid⟩ := hfind.1 (by rw [hfound]; rfl)
    have hentry : (u.source, p) ∈ (c.part u.anyCase).entries := by
      obtain ⟨before, after, heq, -⟩ := List.lookup_eq_some_iff.1 hfound
      simp [heq]
    rw [get_of_found hfound]
    refine ⟨by simp [u.isValid_iff_fault?.1 hvalid], by simp [hvalid, hmem], ?_⟩
    have hkeeps := h.insert hvalid (Nat.le_refl c.next) (h.numbered u.anyCase _ hentry)
      (h.apart u.anyCase _ hentry)
    rw [← c.next_withPart u.anyCase ((c.part u.anyCase).insert u.source p)] at hkeeps
    exact hkeeps
  | none =>
    have hnew : ¬ (u.isValid ∧ u ∈ us) := by
      intro hused
      simpa [hfound] using hfind.2 hused.symm
    cases hcompile : Pattern.compile u.anyCase u.source with
    | ok p =>
      have hvalid := PatternUse.isValid_of_compile hcompile
      rw [get_of_missing hfound hcompile]
      refine ⟨by simp [u.isValid_iff_fault?.1 hvalid], by rw [if_neg hnew], ?_⟩
      apply h.insert hvalid (Nat.le_succ c.next) (Nat.lt_succ_self c.next)
      intro q hq
      exact Nat.ne_of_gt (h.numbered _ q hq)
    | error fault =>
      have hfault := PatternUse.fault?_of_compile hcompile
      have hinvalid : ¬ u.isValid := by simp [u.isValid_iff_fault?, hfault]
      rw [get_of_unusable hfound hcompile]
      exact ⟨by simp [hfault], by rw [if_neg hnew], h.unusable hinvalid⟩

/-- As many patterns are kept as there were different valid uses. -/
theorem Keeps.size_eq (h : c.Keeps us) :
    c.size = (us.filter PatternUse.isValid).dedup.length := by
  have hnodup : ∀ anyCase, ((c.part anyCase).keys.map (PatternUse.mk · anyCase)).Nodup := by
    intro anyCase
    rw [h.keys]
    apply List.Nodup.map _ (List.nodup_dedup _)
    intro source source' heq
    simpa using heq
  have hperm : ((c.part false).keys.map (PatternUse.mk · false) ++
      (c.part true).keys.map (PatternUse.mk · true)).Perm
        (us.filter PatternUse.isValid).dedup := by
    apply (List.perm_ext_iff_of_nodup _ (List.nodup_dedup _)).2
    · rintro ⟨source, anyCase⟩
      cases anyCase <;> simp [h.mem_keys_iff]
    · apply List.nodup_append.2
      refine ⟨hnodup false, hnodup true, ?_⟩
      simp
  have hlength := hperm.length_eq
  rw [List.length_append, List.length_map, List.length_map] at hlength
  rw [← hlength]
  simp [size, Cache.size, Cache.keys, part]

end PatternCache

/-! ### The patterns of a query -/

/-- Whether an event tells of a pattern that is compiled, or of a text that is none. -/
def Event.tellsOfPattern : Event → Bool
  | compilingPattern .. | unusablePattern .. => true
  | _ => false

namespace Traced

variable {α β : Type}

/-- What is reported of patterns on the way. -/
def patternReports (t : Traced α) : List Event :=
  t.events.filter Event.tellsOfPattern

@[simp] theorem patternReports_pure (a : α) : (pure a : Traced α).patternReports = [] := rfl

@[simp] theorem patternReports_bind (t : Traced α) (f : α → Traced β) :
    (t >>= f).patternReports = t.patternReports ++ (f t.value).patternReports :=
  List.filter_append ..

theorem patternReports_eq_nil {t : Traced α} (h : t.Reports fun e => e.tellsOfPattern = false) :
    t.patternReports = [] := by
  apply List.filter_eq_nil_iff.2
  intro e he
  simp [h e he]

end Traced

/-- The pattern that an argument uses, if its operator takes one. -/
def Argument.patternUses (o : Options) (a : Argument) : List PatternUse :=
  if a.operator.isPattern then [⟨a.raw, a.operator == .patternAnyCase || o.ignoreCase⟩] else []

/-- The patterns that the arguments of a condition use. -/
def Condition.patternUses (o : Options) (c : Condition) : List PatternUse :=
  c.arguments.flatMap (Argument.patternUses o)

/-- The patterns that the arguments of a query use, in the order in which they are compiled. -/
def Query.patternUses (o : Options) (query : Text) : List PatternUse :=
  (conditions o query).value.flatMap fun cs => cs.flatMap (Condition.patternUses o)

/-- A stage of compilation makes uses of patterns: it reports what they report and leaves behind
what they leave, after whatever has been used before. -/
def PatternCache.Makes {β : Type} (us : List PatternUse)
    (f : PatternCache → Traced (β × PatternCache)) : Prop :=
  ∀ before c, c.Keeps before →
    (f c).patternReports = PatternUse.reports before us ∧ (f c).value.2.Keeps (before ++ us)

open PatternCache

/-- A stage that is taken for each of several items makes the uses of all. -/
theorem PatternCache.makes_eachWith {α β : Type} {uses : α → List PatternUse}
    {f : PatternCache → α → Traced (β × PatternCache)} (h : ∀ a, Makes (uses a) fun c => f c a)
    (as : List α) : Makes (as.flatMap uses) fun c => Traced.eachWith f c as := by
  intro before c hc
  induction as generalizing before c with
  | nil =>
    rw [List.flatMap_nil, List.append_nil]
    exact ⟨rfl, hc⟩
  | cons a rest ih =>
    obtain ⟨hfirst, hkept⟩ := h a before c hc
    obtain ⟨hothers, hall⟩ := ih _ _ hkept
    rw [List.flatMap_cons, PatternUse.reports_append, ← hfirst, ← hothers, ← List.append_assoc]
    refine ⟨?_, hall⟩
    simp [Traced.eachWith]

theorem Test.makes_ofArgument (o : Options) (a : Argument) :
    Makes (a.patternUses o) fun c => Test.ofArgument o c a := by
  intro before c hc
  unfold Test.ofArgument Argument.patternUses
  split
  · generalize (a.operator == .patternAnyCase || o.ignoreCase) = anyCase
    obtain ⟨hfault, hevents, hkeeps⟩ := hc.get ⟨a.raw, anyCase⟩
    dsimp only at hfault hevents hkeeps ⊢
    generalize c.get a.raw anyCase = asked at hfault hevents hkeeps ⊢
    obtain ⟨⟨fault | entry, c'⟩, events⟩ := asked
    · have hunusable : PatternUse.fault? ⟨a.raw, anyCase⟩ = some fault := (hfault fault).1 rfl
      have hinvalid : ¬ PatternUse.isValid ⟨a.raw, anyCase⟩ := by
        simp [PatternUse.isValid_iff_fault?, hunusable]
      obtain rfl : events = [.compilingPattern a.raw anyCase] := by simpa [hinvalid] using hevents
      refine ⟨?_, hkeeps⟩
      simp only [PatternUse.reports, PatternUse.report, hunusable]
      rfl
    · have hvalid : PatternUse.isValid ⟨a.raw, anyCase⟩ := by
        rw [PatternUse.isValid_iff_fault?, Option.eq_none_iff_forall_ne_some]
        intro fault hunusable
        cases (hfault fault).2 hunusable
      obtain rfl : events = if ⟨a.raw, anyCase⟩ ∈ before then []
          else [.compilingPattern a.raw anyCase] := by simpa [hvalid] using hevents
      refine ⟨?_, hkeeps⟩
      rw [PatternUse.reports, PatternUse.report_of_isValid hvalid]
      by_cases hused : ⟨a.raw, anyCase⟩ ∈ before
      · simp only [hused, if_true]
        rfl
      · simp only [hused, if_false]
        rfl
  · rw [List.append_nil]
    split
    · exact ⟨rfl, hc⟩
    · exact ⟨rfl, hc⟩

theorem Check.makes_ofCondition (o : Options) (condition : Condition) :
    Makes (condition.patternUses o) fun c => Check.ofCondition o c condition := by
  intro before c hc
  obtain ⟨hreports, hkeeps⟩ :=
    makes_eachWith (Test.makes_ofArgument o) condition.arguments before c hc
  refine ⟨?_, hkeeps⟩
  rw [Condition.patternUses, ← hreports]
  simp [Check.ofCondition]

theorem Clause.makes_ofConditions (o : Options) (cs : List Condition) :
    Makes (cs.flatMap (Condition.patternUses o)) fun c => Clause.ofConditions o c cs := by
  intro before c hc
  obtain ⟨hreports, hkeeps⟩ := makes_eachWith (Check.makes_ofCondition o) cs before c hc
  refine ⟨?_, hkeeps⟩
  rw [← hreports]
  simp [Clause.ofConditions]

theorem Predicate.makes_compilePart (o : Options) (subQuery : Text) :
    Makes ((Query.conditionsOfPart o subQuery).value.flatMap (Condition.patternUses o))
      fun c => Predicate.compilePart o c subQuery := by
  intro before c hc
  obtain ⟨hreports, hkeeps⟩ :=
    Clause.makes_ofConditions o (Query.conditionsOfPart o subQuery).value before c hc
  refine ⟨?_, hkeeps⟩
  have hread : (Query.conditionsOfPart o subQuery).patternReports = [] :=
    Traced.patternReports_eq_nil
      (Query.reports_conditionsOfPart (fun _ _ _ => rfl) (fun _ _ => rfl) o subQuery)
  unfold Predicate.compilePart
  rw [← hreports, Traced.patternReports_bind, hread, List.nil_append]

/-- Compiling a query makes its uses of patterns. -/
theorem Predicate.makes_compileWith (o : Options) (query : Text) :
    Makes (Query.patternUses o query) fun c => Predicate.compileWith o c query := by
  intro before c hc
  have huses : Query.patternUses o query = (Query.subQueries query).flatMap fun part =>
      (Query.conditionsOfPart o part).value.flatMap (Condition.patternUses o) := by
    rw [Query.patternUses, Query.conditions, Traced.value_each, List.flatMap_map]
  obtain ⟨hreports, hkeeps⟩ :=
    makes_eachWith (Predicate.makes_compilePart o) (Query.subQueries query) before c hc
  rw [huses]
  refine ⟨?_, hkeeps⟩
  have hquery : ∀ n, (Traced.report (.compiledQuery query n)).patternReports = [] := fun _ => rfl
  rw [← hreports]
  simp [Predicate.compileWith, hquery]

end RecordFilter
