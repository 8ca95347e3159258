import RecordFilter.Proofs.Query.Addressed
import RecordFilter.Proofs.Search.Meaning

/-!
# Aliases

The only rules that settings ask for are aliases: rules for conditions that put another key in place
of one.  All aliases act at once, each on the keys as they are written: the other key goes into the
condition and is not looked up, so that aliases may lead in chains and circles or change keys with
one another (`conditions_ofSettings`).
-/

namespace RecordFilter

/-! ### The rules that settings ask for -/

/-- The key that stands for a key; of several that are given for it, the last. -/
def Settings.alias? (s : Settings) (key : Text) : Option Text :=
  s.aliases.reverse.lookup key

/-- Settings with no key in place of another, the same otherwise. -/
def Settings.withoutAliases (s : Settings) : Settings :=
  { s with aliases := [] }

/-- Options under which the only rules are those that put another key in place of one. -/
structure Options.OnlyAliases (o : Options) : Prop where
  aliases : ∀ {key : Text} {rule : ConditionRule}, o.conditionRule? key = some rule →
    ∃ target, rule = .alias target
  textRules : o.textRules = []

namespace Options

/-- Registering aliases changes the rules for conditions and nothing else. -/
theorem foldl_withConditionRule (aliases : List (Text × Text)) (o : Options) :
    aliases.foldl (fun o a => o.withConditionRule a.1 (.alias a.2)) o =
      { o with conditionRules :=
          aliases.foldl (fun rules a => setRule a.1 (.alias a.2) rules) o.conditionRules } := by
  induction aliases generalizing o with
  | nil => rfl
  | cons a aliases ih => exact ih (o.withConditionRule a.1 (.alias a.2))

/-- The alias registered last for a key is the one that is found. -/
theorem lookup_foldl_setRule (aliases : List (Text × Text)) (rules : List (Text × ConditionRule))
    (key : Text) :
    (aliases.foldl (fun rules a => setRule a.1 (.alias a.2) rules) rules).lookup key =
      ((aliases.reverse.lookup key).map .alias).or (rules.lookup key) := by
  induction aliases generalizing rules with
  | nil => rfl
  | cons a aliases ih =>
    obtain ⟨name, target⟩ := a
    rw [List.foldl_cons, ih, lookup_setRule, List.reverse_cons, List.lookup_append]
    cases aliases.reverse.lookup key with
    | some other => rfl
    | none =>
      by_cases hname : key = name
      · rw [if_pos hname, hname, List.lookup_cons_self]
        rfl
      · have hother : (key == name) = false := beq_eq_false_iff_ne.2 hname
        rw [if_neg hname, List.lookup_cons, hother]
        rfl

theorem ofSettings_eq (s : Settings) :
    ofSettings s =
      { ofSettings s.withoutAliases with conditionRules := (ofSettings s).conditionRules } := by
  unfold ofSettings
  rw [foldl_withConditionRule]
  rfl

theorem conditionRule?_ofSettings (s : Settings) (key : Text) :
    (ofSettings s).conditionRule? key = (s.alias? key).map .alias := by
  unfold conditionRule? ofSettings
  rw [foldl_withConditionRule, lookup_foldl_setRule]
  exact Option.or_none

theorem textRules_ofSettings (s : Settings) : (ofSettings s).textRules = [] := by
  rw [ofSettings_eq]
  rfl

theorem haystackKey_ofSettings (s : Settings) : (ofSettings s).haystackKey = s.haystackKey := by
  rw [ofSettings_eq]
  rfl

theorem withoutRules_ofSettings (s : Settings) : (ofSettings s.withoutAliases).WithoutRules :=
  ⟨rfl, rfl⟩

theorem onlyAliases_ofSettings (s : Settings) : (ofSettings s).OnlyAliases where
  aliases := by
    intro key rule hrule
    rw [conditionRule?_ofSettings] at hrule
    obtain ⟨target, -, rfl⟩ := Option.map_eq_some_iff.1 hrule
    exact ⟨target, rfl⟩
  textRules := textRules_ofSettings s

end Options

namespace Query

/-! ### Conditions under aliases -/

section OnlyAliases

variable {o : Options} (ho : o.OnlyAliases)

include ho

/-- An alias adds no free text. -/
theorem freeText_compileCondition_of_onlyAliases (c : Text × Text) :
    (compileCondition o c).value.2 = [] := by
  unfold compileCondition
  cases hrule : o.conditionRule? (Polarity.splitKey c.1).2 with
  | none => simp [hrule]
  | some rule =>
    obtain ⟨target, rfl⟩ := ho.aliases hrule
    simp [hrule, ConditionRule.alias]

theorem conditionsOfRun_of_onlyAliases (run : List Text) :
    conditionsOfRun o run =
      ((run.map Token.ofText).filterMap Token.condition?).map
          (fun c => (compileCondition o c).value.1) ++
        [.freeText o.haystackKey
          (phrases o ((run.map Token.ofText).filterMap Token.freeText?))] := by
  have hexpanded : ∀ ts : List Text,
      (ts.flatMap fun t => (expandFreeText o.textRules t).value) = ts.map .freeText := by
    intro ts
    rw [ho.textRules]
    exact List.map_eq_flatMap.symm
  have hadded : ∀ cs : List (Text × Text),
      (cs.map fun c => (compileCondition o c).value).flatMap (·.2) = [] := by
    intro cs
    rw [List.flatMap_map]
    exact List.flatMap_eq_nil_iff.2 fun c _ => freeText_compileCondition_of_onlyAliases ho c
  unfold conditionsOfRun
  simp only [hexpanded, hadded, List.filterMap_append, Token.filterMap_condition?_freeText,
    Token.filterMap_freeText?_freeText, List.append_nil, List.map_map]
  rfl

end OnlyAliases

/-- The keys of the conditions written in a run, without the signs of their polarities. -/
def writtenKeys (run : List Text) : List Text :=
  ((run.map Token.ofText).filterMap Token.condition?).map fun c => (Polarity.splitKey c.1).2

end Query

namespace Settings

/-- A condition that was written with a key, on the field that the key put in place of it names. -/
def rename (s : Settings) (key : Text) (c : Condition) : Condition :=
  match s.alias? key with
  | some target => { c with key := Condition.fieldOf s.haystackKey target }
  | none => c

/-- Conditions on the fields that the keys put in place of theirs name.  The condition for free
text, which was written with no key, comes last and stays as it is. -/
def renameAll (s : Settings) : List Text → List Condition → List Condition
  | key :: keys, c :: cs => s.rename key c :: s.renameAll keys cs
  | _, cs => cs

theorem renameAll_map_append {α : Type} (s : Settings) (key : α → Text) (condition : α → Condition)
    (as : List α) (last : Condition) :
    s.renameAll (as.map key) (as.map condition ++ [last]) =
      as.map (fun a => s.rename (key a) (condition a)) ++ [last] := by
  induction as with
  | nil => rfl
  | cons a as ih =>
    rw [List.map_cons, List.map_cons, List.cons_append, renameAll, ih]
    rfl

/-- Aliases for other keys do not count for a key. -/
theorem alias?_filter (s : Settings) {p : Text → Bool} {key : Text} (h : p key) :
    ({ s with aliases := s.aliases.filter fun a => p a.1 } : Settings).alias? key =
      s.alias? key := by
  unfold alias?
  dsimp only
  rw [← List.filter_reverse]
  induction s.aliases.reverse with
  | nil => rfl
  | cons a aliases ih =>
    obtain ⟨name, target⟩ := a
    by_cases hname : p name
    · have hkept : ((name, target) :: aliases).filter (fun a => p a.1) =
          (name, target) :: aliases.filter fun a => p a.1 := List.filter_cons_of_pos hname
      rw [hkept, List.lookup_cons, List.lookup_cons, ih]
    · have hother : (key == name) = false := by
        rw [beq_eq_false_iff_ne]
        rintro rfl
        exact hname h
      have hdropped : ((name, target) :: aliases).filter (fun a => p a.1) =
          aliases.filter fun a => p a.1 := List.filter_cons_of_neg hname
      rw [hdropped, ih, List.lookup_cons, hother]

end Settings

namespace Query

variable (s : Settings)

/-- A condition is compiled as it is written and then renamed. -/
theorem value_compileCondition_ofSettings (c : Text × Text) :
    (compileCondition (.ofSettings s) c).value.1 =
      s.rename (Polarity.splitKey c.1).2 (writtenCondition (.ofSettings s.withoutAliases) c) := by
  unfold compileCondition Settings.rename
  simp only [Options.conditionRule?_ofSettings]
  cases halias : s.alias? (Polarity.splitKey c.1).2 with
  | none =>
    simp only [Option.map_none, Option.bind_none, Options.haystackKey_ofSettings]
    rfl
  | some target =>
    simp only [Option.map_some, Option.bind_some, Options.haystackKey_ofSettings,
      ConditionRule.alias]
    rfl

/-- The conditions of a run are those without aliases, renamed. -/
theorem conditionsOfRun_ofSettings (run : List Text) :
    conditionsOfRun (.ofSettings s) run =
      s.renameAll (writtenKeys run) (conditionsOfRun (.ofSettings s.withoutAliases) run) := by
  have hfree : ∀ ts : List Text, phrases (.ofSettings s) ts =
      phrases (.ofSettings s.withoutAliases) ts := by
    intro ts
    rw [Options.ofSettings_eq s]
    rfl
  rw [conditionsOfRun_of_onlyAliases (Options.onlyAliases_ofSettings s),
    conditionsOfRun_of_withoutRules (Options.withoutRules_ofSettings s), writtenKeys,
    Settings.renameAll_map_append, hfree, Options.haystackKey_ofSettings,
    Options.haystackKey_ofSettings]
  simp only [value_compileCondition_ofSettings]
  rfl

theorem length_conditionsOfRun_ofSettings (run : List Text) :
    (conditionsOfRun (.ofSettings s) run).length = (writtenKeys run).length + 1 := by
  rw [conditionsOfRun_of_onlyAliases (Options.onlyAliases_ofSettings s), writtenKeys]
  simp

/-- Without text rules only the keys that are written are addressed. -/
theorem mem_writtenKeys_of_addressed {query key : Text}
    (h : Addressed (.ofSettings s) query key) :
    key ∈ ((tokenRuns query).map writtenKeys).flatten := by
  cases h with
  | @written run token key args hrun htoken hread =>
    refine List.mem_flatten.2 ⟨_, List.mem_map_of_mem hrun, ?_⟩
    refine List.mem_map.2 ⟨(key, args), List.mem_filterMap.2 ⟨.condition key args, ?_, rfl⟩, rfl⟩
    exact hread ▸ List.mem_map_of_mem htoken
  | added _ hrule =>
    rw [Options.textRules_ofSettings] at hrule
    cases hrule

/-- Aliases count only for keys that a query addresses. -/
theorem agreeOn_ofSettings_filter {query : Text} (p : Text → Bool)
    (h : ∀ key, Addressed (.ofSettings s) query key → p key) :
    AgreeOn query (.ofSettings s)
      (.ofSettings { s with aliases := s.aliases.filter fun a => p a.1 }) where
  haystackKey := by
    rw [Options.haystackKey_ofSettings, Options.haystackKey_ofSettings]
  onePhrase := by
    rw [Options.ofSettings_eq s, Options.ofSettings_eq]
    rfl
  textRules := by
    intro t _
    rw [Options.textRules_ofSettings, Options.textRules_ofSettings]
  conditionRules := by
    intro key hkey
    rw [Options.conditionRule?_ofSettings, Options.conditionRule?_ofSettings,
      s.alias?_filter (h key hkey)]

/-- Aliases put other keys in place of those that are written, all at once and nothing else.
Sub-query by sub-query, and condition by condition, a query asks for what it asks for without
aliases, except that a condition whose key has an alias is on the field which the other key names;
besides the conditions written there is the one for free text, and it stays.  The other key is not
looked up: aliases for keys that are not written in the query make no difference. -/
theorem conditions_ofSettings (query : Text) :
    let keys := (tokenRuns query).map writtenKeys
    let plain := (conditions (.ofSettings s.withoutAliases) query).value
    (conditions (.ofSettings s) query).value = List.zipWith s.renameAll keys plain ∧
      List.Forall₂ (fun keys cs => cs.length = keys.length + 1) keys plain ∧
      conditions (.ofSettings { s with aliases := s.aliases.filter (·.1 ∈ keys.flatten) }) query =
        conditions (.ofSettings s) query := by
  intro keys plain
  have hplain : plain = (tokenRuns query).map (conditionsOfRun (.ofSettings s.withoutAliases)) :=
    value_conditions _ query
  refine ⟨?_, ?_, ?_⟩
  · rw [hplain, value_conditions, List.zipWith_map, List.zipWith_self]
    exact List.map_congr_left fun run _ => conditionsOfRun_ofSettings s run
  · rw [hplain, List.forall₂_map_left_iff, List.forall₂_map_right_iff, List.forall₂_same]
    exact fun run _ => length_conditionsOfRun_ofSettings s.withoutAliases run
  · apply conditions_congr
    apply agreeOn_ofSettings_filter s fun key => decide (key ∈ keys.flatten)
    intro key hkey
    exact decide_eq_true (mem_writtenKeys_of_addressed s hkey)

/-- Two keys change places, and the empty key has an alias of its own. -/
example :
    let s : Settings := { aliases := [(['a'], ['b']), (['b'], ['a']), ([], ['c'])] }
    (conditions (.ofSettings s) "a:x -b:y :z _:w".toList).value.map (·.map Condition.key) =
      [[['b'], ['a'], ['c'], s.haystackKey, s.haystackKey]] := by
  decide

end Query

end RecordFilter
