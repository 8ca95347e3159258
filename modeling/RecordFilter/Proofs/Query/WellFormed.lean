import RecordFilter.Proofs.Query.ArgumentText
import RecordFilter.Proofs.Search.Meaning

/-!
# Well-formed conditions

What is evaluated and shown is not what rules and queries wrote but the conditions compiled from
it.  Every way in which a condition arises ends in `Condition.compile`, or in the one condition for
the free text of a sub-query (`exists_compile_of_mem`), so all arguments are read by
`Argument.parse`: the operator and the literal belong to the text that is shown, and a literal
never holds an infinite number.  This is what `conditions_wellFormed` says of each sub-query.
-/

namespace RecordFilter

/-! ### Literals -/

namespace Literal

mutual

/-- The numbers in a literal. -/
def numbers : Literal → List Double
  | .number x => [x]
  | .list items => numbersOfItems items
  | .bool _ | .text _ => []

/-- The numbers in several literals. -/
def numbersOfItems : List Literal → List Double
  | [] => []
  | l :: rest => numbers l ++ numbersOfItems rest

end

theorem numbersOfItems_eq (items : List Literal) :
    numbersOfItems items = items.flatMap numbers := by
  induction items with
  | nil => rfl
  | cons l rest ih => rw [numbersOfItems, ih, List.flatMap_cons]

theorem ofText?_eq_some_finite {t : Text} {x : Double} (h : Double.ofText? t = some x) :
    Reading.ofText? t = some (.finite x) := by
  unfold Double.ofText? at h
  split at h
  · next hread => rw [hread, Option.some.inj h]
  · cases h

/-- The number that a single literal is stands in its text, and is finite there. -/
theorem reading_of_mem_numbers_scalar {t : Text} {x : Double} (h : x ∈ (scalar t).numbers) :
    Reading.ofText? t = some (.finite x) := by
  unfold scalar at h
  split at h
  · next y hread =>
    rw [List.mem_singleton.1 h]
    exact ofText?_eq_some_finite hread
  · split at h
    · simp [numbers] at h
    · split at h
      · simp [numbers] at h
      · simp [numbers] at h

/-- The numbers of a literal stand in its text, or are the items of the list written there. -/
theorem reading_of_mem_numbers_coerce {raw : Text} {op : Operator} {x : Double}
    (h : x ∈ (coerce raw op).numbers) :
    ∃ t ∈ raw :: listItems raw, Reading.ofText? t = some (.finite x) := by
  unfold coerce at h
  split at h
  · simp [numbers] at h
  · split at h
    · rw [numbers, numbersOfItems_eq, List.mem_flatMap] at h
      obtain ⟨item, hitem, hx⟩ := h
      obtain ⟨t, ht, rfl⟩ := List.mem_map.1 hitem
      exact ⟨t, List.mem_cons_of_mem raw ht, reading_of_mem_numbers_scalar hx⟩
    · exact ⟨raw, List.mem_cons_self, reading_of_mem_numbers_scalar h⟩

theorem scalar_ne_list (raw : Text) (items : List Literal) : scalar raw ≠ .list items := by
  intro h
  unfold scalar at h
  split at h
  · cases h
  · split at h
    · cases h
    · split at h
      · cases h
      · cases h

/-- Under the operators that take lists a text becomes a list, and under no others. -/
theorem coerce_eq_list_iff (raw : Text) (op : Operator) :
    (∃ items, coerce raw op = .list items) ↔ op.takesList := by
  unfold coerce
  constructor
  · rintro ⟨items, hlist⟩
    split at hlist
    · cases hlist
    · split at hlist
      · assumption
      · exact absurd hlist (scalar_ne_list raw items)
  · intro hop
    have hpattern : op.isPattern = false := by
      cases op with
      | among => rfl
      | notAmong => rfl
      | _ => cases hop
    rw [hpattern, hop]
    exact ⟨_, rfl⟩

end Literal

/-! ### Arguments -/

namespace Argument

/-- What holds of an argument of a condition: its operator and its text are read back from the sign
and the text, and its literal is what the operator makes of the text.  Only the operator that asks
for presence stands without text, only the operators that take lists have them, and each number is
one that the text writes, never one too great to be finite. -/
structure WellFormed (a : Argument) : Prop where
  literal : a.literal = .coerce a.raw a.operator
  readsBack : Operator.parse (a.operator.sign ++ a.raw) = (a.operator, a.raw)
  nonempty : a.operator ≠ .present → a.raw ≠ []
  list : (∃ items, a.literal = .list items) ↔ a.operator.takesList
  finite : ∀ x ∈ a.literal.numbers,
    ∃ t ∈ a.raw :: Literal.listItems a.raw, Reading.ofText? t = some (.finite x)

/-- An argument is well formed however it is written, unless nothing is written. -/
theorem wellFormed_parse {arg : Text} (hne : arg ≠ []) : (parse arg).WellFormed where
  literal := rfl
  readsBack := Operator.parse_bare arg
  nonempty := by
    intro hop
    have hread : Operator.parse arg = ((parse arg).operator, (parse arg).raw) := rfl
    rcases Operator.parse_cases arg with hplain | ⟨sign, -, -, hliteral⟩
    · rw [hread] at hplain
      rw [(Prod.mk.inj hplain).2]
      exact hne
    · exact hliteral.resolve_right hop
  list := Literal.coerce_eq_list_iff _ _
  finite := fun _ hx => Literal.reading_of_mem_numbers_coerce hx

end Argument

/-! ### Conditions -/

namespace Condition

/-- What holds of the condition that searches the free text of a sub-query. -/
structure IsFreeText (o : Options) (c : Condition) : Prop where
  polarity : c.polarity = .including
  key : c.key = o.haystackKey
  combination : c.combination = .any
  searched : ∀ a ∈ c.arguments, a.operator = .containing ∧ a.literal = .text a.raw ∧ a.raw ≠ []
  onePhrase : o.onePhrase = true → c.arguments.length ≤ 1

theorem fieldOf_eq_nil_or {haystackKey key : Text}
    (h : fieldOf haystackKey key = [] ∨ fieldOf haystackKey key = ['_']) :
    fieldOf haystackKey key = haystackKey := by
  unfold fieldOf at h ⊢
  split at h
  · next hkey => rw [if_pos hkey]
  · next hkey => exact absurd h hkey

section Compile

variable {polarity : Polarity} {key haystackKey : Text} {args : List Text}

theorem wellFormed_of_mem_compile {a : Argument}
    (h : a ∈ (compile polarity key args haystackKey).arguments) : a.WellFormed := by
  obtain ⟨arg, hne, rfl⟩ := exists_parse_of_mem_arguments h
  exact Argument.wellFormed_parse hne

end Compile

end Condition

namespace Query

theorem length_phrases_le_one {o : Options} (ho : o.onePhrase = true) (freeText : List Text) :
    (phrases o freeText).length ≤ 1 := by
  unfold phrases
  by_cases hmany : 1 < (freeText.filter (!·.isEmpty)).length
  · simp [ho, hmany]
  · simp only [hmany, and_false, if_false]
    exact Nat.le_of_not_lt hmany

theorem isFreeText_freeText (o : Options) (freeText : List Text) :
    (Condition.freeText o.haystackKey (phrases o freeText)).IsFreeText o where
  polarity := rfl
  key := rfl
  combination := rfl
  searched := by
    intro a ha
    obtain ⟨fragment, hfragment, rfl⟩ := List.mem_map.1 ha
    have hne : fragment ≠ [] := by simpa using (List.mem_filter.1 hfragment).2
    exact ⟨rfl, rfl, hne⟩
  onePhrase := by
    intro ho
    rw [Condition.freeText, List.length_map]
    exact Nat.le_trans (List.length_filter_le ..) (length_phrases_le_one ho freeText)

/-- With or without a rule for its key, a condition is compiled from a key and arguments. -/
theorem exists_value_compileCondition (o : Options) (c : Text × Text) :
    ∃ polarity key args,
      (compileCondition o c).value.1 = .compile polarity key args o.haystackKey := by
  unfold compileCondition
  cases hrule : (o.conditionRule? (Polarity.splitKey c.1).2).bind
      (·.expand (Polarity.splitKey c.1).2 (split [','] .all true c.2)) with
  | none =>
    simp only [hrule]
    exact ⟨_, _, _, rfl⟩
  | some e =>
    simp only [hrule]
    exact ⟨_, _, _, rfl⟩

/-- Every condition of a run but the last is compiled from a key and arguments, be it written in the
query or added by a rule. -/
theorem exists_compile_of_mem {o : Options} {run : List Text} {c : Condition}
    (h : c ∈ (compiledOfRun o run).map (·.1)) :
    ∃ polarity key args, c = .compile polarity key args o.haystackKey := by
  obtain ⟨p, hp, rfl⟩ := List.mem_map.1 h
  obtain ⟨written, -, rfl⟩ := List.mem_map.1 hp
  exact exists_value_compileCondition o written

/-- The conditions of a sub-query end in the one for its free text; the others are read from their
text, whatever rules there are.  No rule and no key leads to the empty key or the underscore, unless
this is the field for free text. -/
theorem conditions_wellFormed (o : Options) (query : Text) :
    ∀ cs ∈ (conditions o query).value, ∃ front last, cs = front ++ [last] ∧ last.IsFreeText o ∧
      (∀ c ∈ front, ∀ a ∈ c.arguments, a.WellFormed) ∧
      ∀ c ∈ cs, c.key = [] ∨ c.key = ['_'] → c.key = o.haystackKey := by
  intro cs hcs
  rw [value_conditions] at hcs
  obtain ⟨run, -, rfl⟩ := List.mem_map.1 hcs
  refine ⟨_, _, conditionsOfRun_eq o run, isFreeText_freeText o _, ?_, ?_⟩
  · intro c hc a ha
    obtain ⟨polarity, key, args, rfl⟩ := exists_compile_of_mem hc
    exact Condition.wellFormed_of_mem_compile ha
  · intro c hc hkey
    rw [conditionsOfRun_eq] at hc
    rcases List.mem_append.1 hc with hfront | hlast
    · obtain ⟨polarity, key, args, rfl⟩ := exists_compile_of_mem hfront
      exact Condition.fieldOf_eq_nil_or hkey
    · rw [List.mem_singleton.1 hlast]
      rfl

/-- A rule that asks for the underscore with an empty argument, a list, a text that writes a number
too great, and joined free text. -/
theorem conditions_wellFormed_rewritten :
    let rule : ConditionRule := ⟨fun _ args => some ⟨['_'], [] :: ['?'] :: args, [['z'], []]⟩⟩
    let o : Options := { conditionRules := [(['k'], rule)], onePhrase := true }
    ∃ cs ∈ (conditions o "-k:and,!1e999 a:in:3,t b".toList).value,
      cs.map (fun c => (c.key, c.arguments.map fun a => (a.operator, a.raw))) =
          [(defaultHaystackKey,
              [(.present, []), (.unspecified, "and".toList), (.notEqual, "1e999".toList)]),
            (['a'], [(.among, ['3']), (.unspecified, ['t'])]),
            (defaultHaystackKey, [(.containing, "b z".toList)])] ∧
        ∃ front last, cs = front ++ [last] ∧ last.IsFreeText o ∧
          (∀ c ∈ front, ∀ a ∈ c.arguments, a.WellFormed) ∧
          ∀ c ∈ cs, c.key = [] ∨ c.key = ['_'] → c.key = o.haystackKey := by
  intro rule o
  have hsome : (conditions o "-k:and,!1e999 a:in:3,t b".toList).value ≠ [] := by decide
  have hmem := List.head_mem hsome
  exact ⟨_, hmem, rfl, conditions_wellFormed o _ _ hmem⟩

end Query

end RecordFilter
