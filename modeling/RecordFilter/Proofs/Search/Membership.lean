import RecordFilter.Proofs.Search.Negation
import RecordFilter.Proofs.Search.OneArgument
import RecordFilter.Proofs.Search.Signed
import RecordFilter.Proofs.Text.Joined

/-!
# Lists in conditions

A condition may ask whether a value is among the items of one list, or for each of these items
whether the value equals it.  The list stands in brackets, which are gone when it is cut at its
commas (`split_listText`); the single items are arguments of their own (`compile_anyText`).  Both
ways lead to the same literals, so the two conditions say the same of a value that is no array; of
an array the list says whether it holds one of the items (`isMatch_membership`).  This is so as long
as no rule tells the conditions apart; a rule may rename their key and add free text.
-/

namespace RecordFilter

/-- A character that neither parts nor groups anything in a query. -/
def IsPlain (c : Char) : Prop :=
  c ∉ [',', '(', ')', '[', ']'] ∧ ¬ isQuote c ∧ c ∉ Query.blanks

instance (c : Char) : Decidable (IsPlain c) :=
  inferInstanceAs (Decidable (_ ∧ _ ∧ _))

theorem IsPlain.closing?_eq {c : Char} (h : IsPlain c) (d : Delimiters) : d.closing? c = none := by
  obtain ⟨hgroups, hquote, -⟩ := h
  simp only [List.mem_cons, List.not_mem_nil, or_false, not_or] at hgroups
  cases d <;> simp [Delimiters.closing?, hquote, hgroups]

theorem Operator.isPlain_of_mem_sign (op : Operator) : ∀ c ∈ op.sign, IsPlain c := by
  have hall : op.sign.all (fun c => decide (IsPlain c)) = true := by
    cases op <;> decide
  intro c hc
  exact of_decide_eq_true (List.all_eq_true.1 hall c hc)

/-- A text that stands in a query as it is. -/
structure BareItem (item : Text) : Prop where
  nonempty : item ≠ []
  plain : ∀ c ∈ item, IsPlain c

instance (item : Text) : Decidable (BareItem item) :=
  decidable_of_iff (item ≠ [] ∧ item.all (fun c => decide (IsPlain c)) = true)
    ⟨fun ⟨hne, hall⟩ => ⟨hne, fun c hc => of_decide_eq_true (List.all_eq_true.1 hall c hc)⟩,
      fun h => ⟨h.nonempty, List.all_eq_true.2 fun c hc => decide_eq_true (h.plain c hc)⟩⟩

namespace BareItem

variable {item : Text} (h : BareItem item)

include h

theorem signed (op : Operator) : BareItem (op.sign ++ item) where
  nonempty := List.append_ne_nil_of_right_ne_nil _ h.nonempty
  plain := by
    intro c hc
    rcases List.mem_append.1 hc with hsign | hitem
    · exact op.isPlain_of_mem_sign c hsign
    · exact h.plain c hitem

theorem stays_between_commas : Stays [','] .all item item := by
  refine stays_plain (fun c hc => ⟨?_, (h.plain c hc).closing?_eq .all⟩) h.nonempty
  intro hcomma
  exact (h.plain c hc).1 (List.mem_singleton.1 hcomma ▸ List.mem_cons_self)

theorem whole_between_blanks : Whole Query.blanks .quotes item := by
  refine (stays_plain (fun c hc => ⟨?_, (h.plain c hc).closing?_eq .quotes⟩) h.nonempty).whole
  exact (h.plain c hc).2.2

end BareItem

/-- Items with commas between them come apart again. -/
theorem split_bareItems {items : List Text} (h : ∀ item ∈ items, BareItem item) :
    split [','] .all true ([','].intercalate items) = items := by
  have hstays : ∀ item ∈ items, Stays [','] .all (id item) (id item) :=
    fun item hitem => (h item hitem).stays_between_commas
  have hsplit := split_true_intercalate (List.mem_singleton_self ',') hstays
  rwa [List.map_id] at hsplit

theorem whole_bareItems {items : List Text} (h : ∀ item ∈ items, BareItem item) :
    Whole Query.blanks .quotes ([','].intercalate items) :=
  whole_intercalate (by decide) fun item hitem => (h item hitem).whole_between_blanks

namespace Condition

/-- The argument that asks for one of the items of a list; brackets let its commas stand. -/
def listText (items : List Text) : Text :=
  Operator.among.sign ++ ('[' :: [','].intercalate items ++ [']'])

/-- Arguments of which one is enough, each with the same operator and an item of its own. -/
def anyText (op : Operator) (items : List Text) : Text :=
  [','].intercalate (['o', 'r'] :: items.map (op.sign ++ ·))

section Text

variable {items : List Text} (hitems : ∀ item ∈ items, BareItem item)

include hitems

theorem bareItem_of_mem_signed (op : Operator) :
    ∀ t ∈ ['o', 'r'] :: items.map (op.sign ++ ·), BareItem t := by
  have hword : BareItem ['o', 'r'] := by decide
  refine List.forall_mem_cons.2 ⟨hword, ?_⟩
  rw [List.forall_mem_map]
  exact fun item hitem => (hitems item hitem).signed op

theorem whole_anyText (op : Operator) : Whole Query.blanks .quotes (anyText op items) :=
  whole_bareItems (bareItem_of_mem_signed hitems op)

/-- The condition that asks for the items one by one, each with the literal of its text. -/
theorem compile_anyText {op : Operator} (hop : op ∈ [.equal, .holds]) (key haystackKey : Text) :
    compile .including key (split [','] .all true (anyText op items)) haystackKey =
      ⟨.including, fieldOf haystackKey key, .any,
        items.map fun item => ⟨op, .scalar item, item⟩⟩ := by
  have hkind : op ∉ [Operator.unspecified, .less, .greater] ∧ ¬ op.isPattern ∧ ¬ op.takesList := by
    simp only [List.mem_cons, List.not_mem_nil, or_false] at hop
    rcases hop with rfl | rfl <;> decide
  have hread : ∀ item ∈ items,
      (Argument.parse ∘ (op.sign ++ ·)) item = ⟨op, .scalar item, item⟩ := by
    intro item hitem
    rw [Function.comp_apply, Argument.parse_signed hkind.1 (hitems item hitem).nonempty,
      Literal.coerce_eq_scalar hkind.2.1 hkind.2.2]
  have hnonempty : ∀ t ∈ items.map (op.sign ++ ·), t ≠ [] := fun t ht =>
    (bareItem_of_mem_signed hitems op t (List.mem_cons_of_mem _ ht)).nonempty
  have htake : takeCombination (['o', 'r'] :: items.map (op.sign ++ ·)) =
      (.any, items.map (op.sign ++ ·)) := rfl
  rw [anyText, split_bareItems (bareItem_of_mem_signed hitems op), compile_eq htake hnonempty,
    List.map_map, List.map_congr_left hread]

theorem whole_listText : Whole Query.blanks .quotes (listText items) := by
  have hsign : Whole Query.blanks .quotes Operator.among.sign := by decide
  have hopening : Whole Query.blanks .quotes ['['] := by decide
  have hclosing : Whole Query.blanks .quotes [']'] := by decide
  exact hsign.append ((hopening.append (whole_bareItems hitems)).append hclosing)

variable (hne : items ≠ [])

include hne

theorem joined_ne_nil : [','].intercalate items ≠ [] := by
  obtain ⟨item, rest, rfl⟩ := List.exists_cons_of_ne_nil hne
  exact Text.intercalate_ne_nil List.mem_cons_self (hitems item List.mem_cons_self).nonempty

/-- Cut at its commas, an argument with a list is one argument, without its brackets. -/
theorem split_listText :
    split [','] .all true (listText items) = [Operator.among.sign ++ [','].intercalate items] := by
  have hbracket : ']' ∉ [','].intercalate items := by
    intro hmem
    rcases Text.mem_joint_or_of_mem_intercalate hmem with hcomma | ⟨item, hitem, hc⟩
    · exact absurd hcomma (by decide)
    · exact absurd ((hitems item hitem).plain _ hc) (by decide)
  have hsign : BareItem Operator.among.sign :=
    ⟨List.cons_ne_nil _ _, Operator.among.isPlain_of_mem_sign⟩
  have hlist : Stays [','] .all ('[' :: [','].intercalate items ++ [']'])
      ([','].intercalate items) :=
    stays_block rfl (by decide) hbracket (joined_ne_nil hitems hne)
  exact (hsign.stays_between_commas.append hlist).stripped

/-- The condition that asks for one of the items of a list, with the literals of their texts. -/
theorem compile_listText (key haystackKey : Text) :
    compile .including key (split [','] .all true (listText items)) haystackKey =
      ⟨.including, fieldOf haystackKey key, .any,
        [⟨.among, .list (items.map .scalar), [','].intercalate items⟩]⟩ := by
  have hitemsRead : Literal.listItems ([','].intercalate items) = items := split_bareItems hitems
  have hread : Argument.parse (Operator.among.sign ++ [','].intercalate items) =
      ⟨.among, .list (items.map .scalar), [','].intercalate items⟩ := by
    rw [Argument.parse_signed (by decide) (joined_ne_nil hitems hne), Literal.coerce, hitemsRead]
    rfl
  have htake : takeCombination [Operator.among.sign ++ [','].intercalate items] =
      (.any, [Operator.among.sign ++ [','].intercalate items]) := by
    refine takeCombination_eq_any ?_
    simp [Combination.parse?, Operator.sign]
  rw [split_listText hitems hne, compile_eq htake (by simp [Operator.sign]), List.map_singleton,
    hread]

end Text

end Condition

namespace Argument

variable {o : Options} {s : Subject} {key : Text} {v : Json} (hdig : s.dig key = some v)
  (items : List Text) (raw : Text)

include hdig

/-- A value that is no array is an item of a list where it equals one of them. -/
theorem outcome_among_items (hkind : v.kind ≠ .array) :
    (⟨.among, .list (items.map .scalar), raw⟩ : Argument).outcome o s key =
      items.any fun item => (⟨.equal, .scalar item, item⟩ : Argument).outcome o s key := by
  have hvalue : ∀ l, v.isAmong o.ignoreCase l = v.equalsItem o.ignoreCase l := by
    intro l
    cases v with
    | array vs => exact absurd rfl hkind
    | _ => rfl
  simp only [outcome_equal o _ _ hdig]
  rw [outcome_among o _ _ hdig, hvalue, Literal.caseFolded_list, List.map_map]
  exact List.any_map

omit hdig in
/-- An array has an item of a list where it holds one of them. -/
theorem outcome_among_items_array {vs : List Json} (hdig : s.dig key = some (.array vs)) :
    (⟨.among, .list (items.map .scalar), raw⟩ : Argument).outcome o s key =
      items.any fun item => (⟨.holds, .scalar item, item⟩ : Argument).outcome o s key := by
  simp only [outcome_holds o _ _ hdig]
  rw [outcome_among o _ _ hdig, Literal.caseFolded_list, List.map_map, Bool.eq_iff_iff]
  simp only [Json.isAmong, Json.equalsItem, List.any_eq_true, List.any_map, Function.comp_apply]
  constructor
  · rintro ⟨w, hw, item, hitem, hequals⟩
    exact ⟨item, hitem, w, hw, hequals⟩
  · rintro ⟨item, hitem, w, hw, hequals⟩
    exact ⟨w, hw, item, hitem, hequals⟩

end Argument

namespace Condition

/-- A condition of which one argument is enough asks for the outcome of one of them. -/
theorem isMatch_including_any (o : Options) (s : Subject) (key : Text) {as : List Argument}
    (has : as ≠ []) : (⟨.including, key, .any, as⟩ : Condition).isMatch o s =
      as.any (·.outcome o s key) := by
  have hempty : as.isEmpty = false := by simpa using has
  have hincluding : (Polarity.including == .excluding) = false := by decide
  rw [isMatch_eq, hempty, Bool.false_or]
  simp only [hincluding, Bool.bne_false]

/-- A condition with a list says what the items say one by one: of a value that is no array, that it
equals one of them, and of an array, that it holds one of them. -/
theorem isMatch_among_iff (o : Options) (s : Subject) (key : Text) {items : List Text}
    (hne : items ≠ []) (raw : Text) :
    let asks (op : Operator) : Bool :=
      (⟨.including, key, .any, items.map fun item => ⟨op, .scalar item, item⟩⟩ :
        Condition).isMatch o s
    (⟨.including, key, .any, [⟨.among, .list (items.map .scalar), raw⟩]⟩ :
        Condition).isMatch o s = true ↔
      ∃ v, s.dig key = some v ∧
        (v.kind ≠ .array ∧ asks .equal = true ∨ v.kind = .array ∧ asks .holds = true) := by
  intro asks
  have hasks : ∀ op, asks op =
      items.any fun item => (⟨op, .scalar item, item⟩ : Argument).outcome o s key := by
    intro op
    have hmapped : items.map (fun item => (⟨op, .scalar item, item⟩ : Argument)) ≠ [] := by
      simpa using hne
    simp only [asks]
    rw [isMatch_including_any o s key hmapped, List.any_map]
    rfl
  rw [isMatch_including_any o s key (List.cons_ne_nil _ _), List.any_cons, List.any_nil,
    Bool.or_false]
  cases hdig : s.dig key with
  | none => simp [Argument.outcome_of_absent hdig]
  | some v =>
    by_cases hkind : v.kind = .array
    · obtain ⟨vs, rfl⟩ : ∃ vs, v = .array vs := by
        cases v with
        | array vs => exact ⟨vs, rfl⟩
        | _ => cases hkind
      rw [Argument.outcome_among_items_array items raw hdig, ← hasks]
      simp [hkind]
    · rw [Argument.outcome_among_items hdig items raw hkind, ← hasks]
      simp [hkind]

end Condition

namespace Query

/-- Membership of the value at a field in a list, told by a query with the list and by queries with
its items one by one. -/
def MembershipAsAny (o : Options) (s : Subject) (key field : Text) (items : List Text) : Prop :=
  isMatch o (ofArgument key (Condition.listText items)) s = true ↔
    ∃ v, s.dig field = some v ∧
      (v.kind ≠ .array ∧ isMatch o (ofArgument key (Condition.anyText .equal items)) s = true ∨
        v.kind = .array ∧ isMatch o (ofArgument key (Condition.anyText .holds items)) s = true)

/-- A query for a list of items says of a subject that it has the field and that the value there
equals one of the items, or holds one if it is an array, as the queries say that ask for the items
one by one.  Rules may put one other key in place of the key of all three, the field being that of
the other key then, and may add the same free text to all three. -/
theorem isMatch_membership {o : Options} {key target : Text} {freeText : List Text}
    (hkey : BareKey key) {items : List Text} (hne : items ≠ [])
    (hitems : ∀ item ∈ items, BareItem item)
    (hrules : ∀ args ∈ [Condition.listText items, Condition.anyText .equal items,
      Condition.anyText .holds items], o.Renames key target freeText args) (s : Subject) :
    MembershipAsAny o s key (Condition.fieldOf o.haystackKey target) items := by
  have hlist := value_compileCondition_of_renames hkey
    (hrules (Condition.listText items) (by simp))
  have hequal := value_compileCondition_of_renames hkey
    (hrules (Condition.anyText .equal items) (by simp))
  have hholds := value_compileCondition_of_renames hkey
    (hrules (Condition.anyText .holds items) (by simp))
  rw [Condition.compile_listText hitems hne] at hlist
  rw [Condition.compile_anyText hitems (by decide)] at hequal hholds
  unfold MembershipAsAny
  rw [isMatch_ofCondition hkey (Condition.whole_listText hitems) rfl hlist,
    isMatch_ofCondition hkey (Condition.whole_anyText hitems .equal) rfl hequal,
    isMatch_ofCondition hkey (Condition.whole_anyText hitems .holds) rfl hholds]
  -- The free text is asked for besides either condition.
  cases (Condition.freeText o.haystackKey (phrases o freeText)).isMatch o s with
  | true =>
    simp only [Bool.and_true]
    exact Condition.isMatch_among_iff o s _ hne _
  | false => simp

/-- An array behind a rule that puts in another key and adds a word, where letter case is
ignored. -/
theorem isMatch_membership_renamed :
    let rule : ConditionRule := ⟨fun _ args => some ⟨['t', 's'], args, [['w']]⟩⟩
    let o := ({ ignoreCase := true } : Options).withConditionRule ['k'] rule
    let s := Subject.single (.object [(['t', 's'], .array [.bool true, .string ['A']]),
      (defaultHaystackKey, .string ['V', 'W'])])
    let items := [['7'], ['a']]
    BareKey ['k'] ∧ items ≠ [] ∧ (∀ item ∈ items, BareItem item) ∧
      (∀ args, o.Renames ['k'] ['t', 's'] [['w']] args) ∧
      isMatch o "k:in:[7,a]".toList s = true := by
  intro rule o s items
  have hkey : BareKey ['k'] := ⟨by decide, by decide, List.forall_mem_singleton.2 (by decide)⟩
  have hne : items ≠ [] := List.cons_ne_nil _ _
  have hitems : ∀ item ∈ items, BareItem item := by decide
  have hrule : ∀ args, o.Renames ['k'] ['t', 's'] [['w']] args := Options.renames_of_rule rfl
  have hmembership := isMatch_membership hkey hne hitems (fun args _ => hrule args) s
  have hholds : isMatch o "k:or,has:7,has:a".toList s = true := by decide +kernel
  exact ⟨hkey, hne, hitems, hrule, hmembership.2 ⟨_, rfl, .inr ⟨rfl, hholds⟩⟩⟩

/-- A rule that looks at the arguments tells the conditions apart. -/
theorem not_isMatch_membership :
    let rule : ConditionRule :=
      ⟨fun _ args => if args.head? = some ['o', 'r'] then some ⟨['z'], args, []⟩ else none⟩
    let o := ({} : Options).withConditionRule ['k'] rule
    let s := Subject.single (.object [(['k'], .string ['a'])])
    BareKey ['k'] ∧ BareItem ['a'] ∧ s.dig ['k'] = some (.string ['a']) ∧
      isMatch o "k:in:[a]".toList s = true ∧ isMatch o "k:or,=a".toList s = false ∧
      ¬ MembershipAsAny o s ['k'] ['k'] [['a']] := by
  intro rule o s
  have hkey : BareKey ['k'] := ⟨by decide, by decide, List.forall_mem_singleton.2 (by decide)⟩
  have hlist : isMatch o "k:in:[a]".toList s = true := by decide +kernel
  have hequal : isMatch o "k:or,=a".toList s = false := by decide +kernel
  have hdig : s.dig ['k'] = some (.string ['a']) := by rfl
  refine ⟨hkey, by decide, hdig, hlist, hequal, ?_⟩
  intro hmembership
  obtain ⟨v, hv, ⟨-, hasked⟩ | ⟨harray, -⟩⟩ := hmembership.1 hlist
  · exact Bool.false_ne_true (hequal.symm.trans hasked)
  · rw [← Option.some.inj (hdig.symm.trans hv)] at harray
    cases harray

end Query

end RecordFilter
