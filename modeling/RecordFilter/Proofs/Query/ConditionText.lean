import Mathlib.Data.Option.Basic
import RecordFilter.Proofs.Query.ArgumentText
import RecordFilter.Proofs.Query.RunConditions

/-!
# Conditions read from their text

A condition is shown as the sign of its polarity, its key, a colon and its arguments.  This text is
a token of its own wherever it stands (`freeStanding_text`), which is read as the same key with the
same arguments (`ofText_text`, `writtenCondition_text`).  The condition must be `Writable`: an
escaped colon has left no colon in its key, no quotation is open in it, its arguments can be
written, and the first of them is not taken for a combination.
-/

namespace RecordFilter

/-! ### Keys -/

namespace Token

/-- The key of a token is its beginning up to a colon, whatever stands after it. -/
theorem cutKey?_eq_some {escaped : Bool} {t key args : Text}
    (h : cutKey? escaped t = some (key, args)) :
    t = key ++ ':' :: args ∧
      ∀ rest, cutKey? escaped (key ++ ':' :: rest) = some (key, rest) := by
  induction t generalizing escaped key with
  | nil => cases escaped <;> simp [cutKey?] at h
  | cons c t ih =>
    -- Where the first character is neither mark nor colon, it comes before the key of the rest.
    have extend : ∀ escaped', (cutKey? escaped' t).map (fun p => (c :: p.1, p.2)) =
          some (key, args) →
        (∀ u, cutKey? escaped (c :: u) = (cutKey? escaped' u).map fun p => (c :: p.1, p.2)) →
        c :: t = key ++ ':' :: args ∧
          ∀ rest, cutKey? escaped (key ++ ':' :: rest) = some (key, rest) := by
      intro escaped' hmap hstep
      obtain ⟨⟨key', args'⟩, hcut, heq⟩ := Option.map_eq_some_iff.1 hmap
      obtain ⟨rfl, rfl⟩ := Prod.mk.inj heq
      obtain ⟨ht, hrest⟩ := ih hcut
      refine ⟨by rw [ht, List.cons_append], fun rest => ?_⟩
      rw [List.cons_append, hstep, hrest]
      rfl
    cases escaped with
    | true => exact extend false h fun u => by rw [cutKey?]
    | false =>
      rw [cutKey?] at h
      split at h
      · next hcolon =>
        obtain ⟨rfl, rfl⟩ := Prod.mk.inj (Option.some.inj h)
        exact ⟨by rw [hcolon, List.nil_append], fun rest => by simp [cutKey?]⟩
      · next hcolon =>
        split at h
        · cases h
        · next hquote => exact extend _ h fun u => by rw [cutKey?, if_neg hcolon, if_neg hquote]

theorem colon_mem_plainColons {t : Text} (h : ':' ∈ t) : ':' ∈ plainColons t := by
  induction t using plainColons.induct with
  | case1 => exact h
  | case2 c => exact h
  | case3 c d rest hescaped ih => simp [plainColons, hescaped]
  | case4 c d rest hplain ih =>
    rw [plainColons, if_neg hplain]
    rcases List.mem_cons.1 h with hc | hrest
    · exact hc ▸ List.mem_cons_self
    · exact List.mem_cons_of_mem c (ih hrest)

theorem plainColons_of_not_mem {t : Text} (h : ':' ∉ t) : plainColons t = t := by
  induction t using plainColons.induct with
  | case1 => rfl
  | case2 c => rfl
  | case3 c d rest hescaped ih => simp [hescaped] at h
  | case4 c d rest hplain ih =>
    rw [plainColons, if_neg hplain, ih fun hrest => h (List.mem_cons_of_mem c hrest)]

/-- A key without a colon stands as it is at the beginning of its token, whatever comes after it. -/
theorem ofText_eq_condition {t key args : Text} (h : ofText t = .condition key args)
    (hcolon : ':' ∉ key) :
    t = key ++ ':' :: args ∧ ∀ rest, ofText (key ++ ':' :: rest) = .condition key rest := by
  unfold ofText at h
  split at h
  · next key' args' hcut =>
    obtain ⟨hkey, rfl⟩ := Token.condition.inj h
    have hsame : key' = key := by
      rw [← hkey]
      refine (plainColons_of_not_mem fun hmem => hcolon ?_).symm
      rw [← hkey]
      exact colon_mem_plainColons hmem
    subst hsame
    obtain ⟨ht, hrest⟩ := cutKey?_eq_some hcut
    refine ⟨ht, fun rest => ?_⟩
    unfold ofText
    rw [hrest]
    exact congrArg (condition · rest) hkey
  · cases h

end Token

namespace Polarity

theorem sign_splitKey (key : Text) : (splitKey key).1.sign ++ (splitKey key).2 = key := by
  unfold splitKey
  split
  · rfl
  · rfl
  · rfl

theorem whole_sign (p : Polarity) : Whole Query.blanks .quotes p.sign := by
  cases p <;> decide

end Polarity

open Query

/-- A key that is read from its text, after the sign of a polarity and before a colon. -/
structure KeyReadsBack (polarity : Polarity) (key : Text) : Prop where
  token : ∀ rest, Token.ofText (polarity.sign ++ key ++ ':' :: rest) =
    .condition (polarity.sign ++ key) rest
  sign : Polarity.splitKey (polarity.sign ++ key) = (polarity, key)
  unbroken : Unbroken blanks .quotes (polarity.sign ++ key)

/-- The key of a token is read from its text, unless a colon was escaped in it. -/
theorem keyReadsBack_of_ofText {t key args : Text} (ht : Unbroken blanks .quotes t)
    (h : Token.ofText t = .condition key args) (hcolon : ':' ∉ (Polarity.splitKey key).2) :
    KeyReadsBack (Polarity.splitKey key).1 (Polarity.splitKey key).2 := by
  have hsign := Polarity.sign_splitKey key
  have hkey : ':' ∉ key := by
    rw [← hsign, List.mem_append, not_or]
    refine ⟨?_, hcolon⟩
    cases (Polarity.splitKey key).1 <;> decide
  obtain ⟨rfl, htoken⟩ := Token.ofText_eq_condition h hkey
  refine ⟨?_, ?_, ?_⟩
  · rw [hsign]
    exact htoken
  · rw [hsign]
  · rw [hsign]
    exact ht.of_append

/-- A key that can be written for free text: a colon after it ends it, no sign begins it and no
blank parts it. -/
structure PlainKey (key : Text) : Prop where
  cut : Token.cutKey? false (key ++ [':']) = some (key, [])
  sign : Polarity.splitKey key = (.including, key)
  unbroken : Unbroken blanks .quotes key

instance (key : Text) : Decidable (PlainKey key) :=
  decidable_of_iff (Token.cutKey? false (key ++ [':']) = some (key, []) ∧
      Polarity.splitKey key = (.including, key) ∧ Unbroken blanks .quotes key)
    ⟨fun ⟨hcut, hsign, hunbroken⟩ => ⟨hcut, hsign, hunbroken⟩,
      fun h => ⟨h.cut, h.sign, h.unbroken⟩⟩

theorem PlainKey.readsBack {key : Text} (h : PlainKey key) (hcolon : ':' ∉ key)
    (polarity : Polarity) : KeyReadsBack polarity key := by
  obtain ⟨-, hcut⟩ := Token.cutKey?_eq_some h.cut
  have hsigned : ∀ rest, Token.cutKey? false (polarity.sign ++ key ++ ':' :: rest) =
      some (polarity.sign ++ key, rest) := by
    intro rest
    cases polarity <;> simp [Polarity.sign, Token.cutKey?, isQuote, hcut]
  have hplain : ':' ∉ polarity.sign ++ key := by
    cases polarity <;> simpa [Polarity.sign] using hcolon
  refine ⟨?_, ?_, ?_⟩
  · intro rest
    unfold Token.ofText
    rw [hsigned]
    exact congrArg (Token.condition · rest) (Token.plainColons_of_not_mem hplain)
  · cases polarity with
    | including => exact h.sign
    | excluding => rfl
    | additive => rfl
  · exact (Polarity.whole_sign polarity).unbroken_append h.unbroken

/-! ### Conditions -/

/-- A text with a colon is no bar. -/
theorem Query.freeStanding_of_colon_mem {t : Text} (h : Whole blanks .quotes t) (hmem : ':' ∈ t) :
    FreeStanding t where
  nonempty := List.ne_nil_of_mem hmem
  unbroken := h.unbroken
  closed := h.closed
  ne_bar := ne_of_mem_of_not_mem' hmem (by decide)

namespace Condition

/-- The arguments of a condition as they stand after the colon. -/
def argumentsText (c : Condition) : Text :=
  (match c.combination with
    | .any => []
    | .all => ['a', 'n', 'd', ',']) ++ [','].intercalate (c.arguments.map Argument.text)

/-- A condition with its arguments read from their text. -/
def reread (c : Condition) : Condition :=
  { c with arguments := c.arguments.map fun a => .parse a.bare }

/-- A condition that is one where it is written: neither a colon in its key ends the key early nor
does a quotation in it stay open, its arguments are writable, and where one of them is enough the
first is no word or sign for a combination. -/
structure Writable (c : Condition) : Prop where
  key : ':' ∉ c.key
  closed : Closed blanks .quotes c.key
  arguments : ∀ a ∈ c.arguments, a.Writable
  first : c.combination = .any → ∀ a ∈ c.arguments.head?, Combination.parse? a.bare = none

instance (c : Condition) : Decidable c.Writable :=
  decidable_of_iff (':' ∉ c.key ∧ Closed blanks .quotes c.key ∧ (∀ a ∈ c.arguments, a.Writable) ∧
      (c.combination = .any → ∀ a ∈ c.arguments.head?, Combination.parse? a.bare = none))
    ⟨fun ⟨hkey, hclosed, harguments, hfirst⟩ => ⟨hkey, hclosed, harguments, hfirst⟩,
      fun h => ⟨h.key, h.closed, h.arguments, h.first⟩⟩

/-- A condition whose key and arguments are read from their text. -/
structure ReadsBack (c : Condition) : Prop where
  key : KeyReadsBack c.polarity c.key
  arguments : ∀ a ∈ c.arguments, a.ReadsBack

theorem text_eq (c : Condition) :
    c.text = c.polarity.sign ++ c.key ++ ':' :: c.argumentsText := by
  unfold text argumentsText
  cases c.combination <;> simp

/-- Unless the first argument is a word or sign for a combination, one argument suffices. -/
theorem takeCombination_eq_any {args : List Text}
    (h : ∀ a ∈ args.head?, Combination.parse? a = none) : takeCombination args = (.any, args) := by
  cases args with
  | nil => rfl
  | cons a rest => rw [takeCombination, h a rfl]

/-- Arguments that are not empty are all read. -/
theorem compile_eq {args rest : List Text} {combination : Combination}
    (hargs : takeCombination args = (combination, rest)) (hrest : ∀ a ∈ rest, a ≠ [])
    (polarity : Polarity) (key haystackKey : Text) :
    compile polarity key args haystackKey =
      ⟨polarity, fieldOf haystackKey key, combination, rest.map .parse⟩ := by
  rw [compile, hargs]
  dsimp only
  rw [filter_nonempty hrest]

/-- The arguments of a condition come apart again, after the word for their combination. -/
theorem takeCombination_argumentsText {c : Condition}
    (harguments : ∀ a ∈ c.arguments, '\x60' ∉ a.bare ∧ a.bare ≠ [])
    (hfirst : c.combination = .any →
      ∀ a ∈ c.arguments.head?, Combination.parse? a.bare = none) :
    takeCombination (split [','] .all true c.argumentsText) =
      (c.combination, c.arguments.map Argument.bare) := by
  have hsplit := Argument.split_arguments harguments
  unfold argumentsText
  cases hcombination : c.combination with
  | all =>
    have hword : split [','] .all true ['a', 'n', 'd'] = [['a', 'n', 'd']] := by decide
    show takeCombination (split [','] .all true
      (['a', 'n', 'd'] ++ ',' :: [','].intercalate (c.arguments.map Argument.text))) = _
    rw [split_append_cons (by decide) (by decide), hword, hsplit]
    rfl
  | any =>
    rw [List.nil_append, hsplit]
    refine takeCombination_eq_any ?_
    rw [List.head?_map, Option.forall_mem_map]
    exact hfirst hcombination

section Text

variable {c : Condition} (h : c.ReadsBack) (hwritable : c.Writable)

include h hwritable

/-- The text of a condition is a token that can stand anywhere. -/
theorem freeStanding_text : FreeStanding c.text := by
  have hkey : Whole blanks .quotes (c.polarity.sign ++ c.key) :=
    ⟨(Polarity.whole_sign c.polarity).closed.append hwritable.closed, h.key.unbroken⟩
  have hlead : Whole blanks .quotes (match c.combination with
      | .any => []
      | .all => ['a', 'n', 'd', ',']) := by
    cases c.combination <;> decide
  have harguments : Whole blanks .quotes ([','].intercalate (c.arguments.map Argument.text)) := by
    refine whole_intercalate (by decide) fun t ht => ?_
    obtain ⟨a, ha, rfl⟩ := List.mem_map.1 ht
    exact ((hwritable.arguments a ha).stays_between_blanks (h.arguments a ha).nonempty).whole
  have hcolon : Whole blanks .quotes [':'] := by decide
  have hwhole : Whole blanks .quotes c.text := by
    rw [text_eq, ← List.singleton_append]
    exact hkey.append (hcolon.append (hlead.append harguments))
  refine freeStanding_of_colon_mem hwhole ?_
  rw [text_eq]
  simp

omit hwritable in
theorem ofText_text :
    Token.ofText c.text = .condition (c.polarity.sign ++ c.key) c.argumentsText := by
  rw [text_eq]
  exact h.key.token c.argumentsText

/-- What stands in the text of a condition asks for it, with its arguments read from theirs. -/
theorem writtenCondition_text {o : Options} (hfield : fieldOf o.haystackKey c.key = c.key) :
    writtenCondition o (c.polarity.sign ++ c.key, c.argumentsText) = c.reread := by
  have hnonempty : ∀ t ∈ c.arguments.map Argument.bare, t ≠ [] := by
    rw [List.forall_mem_map]
    exact fun a ha => (h.arguments a ha).nonempty
  have htake := takeCombination_argumentsText
    (fun a ha => ⟨(hwritable.arguments a ha).1, (h.arguments a ha).nonempty⟩) hwritable.first
  unfold writtenCondition
  rw [h.key.sign, compile_eq htake hnonempty, hfield, List.map_map]
  rfl

end Text

theorem fieldOf_fieldOf (haystackKey key : Text) :
    fieldOf haystackKey (fieldOf haystackKey key) = fieldOf haystackKey key := by
  unfold fieldOf
  by_cases hkey : key = [] ∨ key = ['_']
  · simp [hkey]
  · simp [hkey]

/-- A condition that a token asks for is read from its text, unless a colon was escaped in its
key. -/
theorem readsBack_writtenCondition {o : Options} (ho : PlainKey o.haystackKey) {t key args : Text}
    (ht : Unbroken blanks .quotes t) (htoken : Token.ofText t = .condition key args)
    (hcolon : ':' ∉ (writtenCondition o (key, args)).key) :
    (writtenCondition o (key, args)).ReadsBack := by
  constructor
  · have hfield : (writtenCondition o (key, args)).key =
        fieldOf o.haystackKey (Polarity.splitKey key).2 := rfl
    show KeyReadsBack (Polarity.splitKey key).1 (writtenCondition o (key, args)).key
    rw [hfield] at hcolon ⊢
    unfold fieldOf at hcolon ⊢
    split
    · next hnamed =>
      rw [if_pos hnamed] at hcolon
      exact ho.readsBack hcolon _
    · next hnamed =>
      rw [if_neg hnamed] at hcolon
      exact keyReadsBack_of_ofText ht htoken hcolon
  · intro a ha
    obtain ⟨arg, hne, rfl⟩ := exists_parse_of_mem_arguments ha
    exact Argument.readsBack_parse hne

/-- So is the condition for the free text. -/
theorem readsBack_freeText {key : Text} (h : PlainKey key) (hcolon : ':' ∉ key)
    (fragments : List Text) : (freeText key fragments).ReadsBack := by
  refine ⟨h.readsBack hcolon .including, ?_⟩
  intro a ha
  obtain ⟨fragment, hfragment, rfl⟩ := List.mem_map.1 ha
  exact Argument.readsBack_freeText (by simpa using (List.mem_filter.1 hfragment).2)

end Condition

end RecordFilter
