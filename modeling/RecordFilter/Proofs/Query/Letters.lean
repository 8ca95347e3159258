import Mathlib.Algebra.Ring.Nat
import RecordFilter.Proofs.Query.Aliases
import RecordFilter.Proofs.Query.Kept
import RecordFilter.Proofs.Query.Quotation

/-!
# Letters that conditions keep

What is dropped where a query is read are blanks, bars, commas, delimiters, backslashes, signs of
operators, the words that combine arguments, and, where an alias stands for it, a key.  A letter
that is none of these and in none of these is found again in the arguments of the conditions, as
often as it stands in the query outside keys (`letters_conditionsOfRun`).
-/

namespace RecordFilter

/-- How often the letter that every directive ends in stands in a text. -/
def letters (t : Text) : Nat :=
  t.count 'c'

theorem letters_append (t u : Text) : letters (t ++ u) = letters t + letters u :=
  List.count_append

theorem letters_flatten (ts : List Text) : letters ts.flatten = (ts.map letters).sum :=
  List.count_flatten

/-- A sum over texts does not miss the empty ones, where these count nothing. -/
theorem sum_map_filter_nonempty {f : Text → Nat} (h : f [] = 0) (ts : List Text) :
    ((ts.filter (!·.isEmpty)).map f).sum = (ts.map f).sum := by
  induction ts with
  | nil => rfl
  | cons t ts ih =>
    cases t with
    | nil => simpa [h] using ih
    | cons c t => simpa using ih

/-! ### Splitting -/

section Split

variable {separators : List Char} {d : Delimiters}

/-- A delimiter is a quotation mark, a parenthesis or a bracket. -/
theorem closing?_ne {c close : Char} (h : d.closing? c = some close) : c ≠ 'c' ∧ close ≠ 'c' := by
  have hmark : ∀ c, isQuote c → c ≠ 'c' := by
    rintro c hc rfl
    exact absurd hc (by decide)
  unfold Delimiters.closing? at h
  split at h
  · next hquote =>
    obtain rfl := Option.some.inj h
    exact ⟨hmark c hquote, hmark c hquote⟩
  · cases d with
    | quotes => cases h
    | all =>
      dsimp only at h
      split at h
      · next heq => subst heq; obtain rfl := Option.some.inj h; decide
      split at h
      · next heq => subst heq; obtain rfl := Option.some.inj h; decide
      · cases h

/-- The letter neither separates nor delimits. -/
theorem eq_content_of_mem_partsFrom (hseparators : 'c' ∉ separators) {o : Option Char}
    (ho : ∀ close ∈ o, close ≠ 'c') {t : Text} {p : Part} (hp : p ∈ partsFrom separators d o t)
    (hchar : p.char = 'c') : p = .content 'c' := by
  have hother : ∀ c ≠ 'c', p ≠ .delimiter c := by
    rintro c hc rfl
    exact hc hchar
  induction t generalizing o with
  | nil => cases o <;> simp [partsFrom] at hp
  | cons c rest ih =>
    cases o with
    | some close =>
      rw [partsFrom] at hp
      split at hp
      · next heq =>
        rcases List.mem_cons.1 hp with hfirst | hrest
        · exact absurd hfirst (hother c (heq ▸ ho close rfl))
        · exact ih (by simp) hrest
      · rcases List.mem_cons.1 hp with rfl | hrest
        · exact congrArg Part.content hchar
        · exact ih ho hrest
    | none =>
      rw [partsFrom] at hp
      split at hp
      · next hsep =>
        rcases List.mem_cons.1 hp with rfl | hrest
        · exact absurd (hchar ▸ hsep) hseparators
        · exact ih ho hrest
      split at hp
      · next close hclose =>
        obtain ⟨hc, hclose⟩ := closing?_ne hclose
        rcases List.mem_cons.1 hp with hfirst | hrest
        · exact absurd hfirst (hother c hc)
        · exact ih (by simpa using hclose) hrest
      · rcases List.mem_cons.1 hp with rfl | hrest
        · exact congrArg Part.content hchar
        · exact ih ho hrest

/-- Splitting loses no letter, whether or not it drops delimiters. -/
theorem letters_split (hseparators : 'c' ∉ separators) (strip : Bool) (t : Text) :
    ((split separators d strip t).map letters).sum = letters t := by
  have hflat : (split separators d strip t).flatten =
      ((parts separators d t).filter (!·.isSeparator)).filterMap (Part.kept? strip) := by
    unfold split
    rw [List.flatten_filter_not_isEmpty, ← List.filterMap_flatten, flatten_splitOnP]
  have hsame : ∀ p ∈ parts separators d t,
      (Part.kept? strip p == some 'c' && !p.isSeparator) = (p.char == 'c') := by
    intro p hp
    by_cases hchar : p.char = 'c'
    · rw [eq_content_of_mem_partsFrom hseparators (by simp) hp hchar]
      rfl
    · cases p <;> cases strip <;> simp_all [Part.kept?, Part.char, Part.isSeparator]
  rw [← letters_flatten, hflat]
  unfold letters
  calc (((parts separators d t).filter (!·.isSeparator)).filterMap (Part.kept? strip)).count 'c'
      = (parts separators d t).countP (fun p => p.char == 'c') := by
        rw [List.count_filterMap, List.countP_filter]
        exact List.countP_congr fun p hp => by rw [hsame p hp]
    _ = ((parts separators d t).map Part.char).count 'c' := by
        rw [List.count_eq_countP, List.countP_map]
        rfl
    _ = t.count 'c' := by rw [map_char_parts]

end Split

/-! ### Arguments -/

theorem Operator.letters_parse (arg : Text) : letters (parse arg).2 = letters arg := by
  have hsigns : ∀ p ∈ signs, letters p.1 = 0 := by decide
  rcases parse_cases arg with hplain | ⟨sign, hmem, harg, -⟩
  · rw [hplain]
  · conv_rhs => rw [harg, letters_append, hsigns _ hmem, Nat.zero_add]

/-- How often the letter stands in the arguments of a condition. -/
def Condition.letters (c : Condition) : Nat :=
  (c.arguments.map fun a => RecordFilter.letters a.raw).sum

theorem Condition.letters_compile (polarity : Polarity) (key : Text) (args : List Text)
    (haystackKey : Text) :
    (compile polarity key args haystackKey).letters = (args.map RecordFilter.letters).sum := by
  have hparse : ∀ arg, RecordFilter.letters (Argument.parse arg).raw = RecordFilter.letters arg :=
    Operator.letters_parse
  have htake : ((takeCombination args).2.map RecordFilter.letters).sum =
      (args.map RecordFilter.letters).sum := by
    cases args with
    | nil => rfl
    | cons first rest =>
      rw [takeCombination]
      split
      · next hcombination =>
        have hnone : ∀ word ∈ Combination.words, RecordFilter.letters word = 0 := by decide
        have hword : first ∈ Combination.words := by
          by_contra hnot
          rw [Combination.parse?_eq_none_iff.2 hnot] at hcombination
          cases hcombination
        have hfirst := hnone first hword
        rw [List.map_cons, List.sum_cons, hfirst, Nat.zero_add]
      · rfl
  have hcompiled : (compile polarity key args haystackKey).arguments =
      ((takeCombination args).2.filter (!·.isEmpty)).map Argument.parse := rfl
  unfold Condition.letters
  rw [hcompiled, List.map_map, ← htake, ← sum_map_filter_nonempty (by rfl) (takeCombination args).2]
  exact congrArg List.sum (List.map_congr_left fun arg _ => hparse arg)

theorem Condition.letters_freeText (haystackKey : Text) (fragments : List Text) :
    (freeText haystackKey fragments).letters = (fragments.map RecordFilter.letters).sum := by
  have hcompiled : (freeText haystackKey fragments).arguments =
      (fragments.filter (!·.isEmpty)).map Argument.freeText := rfl
  unfold Condition.letters
  rw [hcompiled, List.map_map, ← sum_map_filter_nonempty (by rfl) fragments]
  rfl

/-! ### Tokens -/

namespace Token

/-- How often the letter stands in a token, outside the key of a condition. -/
def letters : Token → Nat
  | condition _ args => RecordFilter.letters args
  | freeText t => RecordFilter.letters t

theorem letters_plainColons (t : Text) :
    RecordFilter.letters (plainColons t) = RecordFilter.letters t := by
  have hcons : ∀ c (u : Text), RecordFilter.letters (c :: u) =
      RecordFilter.letters [c] + RecordFilter.letters u := fun c u => letters_append [c] u
  induction t using plainColons.induct with
  | case1 => rfl
  | case2 c => rfl
  | case3 c d rest hescaped ih =>
    obtain ⟨rfl, rfl⟩ := hescaped
    have hbackslash : RecordFilter.letters ['\\'] = 0 := by decide
    rw [plainColons, if_pos ⟨rfl, rfl⟩, hcons ':' (plainColons rest), ih, hcons '\\' (':' :: rest),
      hbackslash, Nat.zero_add, hcons ':' rest]
  | case4 c d rest hplain ih =>
    rw [plainColons, if_neg hplain, hcons c (plainColons (d :: rest)), ih, hcons c (d :: rest)]

theorem letters_plainText (t : Text) :
    RecordFilter.letters (plainText t) = RecordFilter.letters t := by
  unfold plainText
  cases hunquoted : unquoted? t with
  | none => exact letters_plainColons t
  | some inside =>
    cases t with
    | nil => cases hunquoted
    | cons c rest =>
      rw [unquoted?] at hunquoted
      split at hunquoted
      · next hquoted =>
        obtain ⟨hquote, hlast⟩ := hquoted
        obtain rfl := Option.some.inj hunquoted
        have hmark : RecordFilter.letters [c] = 0 := by
          apply List.count_eq_zero.2
          rw [List.mem_singleton]
          rintro rfl
          exact absurd hquote (by decide)
        have hrest : rest.dropLast ++ [c] = rest := List.dropLast_append_getLast? c hlast
        have hwhole : RecordFilter.letters (c :: rest) = RecordFilter.letters ([c] ++ rest) := rfl
        have hinside : RecordFilter.letters rest = RecordFilter.letters rest.dropLast := by
          conv_lhs => rw [← hrest, letters_append, hmark, Nat.add_zero]
        rw [hwhole, letters_append, hmark, Nat.zero_add, hinside]
        rfl
      · cases hunquoted

/-- Whether a token is a condition. -/
def isCondition (token : Token) : Bool :=
  token.condition?.isSome

/-- A token of free text keeps all of its letters. -/
theorem letters_of_isCondition_eq_false {t : Text} (h : (ofText t).isCondition = false) :
    (ofText t).letters = RecordFilter.letters t := by
  unfold ofText at h ⊢
  split at h
  · cases h
  · exact letters_plainText t

/-- There are as many conditions among tokens as tokens that are conditions. -/
theorem length_filterMap_condition? (written : List Token) :
    (written.filterMap condition?).length =
      (written.map fun token => token.isCondition.toNat).sum := by
  induction written with
  | nil => rfl
  | cons token rest ih =>
    cases token with
    | condition key args =>
      rw [List.filterMap_cons_some (by rfl), List.length_cons, ih, Nat.add_comm]
      rfl
    | freeText t =>
      rw [List.filterMap_cons_none (by rfl), ih, List.map_cons, List.sum_cons]
      exact (Nat.zero_add _).symm

/-- The letters of tokens are those of the arguments and those of the free text among them. -/
theorem sum_letters (written : List Token) :
    ((written.filterMap condition?).map fun c => RecordFilter.letters c.2).sum +
      ((written.filterMap freeText?).map RecordFilter.letters).sum =
        (written.map letters).sum := by
  induction written with
  | nil => rfl
  | cons token rest ih =>
    cases token with
    | condition key args =>
      rw [List.filterMap_cons_some (by rfl), List.filterMap_cons_none (by rfl), List.map_cons,
        List.map_cons, List.sum_cons, List.sum_cons, Nat.add_assoc, ih]
      rfl
    | freeText t =>
      rw [List.filterMap_cons_none (by rfl), List.filterMap_cons_some (by rfl), List.map_cons,
        List.map_cons, List.sum_cons, List.sum_cons, Nat.add_left_comm, ih]
      rfl

end Token

namespace Query

theorem letters_phrases (o : Options) (freeText : List Text) :
    ((phrases o freeText).map letters).sum = (freeText.map letters).sum := by
  have hjoined : ∀ ts : List Text, letters ([' '].intercalate ts) = (ts.map letters).sum := by
    intro ts
    induction ts with
    | nil => rfl
    | cons t ts ih =>
      cases ts with
      | nil => simp
      | cons u us =>
        have hspace : letters [' '] = 0 := by decide
        rw [List.intercalate_cons_cons, letters_append, letters_append, hspace, ih]
        simp
  unfold phrases
  dsimp only
  split
  · rw [List.map_singleton, hjoined, sum_map_filter_nonempty (by rfl)]
    rfl
  · exact sum_map_filter_nonempty (by rfl) freeText

section OnlyAliases

variable {o : Options} (ho : o.OnlyAliases)

include ho

/-- An alias puts another key in place of the one that is written and leaves the arguments. -/
theorem letters_compileCondition_of_onlyAliases (c : Text × Text) :
    (compileCondition o c).value.1.letters = RecordFilter.letters c.2 := by
  have hargs : ((split [','] .all true c.2).map RecordFilter.letters).sum =
      RecordFilter.letters c.2 := letters_split (by decide) true c.2
  unfold compileCondition
  cases hrule : o.conditionRule? (Polarity.splitKey c.1).2 with
  | none => simp [hrule, Condition.letters_compile, hargs]
  | some rule =>
    obtain ⟨target, rfl⟩ := ho.aliases hrule
    simp [hrule, ConditionRule.alias, Condition.letters_compile, hargs]

/-- The conditions of a run are one for each token that is a condition and one for the free text,
and hold all letters of the tokens outside keys. -/
theorem letters_conditionsOfRun (run : List Text) :
    (conditionsOfRun o run).length =
        (run.map fun t => (Token.ofText t).isCondition.toNat).sum + 1 ∧
      ((conditionsOfRun o run).map Condition.letters).sum =
        (run.map fun t => (Token.ofText t).letters).sum := by
  rw [conditionsOfRun_of_onlyAliases ho]
  constructor
  · rw [List.length_append, List.length_map, Token.length_filterMap_condition?, List.map_map]
    rfl
  · have hcompiled : (Condition.letters ∘ fun c => (compileCondition o c).value.1) =
        fun c => letters c.2 := funext fun c => letters_compileCondition_of_onlyAliases ho c
    have hwritten := Token.sum_letters (run.map Token.ofText)
    rw [List.map_map] at hwritten
    rw [List.map_append, List.sum_append, List.map_map, hcompiled, List.map_singleton,
      List.sum_singleton, Condition.letters_freeText, letters_phrases]
    exact hwritten

end OnlyAliases

end Query

end RecordFilter
