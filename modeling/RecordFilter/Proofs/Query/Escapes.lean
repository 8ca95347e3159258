import RecordFilter.Proofs.Query.ConditionText
import RecordFilter.Proofs.Search.Meaning

/-!
# Escaped colons

A backslash before a colon says that the colon does not end a key.  Where a token is cut, the
character after a backslash is passed over; what is cut off then loses its backslashes where colons
follow them.  These two readings fit together: a text whose colons are all escaped is read as this
text, as free text when it stands alone and as a key when a colon and arguments follow it
(`conditions_escapeColons`).
-/

namespace RecordFilter

namespace Token

/-- A text with a backslash before each of its colons. -/
def escapeColons (t : Text) : Text :=
  t.flatMap fun c => if c = ':' then ['\\', ':'] else [c]

theorem escapeColons_colon (t : Text) : escapeColons (':' :: t) = '\\' :: ':' :: escapeColons t :=
  rfl

theorem escapeColons_cons {c : Char} (h : c ≠ ':') (t : Text) :
    escapeColons (c :: t) = c :: escapeColons t := by
  simp [escapeColons, h]

/-- Nothing but backslashes is added. -/
theorem of_mem_escapeColons {t : Text} {c : Char} (h : c ∈ escapeColons t) : c = '\\' ∨ c ∈ t := by
  obtain ⟨x, hx, hc⟩ := List.mem_flatMap.1 h
  by_cases hcolon : x = ':'
  · rw [if_pos hcolon] at hc
    rcases List.mem_cons.1 hc with hbackslash | hlast
    · exact .inl hbackslash
    · right
      rwa [List.mem_singleton.1 hlast, ← hcolon]
  · rw [if_neg hcolon] at hc
    right
    rwa [List.mem_singleton.1 hc]

/-! ### Reading what is escaped -/

theorem plainColons_cons {c : Char} (h : c ≠ '\\') (t : Text) :
    plainColons (c :: t) = c :: plainColons t := by
  cases t with
  | nil => rfl
  | cons d rest => rw [plainColons, if_neg (fun hboth => h hboth.1)]

/-- The backslashes before colons are dropped again. -/
theorem plainColons_escapeColons {t : Text} (h : '\\' ∉ t) : plainColons (escapeColons t) = t := by
  induction t with
  | nil => rfl
  | cons c t ih =>
    obtain ⟨hc, ht⟩ := not_or.1 (mt List.mem_cons.2 h)
    by_cases hcolon : c = ':'
    · subst hcolon
      rw [escapeColons_colon, plainColons, if_pos ⟨rfl, rfl⟩, ih ht]
    · rw [escapeColons_cons hcolon, plainColons_cons (Ne.symm hc), ih ht]

theorem escapeColons_injOn {t u : Text} (ht : '\\' ∉ t) (hu : '\\' ∉ u)
    (h : escapeColons t = escapeColons u) : t = u := by
  rw [← plainColons_escapeColons ht, h, plainColons_escapeColons hu]

section Plain

variable {t : Text} (hbackslash : '\\' ∉ t) (hquotes : ∀ c ∈ t, ¬ isQuote c)

include hbackslash hquotes

/-- No escaped colon ends a key: what stands before the cut is passed over as a whole. -/
theorem cutKey?_escapeColons_append (u : Text) :
    cutKey? false (escapeColons t ++ u) =
      (cutKey? false u).map fun p => (escapeColons t ++ p.1, p.2) := by
  induction t with
  | nil => exact Option.map_id'.symm
  | cons c t ih =>
    obtain ⟨hc, ht⟩ := not_or.1 (mt List.mem_cons.2 hbackslash)
    obtain ⟨hquote, hrest⟩ := List.forall_mem_cons.1 hquotes
    have hlater := ih ht hrest
    by_cases hcolon : c = ':'
    · subst hcolon
      rw [escapeColons_colon, List.cons_append, List.cons_append, cutKey?, if_neg (by decide),
        if_neg (by decide), decide_eq_true rfl, cutKey?, hlater, Option.map_map, Option.map_map]
      rfl
    · have hplain : decide (c = '\\') = false := decide_eq_false (Ne.symm hc)
      rw [escapeColons_cons hcolon, List.cons_append, cutKey?, if_neg hcolon, if_neg hquote, hplain,
        hlater, Option.map_map]
      rfl

/-- By itself an escaped text is free text. -/
theorem ofText_escapeColons : ofText (escapeColons t) = .freeText t := by
  have hcut : cutKey? false (escapeColons t) = none := by
    have happend := cutKey?_escapeColons_append hbackslash hquotes []
    rwa [List.append_nil] at happend
  have hunquoted : unquoted? (escapeColons t) = none := by
    cases hhead : escapeColons t with
    | nil => rfl
    | cons c rest =>
      have hquote : ¬ isQuote c := by
        rcases of_mem_escapeColons (hhead ▸ List.mem_cons_self : c ∈ escapeColons t) with rfl | hc
        · decide
        · exact hquotes c hc
      exact if_neg fun hboth => hquote hboth.1
  unfold ofText
  rw [hcut]
  dsimp only
  rw [plainText, hunquoted, Option.getD_none, plainColons_escapeColons hbackslash]

/-- Before a colon an escaped text is a key, whatever stands after the colon. -/
theorem ofText_escapeColons_append (args : Text) :
    ofText (escapeColons t ++ ':' :: args) = .condition t args := by
  have hcolon : cutKey? false (':' :: args) = some ([], args) := if_pos rfl
  unfold ofText
  rw [cutKey?_escapeColons_append hbackslash hquotes, hcolon]
  simp only [Option.map_some, List.append_nil, plainColons_escapeColons hbackslash]

end Plain

end Token

namespace Query

/-- A text without quotation marks, backslashes and blanks, which stands in a query as it is up to
its colons. -/
structure Escapable (t : Text) : Prop where
  backslash : '\\' ∉ t
  quotes : ∀ c ∈ t, ¬ isQuote c
  blanks : ∀ c ∈ t, c ∉ blanks

theorem any_contains_blanks_eq_false {t : Text} :
    t.any blanks.contains = false ↔ ∀ c ∈ t, c ∉ blanks := by
  simp only [List.any_eq_false, List.contains_iff_mem]

instance (t : Text) : Decidable (Escapable t) :=
  decidable_of_iff ('\\' ∉ t ∧ t.any isQuote = false ∧ t.any blanks.contains = false)
    ⟨fun ⟨hbackslash, hquotes, hblanks⟩ =>
        ⟨hbackslash, List.any_eq_false.1 hquotes, any_contains_blanks_eq_false.1 hblanks⟩,
      fun h => ⟨h.backslash, List.any_eq_false.2 h.quotes, any_contains_blanks_eq_false.2 h.blanks⟩⟩

namespace Escapable

variable {t : Text} (h : Escapable t)

include h

theorem not_mem_blanks_of_mem_escapeColons : ∀ c ∈ Token.escapeColons t, c ∉ Query.blanks := by
  intro c hc
  rcases Token.of_mem_escapeColons hc with rfl | hmem
  · decide
  · exact h.blanks c hmem

theorem tokenRuns_escapeColons (hne : t ≠ []) (hbar : t ≠ bar) :
    tokenRuns (Token.escapeColons t) = [[Token.escapeColons t]] := by
  apply tokenRuns_of_unbroken
  · exact unbroken_of_forall_not_mem h.not_mem_blanks_of_mem_escapeColons
  · intro heq
    exact hne (Token.escapeColons_injOn h.backslash (by simp) heq)
  · intro heq
    exact hbar (Token.escapeColons_injOn h.backslash (by decide) heq)

theorem tokenRuns_escapeColons_append {args : Text} (hargs : ∀ c ∈ args, c ∉ Query.blanks) :
    tokenRuns (Token.escapeColons t ++ ':' :: args) =
      [[Token.escapeColons t ++ ':' :: args]] := by
  have hcolon : ':' ∈ Token.escapeColons t ++ ':' :: args := by simp
  apply tokenRuns_of_unbroken
  · apply unbroken_of_forall_not_mem
    intro c hc
    rcases List.mem_append.1 hc with hkey | hrest
    · exact h.not_mem_blanks_of_mem_escapeColons c hkey
    · rcases List.mem_cons.1 hrest with rfl | hafter
      · decide
      · exact hargs c hafter
  · exact List.ne_nil_of_mem hcolon
  · exact ne_of_mem_of_not_mem' hcolon (by decide)

end Escapable

/-- Without rules, a text whose colons are escaped asks for this text.  Standing alone it is free
text, searched for in one piece.  Before a colon it is a key, with the sign of a polarity where it
begins with one, and what follows the colon are the arguments, further colons and quotation marks
included; nothing is asked for in the field for free text. -/
theorem conditions_escapeColons {o : Options} (ho : o.WithoutRules) {t : Text} (ht : Escapable t) :
    (t ≠ [] → t ≠ bar →
      (conditions o (Token.escapeColons t)).value =
        [[⟨.including, o.haystackKey, .any, [.freeText t]⟩]]) ∧
      ∀ args : Text, (∀ c ∈ args, c ∉ blanks) →
        (conditions o (Token.escapeColons t ++ ':' :: args)).value =
          [[.compile (Polarity.splitKey t).1 (Polarity.splitKey t).2 (split [','] .all true args)
              o.haystackKey,
            ⟨.including, o.haystackKey, .any, []⟩]] := by
  constructor
  · intro hne hbar
    rw [value_conditions, ht.tokenRuns_escapeColons hne hbar, List.map_singleton,
      conditionsOfRun_freeText ho (Token.ofText_escapeColons ht.backslash ht.quotes) hne]
  · intro args hargs
    have htoken := Token.ofText_escapeColons_append ht.backslash ht.quotes args
    rw [value_conditions, ht.tokenRuns_escapeColons_append hargs, List.map_singleton,
      conditionsOfRun_condition htoken (value_compileCondition_of_withoutRules ho _), phrases_nil]
    rfl

/-- Colons at both ends and in a row, after the sign of a polarity, and arguments with a colon, a
comma and a quotation mark that no other ends. -/
theorem conditions_escapeColons_signed :
    let o : Options := { onePhrase := true }
    let t := "-::a:".toList
    let args := "b:c,\x22d,".toList
    o.WithoutRules ∧ Escapable t ∧ t ≠ [] ∧ t ≠ bar ∧ (∀ c ∈ args, c ∉ blanks) ∧
      Token.escapeColons t = "-\\:\\:a\\:".toList ∧
      (conditions o "-\\:\\:a\\:".toList).value =
        [[⟨.including, o.haystackKey, .any, [.freeText t]⟩]] ∧
      (conditions o "-\\:\\:a\\::b:c,\x22d,".toList).value =
        [[.compile .excluding "::a:".toList ["b:c".toList, "d,".toList] o.haystackKey,
          ⟨.including, o.haystackKey, .any, []⟩]] := by
  intro o t args
  have ho : o.WithoutRules := ⟨rfl, rfl⟩
  have ht : Escapable t := by decide
  have hargs : ∀ c ∈ args, c ∉ blanks := any_contains_blanks_eq_false.1 (by decide)
  obtain ⟨halone, hkey⟩ := conditions_escapeColons ho ht
  exact ⟨ho, ht, by decide, by decide, hargs, by decide, halone (by decide) (by decide),
    hkey args hargs⟩

end Query

end RecordFilter
