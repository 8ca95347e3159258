import RecordFilter.Proofs.Query.Written
import RecordFilter.Query.Condition

/-!
# Arguments read from their text

An argument is shown as the sign of its operator and its literal, between backticks where one of its
characters calls for them.  Whichever sign of an operator was written, the one shown is read as the
same operator and literal (`Operator.parse_bare`).  Arguments shown with commas between them come
apart again (`split_arguments`) unless there is a backtick in one: backticks hide commas, blanks and
brackets, but not a backtick.  Within a query they must be `Writable`, since blanks other than the
space do not call for backticks.
-/

namespace RecordFilter

/-! ### Texts that stay together -/

section Whole

variable {separators : List Char} {d : Delimiters}

/-- A text that closes its blocks and has no separator outside them. -/
structure Whole (separators : List Char) (d : Delimiters) (t : Text) : Prop where
  closed : Closed separators d t
  unbroken : Unbroken separators d t

theorem Whole.unbroken_append {a b : Text} (ha : Whole separators d a)
    (hb : Unbroken separators d b) : Unbroken separators d (a ++ b) := by
  intro p hp
  rw [parts, partsFrom_append, show openAfter separators d none a = none from ha.closed] at hp
  rcases List.mem_append.1 hp with hfirst | hsecond
  · exact ha.unbroken p hfirst
  · exact hb p hsecond

theorem Whole.append {a b : Text} (ha : Whole separators d a) (hb : Whole separators d b) :
    Whole separators d (a ++ b) :=
  ⟨ha.closed.append hb.closed, ha.unbroken_append hb.unbroken⟩

theorem whole_intercalate {joint : Text} (hjoint : Whole separators d joint) {ts : List Text}
    (h : ∀ t ∈ ts, Whole separators d t) : Whole separators d (joint.intercalate ts) := by
  induction ts with
  | nil => exact ⟨rfl, by simp [Unbroken, parts, partsFrom]⟩
  | cons t ts ih =>
    obtain ⟨ht, hts⟩ := List.forall_mem_cons.1 h
    cases ts with
    | nil => rwa [List.intercalate_singleton]
    | cons u us =>
      rw [List.intercalate_cons_cons]
      exact (ht.append hjoint).append (ih hts)

theorem Unbroken.of_append {a b : Text} (h : Unbroken separators d (a ++ b)) :
    Unbroken separators d a := by
  intro p hp
  refine h p ?_
  rw [parts, partsFrom_append]
  exact List.mem_append_left _ hp

instance (t : Text) : Decidable (Unbroken separators d t) :=
  inferInstanceAs (Decidable (∀ p ∈ parts separators d t, p.isSeparator = false))

instance (t : Text) : Decidable (Whole separators d t) :=
  decidable_of_iff (Closed separators d t ∧ Unbroken separators d t)
    ⟨fun ⟨hclosed, hunbroken⟩ => ⟨hclosed, hunbroken⟩, fun h => ⟨h.closed, h.unbroken⟩⟩

end Whole

section Stays

variable {separators : List Char} {d : Delimiters}

/-- A text that stays together between separators and that is `inside` without its delimiters. -/
structure Stays (separators : List Char) (d : Delimiters) (t inside : Text) : Prop where
  whole : Whole separators d t
  stripped : split separators d true t = [inside]

theorem split_true_of_unbroken {t : Text} (h : Unbroken separators d t) {inside : Text}
    (hinside : (parts separators d t).filterMap (Part.kept? true) = inside) (hne : inside ≠ []) :
    split separators d true t = [inside] := by
  unfold split
  rw [List.splitOnP_eq_singleton h, List.map_singleton, hinside]
  simp [hne]

/-- A text without separators and delimiters stays as it is. -/
theorem stays_plain {t : Text} (h : ∀ c ∈ t, c ∉ separators ∧ d.closing? c = none) (hne : t ≠ []) :
    Stays separators d t t := by
  have hread : parts separators d t = t.map .content ∧ Closed separators d t := by
    clear hne
    unfold parts Closed
    induction t with
    | nil => exact ⟨rfl, rfl⟩
    | cons c rest ih =>
      obtain ⟨hc, hrest⟩ := List.forall_mem_cons.1 h
      obtain ⟨hparts, hopen⟩ := ih hrest
      simp [partsFrom, openAfter, hc, hparts, hopen]
  have hunbroken : Unbroken separators d t := by
    unfold Unbroken
    rw [hread.1]
    simp [Part.isSeparator]
  refine ⟨⟨hread.2, hunbroken⟩, split_true_of_unbroken hunbroken ?_ hne⟩
  rw [hread.1, List.filterMap_map]
  exact List.filterMap_some

/-- Inside a block all of a text is content where the delimiter that ends the block is not in it. -/
theorem read_inside {close : Char} {t : Text} (h : close ∉ t) :
    partsFrom separators d (some close) t = t.map .content ∧
      openAfter separators d (some close) t = some close := by
  induction t with
  | nil => exact ⟨rfl, rfl⟩
  | cons c rest ih =>
    have hc : c ≠ close := fun heq => h (heq ▸ List.mem_cons_self)
    obtain ⟨hparts, hopen⟩ := ih fun hrest => h (List.mem_cons_of_mem c hrest)
    simp [partsFrom, openAfter, hc, hparts, hopen]

/-- Up to the delimiter that ends its block, all of a text is content. -/
theorem read_within {close : Char} {t : Text} (h : close ∉ t) :
    partsFrom separators d (some close) (t ++ [close]) = t.map .content ++ [.delimiter close] ∧
      openAfter separators d (some close) (t ++ [close]) = none := by
  obtain ⟨hparts, hopen⟩ : partsFrom separators d (some close) t = t.map .content ∧
      openAfter separators d (some close) t = some close := read_inside h
  rw [partsFrom_append, openAfter_append, hparts, hopen]
  simp [partsFrom, openAfter]

/-- Between two delimiters a text stays together, unless the second of them stands in it. -/
theorem stays_block {opening close : Char} (hclosing : d.closing? opening = some close)
    (hseparator : opening ∉ separators) {t : Text} (h : close ∉ t) (hne : t ≠ []) :
    Stays separators d (opening :: t ++ [close]) t := by
  obtain ⟨hwithin, hopen⟩ : partsFrom separators d (some close) (t ++ [close]) =
      t.map .content ++ [.delimiter close] ∧
        openAfter separators d (some close) (t ++ [close]) = none := read_within h
  have hparts : parts separators d (opening :: t ++ [close]) =
      .delimiter opening :: (t.map .content ++ [.delimiter close]) := by
    simp [parts, partsFrom, hseparator, hclosing, hwithin]
  have hclosed : Closed separators d (opening :: t ++ [close]) := by
    simp [Closed, openAfter, hseparator, hclosing, hopen]
  have hunbroken : Unbroken separators d (opening :: t ++ [close]) := by
    intro p hp
    rw [hparts] at hp
    rcases List.mem_cons.1 hp with rfl | hp
    · rfl
    · rcases List.mem_append.1 hp with hcontent | hlast
      · obtain ⟨c, -, rfl⟩ := List.mem_map.1 hcontent
        rfl
      · rw [List.mem_singleton.1 hlast]
        rfl
  refine ⟨⟨hclosed, hunbroken⟩, split_true_of_unbroken hunbroken ?_ hne⟩
  have hcontent : (t.map Part.content).filterMap (Part.kept? true) = t := by
    rw [List.filterMap_map]
    exact List.filterMap_some
  rw [hparts, List.filterMap_cons_none (by rfl), List.filterMap_append, hcontent]
  simp [Part.kept?]

theorem stays_quoted {q : Char} (hq : isQuote q) (hseparator : q ∉ separators) {t : Text}
    (h : q ∉ t) (hne : t ≠ []) : Stays separators d (q :: t ++ [q]) t :=
  stays_block (by simp [Delimiters.closing?, hq]) hseparator h hne

/-- What is kept of a text that stays together is never empty. -/
theorem Stays.kept {t inside : Text} (h : Stays separators d t inside) :
    (parts separators d t).filterMap (Part.kept? true) = inside ∧ inside ≠ [] := by
  have hsplit := h.stripped
  unfold split at hsplit
  rw [List.splitOnP_eq_singleton h.whole.unbroken, List.map_singleton] at hsplit
  have hmem : inside ∈ [inside] := List.mem_singleton_self inside
  rw [← hsplit] at hmem
  obtain ⟨hinside, hne⟩ := List.mem_filter.1 hmem
  exact ⟨(List.mem_singleton.1 hinside).symm, by simpa using hne⟩

theorem Stays.append {a b x y : Text} (ha : Stays separators d a x) (hb : Stays separators d b y) :
    Stays separators d (a ++ b) (x ++ y) := by
  obtain ⟨hx, hne⟩ := ha.kept
  obtain ⟨hy, -⟩ := hb.kept
  have hwhole := ha.whole.append hb.whole
  have hparts : parts separators d (a ++ b) = parts separators d a ++ parts separators d b := by
    rw [parts, partsFrom_append, show openAfter separators d none a = none from ha.whole.closed]
    rfl
  have hjoined : x ++ y ≠ [] := List.append_ne_nil_of_left_ne_nil hne y
  refine ⟨hwhole, split_true_of_unbroken hwhole.unbroken ?_ hjoined⟩
  rw [hparts, List.filterMap_append, hx, hy]

/-- Texts that stay together are found between the separators that join them. -/
theorem split_true_intercalate {c : Char} (hc : c ∈ separators) {α : Type} {text inside : α → Text}
    {as : List α} (h : ∀ a ∈ as, Stays separators d (text a) (inside a)) :
    split separators d true ([c].intercalate (as.map text)) = as.map inside := by
  induction as with
  | nil => exact split_nil separators d true
  | cons a rest ih =>
    obtain ⟨ha, hrest⟩ := List.forall_mem_cons.1 h
    cases rest with
    | nil => simp only [List.map_singleton, List.intercalate_singleton, ha.stripped]
    | cons b others =>
      have hothers := ih hrest
      rw [List.map_cons] at hothers
      rw [List.map_cons, List.map_cons, List.intercalate_cons_cons, List.append_assoc,
        List.singleton_append, split_append_cons ha.whole.closed hc, ha.stripped, hothers,
        List.singleton_append, ← List.map_cons]

end Stays

/-! ### Operators -/

namespace Operator

/-- A sign counts where the argument begins with it and a literal follows, or where it takes
none. -/
theorem after?_eq_some_iff {sign arg rest : Text} {op : Operator} :
    after? sign op arg = some rest ↔ arg = sign ++ rest ∧ (rest ≠ [] ∨ op = present) := by
  rw [after?, Option.filter_eq_some_iff, List.isPrefixOf?_eq_some_iff_append_eq, eq_comm]
  simp

/-- An argument is read as one without a sign, or as its literal after one of the signs. -/
theorem parse_cases (arg : Text) :
    parse arg = (unspecified, arg) ∨
      ∃ sign, (sign, (parse arg).1) ∈ signs ∧ arg = sign ++ (parse arg).2 ∧
        ((parse arg).2 ≠ [] ∨ (parse arg).1 = present) := by
  have hparse : parse arg = (signs.findSome? fun p =>
      (after? p.1 p.2 arg).map fun rest => (p.2, rest)).getD (unspecified, arg) := rfl
  rw [hparse]
  cases hfound : signs.findSome? fun p => (after? p.1 p.2 arg).map fun rest => (p.2, rest) with
  | none =>
    left
    rfl
  | some found =>
    right
    obtain ⟨⟨sign, op⟩, hmem, hafter⟩ := List.exists_of_findSome?_eq_some hfound
    obtain ⟨rest, hrest, rfl⟩ := Option.map_eq_some_iff.1 hafter
    exact ⟨sign, hmem, after?_eq_some_iff.1 hrest⟩

/-- An operator is read from the sign shown, whatever literal follows, unless it has none or its
sign may go on to that of another. -/
theorem parse_sign_append {op : Operator} (h : op ∉ [unspecified, less, greater]) {raw : Text}
    (hne : raw ≠ []) : parse (op.sign ++ raw) = (op, raw) := by
  obtain ⟨c, rest, rfl⟩ := List.exists_cons_of_ne_nil hne
  cases op with
  | unspecified | less | greater => simp at h
  | _ => simp [parse, signs, sign, after?, List.isPrefixOf?, Option.filter]

/-- No operator that has more than one sign is an exception. -/
theorem eq_sign_of_mem_signs : ∀ p ∈ signs, p.1 = p.2.sign ∨
    p.2 ∉ [unspecified, less, greater] ∧ p.2 ≠ present := by
  decide

/-- The operator and the literal of an argument are read from the sign shown and the literal. -/
theorem parse_bare (arg : Text) : parse ((parse arg).1.sign ++ (parse arg).2) = parse arg := by
  rcases parse_cases arg with hplain | ⟨sign, hmem, harg, hliteral⟩
  · rw [hplain]
    exact hplain
  · rcases eq_sign_of_mem_signs _ hmem with hsign | ⟨hop, hpresent⟩
    · rw [← hsign, ← harg]
    · exact parse_sign_append hop (hliteral.resolve_right hpresent)

end Operator

/-! ### Arguments -/

namespace Argument

/-- Behind the sign of an operator stands its literal, unless the sign may go on. -/
theorem parse_signed {op : Operator} (h : op ∉ [.unspecified, .less, .greater]) {raw : Text}
    (hne : raw ≠ []) : parse (op.sign ++ raw) = ⟨op, .coerce raw op, raw⟩ := by
  unfold parse
  rw [Operator.parse_sign_append h hne]

/-- An argument whose operator and literal are read from its text.  What becomes of the literal does
not count where its text is searched for. -/
structure ReadsBack (a : Argument) : Prop where
  operator : Operator.parse a.bare = (a.operator, a.raw)
  nonempty : a.bare ≠ []
  literal : a.operator = .containing ∨ a.literal = .coerce a.raw a.operator

theorem readsBack_parse {arg : Text} (hne : arg ≠ []) : (parse arg).ReadsBack := by
  refine ⟨Operator.parse_bare arg, ?_, .inr rfl⟩
  rcases Operator.parse_cases arg with hplain | ⟨sign, hmem, -⟩
  · have hbare : (parse arg).bare = arg := by
      unfold parse bare
      rw [hplain]
      rfl
    rwa [hbare]
  · have hsigned : ∀ p ∈ Operator.signs, p.2.sign ≠ [] := by decide
    exact List.append_ne_nil_of_left_ne_nil (hsigned _ hmem) _

theorem readsBack_freeText {fragment : Text} (hne : fragment ≠ []) :
    (freeText fragment).ReadsBack := by
  have hclear : Operator.containing ∉ [Operator.unspecified, .less, .greater] := by decide
  have hread : Operator.parse ('%' :: fragment) = (.containing, fragment) :=
    Operator.parse_sign_append hclear hne
  exact ⟨hread, List.cons_ne_nil _ _, .inl rfl⟩

/-- An argument that is one where it is written: no backtick ends the backticks around it early, and
a blank in it does not stand outside them. -/
def Writable (a : Argument) : Prop :=
  '\x60' ∉ a.bare ∧ (a.bare.any quotedFor.contains ∨ a.bare.all (· ∉ Query.blanks))

instance (a : Argument) : Decidable a.Writable :=
  inferInstanceAs (Decidable (_ ∧ _))

section Stays

variable {separators : List Char} {d : Delimiters} {a : Argument}

/-- An argument without a backtick stays together between separators, if none of these is in it
where it is written without backticks around it. -/
theorem stays_text (hmarks : '\x60' ∉ separators) (hmark : '\x60' ∉ a.bare) (hne : a.bare ≠ [])
    (hplain : a.bare.any quotedFor.contains = false → ∀ c ∈ a.bare, c ∉ separators) :
    Stays separators d a.text a.bare := by
  unfold text
  cases hany : a.bare.any quotedFor.contains with
  | true =>
    rw [if_pos rfl]
    exact stays_quoted (by decide) hmarks hmark hne
  | false =>
    rw [if_neg (by decide)]
    refine stays_plain (fun c hc => ⟨hplain hany c hc, ?_⟩) hne
    have hc' : c ≠ '\x60' := ne_of_mem_of_not_mem hc hmark
    have hnot : c ∉ quotedFor := by
      intro hmem
      have hnone := List.any_eq_false.1 hany c hc
      exact hnone (List.contains_iff_mem.2 hmem)
    simp only [quotedFor, List.mem_cons, List.not_mem_nil, or_false, not_or] at hnot
    cases d <;> simp [isQuote, Delimiters.closing?, hnot, hc']

/-- So it does among arguments, since a comma calls for backticks. -/
theorem stays_between_commas (hmark : '\x60' ∉ a.bare) (hne : a.bare ≠ []) :
    Stays [','] .all a.text a.bare := by
  refine stays_text (by decide) hmark hne fun hany c hc hcomma => ?_
  have hnone := List.any_eq_false.1 hany c hc
  rw [List.mem_singleton.1 hcomma] at hnone
  exact hnone (by decide)

/-- Within a query blanks part it that do not call for backticks, so it must be writable. -/
theorem Writable.stays_between_blanks (h : a.Writable) (hne : a.bare ≠ []) :
    Stays Query.blanks .quotes a.text a.bare := by
  refine stays_text (by decide) h.1 hne fun hany => ?_
  have hblanks := h.2
  rw [hany] at hblanks
  simpa using hblanks

end Stays

/-- Arguments shown with commas between them come apart again. -/
theorem split_arguments {as : List Argument} (h : ∀ a ∈ as, '\x60' ∉ a.bare ∧ a.bare ≠ []) :
    split [','] .all true ([','].intercalate (as.map text)) = as.map bare :=
  split_true_intercalate (by decide) fun a ha => stays_between_commas (h a ha).1 (h a ha).2

end Argument

/-- The arguments of a condition are read from texts that are not empty. -/
theorem Condition.exists_parse_of_mem_arguments {polarity : Polarity} {key haystackKey : Text}
    {args : List Text} {a : Argument} (ha : a ∈ (compile polarity key args haystackKey).arguments) :
    ∃ arg, arg ≠ [] ∧ a = .parse arg := by
  obtain ⟨arg, harg, rfl⟩ := List.mem_map.1 ha
  exact ⟨arg, by simpa using (List.mem_filter.1 harg).2, rfl⟩

end RecordFilter
