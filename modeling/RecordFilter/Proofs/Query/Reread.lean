import RecordFilter.Proofs.Query.Quotation

/-!
# Conditions read from their text alone

A condition is shown with one sign for each operator and with backticks where an argument calls for
them, and is read back by cutting its text at the first colon and the rest at the commas outside of
blocks.  What comes back is the condition itself, its literals and their texts included, whatever
signs, quotation marks and brackets it was first written with (`ofText?_text_compile`).
-/

namespace RecordFilter

theorem Polarity.splitKey_sign_append {p : Polarity} {key : Text}
    (h : p = .including → ∀ c ∈ key.head?, c ≠ '-' ∧ c ≠ '+') :
    splitKey (p.sign ++ key) = (p, key) := by
  cases p with
  | excluding => rfl
  | additive => rfl
  | including =>
    cases key with
    | nil => rfl
    | cons c rest =>
      obtain ⟨hminus, hplus⟩ := h rfl c rfl
      simp [sign, splitKey, hminus, hplus]

namespace Argument

/-- An argument that was read is read again from the sign of its operator and its literal. -/
theorem parse_bare (arg : Text) : parse (parse arg).bare = parse arg := by
  have hread : Operator.parse (parse arg).bare = Operator.parse arg := Operator.parse_bare arg
  unfold parse at hread ⊢
  rw [hread]

/-- Only an argument without a sign can be the word or sign for a combination. -/
theorem unspecified_of_bare_mem_words {a : Argument} (h : a.bare ∈ Combination.words) :
    a.operator = .unspecified ∧ a.raw ∈ Combination.words := by
  obtain ⟨op, literal, raw⟩ := a
  cases op with
  | unspecified => exact ⟨rfl, h⟩
  | _ => simp [bare, Operator.sign, Combination.words] at h

end Argument

namespace Condition

/-- Reads a condition from its text: its key stands before the first colon, and what is behind it
holds the arguments. -/
def ofText? (haystackKey t : Text) : Option Condition :=
  (Text.cutAt? ':' t).map fun p =>
    .compile (Polarity.splitKey p.1).1 (Polarity.splitKey p.1).2 (split [','] .all true p.2)
      haystackKey

/-- A condition is read back from its text as it is, if no colon stands in its key, the key of one
that includes does not begin with the sign of another polarity, no backtick stands in an argument,
and the first of several arguments one of which is enough is not the word for a combination. -/
theorem ofText?_text_compile (polarity : Polarity) (key : Text) (args : List Text)
    (haystackKey : Text) :
    let c := compile polarity key args haystackKey
    ':' ∉ c.key → (c.polarity = .including → ∀ x ∈ c.key.head?, x ≠ '-' ∧ x ≠ '+') →
      (∀ a ∈ c.arguments, '\x60' ∉ a.bare) →
      (c.combination = .any → ∀ a ∈ c.arguments.head?,
        ¬ (a.operator = .unspecified ∧ a.raw ∈ Combination.words)) →
      ofText? haystackKey c.text = some c := by
  intro c hcolon hsign hmark hfirst
  have hread : ∀ a ∈ c.arguments, a.bare ≠ [] ∧ Argument.parse a.bare = a := by
    intro a ha
    obtain ⟨arg, hne, rfl⟩ := exists_parse_of_mem_arguments ha
    exact ⟨(Argument.readsBack_parse hne).nonempty, Argument.parse_bare arg⟩
  have hword : c.combination = .any →
      ∀ a ∈ c.arguments.head?, Combination.parse? a.bare = none := by
    intro hany a ha
    refine Combination.parse?_eq_none_iff.2 fun hmem => ?_
    exact hfirst hany a ha (Argument.unspecified_of_bare_mem_words hmem)
  have hcut : Text.cutAt? ':' c.text = some (c.polarity.sign ++ c.key, c.argumentsText) := by
    rw [text_eq]
    refine Text.cutAt?_append ?_ _
    cases c.polarity <;> simpa [Polarity.sign] using hcolon
  have htake := takeCombination_argumentsText (fun a ha => ⟨hmark a ha, (hread a ha).1⟩) hword
  have hnonempty : ∀ t ∈ c.arguments.map Argument.bare, t ≠ [] := by
    rw [List.forall_mem_map]
    exact fun a ha => (hread a ha).1
  have hfield : fieldOf haystackKey c.key = c.key := fieldOf_fieldOf haystackKey key
  have harguments : (c.arguments.map Argument.bare).map Argument.parse = c.arguments := by
    rw [List.map_map]
    calc c.arguments.map (Argument.parse ∘ Argument.bare)
        = c.arguments.map id := List.map_congr_left fun a ha => (hread a ha).2
      _ = c.arguments := List.map_id _
  rw [ofText?, hcut, Option.map_some, Polarity.splitKey_sign_append hsign,
    compile_eq htake hnonempty, hfield, harguments]

/-- Written with an underscore for its key, the word for its combination, older signs, a bracket
left open and blanks, a condition is shown with the key for free text and one sign for each
operator, in backticks where they are called for. -/
theorem ofText?_text_compile_older_signs :
    let args := ["or", "$a,b", "~x|y z", "in:[1,t", "!has:'q'", "and", "?"].map String.toList
    let c := compile .including ['_'] args ['t', 'x', 't']
    ':' ∉ c.key ∧ (∀ x ∈ c.key.head?, x ≠ '-' ∧ x ≠ '+') ∧
      (∀ a ∈ c.arguments, '\x60' ∉ a.bare) ∧
      (∀ a ∈ c.arguments.head?, ¬ (a.operator = .unspecified ∧ a.raw ∈ Combination.words)) ∧
      c.text =
        "txt:\x60has:a,b\x60,\x60/x|y z\x60,\x60in:[1,t\x60,\x60!has:'q'\x60,and,?".toList ∧
      ofText? ['t', 'x', 't'] c.text = some c := by
  intro args c
  have hcolon : ':' ∉ c.key := by decide
  have hsign : ∀ x ∈ c.key.head?, x ≠ '-' ∧ x ≠ '+' := by
    intro x hx
    obtain rfl : 't' = x := Option.some.inj hx
    decide
  have hmark : ∀ a ∈ c.arguments, '\x60' ∉ a.bare := by decide
  have hfirst : ∀ a ∈ c.arguments.head?,
      ¬ (a.operator = .unspecified ∧ a.raw ∈ Combination.words) := by decide
  have htext : c.text =
      "txt:\x60has:a,b\x60,\x60/x|y z\x60,\x60in:[1,t\x60,\x60!has:'q'\x60,and,?".toList := by
    decide
  exact ⟨hcolon, hsign, hmark, hfirst, htext,
    ofText?_text_compile .including ['_'] args ['t', 'x', 't'] hcolon (fun _ => hsign) hmark
      fun _ => hfirst⟩

end Condition

end RecordFilter
