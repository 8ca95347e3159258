/-!
# Text

Text is a list of characters.  Queries, field names and field values are cut, joined and searched
character by character, so every operation below follows the list.

Throughout the library, a name in parentheses in the docstring of a definition, such as
`split_chain`, is the one that `textfilter` and its command have for what is defined.
-/

namespace RecordFilter

/-- A text, as its characters in order. -/
abbrev Text := List Char

namespace Text

/-- Whether `needle` stands somewhere in a text. -/
def occursIn (needle : Text) : Text → Bool
  | [] => needle.isEmpty
  | c :: rest => needle.isPrefixOf (c :: rest) || occursIn needle rest

/-- A text cut at the first occurrence of a character, which is dropped. -/
def cutAt? (c : Char) : Text → Option (Text × Text)
  | [] => none
  | d :: rest =>
    if d = c then some ([], rest) else (cutAt? c rest).map fun p => (d :: p.1, p.2)

/-- The text before `ending`, when the text ends in it. -/
def dropEnding? (ending t : Text) : Option Text :=
  ending.isSuffixOf? t

theorem cutAt?_eq_some {c : Char} {t a b : Text} (h : cutAt? c t = some (a, b)) :
    t = a ++ c :: b ∧ c ∉ a := by
  induction t generalizing a with
  | nil => simp [cutAt?] at h
  | cons d rest ih =>
    rw [cutAt?] at h
    split at h
    · next hd => simp only [Option.some.injEq, Prod.mk.injEq] at h; simp [← h.1, ← h.2, hd]
    · next hd =>
      obtain ⟨⟨a', b'⟩, hab, heq⟩ := Option.map_eq_some_iff.1 h
      obtain ⟨rfl, rfl⟩ := Prod.mk.inj heq
      obtain ⟨h1, h2⟩ := ih hab
      exact ⟨by simp [h1], by simp [h2, Ne.symm hd]⟩

theorem cutAt?_append {c : Char} {a : Text} (h : c ∉ a) (b : Text) :
    cutAt? c (a ++ c :: b) = some (a, b) := by
  induction a with
  | nil => simp [cutAt?]
  | cons d rest ih =>
    rw [List.mem_cons, not_or] at h
    rw [List.cons_append, cutAt?, if_neg (Ne.symm h.1), ih h.2]
    rfl

end Text

end RecordFilter
