import RecordFilter.Proofs.Query.ArgumentText
import RecordFilter.Proofs.Query.Kept

/-!
# Segments of a text

What a text is made of can be said without reading it character by character: separators, single
characters and blocks, where only the last block may lack its end.  Every text is made of such
segments in exactly one way (`exists_segmentsOf`, `SegmentsOf.unique`), and splitting is told by
them: fragments lie between the separators among the segments, and stripping empties the blocks of
their delimiters.
-/

namespace RecordFilter

/-- A segment of a text that is read from left to right. -/
inductive Segment
  | separator (c : Char)
  | single (c : Char)
  /-- What stands between two delimiters. -/
  | block (opening : Char) (inside : Text) (closing : Char)
  /-- What stands between a delimiter and the end of the text. -/
  | unended (opening : Char) (inside : Text)
deriving DecidableEq, Repr

namespace Segment

/-- A segment as it stands in a text. -/
def text : Segment → Text
  | separator c | single c => [c]
  | block opening inside closing => opening :: inside ++ [closing]
  | unended opening inside => opening :: inside

/-- What a segment holds besides delimiters and separators. -/
def inside : Segment → Text
  | separator _ => []
  | single c => [c]
  | block _ inside _ | unended _ inside => inside

/-- Whether a segment is a separator. -/
def isSeparator : Segment → Bool
  | separator _ => true
  | _ => false

/-- What the characters of a segment are. -/
def parts : Segment → List Part
  | separator c => [.separator c]
  | single c => [.content c]
  | block opening inside closing =>
    .delimiter opening :: (inside.map .content ++ [.delimiter closing])
  | unended opening inside => .delimiter opening :: inside.map .content

end Segment

variable {separators : List Char} {d : Delimiters}

/-- The segments that a text is made of.  A block runs from a delimiter that is no separator to the
next delimiter that ends it, or to the end of the text where there is none. -/
inductive SegmentsOf (separators : List Char) (d : Delimiters) : Text → List Segment → Prop
  | nil : SegmentsOf separators d [] []
  | separator {c : Char} {t : Text} {segments : List Segment} : c ∈ separators →
      SegmentsOf separators d t segments →
      SegmentsOf separators d (c :: t) (.separator c :: segments)
  | single {c : Char} {t : Text} {segments : List Segment} : c ∉ separators →
      d.closing? c = none → SegmentsOf separators d t segments →
      SegmentsOf separators d (c :: t) (.single c :: segments)
  | block {opening closing : Char} {inside t : Text} {segments : List Segment} :
      opening ∉ separators → d.closing? opening = some closing → closing ∉ inside →
      SegmentsOf separators d t segments →
      SegmentsOf separators d (opening :: (inside ++ closing :: t))
        (.block opening inside closing :: segments)
  | unended {opening closing : Char} {inside : Text} : opening ∉ separators →
      d.closing? opening = some closing → closing ∉ inside →
      SegmentsOf separators d (opening :: inside) [.unended opening inside]

/-- Every text is made of segments. -/
theorem exists_segmentsOf (separators : List Char) (d : Delimiters) (t : Text) :
    ∃ segments, SegmentsOf separators d t segments := by
  induction hn : t.length using Nat.strongRecOn generalizing t with
  | _ n ih =>
    cases t with
    | nil => exact ⟨[], .nil⟩
    | cons c rest =>
      rw [List.length_cons] at hn
      by_cases hc : c ∈ separators
      · obtain ⟨segments, hrest⟩ := ih rest.length (by omega) rest rfl
        exact ⟨_, .separator hc hrest⟩
      cases hclosing : d.closing? c with
      | none =>
        obtain ⟨segments, hrest⟩ := ih rest.length (by omega) rest rfl
        exact ⟨_, .single hc hclosing hrest⟩
      | some closing =>
        by_cases hend : closing ∈ rest
        · obtain ⟨inside, after, rfl, hinside⟩ := List.eq_append_cons_of_mem hend
          rw [List.length_append, List.length_cons] at hn
          obtain ⟨segments, hafter⟩ := ih after.length (by omega) after rfl
          exact ⟨_, .block hc hclosing hinside hafter⟩
        · exact ⟨_, .unended hc hclosing hend⟩

/-- Where one element ends two lists for the first time, what stands before and after it is the
same. -/
theorem append_cons_inj_of_not_mem {α : Type} {a : α} {xs ys zs ws : List α} (hxs : a ∉ xs)
    (hys : a ∉ ys) (h : xs ++ a :: zs = ys ++ a :: ws) : xs = ys ∧ zs = ws := by
  induction xs generalizing ys with
  | nil =>
    cases ys with
    | nil => exact ⟨rfl, (List.cons.inj h).2⟩
    | cons y ys => exact absurd ((List.cons.inj h).1 ▸ List.mem_cons_self) hys
  | cons x xs ih =>
    cases ys with
    | nil => exact absurd ((List.cons.inj h).1 ▸ List.mem_cons_self) hxs
    | cons y ys =>
      obtain ⟨rfl, hrest⟩ := List.cons.inj h
      obtain ⟨rfl, rfl⟩ := ih (fun hx => hxs (List.mem_cons_of_mem _ hx))
        (fun hy => hys (List.mem_cons_of_mem _ hy)) hrest
      exact ⟨rfl, rfl⟩

namespace SegmentsOf

/-- A text is made of segments in one way only. -/
theorem unique {t : Text} {segments segments' : List Segment}
    (h : SegmentsOf separators d t segments) (h' : SegmentsOf separators d t segments') :
    segments = segments' := by
  induction h generalizing segments' with
  | nil => cases h'; rfl
  | separator hc _ ih =>
    cases h' with
    | separator _ hrest => rw [ih hrest]
    | single hc' => exact absurd hc hc'
    | block hc' => exact absurd hc hc'
    | unended hc' => exact absurd hc hc'
  | single hc hclosing _ ih =>
    cases h' with
    | separator hc' => exact absurd hc' hc
    | single _ _ hrest => rw [ih hrest]
    | block _ hclosing' => rw [hclosing] at hclosing'; cases hclosing'
    | unended _ hclosing' => rw [hclosing] at hclosing'; cases hclosing'
  | @block opening closing inside t segments hc hclosing hinside _ ih =>
    generalize htext : opening :: (inside ++ closing :: t) = whole at h'
    cases h' with
    | nil => cases htext
    | separator hc' => exact absurd ((List.cons.inj htext).1 ▸ hc') hc
    | single _ hnone =>
      rw [← (List.cons.inj htext).1, hclosing] at hnone
      cases hnone
    | block _ hclosing' hinside' hrest =>
      obtain ⟨rfl, hafter⟩ := List.cons.inj htext
      obtain rfl := Option.some.inj (hclosing.symm.trans hclosing')
      obtain ⟨rfl, rfl⟩ := append_cons_inj_of_not_mem hinside hinside' hafter
      rw [ih hrest]
    | unended _ hclosing' hinside' =>
      obtain ⟨rfl, rfl⟩ := List.cons.inj htext
      obtain rfl := Option.some.inj (hclosing.symm.trans hclosing')
      simp at hinside'
  | @unended opening closing inside hc hclosing hinside =>
    generalize htext : opening :: inside = whole at h'
    cases h' with
    | nil => cases htext
    | separator hc' => exact absurd ((List.cons.inj htext).1 ▸ hc') hc
    | single _ hnone =>
      rw [← (List.cons.inj htext).1, hclosing] at hnone
      cases hnone
    | block _ hclosing' =>
      obtain ⟨rfl, rfl⟩ := List.cons.inj htext
      obtain rfl := Option.some.inj (hclosing.symm.trans hclosing')
      simp at hinside
    | unended =>
      obtain ⟨rfl, rfl⟩ := List.cons.inj htext
      rfl

/-- Reading a text character by character finds its segments. -/
theorem parts_eq {t : Text} {segments : List Segment} (h : SegmentsOf separators d t segments) :
    parts separators d t = segments.flatMap Segment.parts := by
  unfold RecordFilter.parts
  induction h with
  | nil => rfl
  | separator hc _ ih => simp [partsFrom, hc, ih, Segment.parts]
  | single hc hclosing _ ih => simp [partsFrom, hc, hclosing, ih, Segment.parts]
  | @block opening closing inside t segments hc hclosing hinside _ ih =>
    have hinner : partsFrom separators d (some closing) (inside ++ closing :: t) =
        inside.map .content ++ .delimiter closing :: partsFrom separators d none t := by
      obtain ⟨hparts, hopen⟩ : partsFrom separators d (some closing) (inside ++ [closing]) =
          inside.map .content ++ [.delimiter closing] ∧
            openAfter separators d (some closing) (inside ++ [closing]) = none :=
        read_within hinside
      rw [List.append_cons, partsFrom_append, hparts, hopen, List.append_assoc,
        List.singleton_append]
    simp [partsFrom, hc, hclosing, hinner, ih, Segment.parts]
  | @unended opening closing inside hc hclosing hinside =>
    have hinner : partsFrom separators d (some closing) inside = inside.map .content :=
      (read_inside hinside).1
    simp [partsFrom, hc, hclosing, hinner, Segment.parts]

end SegmentsOf

/-! ### Fragments -/

theorem partsFrom_of_unbroken {o : Option Char} {t : Text}
    (h : ∀ p ∈ partsFrom separators d o t, p.isSeparator = false) :
    partsFrom separators d o t = partsFrom [] d o t := by
  induction t generalizing o with
  | nil => cases o <;> rfl
  | cons c rest ih =>
    cases o with
    | some close =>
      rw [partsFrom] at h ⊢
      rw [partsFrom]
      split at h
      · rw [if_pos ‹_›, if_pos ‹_›, ih (List.forall_mem_cons.1 h).2]
      · rw [if_neg ‹_›, if_neg ‹_›, ih (List.forall_mem_cons.1 h).2]
    | none =>
      have hc : c ∉ separators := by
        intro hc
        rw [partsFrom, if_pos hc] at h
        have hseparator := h _ List.mem_cons_self
        cases hseparator
      rw [partsFrom, if_neg hc] at h ⊢
      rw [partsFrom, if_neg List.not_mem_nil]
      cases hclosing : d.closing? c with
      | none =>
        rw [hclosing] at h
        exact congrArg _ (ih (List.forall_mem_cons.1 h).2)
      | some close =>
        rw [hclosing] at h
        exact congrArg _ (ih (List.forall_mem_cons.1 h).2)

/-- Nothing is to be cut in an unbroken text. -/
theorem split_eq_of_unbroken {t : Text} (h : Unbroken separators d t) (strip : Bool) :
    split separators d strip t = split [] d strip t := by
  unfold split
  rw [show parts separators d t = parts [] d t from partsFrom_of_unbroken h]

/-- Stripping cuts where splitting does, and works on each fragment by itself. -/
theorem split_true_eq_flatMap (t : Text) :
    split separators d true t = (split separators d false t).flatMap (split [] d true) := by
  have whole : ∀ t, Unbroken separators d t →
      split separators d true t = (split separators d false t).flatMap (split [] d true) := by
    intro t h
    by_cases hempty : t = []
    · rw [hempty, split_nil, split_nil, List.flatMap_nil]
    · rw [split_of_unbroken h hempty, List.flatMap_singleton, split_eq_of_unbroken h]
  induction t using cut_induction separators d with
  | unbroken t h => exact whole t h
  | cut a c b hclosed hunbroken hc ih =>
    rw [split_append_cons hclosed hc, split_append_cons hclosed hc, List.flatMap_append,
      whole a hunbroken, ih]

namespace SegmentsOf

variable {t : Text} {segments : List Segment} (h : SegmentsOf separators d t segments)

include h

theorem flatMap_text : segments.flatMap Segment.text = t := by
  induction h with
  | nil => rfl
  | separator _ _ ih => simp [Segment.text, ih]
  | single _ _ _ ih => simp [Segment.text, ih]
  | block _ _ _ _ ih => simp [Segment.text, ih]
  | unended => simp [Segment.text]

/-- The fragments of a text are made of its segments, separators left out. -/
theorem flatten_split :
    (split separators d false t).flatten =
      (segments.filter (!·.isSeparator)).flatMap Segment.text := by
  have hsegment : ∀ s : Segment, (s.parts.filter (!·.isSeparator)).map Part.char =
      if s.isSeparator then [] else s.text := by
    intro s
    cases s <;> simp [Segment.parts, Segment.text, Segment.isSeparator, Part.isSeparator,
      Part.char, List.filter_map, Function.comp_def]
  rw [RecordFilter.flatten_split, kept, ← parts, h.parts_eq]
  clear h
  induction segments with
  | nil => rfl
  | cons s segments ih =>
    rw [List.flatMap_cons, List.filter_append, List.map_append, hsegment, ih]
    cases hs : s.isSeparator <;> simp [hs]

/-- No segment of a fragment is a separator. -/
theorem isSeparator_eq_false (ht : Unbroken separators d t) :
    ∀ s ∈ segments, s.isSeparator = false := by
  intro s hs
  cases s with
  | separator c =>
    have hpart : Part.separator c ∈ parts separators d t := by
      rw [h.parts_eq]
      exact List.mem_flatMap.2 ⟨_, hs, List.mem_singleton_self _⟩
    have hseparator := ht _ hpart
    cases hseparator
  | single | block | unended => rfl

/-- A stripped fragment is what its segments hold, unless they hold nothing. -/
theorem split_true (ht : Unbroken separators d t) :
    split [] d true t =
      if segments.flatMap Segment.inside = [] then [] else [segments.flatMap Segment.inside] := by
  have hcontent : ∀ t : Text, (t.map Part.content).filterMap (Part.kept? true) = t := by
    intro t
    rw [List.filterMap_map]
    exact List.filterMap_some
  have hsegment : ∀ s : Segment, s.parts.filterMap (Part.kept? true) = s.inside := by
    intro s
    cases s <;> simp [Segment.parts, Segment.inside, Part.kept?, hcontent]
  have hparts : (parts separators d t).filterMap (Part.kept? true) =
      segments.flatMap Segment.inside := by
    rw [h.parts_eq, List.filterMap_flatMap]
    exact List.flatMap_congr fun s _ => hsegment s
  rw [← split_eq_of_unbroken ht, split, List.splitOnP_eq_singleton ht, List.map_singleton, hparts]
  split
  · next hnil => simp [hnil]
  · next hne => simp [hne]

end SegmentsOf

/-- Splitting with and without delimiters cuts a text at the same places.  Stripped fragments are
the other ones stripped one by one, where only those that hold nothing but delimiters are dropped;
the others, joined by any separator, are found again.  None of them is empty, and together they are
the text without the separators among its segments, that is without those outside its blocks. -/
theorem split_by_segments (separators : List Char) (d : Delimiters) (t : Text) :
    (split separators d true t = (split separators d false t).flatMap (split [] d true) ∧
      ∀ f ∈ split separators d false t, ∃ segments, SegmentsOf separators d f segments ∧
        (∀ s ∈ segments, s.isSeparator = false) ∧
        split [] d true f = if segments.flatMap Segment.inside = [] then []
          else [segments.flatMap Segment.inside]) ∧
    (∀ c ∈ separators, split separators d false ([c].intercalate (split separators d false t)) =
      split separators d false t) ∧
    (∀ f ∈ split separators d false t, f ≠ []) ∧
    ∃ segments, SegmentsOf separators d t segments ∧
      (∀ segments', SegmentsOf separators d t segments' → segments' = segments) ∧
      segments.flatMap Segment.text = t ∧
      (split separators d false t).flatten =
        (segments.filter (!·.isSeparator)).flatMap Segment.text := by
  have hfragments := fragments_split separators d t
  refine ⟨⟨split_true_eq_flatMap t, ?_⟩, ?_, hfragments.nonempty, ?_⟩
  · intro f hf
    have hunbroken := hfragments.unbroken f hf
    obtain ⟨segments, h⟩ := exists_segmentsOf separators d f
    exact ⟨segments, h, h.isSeparator_eq_false hunbroken, h.split_true hunbroken⟩
  · intro c hc
    exact split_intercalate hc hfragments
  · obtain ⟨segments, h⟩ := exists_segmentsOf separators d t
    exact ⟨segments, h, fun _ h' => h'.unique h, h.flatMap_text, h.flatten_split⟩

/-- A parenthesis that separates begins no block; the empty quotation is dropped, and the last
bracket has no end. -/
theorem split_by_segments_parenthesis :
    let separators := [',', '(']
    let t := "a(\x22b,(\x22,\x27\x27,[c,".toList
    let fragments := ["a".toList, "\x22b,(\x22".toList, "\x27\x27".toList, "[c,".toList]
    '(' ∈ separators ∧ split separators .all false t = fragments ∧
      split separators .all true t = fragments.flatMap (split [] .all true) ∧
      (∃ segments, SegmentsOf separators .all "\x27\x27".toList segments ∧
        (∀ s ∈ segments, s.isSeparator = false) ∧
        split [] .all true "\x27\x27".toList = if segments.flatMap Segment.inside = [] then []
          else [segments.flatMap Segment.inside]) ∧
      split separators .all false (['('].intercalate fragments) = fragments := by
  intro separators t fragments
  have hmem : '(' ∈ separators := by decide
  have hsplit : split separators .all false t = fragments := by decide
  have hlaws := split_by_segments separators .all t
  rw [hsplit] at hlaws
  exact ⟨hmem, hsplit, hlaws.1.1, hlaws.1.2 _ (by decide), hlaws.2.1 _ hmem⟩

end RecordFilter
