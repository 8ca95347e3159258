import Mathlib.Data.List.Forall2
import RecordFilter.Proofs.CommandLine.Lines
import RecordFilter.Proofs.Json.TakenValues

/-!
# Records in an array and one after the other

Texts that are each read as a value are read as the same records whether they stand in an array,
with commas between them, or one after the other, with line ends between them.  Where the text of an
object is cut off behind them, nothing is read (`readRecords_joined`): the beginning of an object's
text closes less than it opens, and no value does.
-/

namespace RecordFilter

namespace Json

/-! ### Texts of one value -/

theorem ofText_of_readValue {t b : Text} {v : Json} (h : readValue depthLimit t = .ok (v, b))
    (hb : b.all isBlank) : ofText t = .ok v := by
  have hall : readAll t = .ok v := by
    simp [readAll, h, skipBlanks_eq_nil hb, bind, Except.bind, pure, Except.pure]
  rw [ofText, hall]
  rfl

/-- What is read as a value alone is read as it before other texts, but for the blanks at its end,
where it may nest as deep as it does. -/
theorem readValue_of_ofText {t : Text} {v : Json} (h : ofText t = .ok v) :
    nesting t < depthLimit ∧ ∃ b, b.all isBlank ∧ ∀ {depth : Nat} {rest : Text},
      nesting t < depth → EndsNumber rest → readValue depth (t ++ rest) = .ok (v, b ++ rest) := by
  obtain ⟨⟨v', b⟩, hread, hend⟩ := exists_of_bind_eq_ok (mapError_eq_ok.1 h)
  dsimp only at hend
  split at hend
  · next hskip =>
    obtain rfl := Except.ok.inj hend
    obtain ⟨u, k, rfl, hk, hu⟩ := takesValues depthLimit hread
    obtain ⟨b', hb', hblank⟩ := exists_blanks b
    rw [hskip, List.append_nil] at hb'
    subst hb'
    have hnesting : nesting (u ++ b) = k := by
      have hboth := hu.balanced.append (balanced_of_blanks hblank)
      rw [Nat.max_zero] at hboth
      exact hboth.nesting_eq
    rw [hnesting]
    refine ⟨hk, b, hblank, ?_⟩
    intro depth rest hdepth hrest
    rw [List.append_assoc]
    exact hu.again hdepth (hrest.blanks_append hblank)
  · cases hend

/-- No value is read from the text of an object that is cut off. -/
theorem readValue_cut {fields : List (Text × Json)} {p : Text} (hp : p <+: (object fields).write)
    (hproper : p ≠ (object fields).write) (depth : Nat) :
    ∃ stop, readValue depth p = .error stop := by
  cases hread : readValue depth p with
  | error stop => exact ⟨stop, rfl⟩
  | ok found =>
    obtain ⟨u, k, hu, -, hholds⟩ := takesValues depth hread
    have hbegin : u <+: p := ⟨found.2, hu.symm⟩
    have hcut : u ≠ (object fields).write := by
      rintro rfl
      exact hproper (hp.eq_of_length_le hbegin.length_le)
    exact absurd hholds.balanced
      (not_balanced_of_prefix_write hholds.ne_nil (hbegin.trans hp) hcut k)

/-! ### Texts one after the other -/

/-- Behind the first of the texts that are joined every other has the joint before it. -/
theorem intercalate_cons (joint : Char) (t : Text) (ts : List Text) :
    [joint].intercalate (t :: ts) = t ++ ts.flatMap (joint :: ·) := by
  induction ts generalizing t with
  | nil => rw [List.intercalate_singleton, List.flatMap_nil, List.append_nil]
  | cons u us ih =>
    rw [List.intercalate_cons_cons, ih, List.flatMap_cons, List.append_assoc,
      List.singleton_append, List.cons_append]

theorem cons_intercalate (joint : Char) {ts : List Text} (h : ts ≠ []) :
    joint :: [joint].intercalate ts = ts.flatMap (joint :: ·) := by
  obtain ⟨t, ts, rfl⟩ := List.exists_cons_of_ne_nil h
  rw [intercalate_cons, List.flatMap_cons, List.cons_append]

/-- What stands behind an item of an array does not go on with a number. -/
theorem endsNumber_items (ts : List Text) : EndsNumber (ts.flatMap (',' :: ·) ++ [']']) :=
  endsNumber_flatMap (.inl rfl) id ts []

section Texts

variable {ts : List Text} {rs : List Json} (h : List.Forall₂ (fun t r => ofText t = .ok r) ts rs)

include h

/-- Items are read after the first of them, each with the comma before it. -/
theorem readItems_texts {depth : Nat} (hdepth : ∀ t ∈ ts, nesting t < depth) {fuel : Nat}
    (hfuel : ts.length < fuel) (seen : List Json) {b : Text} (hb : b.all isBlank) :
    readItems (readValue depth) fuel false seen (b ++ (ts.flatMap (',' :: ·) ++ [']'])) =
      .ok (seen.reverse ++ rs, []) := by
  induction h generalizing fuel seen b with
  | nil =>
    obtain ⟨d, rfl⟩ := Nat.exists_eq_add_of_lt hfuel
    rw [List.append_nil]
    exact readItems_end _ _ false seen hb []
  | @cons t v ts rs hv _ ih =>
    obtain ⟨ht, hts⟩ := List.forall_mem_cons.1 hdepth
    obtain ⟨-, b', hb', hread⟩ := readValue_of_ofText hv
    cases fuel with
    | zero => cases hfuel
    | succ fuel =>
      rw [List.flatMap_cons, List.append_assoc, List.cons_append,
        readItems_next (hread ht (endsNumber_items ts)) fuel seen hb]
      have hrest := ih hts (Nat.lt_of_succ_lt_succ hfuel) (v :: seen) hb'
      rw [List.reverse_cons, List.append_assoc, List.singleton_append] at hrest
      exact hrest

/-- Texts of values with commas between them are the items of an array. -/
theorem ofText_array (hdepth : ∀ t ∈ ts, nesting t + 1 < depthLimit) :
    ofText ('[' :: ([','].intercalate ts ++ [']'])) = .ok (.array rs) := by
  have hdepth : ∀ t ∈ ts, nesting t < 127 := fun t ht => Nat.lt_of_succ_lt_succ (hdepth t ht)
  have hitems : readItems (readValue 127) (([','].intercalate ts ++ [']']).length + 1) true []
      ([','].intercalate ts ++ [']']) = .ok (rs, []) := by
    cases h with
    | nil => rfl
    | @cons t v ts rs hv h =>
      obtain ⟨ht, hts⟩ := List.forall_mem_cons.1 hdepth
      obtain ⟨-, b, hb, hread⟩ := readValue_of_ofText hv
      have hfuel := length_le_length_flatMap (f := (',' :: ·)) (List.cons_ne_nil ',') ts
      rw [intercalate_cons, List.append_assoc, readItems_first (hread ht (endsNumber_items ts))]
      refine readItems_texts h hts ?_ [v] hb
      rw [List.length_append, List.length_append, List.length_singleton]
      omega
  exact ofText_of_readValue (readValue_array (by decide) hitems) rfl

end Texts

/-! ### Streams -/

theorem readStream_congr {t t' : Text} (h : skipBlanks t = skipBlanks t') (fuel count : Nat) :
    readStream fuel count t = readStream fuel count t' := by
  cases fuel with
  | zero => rfl
  | succ fuel => rw [readStream, readStream, h]

theorem readStream_blanks {b : Text} (hb : b.all isBlank) (fuel count : Nat) :
    readStream fuel count b = .ok [] := by
  cases fuel with
  | zero => rfl
  | succ fuel => rw [readStream, skipBlanks_eq_nil hb]

/-- One more value is read, where what follows may follow a value. -/
theorem readStream_next {t rest : Text} {v : Json} (h : readValue depthLimit t = .ok (v, rest))
    (hrest : endsValue rest = true) (fuel count : Nat) :
    readStream (fuel + 1) count t = (readStream fuel (count + 1) rest).map (v :: ·) := by
  obtain ⟨c, r, hskip, -, hvalue⟩ := startsValue_of_readValue h
  rw [readStream, hskip]
  dsimp only
  rw [hvalue]
  dsimp only
  rw [hrest, Bool.or_true, if_pos rfl]

theorem readStream_stop {t r : Text} {c : Char} {stop : JsonStop} (hskip : skipBlanks t = c :: r)
    (h : readValue depthLimit (c :: r) = .error stop) (fuel count : Nat) :
    readStream (fuel + 1) count t = .error (count, stop) := by
  rw [readStream, hskip]
  dsimp only
  rw [h]

/-- What may follow a value does not go on with a number. -/
theorem endsNumber_of_endsValue {t : Text} (h : endsValue t = true) : EndsNumber t := by
  cases t with
  | nil => exact endsNumber_nil
  | cons c t =>
    refine endsNumber_cons ?_ t
    rcases Bool.or_eq_true_iff.1 h with hblank | hother
    · rcases isBlank_cases hblank with rfl | rfl | rfl | rfl <;> exact ⟨rfl, by decide⟩
    · simp only [List.contains_cons, List.contains_nil, Bool.or_false, Bool.or_eq_true,
        beq_iff_eq] at hother
      rcases hother with rfl | rfl | rfl | rfl | rfl | rfl | rfl <;> exact ⟨rfl, by decide⟩

theorem endsValue_blanks_append {b t : Text} (hb : b.all isBlank) (ht : endsValue t = true) :
    endsValue (b ++ t) = true := by
  cases b with
  | nil => exact ht
  | cons c b =>
    rw [List.all_cons, Bool.and_eq_true] at hb
    exact Bool.or_eq_true_iff.2 (.inl hb.1)

/-- Values are read one after the other, each with the line end before it, up to what follows. -/
theorem readStream_texts {ts : List Text} {rs : List Json}
    (h : List.Forall₂ (fun t r => ofText t = .ok r) ts rs) {tail : Text}
    (htail : endsValue tail = true) (fuel count : Nat) {b : Text} (hb : b.all isBlank) :
    ∃ b', b'.all isBlank ∧
      readStream (ts.length + fuel) count (b ++ (ts.flatMap ('\n' :: ·) ++ tail)) =
        (readStream fuel (count + ts.length) (b' ++ tail)).map (rs ++ ·) := by
  induction h generalizing count b with
  | nil =>
    refine ⟨b, hb, ?_⟩
    rw [List.length_nil, Nat.zero_add, Nat.add_zero, List.flatMap_nil, List.nil_append]
    cases readStream fuel count (b ++ tail) <;> rfl
  | @cons t v ts rs hv _ ih =>
    obtain ⟨hlimit, b', hb', hread⟩ := readValue_of_ofText hv
    have hrest : endsValue (ts.flatMap ('\n' :: ·) ++ tail) = true := by
      cases ts with
      | nil => exact htail
      | cons u us => rfl
    obtain ⟨b'', hb'', hmore⟩ := ih (count + 1) hb'
    refine ⟨b'', hb'', ?_⟩
    have hline : (b ++ ['\n']).all isBlank := by
      rw [List.all_append, hb]
      rfl
    have hnext := hread hlimit (endsNumber_of_endsValue hrest)
    have hfuel : (t :: ts).length + fuel = (ts.length + fuel) + 1 := by
      rw [List.length_cons]
      omega
    have htext : b ++ ((t :: ts).flatMap ('\n' :: ·) ++ tail) =
        (b ++ ['\n']) ++ (t ++ (ts.flatMap ('\n' :: ·) ++ tail)) := by
      simp
    rw [hfuel, readStream_congr (htext ▸ skipBlanks_append hline _),
      readStream_next hnext (endsValue_blanks_append hb' hrest), hmore,
      show count + 1 + ts.length = count + (t :: ts).length by rw [List.length_cons]; omega]
    cases readStream fuel (count + (t :: ts).length) (b'' ++ tail) <;> rfl

end Json

/-! ### Records -/

open Json

theorem isWhiteSpace_of_isBlank {c : Char} (h : isBlank c = true) : isWhiteSpace c = true := by
  rcases isBlank_cases h with rfl | rfl | rfl | rfl <;> rfl

theorem isWhiteSpace_of_startsValue {c : Char} (h : startsValue c = true) :
    isWhiteSpace c = false := by
  rcases Bool.or_eq_true_iff.1 h with hother | hdigit
  · simp only [List.contains_cons, List.contains_nil, Bool.or_false, Bool.or_eq_true,
      beq_iff_eq] at hother
    rcases hother with rfl | rfl | rfl | rfl | rfl | rfl | rfl <;> rfl
  · exact IsGlyph.isWhiteSpace_eq (.inl hdigit)

/-- A text that begins with a value holds an array where the value begins with a bracket. -/
theorem holdsArray_append {t : Text} {v : Json} (h : ofText t = .ok v) (rest : Text) :
    holdsArray (t ++ rest) = decide ((skipBlanks t).head? = some '[') := by
  obtain ⟨⟨v', b⟩, hread, -⟩ := exists_of_bind_eq_ok (mapError_eq_ok.1 h)
  obtain ⟨c, r, hskip, hstart, -⟩ := startsValue_of_readValue hread
  obtain ⟨b', ht, hb'⟩ := exists_blanks t
  have htrim : Text.trimStart (t ++ rest) = c :: (r ++ rest) := by
    have hwhite : ∀ d ∈ b', isWhiteSpace d = true := fun d hd =>
      isWhiteSpace_of_isBlank (List.all_eq_true.1 hb' d hd)
    rw [ht, hskip, Text.trimStart, List.append_assoc, List.dropWhile_append_of_pos hwhite,
      List.cons_append, List.dropWhile_cons_of_neg]
    rw [isWhiteSpace_of_startsValue hstart]
    exact Bool.false_ne_true
  rw [holdsArray, htrim, hskip]
  rfl

section Texts

variable {ts : List Text} {rs : List Json} (h : List.Forall₂ (fun t r => ofText t = .ok r) ts rs)

include h

/-- Texts with line ends between them hold no array, where what stands first does not. -/
theorem holdsArray_lines (hfirst : ∀ t ∈ ts.head?, (skipBlanks t).head? ≠ some '[')
    {us : List Text} (hus : holdsArray (['\n'].intercalate us) = false) :
    holdsArray (['\n'].intercalate (ts ++ us)) = false := by
  cases h with
  | nil => exact hus
  | @cons t v ts rs hv _ =>
    rw [List.cons_append, intercalate_cons, holdsArray_append hv]
    exact decide_eq_false (hfirst t rfl)

/-- Of texts with line ends between them values are read, then what stands behind the values. -/
theorem exists_readStream_lines (us : List Text) (hne : ts ++ us ≠ []) :
    ∃ fuel b, us.length ≤ fuel ∧ b.all isBlank ∧
      readStream ((['\n'].intercalate (ts ++ us)).length + 1) 0 (['\n'].intercalate (ts ++ us)) =
        (readStream fuel ts.length (b ++ us.flatMap ('\n' :: ·))).map (rs ++ ·) := by
  have htail : endsValue (us.flatMap ('\n' :: ·)) = true := by
    cases us with
    | nil => rfl
    | cons u us => rfl
  have hlines : '\n' :: ['\n'].intercalate (ts ++ us) =
      ts.flatMap ('\n' :: ·) ++ us.flatMap ('\n' :: ·) := by
    rw [cons_intercalate '\n' hne, List.flatMap_append]
  have hlength := length_le_length_flatMap (f := ('\n' :: ·)) (List.cons_ne_nil '\n') (ts ++ us)
  rw [← cons_intercalate '\n' hne, List.length_append, List.length_cons] at hlength
  obtain ⟨fuel, hfuel⟩ := Nat.exists_eq_add_of_le (Nat.le_of_add_right_le hlength)
  obtain ⟨b, hb, hread⟩ := readStream_texts h htail fuel 0 (b := []) rfl
  refine ⟨fuel, b, by omega, hb, ?_⟩
  rw [List.nil_append, ← hlines, Nat.zero_add, ← hfuel] at hread
  rw [← hread]
  exact readStream_congr rfl _ 0

/-- Values are read from their texts with line ends between them. -/
theorem readRecords_lines (hfirst : ∀ t ∈ ts.head?, (skipBlanks t).head? ≠ some '[') :
    readRecords (['\n'].intercalate ts) = .ok rs := by
  have harray : holdsArray (['\n'].intercalate (ts ++ [])) = false :=
    holdsArray_lines h hfirst rfl
  rw [List.append_nil] at harray
  have hstream : readStream ((['\n'].intercalate ts).length + 1) 0 (['\n'].intercalate ts) =
      .ok rs := by
    by_cases hne : ts = []
    · subst hne
      cases h
      rfl
    · obtain ⟨fuel, b, -, hb, hread⟩ := exists_readStream_lines h [] (by simpa using hne)
      rw [List.append_nil, List.flatMap_nil, List.append_nil, readStream_blanks hb] at hread
      rw [hread]
      show Except.ok (rs ++ []) = _
      rw [List.append_nil]
  rw [readRecords, harray, streamOfText, hstream]
  rfl

/-- Where the text of an object is cut off behind other texts, it is named by its number. -/
theorem readRecords_cut (hfirst : ∀ t ∈ ts.head?, (skipBlanks t).head? ≠ some '[')
    {fields : List (Text × Json)} {p : Text} (hne : p ≠ []) (hp : p <+: (object fields).write)
    (hproper : p ≠ (object fields).write) :
    ∃ e, readRecords (['\n'].intercalate (ts ++ [p])) = .error (.inRecord (ts.length + 1) e) := by
  obtain ⟨stop, hstop⟩ := readValue_cut hp hproper depthLimit
  obtain ⟨c, p, rfl⟩ := List.exists_cons_of_ne_nil hne
  obtain ⟨rfl, -⟩ := List.cons_prefix_cons.1 hp
  have harray : holdsArray (['\n'].intercalate (ts ++ ['\x7b' :: p])) = false :=
    holdsArray_lines h hfirst rfl
  obtain ⟨fuel, b, hfuel, hb, hread⟩ :=
    exists_readStream_lines h ['\x7b' :: p] (by simp)
  obtain ⟨d, rfl⟩ := Nat.exists_eq_add_of_le' hfuel
  have hskip : skipBlanks (b ++ ['\x7b' :: p].flatMap ('\n' :: ·)) = '\x7b' :: p := by
    rw [skipBlanks_append hb, List.flatMap_singleton]
    rfl
  rw [List.length_singleton, readStream_stop hskip hstop] at hread
  refine ⟨locate (['\n'].intercalate (ts ++ ['\x7b' :: p])) stop, ?_⟩
  rw [readRecords, harray, streamOfText, hread]
  rfl

end Texts

namespace CommandLine

/-- What the command ends with when its records cannot be read. -/
theorem finish_run_of_error {args : List Text} {files : Configuration.Files}
    {environment : List (Text × Text)} {a : Arguments} {o : Options}
    (hargs : Arguments.ofTexts args = .ok a) (hoptions : a.options files environment = .ok o)
    (htokens : a.tokens = false) {input : Text} {e : RecordError}
    (hrecords : readRecords input = .error e) :
    (run args files environment).finish input = .failure e.message.toList := by
  unfold run
  simp only [hargs, hoptions]
  unfold Arguments.program
  rw [htokens]
  show a.answer o input = _
  unfold Arguments.answer
  rw [hrecords]

/-- A command whose configuration cannot be read writes nothing, and breaks off only where a list
has no place for a value. -/
theorem ofConfigurationError_spec (e : ConfigurationError) :
    (Outcome.ofConfigurationError e).output = [] ∧
      ((∀ place, e ≠ .noPlace place) → (Outcome.ofConfigurationError e).status = 1) := by
  cases e with
  | noPlace place => exact ⟨rfl, fun h => absurd rfl (h place)⟩
  | _ => exact ⟨rfl, fun _ => rfl⟩

/-- Texts that are each read as a value nest less than the limit.  Where there is room for one level
more, they are the records of an array with commas between them; where the first of them opens no
array, they are the same records with line ends between them.  Behind these the text of an object
that is cut off makes all of them unreadable, and the fault is that of the record with its number.
The command then writes no record and complains of it, whatever query it was given: its status is 1,
unless its configuration makes it break off before it reads. -/
theorem readRecords_joined {ts : List Text} {rs : List Json}
    (hread : List.Forall₂ (fun t r => Json.ofText t = .ok r) ts rs) :
    (∀ t ∈ ts, nesting t < depthLimit) ∧
    ((∀ t ∈ ts, nesting t + 1 < depthLimit) →
      readRecords ('[' :: ([','].intercalate ts ++ [']'])) = .ok rs) ∧
    ((∀ t ∈ ts.head?, (skipBlanks t).head? ≠ some '[') →
      readRecords (['\n'].intercalate ts) = .ok rs ∧
      ∀ {fields : List (Text × Json)} {p : Text}, p ≠ [] → p <+: (Json.object fields).write →
        p ≠ (Json.object fields).write →
        let input := ['\n'].intercalate (ts ++ [p])
        ∃ e, readRecords input = .error (.inRecord (ts.length + 1) e) ∧
          ∀ {args : List Text} {files : Configuration.Files} {environment : List (Text × Text)}
            {a : Arguments}, Arguments.ofTexts args = .ok a → a.tokens = false →
            let outcome := (run args files environment).finish input
            outcome.output = [] ∧
            ((∀ place, a.options files environment ≠ .error (.noPlace place)) →
              outcome.status = 1) ∧
            ∀ {o : Options}, a.options files environment = .ok o →
              outcome.complaint = "error: ".toList ++ ("invalid JSON record #" ++
                toString (ts.length + 1) ++ ": " ++ e.message).toList ++ ['\n']) := by
  refine ⟨?_, ?_, ?_⟩
  · exact ((List.forall₂_and_left _ _).1
      (hread.imp fun t r h => ⟨(readValue_of_ofText h).1, h⟩)).1
  · intro hdepth
    have harray : holdsArray ('[' :: ([','].intercalate ts ++ [']'])) = true := rfl
    rw [readRecords, harray, ofText_array hread hdepth]
    rfl
  · intro hfirst
    refine ⟨readRecords_lines hread hfirst, ?_⟩
    intro fields p hne hp hproper input
    obtain ⟨e, he⟩ := readRecords_cut hread hfirst hne hp hproper
    refine ⟨e, he, ?_⟩
    intro args files environment a hargs htokens outcome
    cases hoptions : a.options files environment with
    | error fault =>
      have hend : outcome = .ofConfigurationError fault := by
        simp only [outcome, run, hargs, hoptions]
        rfl
      obtain ⟨houtput, hstatus⟩ := ofConfigurationError_spec fault
      rw [hend]
      refine ⟨houtput, fun hplace => hstatus fun place heq => hplace place (heq ▸ rfl), ?_⟩
      intro o ho
      cases ho
    | ok o =>
      have hend : outcome = .failure (RecordError.inRecord (ts.length + 1) e).message.toList :=
        finish_run_of_error hargs hoptions htokens he
      rw [hend]
      exact ⟨rfl, fun _ => rfl, fun _ => rfl⟩

/-- The first text opens no array and the last one does, and an object is cut off behind them. -/
theorem readRecords_joined_mixed :
    let zero : Json := .number (.integer ⟨0, by decide⟩)
    let ts := ["0".toList, " \x7b\"a\":[0]\x7d\t".toList, "\"[\"".toList, "[[]]".toList]
    let rs : List Json :=
      [zero, .object [(['a'], .array [zero])], .string ['['], .array [.array []]]
    let fields : List (Text × Json) := [(['a'], .object [(['b'], zero)])]
    let p := "\x7b\"a\":\x7b\"b\":0\x7d".toList
    let args := [['x']]
    List.Forall₂ (fun t r => Json.ofText t = .ok r) ts rs ∧
      (∀ t ∈ ts, nesting t + 1 < depthLimit) ∧
      (∀ t ∈ ts.head?, (skipBlanks t).head? ≠ some '[') ∧
      p ≠ [] ∧ p <+: (Json.object fields).write ∧ p ≠ (Json.object fields).write ∧
      Arguments.ofTexts args = .ok { query := ['x'] } ∧
      readRecords "[0, \x7b\"a\":[0]\x7d\t,\"[\",[[]]]".toList = .ok rs ∧
      readRecords "0\n \x7b\"a\":[0]\x7d\t\n\"[\"\n[[]]".toList = .ok rs ∧
      let outcome := (run args .empty []).finish
        "0\n \x7b\"a\":[0]\x7d\t\n\"[\"\n[[]]\n\x7b\"a\":\x7b\"b\":0\x7d".toList
      outcome.output = [] ∧ outcome.status = 1 := by
  intro zero ts rs fields p args
  have hread : List.Forall₂ (fun t r => Json.ofText t = .ok r) ts rs := by
    refine .cons ?_ (.cons ?_ (.cons ?_ (.cons ?_ .nil)))
    · rfl
    · rfl
    · rfl
    · rfl
  have hdepth : ∀ t ∈ ts, nesting t + 1 < depthLimit := by decide
  have hfirst : ∀ t ∈ ts.head?, (skipBlanks t).head? ≠ some '[' := by decide
  have hne : p ≠ [] := by decide
  have hp : p <+: (Json.object fields).write := ⟨['\x7d'], rfl⟩
  have hproper : p ≠ (Json.object fields).write := by decide
  have hargs : Arguments.ofTexts args = .ok { query := ['x'] } := by decide
  obtain ⟨-, harray, hlines⟩ := readRecords_joined hread
  obtain ⟨hrecords, hcut⟩ := hlines hfirst
  obtain ⟨e, -, hrun⟩ := hcut hne hp hproper
  obtain ⟨houtput, hstatus, -⟩ := @hrun args .empty [] _ hargs rfl
  refine ⟨hread, hdepth, hfirst, hne, hp, hproper, hargs, harray hdepth, hrecords, houtput, ?_⟩
  exact hstatus fun place h => by cases h

end CommandLine

end RecordFilter
