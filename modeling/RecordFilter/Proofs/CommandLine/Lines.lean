import RecordFilter.CommandLine.Run
import RecordFilter.Proofs.Json.RoundTrip

/-!
# Records read back from their lines

The records that the command writes, one a line, are the records it reads where they are given to it
(`readRecords_recordLines`): their numbers must be integers, since other numbers may change when
they are read, and none of them may be an array, since the text of one array is that of its items.
-/

namespace RecordFilter

/-! ### The shape of records -/

theorem mapError_eq_ok {ε ε' α : Type} {x : Except ε α} {f : ε → ε'} {a : α} :
    x.mapError f = .ok a ↔ x = .ok a := by
  cases x with
  | ok b =>
    show Except.ok b = Except.ok a ↔ Except.ok b = Except.ok a
    rw [Except.ok.injEq, Except.ok.injEq]
  | error e =>
    constructor
    · intro h
      cases h
    · intro h
      cases h

namespace Json

theorem shaped_of_ofText {t : Text} {v : Json} (h : ofText t = .ok v) : Shaped depthLimit v := by
  obtain ⟨⟨v', rest⟩, hread, hend⟩ := exists_of_bind_eq_ok (mapError_eq_ok.1 h)
  dsimp only at hend
  split at hend
  · obtain rfl := Except.ok.inj hend
    exact shaped_of_readValue hread
  · cases hend

theorem shaped_of_readStream {fuel count : Nat} {t : Text} {values : List Json}
    (h : readStream fuel count t = .ok values) : ∀ v ∈ values, Shaped depthLimit v := by
  induction fuel generalizing count t values with
  | zero =>
    obtain rfl := Except.ok.inj h
    simp
  | succ fuel ih =>
    rw [readStream] at h
    split at h
    · obtain rfl := Except.ok.inj h
      simp
    split at h
    · cases h
    next hread =>
    split at h
    · obtain ⟨rest, hrest, rfl⟩ := exists_of_map_eq_ok h
      exact List.forall_mem_cons.2 ⟨shaped_of_readValue hread, ih hrest⟩
    · cases h

/-- An item of an array nests no deeper than the array. -/
theorem Shaped.item {depth : Nat} {items : List Json} (h : Shaped depth (.array items)) :
    ∀ v ∈ items, Shaped depth v := by
  cases h with
  | array _ hitems => exact fun v hv => (hitems v hv).mono (Nat.le_succ _)

end Json

open Json

theorem shaped_of_readRecords {input : Text} {records : List Json}
    (h : readRecords input = .ok records) : ∀ r ∈ records, Shaped depthLimit r := by
  unfold readRecords at h
  split at h
  · split at h
    · next hread =>
      obtain rfl := Except.ok.inj h
      exact (shaped_of_ofText hread).item
    · next hread =>
      obtain rfl := Except.ok.inj h
      simpa using shaped_of_ofText hread
    · cases h
  · exact shaped_of_readStream (mapError_eq_ok.1 (mapError_eq_ok.1 h))

/-! ### Lines -/

theorem isWhiteSpace_of_isDigit {c : Char} (h : c.isDigit = true) : isWhiteSpace c = false := by
  obtain ⟨hfirst, hlast⟩ := Bool.and_eq_true_iff.1 h
  have hfirst : 48 ≤ c.toNat := of_decide_eq_true hfirst
  have hlast : c.toNat ≤ 57 := of_decide_eq_true hlast
  simp [isWhiteSpace, whiteSpaceRanges]
  omega

theorem holdsArray_write {v : Json} (hints : OnlyIntegers v) (hkind : v.kind ≠ .array)
    (rest : Text) : holdsArray (v.write ++ rest) = false := by
  cases hints with
  | null => rfl
  | bool b => cases b <;> rfl
  | integer i =>
    show holdsArray (Text.ofInt i.val ++ rest) = false
    unfold Text.ofInt
    split
    · rfl
    · cases htext : Text.ofNat i.val.natAbs with
      | nil => exact absurd htext (Text.ofNat_ne_nil _)
      | cons c digits =>
        have hdigit : c.isDigit = true :=
          Text.isDigit_of_mem_ofNat (n := i.val.natAbs) (htext ▸ List.mem_cons_self)
        have hbracket : c ≠ '[' := by
          rintro rfl
          exact absurd hdigit (by decide)
        simp [holdsArray, Text.trimStart, isWhiteSpace_of_isDigit hdigit, hbracket]
  | string t => rfl
  | array _ => exact absurd rfl hkind
  | object _ => rfl

/-- A text that may follow a value in a stream: whatever value stands before a line end. -/
theorem endsValue_lineEnd (t : Text) : endsValue ('\n' :: t) = true := rfl

/-- Values are read from their lines, blanks before them skipped. -/
theorem readStream_lines {records : List Json} (hshaped : ∀ r ∈ records, Shaped depthLimit r)
    (hints : ∀ r ∈ records, OnlyIntegers r) {fuel : Nat} (hfuel : records.length < fuel)
    (count : Nat) {t : Text} (ht : skipBlanks t = skipBlanks (CommandLine.recordLines records)) :
    readStream fuel count t = .ok records := by
  induction records generalizing fuel count t with
  | nil =>
    obtain ⟨d, rfl⟩ := Nat.exists_eq_add_of_lt hfuel
    rw [readStream, ht]
    rfl
  | cons r records ih =>
    obtain ⟨hr, hrecords⟩ := List.forall_mem_cons.1 hshaped
    obtain ⟨hint, hints⟩ := List.forall_mem_cons.1 hints
    cases fuel with
    | zero => simp at hfuel
    | succ fuel =>
      obtain ⟨c, text, htext, hblank, -⟩ := write_eq_cons hint
      have hread := readValue_write hr hint
        (endsNumber_cons (c := '\n') (by decide) (CommandLine.recordLines records))
      have hrest := ih hrecords hints (by simpa using hfuel) (count + 1)
        (t := '\n' :: CommandLine.recordLines records) rfl
      have hlines : CommandLine.recordLines (r :: records) =
          c :: (text ++ '\n' :: CommandLine.recordLines records) := by
        simp [CommandLine.recordLines, htext]
      rw [htext, List.cons_append] at hread
      rw [readStream, ht, hlines, skipBlanks_cons hblank]
      simp [hread, endsValue_lineEnd, hrest, Except.map]

/-- Records are read from their lines, where no record is an array and their numbers are
integers. -/
theorem readRecords_recordLines {records : List Json}
    (hshaped : ∀ r ∈ records, Shaped depthLimit r) (hints : ∀ r ∈ records, OnlyIntegers r)
    (hkinds : ∀ r ∈ records, r.kind ≠ .array) :
    readRecords (CommandLine.recordLines records) = .ok records := by
  have harray : holdsArray (CommandLine.recordLines records) = false := by
    cases records with
    | nil => rfl
    | cons r records =>
      show holdsArray (r.write ++ ['\n'] ++ CommandLine.recordLines records) = false
      rw [List.append_assoc]
      exact holdsArray_write (hints r List.mem_cons_self) (hkinds r List.mem_cons_self) _
  have hfuel : records.length < (CommandLine.recordLines records).length + 1 :=
    Nat.lt_succ_of_le (length_le_length_flatMap (fun _ => by simp) records)
  unfold readRecords streamOfText
  rw [harray, readStream_lines hshaped hints hfuel 0 rfl]
  rfl

end RecordFilter
