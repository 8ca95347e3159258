import RecordFilter.Proofs.Unicode.CharSet
import RecordFilter.Unicode.Recent

/-!
# Letters that count

The letter x and the Greek capital alpha have a case and are not passed over, so they count for a
sigma beside them.  The space is not passed over either but has no case, so it keeps what stands
behind it from counting.
-/

namespace RecordFilter.Recent

open CharSet

theorem has_caseIgnorable {c : Char} (hc : c = 'x' ∨ c = 'Α' ∨ c = ' ') :
    caseIgnorable.has c = false := by
  rw [caseIgnorable, has_union, Property.caseIgnorable, has_unions]
  unfold Category.nonspacingMark Category.enclosingMark Category.format Category.modifierLetter
    Category.modifierSymbol Property.midWord
  repeat rw [ofHex_cons]
  rcases hc with rfl | rfl | rfl <;> decide +kernel

theorem isProper_cased : Property.cased.IsProper := by
  have hupper : Property.uppercase.IsProper := by
    unfold Property.uppercase Category.uppercaseLetter Property.otherUppercase
    repeat rw [ofHex_cons]
    exact IsProper.union (by decide +kernel) (by decide +kernel)
  have hlower : Property.lowercase.IsProper := by
    unfold Property.lowercase Category.lowercaseLetter Property.otherLowercase
    repeat rw [ofHex_cons]
    exact IsProper.union (by decide +kernel) (by decide +kernel)
  have htitle : Category.titlecaseLetter.IsProper := by
    unfold Category.titlecaseLetter
    rw [ofHex_cons]
    decide +kernel
  refine IsProper.unions ?_
  simp only [List.forall_mem_cons, hupper, hlower, htitle, List.not_mem_nil, false_imp_iff,
    implies_true, and_self]

theorem has_cased {c : Char} (hc : c = 'x' ∨ c = 'Α' ∨ c = ' ') :
    cased.has c = decide (c ≠ ' ') := by
  have hother : (singleton 'ʕ').IsProper := by decide
  rw [cased, has_union, has_diff isProper_cased hother, Property.cased, has_unions]
  unfold Property.uppercase Property.lowercase
  simp only [List.any_cons, has_union]
  unfold Category.uppercaseLetter Category.lowercaseLetter Property.otherUppercase
    Property.otherLowercase Category.titlecaseLetter
  repeat rw [ofHex_cons]
  rcases hc with rfl | rfl | rfl <;> decide +kernel

end RecordFilter.Recent
