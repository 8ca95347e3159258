import RecordFilter.CommandLine.Run
import RecordFilter.Proofs.Json.Shape

/-!
# Switches before other arguments

A switch that is put before the other arguments is read first and leaves the reading of the others
as it is, so a command with it means what the command without it means, and the switch
(`ofTexts_cons_tokens`).
-/

namespace RecordFilter.CommandLine

namespace Gathered

/-- What has been read, with a switch before the others. -/
def withSwitch (s : Switch) (r : Gathered) : Gathered :=
  { r with switches := s :: r.switches }

variable (s : Switch) (r : Gathered)

theorem settle_withSwitch : (r.withSwitch s).settle = r.settle.withSwitch s := by
  obtain ⟨switches, values, waiting, queries⟩ := r
  cases waiting <;> rfl

theorem takeSwitch_withSwitch (t : Switch) :
    (r.withSwitch s).takeSwitch t = (r.takeSwitch t).map (withSwitch s) := by
  unfold takeSwitch
  rw [settle_withSwitch]
  cases t <;> rfl

theorem takeValue_withSwitch (slot : Slot) (value : Text) :
    (r.withSwitch s).takeValue slot value = (r.takeValue slot value).withSwitch s := by
  unfold takeValue
  rw [settle_withSwitch]
  rfl

theorem takeSlot_withSwitch (slot : Slot) :
    (r.withSwitch s).takeSlot slot = (r.takeSlot slot).withSwitch s := by
  unfold takeSlot
  rw [settle_withSwitch]
  rfl

theorem takeQuery_withSwitch (query : Text) :
    (r.withSwitch s).takeQuery query = (r.takeQuery query).map (withSwitch s) := by
  unfold takeQuery
  rw [settle_withSwitch]
  show (if r.queries.isEmpty then _ else _) = _
  split <;> rfl

theorem takeLong_withSwitch (name : Text) (value : Option Text) :
    (r.withSwitch s).takeLong name value = (r.takeLong name value).map (withSwitch s) := by
  unfold takeLong
  split
  · exact takeSwitch_withSwitch s r _
  · rw [takeValue_withSwitch]; rfl
  · rw [takeSlot_withSwitch]; rfl
  · rfl
  · rfl

theorem takeLetters_withSwitch (letters : Text) :
    (r.withSwitch s).takeLetters letters = (r.takeLetters letters).map (withSwitch s) := by
  induction letters generalizing r with
  | nil => rfl
  | cons c rest ih =>
    rw [takeLetters, takeLetters]
    split
    · rw [takeSwitch_withSwitch]
      cases r.takeSwitch _ with
      | ok r' => exact ih r'
      | error e => rfl
    · split
      · rw [takeSlot_withSwitch]; rfl
      · rw [takeValue_withSwitch]; rfl
    · rfl

theorem takePlain_withSwitch (arg : Text) :
    (r.withSwitch s).takePlain arg = (r.takePlain arg).map (withSwitch s) := by
  have hquery := takeQuery_withSwitch s r arg
  obtain ⟨switches, values, waiting, queries⟩ := r
  cases waiting with
  | none => exact hquery
  | some slot => rfl

theorem take_withSwitch (arg : Text) :
    (r.withSwitch s).take arg = (r.take arg).map (withSwitch s) := by
  unfold take
  split
  · split
    · exact takeLong_withSwitch s r _ _
    · exact takeLong_withSwitch s r _ _
  · exact takeLetters_withSwitch s r _
  · exact takePlain_withSwitch s r _

/-- Arguments are read alike behind a switch. -/
theorem takeAll_withSwitch (args : List Text) :
    takeAll (r.withSwitch s) args = (takeAll r args).map (withSwitch s) := by
  have hqueries : ∀ (queries : List Text) (r : Gathered),
      queries.foldlM takeQuery (r.withSwitch s) =
        (queries.foldlM takeQuery r).map (withSwitch s) := by
    intro queries
    induction queries with
    | nil => exact fun r => rfl
    | cons query queries ih =>
      intro r
      rw [List.foldlM_cons, List.foldlM_cons, takeQuery_withSwitch]
      cases r.takeQuery query with
      | ok r' => exact ih r'
      | error e => rfl
  induction args generalizing r with
  | nil =>
    rw [takeAll, takeAll, settle_withSwitch]
    rfl
  | cons arg rest ih =>
    by_cases harg : arg = ['-', '-']
    · subst harg
      show rest.foldlM takeQuery (r.withSwitch s).settle = _
      rw [settle_withSwitch, hqueries]
      rfl
    · rw [takeAll, takeAll, take_withSwitch]
      · cases r.take arg with
        | ok r' => exact ih r'
        | error e => rfl
      · exact harg
      · exact harg

/-- A switch that stands nowhere else does no harm. -/
theorem isProper_withSwitch {r : Gathered} {s : Switch} (h : s ∉ r.switches)
    (hs : s ≠ .descending) : (r.withSwitch s).isProper = r.isProper := by
  have hnodup : decide (s :: r.switches).Nodup = decide r.switches.Nodup :=
    decide_eq_decide.2 (List.nodup_cons.trans (and_iff_right h))
  have hon : (r.withSwitch s).isOn .descending = r.isOn .descending := by
    simp [isOn, withSwitch, hs.symm]
  unfold isProper
  rw [hon]
  show (decide (s :: r.switches).Nodup && _ && _ && _) = _
  rw [hnodup]
  rfl

end Gathered

/-- A command that is to show conditions is read as the same command without the switch, and the
switch. -/
theorem Arguments.ofTexts_cons_tokens {args : List Text} {a : Arguments}
    (h : ofTexts args = .ok a) (htokens : a.tokens = false) :
    ofTexts ("--tokens".toList :: args) = .ok { a with tokens := true } := by
  have hfirst : Gathered.takeAll {} ("--tokens".toList :: args) =
      Gathered.takeAll (Gathered.withSwitch .tokens {}) args := by rfl
  obtain ⟨r, hread, hresult⟩ := exists_of_bind_eq_ok h
  have hwith : Gathered.takeAll {} ("--tokens".toList :: args) = .ok (r.withSwitch .tokens) := by
    rw [hfirst, Gathered.takeAll_withSwitch, hread]
    rfl
  rcases hqueries : r.queries with _ | ⟨query, _ | ⟨other, rest⟩⟩
  · rw [hqueries] at hresult
    cases hresult
  · rw [hqueries] at hresult
    dsimp only at hresult
    split at hresult
    · next hproper =>
      obtain rfl := Except.ok.inj hresult
      have hnot : Switch.tokens ∉ r.switches := by
        simpa [Gathered.isOn] using htokens
      have hproper' := (Gathered.isProper_withSwitch hnot (by decide)).trans hproper
      have hqueries' : (r.withSwitch .tokens).queries = [query] := hqueries
      unfold ofTexts
      rw [hwith]
      simp only [bind, Except.bind, hqueries', hproper', if_true]
      rfl
    · cases hresult
  · rw [hqueries] at hresult
    cases hresult

end RecordFilter.CommandLine
