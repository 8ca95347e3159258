import RecordFilter.Unicode.CaseMapping
import RecordFilter.Unicode.Property

/-!
# Characters that change with their case

Whether a character changes when a text is put in another case, judged by its full form: some
characters without a partner of their own become several.
-/

namespace RecordFilter.CaseChange

/-- The code points that some runs move. -/
def moved (runs : List CaseRun) : CharSet :=
  .canonical ⟨runs.flatMap fun r => r.pairs.map fun p => (p.1, p.1)⟩

/-- The code points that some runs move others to. -/
def reached (runs : List CaseRun) : CharSet :=
  .canonical ⟨runs.flatMap fun r => r.pairs.map fun p => (p.2, p.2)⟩

/-- Characters that change in lower case: besides those with a partner the dotted capital I. -/
def lowercased : CharSet :=
  .inter Category.assigned (.union (moved lowerRuns) (.singleton 'İ'))

/-- Characters that change in upper case: besides those with a partner the ones that share it with
another, or become several. -/
def uppercased : CharSet :=
  .union (reached foldRuns) (.ofHex
    ["B5 131 149 17F 1C5 1C8 1CB 1F0 1F2 345 3C2 3D0-3D1 3D5-3D6 3F0-3F1 3F5 587 1C80-1C88",
     "1E96-1E9B 1F50 1F52 1F54 1F56 1F88-1F8F 1F98-1F9F 1FA8-1FAF 1FB2 1FB4 1FB6-1FB7 1FBC 1FBE",
     "1FC2 1FC4 1FC6-1FC7 1FCC 1FD2-1FD3 1FD6-1FD7 1FE2-1FE4 1FE6-1FE7 1FF2 1FF4 1FF6-1FF7 1FFC",
     "FB00-FB04 FB06 FB13-FB17"])

/-- Characters that change at the start of a title: not those made for it, nor the letters of
Georgian, but the digraphs that have a form for it. -/
def titlecased : CharSet :=
  .union (.diff uppercased (.union Category.titlecaseLetter (.ofHex ["10D0-10FA 10FD-10FF"])))
    (.ofHex ["1C4 1C7 1CA 1F1"])

/-- Characters that change when the differences of case are taken away. -/
def casefolded : CharSet :=
  .union (.diff (moved foldRuns) (.ofHex ["13A0-13F5 1FBE 1FD3 1FE3"])) (.ofHex
    ["DF 130 149 587 13F8-13FD 1E9A 1F80-1F87 1F90-1F97 1FA0-1FA7 1FB2-1FB4 1FB7 1FC2-1FC4 1FC7",
     "1FF2-1FF4 1FF7 AB70-ABBF FB00-FB05 FB13-FB17"])

/-- Characters that change in some case. -/
def casemapped : CharSet := .unions [lowercased, uppercased, titlecased]

/-- The changes by their names. -/
def named : List (List String × CharSet) :=
  [(["Changes_When_Casefolded", "CWCF"], casefolded),
   (["Changes_When_Casemapped", "CWCM"], casemapped),
   (["Changes_When_Lowercased", "CWL"], lowercased),
   (["Changes_When_Titlecased", "CWT"], titlecased),
   (["Changes_When_Uppercased", "CWU"], uppercased)]

end RecordFilter.CaseChange
