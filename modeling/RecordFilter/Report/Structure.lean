import RecordFilter.Query.Rule
import RecordFilter.Text.Quoted

/-!
# Structures in reports

A structure is reported with its name and its fields, texts between quotation marks.  What rules
replace things by is reported as such a structure.
-/

namespace RecordFilter.Report

/-- A structure with its fields. -/
def structureText (name : String) (fields : List (String × Text)) : Text :=
  name.toList ++ [' ', '\x7b', ' '] ++
    [',', ' '].intercalate (fields.map fun f => f.1.toList ++ ':' :: ' ' :: f.2) ++ [' ', '\x7d']

/-- A list of texts. -/
def listText (items : List Text) : Text :=
  '[' :: [',', ' '].intercalate (items.map Text.quoted) ++ [']']

/-- A truth value. -/
def boolText (b : Bool) : Text :=
  if b then "true".toList else "false".toList

/-- A number that may be missing. -/
def optionText : Option Nat → Text
  | some n => "Some(".toList ++ Text.ofNat n ++ [')']
  | none => "None".toList

end RecordFilter.Report

namespace RecordFilter

/-- The replacement of a condition in a report, as `MacroExpansion` shows itself. -/
def Expansion.report (e : Expansion) : Text :=
  Report.structureText "MacroExpansion" [
    ("key", Text.quoted e.key),
    ("args", Report.listText e.args),
    ("haystack", Report.listText e.freeText)]

/-- The replacement of free text in a report, as `HaystackExpansion` shows itself. -/
def TextExpansion.report (e : TextExpansion) : Text :=
  Report.structureText "HaystackExpansion" [
    ("conditions", Report.listText e.conditions),
    ("haystack", Report.listText e.freeText)]

end RecordFilter
