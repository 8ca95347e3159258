import Mathlib.Data.List.Forall2
import RecordFilter.Proofs.Record.Merge
import RecordFilter.Query.Decoding
import RecordFilter.Query.Encoding

/-!
# Conditions decoded as they were encoded

A literal is encoded as the number, truth value, string or array that it is, so that no two kinds of
literals have a value in common (`Literal.ofJson_toJson`); its numbers are finite.  A structure is
decoded from the values that its fields have, whether these stand in an object, where other fields
do not count, or in an array (`Condition.ofJson_object`, `Condition.ofJson_array`).
-/

namespace RecordFilter

/-! ### Fields of objects -/

namespace Json

/-- Fields with other names do not hide one. -/
theorem lookup_foldl_insertField {name : Text} {added : List (Text × Json)}
    (h : name ∉ added.map (·.1)) (fields : List (Text × Json)) :
    (added.foldl (fun acc f => insertField f.1 f.2 acc) fields).lookup name =
      fields.lookup name := by
  induction added generalizing fields with
  | nil => rfl
  | cons f added ih =>
    rw [List.map_cons, List.mem_cons, not_or] at h
    rw [List.foldl_cons, ih h.2, lookup_insertField, if_neg h.1]

/-- An object made of fields with different names, and of others with names that none of these has,
gives every one of the first its value. -/
theorem ofFields_append {known unknown : List (Text × Json)} (hnames : (known.map (·.1)).Nodup)
    (hunknown : ∀ f ∈ unknown, f.1 ∉ known.map (·.1)) :
    ∃ fields, ofFields (known ++ unknown) = .object fields ∧
      ∀ f ∈ known, fields.lookup f.1 = some f.2 := by
  refine ⟨_, rfl, ?_⟩
  intro f hf
  obtain ⟨before, after, rfl⟩ := List.append_of_mem hf
  have hafter : f.1 ∉ after.map (·.1) := by
    rw [List.map_append, List.map_cons] at hnames
    exact (List.nodup_cons.1 (List.nodup_append.1 hnames).2.1).1
  have hothers : f.1 ∉ unknown.map (·.1) := by
    intro hmem
    obtain ⟨g, hg, hname⟩ := List.mem_map.1 hmem
    exact hunknown g hg (hname ▸ List.mem_map_of_mem hf)
  rw [List.foldl_append, lookup_foldl_insertField hothers, List.foldl_append, List.foldl_cons,
    lookup_foldl_insertField hafter, lookup_insertField, if_pos rfl]

theorem optionalField_of_lookup {α : Type} {fields : List (Text × Json)} {name : String}
    {v : Json} {a : α} {decode : Json → Decoded α} (h : fields.lookup name.toList = some v)
    (hv : decode v = .ok a) : optionalField fields name decode = .ok (some a) := by
  rw [optionalField, h]
  exact congrArg (Except.map some) hv

theorem asText_string (t : Text) : asText (.string t) = .ok t := rfl

/-- A choice is decoded from its name, where no two have one name. -/
theorem asChoice_of_mem {α : Type} {known : List (String × α)} (hnames : (known.map (·.1)).Nodup)
    {name : String} {a : α} (h : (name, a) ∈ known) :
    asChoice known (.ofString name) = .ok a := by
  have hfind : known.find? (fun k => k.1.toList = name.toList) = some (name, a) := by
    obtain ⟨before, after, rfl⟩ := List.append_of_mem h
    rw [List.map_append, List.map_cons, List.nodup_append] at hnames
    refine List.find?_eq_some_iff_append.2 ⟨by simp, before, after, rfl, ?_⟩
    intro k hk
    have hne : k.1 ≠ name :=
      hnames.2.2 _ (List.mem_map_of_mem hk) _ List.mem_cons_self
    simpa using fun heq => hne (String.toList_inj.1 heq)
  rw [ofString, asChoice, asName, hfind]

/-- A list is decoded item by item. -/
theorem asList_array {α : Type} {decode : Json → Decoded α} {as : List α} {items : List Json}
    (h : List.Forall₂ (fun a v => decode v = .ok a) as items) :
    asList decode (.array items) = .ok as := by
  unfold asList
  induction h with
  | nil => rfl
  | cons hv _ ih => simp [List.mapM_cons, hv, ih, bind, Except.bind, pure, Except.pure]

end Json

/-! ### Literals and names -/

mutual

theorem Literal.ofJson?_toJson (l : Literal) : ofJson? l.toJson = some l := by
  cases l with
  | number | bool | text => rfl
  | list items => rw [toJson, ofJson?, ofItems?_toItems items]; rfl

theorem Literal.ofItems?_toItems (items : List Literal) :
    ofItems? (toItems items) = some items := by
  cases items with
  | nil => rfl
  | cons l rest =>
    rw [toItems, ofItems?, ofJson?_toJson l, ofItems?_toItems rest]
    rfl

end

/-- A literal is decoded as itself, not as one of another kind. -/
theorem Literal.ofJson_toJson (l : Literal) : ofJson l.toJson = .ok l := by
  rw [ofJson, ofJson?_toJson]

theorem Operator.ofJson_name (op : Operator) : ofJson (.ofString op.name) = .ok op := by
  have hmem : op ∈ all := by cases op <;> decide
  exact Json.asChoice_of_mem (by decide) (List.mem_map_of_mem hmem)

theorem Polarity.ofJson_name (p : Polarity) : ofJson (.ofString p.name) = .ok p := by
  have hmem : p ∈ [including, excluding, additive] := by cases p <;> decide
  exact Json.asChoice_of_mem (by decide) (List.mem_map_of_mem hmem)

theorem Combination.ofJson_name (c : Combination) : ofJson (.ofString c.name) = .ok c := by
  have hmem : c ∈ [any, all] := by cases c <;> decide
  exact Json.asChoice_of_mem (by decide) (List.mem_map_of_mem hmem)

/-! ### Arguments -/

namespace Argument

/-- The fields of an argument in the order of their declaration. -/
def fields (a : Argument) : List (Text × Json) :=
  [("operator".toList, .ofString a.operator.name), ("literal".toList, a.literal.toJson),
    ("raw".toList, .string a.raw)]

def fieldNames : List Text :=
  ["operator".toList, "literal".toList, "raw".toList]

theorem nodup_fieldNames (a : Argument) : (a.fields.map (·.1)).Nodup := by
  have hnames : fieldNames.Nodup := by decide
  exact hnames

/-- A value is an argument as a structure, with fields that arguments do not have beside its own. -/
def IsExtended (a : Argument) (v : Json) : Prop :=
  ∃ unknown, (∀ f ∈ unknown, f.1 ∉ fieldNames) ∧ v = .ofFields (a.fields ++ unknown)

theorem ofJson_object {a : Argument} {fields : List (Text × Json)}
    (h : ∀ f ∈ a.fields, fields.lookup f.1 = some f.2) : ofJson (.object fields) = .ok a := by
  simp only [Argument.fields, List.forall_mem_cons] at h
  obtain ⟨hoperator, hliteral, hraw, -⟩ := h
  rw [ofJson, Json.optionalField_of_lookup hliteral a.literal.ofJson_toJson,
    Json.optionalField_of_lookup hoperator a.operator.ofJson_name,
    Json.optionalField_of_lookup hraw (Json.asText_string a.raw)]
  rfl

theorem ofJson_array (a : Argument) : ofJson (.array (a.fields.map (·.2))) = .ok a := by
  simp only [fields, List.map_cons, List.map_nil, ofJson, Json.requiredItem,
    List.getElem?_cons_zero, List.getElem?_cons_succ, Operator.ofJson_name, Literal.ofJson_toJson]
  rfl

theorem IsExtended.ofJson_eq {a : Argument} {v : Json} (h : a.IsExtended v) :
    ofJson v = .ok a := by
  obtain ⟨unknown, hunknown, rfl⟩ := h
  obtain ⟨fields, hfields, hlookup⟩ := Json.ofFields_append (nodup_fieldNames a) hunknown
  rw [hfields]
  exact ofJson_object hlookup

end Argument

/-! ### Conditions -/

namespace Condition

/-- The fields of a condition in the order of their declaration, its arguments given as values. -/
def fields (c : Condition) (args : List Json) : List (Text × Json) :=
  [("polarity".toList, .ofString c.polarity.name), ("key".toList, .string c.key),
    ("compose".toList, .ofString c.combination.name), ("args".toList, .array args)]

def fieldNames : List Text :=
  ["polarity".toList, "key".toList, "compose".toList, "args".toList]

theorem nodup_fieldNames (c : Condition) (args : List Json) :
    ((c.fields args).map (·.1)).Nodup := by
  have hnames : fieldNames.Nodup := by decide
  exact hnames

variable {c : Condition} {args : List Json}
  (hargs : List.Forall₂ (fun a v => Argument.ofJson v = .ok a) c.arguments args)

include hargs

theorem ofJson_object {fields : List (Text × Json)}
    (h : ∀ f ∈ c.fields args, fields.lookup f.1 = some f.2) : ofJson (.object fields) = .ok c := by
  simp only [Condition.fields, List.forall_mem_cons] at h
  obtain ⟨hpolarity, hkey, hcombination, harguments, -⟩ := h
  rw [ofJson, Json.optionalField_of_lookup harguments (Json.asList_array hargs),
    Json.optionalField_of_lookup hcombination c.combination.ofJson_name,
    Json.optionalField_of_lookup hkey (Json.asText_string c.key),
    Json.optionalField_of_lookup hpolarity c.polarity.ofJson_name]
  rfl

theorem ofJson_array : ofJson (.array ((c.fields args).map (·.2))) = .ok c := by
  simp only [fields, List.map_cons, List.map_nil, ofJson, Json.requiredItem,
    List.getElem?_cons_zero, List.getElem?_cons_succ, Polarity.ofJson_name,
    Combination.ofJson_name, Json.asList_array hargs]
  rfl

end Condition

/-- A condition that is encoded is decoded as the same condition, also where fields that are not
known stand beside those of the condition or of its arguments, and where the condition and its
arguments are written as arrays of their fields in the order of declaration. -/
theorem Condition.ofJson_encoded (c : Condition) :
    ofJson c.toJson = .ok c ∧
    (∀ {args : List Json} {unknown : List (Text × Json)},
      List.Forall₂ Argument.IsExtended c.arguments args →
      (∀ f ∈ unknown, f.1 ∉ fieldNames) →
      ofJson (.ofFields (c.fields args ++ unknown)) = .ok c) ∧
    ofJson (.array ((c.fields (c.arguments.map fun a => .array (a.fields.map (·.2)))).map (·.2))) =
      .ok c := by
  have extended : ∀ {args : List Json} {unknown : List (Text × Json)},
      List.Forall₂ Argument.IsExtended c.arguments args →
      (∀ f ∈ unknown, f.1 ∉ fieldNames) →
      ofJson (.ofFields (c.fields args ++ unknown)) = .ok c := by
    intro args unknown hargs hunknown
    obtain ⟨fields, hfields, hlookup⟩ :=
      Json.ofFields_append (nodup_fieldNames c args) hunknown
    rw [hfields]
    exact ofJson_object (hargs.imp fun _ _ h => h.ofJson_eq) hlookup
  refine ⟨?_, extended, ?_⟩
  · have hargs : List.Forall₂ Argument.IsExtended c.arguments
        (c.arguments.map Argument.toJson) := by
      rw [List.forall₂_map_right_iff]
      exact List.forall₂_same.2 fun a _ => ⟨[], by simp, rfl⟩
    exact extended hargs (List.forall_mem_nil _)
  · apply ofJson_array
    rw [List.forall₂_map_right_iff]
    exact List.forall₂_same.2 fun a _ => a.ofJson_array

/-- A text that looks like a number and a truth value stand in a list within a list; the unknown
fields differ from known ones in a letter. -/
theorem Condition.ofJson_encoded_unknown :
    let a : Argument := ⟨.among, .list [.list [.text ['1'], .bool true], .number .zero], ['1']⟩
    let c : Condition := ⟨.excluding, "a.b".toList, .all, [a]⟩
    let args := [Json.ofFields (a.fields ++ [("Raw".toList, .null)])]
    let unknown := [("arg".toList, Json.array args)]
    List.Forall₂ Argument.IsExtended c.arguments args ∧ (∀ f ∈ unknown, f.1 ∉ fieldNames) ∧
      ofJson (.ofFields (c.fields args ++ unknown)) = .ok c := by
  intro a c args unknown
  have hargs : List.Forall₂ Argument.IsExtended c.arguments args :=
    .cons ⟨_, List.forall_mem_singleton.2 (by decide), rfl⟩ .nil
  have hunknown : ∀ f ∈ unknown, f.1 ∉ fieldNames := List.forall_mem_singleton.2 (by decide)
  exact ⟨hargs, hunknown, (ofJson_encoded c).2.1 hargs hunknown⟩

end RecordFilter
