import Scaffold.Document.Items

namespace Scaffold.Document

/-!
# Explicit syntax

A file may be given by its name alone, and a folder by a single key with a list. Both can be said with the keys
`file`, `folder` and `contents` instead. Here a document is rewritten to say so.

* `explicitItem` — the rewriting of an item, and of the items in it if it is a folder; `explicit`, that of a
  document;
* `Item.explicit` — the same for items that are classified already;
* `ofValue_explicitItem`, `items?_explicit` — rewriting and classifying come to the same in either order, so the
  rewritten mappings are taken for what they are meant to be;
* `Item.isExplicit_explicit` — no file or folder in short form is left.
-/

open Yaml (Value)

/-! ### Rewriting -/

mutual

/-- An item in explicit syntax. A text, number or truth value names a file; a mapping is rewritten if it is
    classified as a folder. Null and tagged values, which stand for nothing, are left alone. -/
def explicitItem : Value → Value
  | .string s => .mapping [(.string "file", .string s)]
  | .number n => .mapping [(.string "file", .number n)]
  | .bool b => .mapping [(.string "file", .bool b)]
  | .mapping entries =>
    .mapping <| match Item.ofFields (Item.fieldsOf entries) with
      | .folder _ _ => explicitUnder "contents" entries
      | .shorthand _ (some _) => explicitShorthand entries
      | _ => entries
  | v => v

/-- The items of a list, written out. -/
def explicitItems : List Value → List Value
  | [] => []
  | v :: vs => explicitItem v :: explicitItems vs

/-- A list of items with all of them rewritten; any other value is left alone. -/
def explicitList : Value → Value
  | .sequence vs => .sequence (explicitItems vs)
  | v => v

/-- Rewrites the list of items under a key. -/
def explicitUnder (name : String) : List (Value × Value) → List (Value × Value)
  | [] => []
  | (key, value) :: entries =>
    (key, if key.isString name then explicitList value else value) :: explicitUnder name entries

/-- The entries of a folder that was given by its name as the only key. -/
def explicitShorthand : List (Value × Value) → List (Value × Value)
  | [] => []
  | (key, value) :: _ => [(.string "folder", key), (.string "contents", explicitList value)]

end

/-- A list of items behind tags, with all of them rewritten. -/
def explicitTagged : Value → Value
  | .tagged tag v => .tagged tag (explicitTagged v)
  | v => explicitList v

/-- The entries of a document with the list of items under a key rewritten. -/
def explicitEntries (name : String) (entries : List (Value × Value)) : List (Value × Value) :=
  entries.map fun e => (e.1, if e.1.isString name then explicitTagged e.2 else e.2)

/-- A document with all its items in explicit syntax. -/
def explicit : Value → Value
  | .mapping entries =>
    match listKeys.find? fun name => (Value.field? name entries).isSome with
    | some name => .mapping (explicitEntries name entries)
    | none => .mapping entries
  | v => explicitList v

namespace Item

mutual

/-- An item without implicit files and single keys for folders, at any depth. -/
def explicit : Item → Item
  | .implicitFile v => .file v none none
  | .folder v contents => .folder v (explicitAll contents)
  | .shorthand key (some contents) => .folder key (explicitAll contents)
  | i => i

/-- Items without shorthands. -/
def explicitAll : List Item → List Item
  | [] => []
  | i :: is => explicit i :: explicitAll is

end

mutual

/-- Whether the item is neither an implicit file nor a single key with a list, and no item in it is. -/
def isExplicit : Item → Bool
  | .implicitFile _ => false
  | .folder _ contents => areExplicit contents
  | .shorthand _ (some _) => false
  | _ => true

/-- Whether no item of a list is a shorthand. -/
def areExplicit : List Item → Bool
  | [] => true
  | i :: is => isExplicit i && areExplicit is

end

mutual

/-- What is written out is explicit. -/
theorem isExplicit_explicit : ∀ i : Item, i.explicit.isExplicit = true
  | .implicitFile _ | .inclusion _ _ _ | .fileTemplate _ | .file _ _ _ | .script _
  | .shorthand _ none | .ignored => rfl
  | .folder _ contents | .shorthand _ (some contents) => by
    rw [explicit, isExplicit]
    exact areExplicit_explicitAll contents

/-- What is written out is explicit. -/
theorem areExplicit_explicitAll : ∀ is : List Item, areExplicit (explicitAll is) = true
  | [] => rfl
  | i :: is => by
    rw [explicitAll, areExplicit, isExplicit_explicit i, areExplicit_explicitAll is, Bool.and_self]

end

end Item

/-! ### Fields -/

/-- The field of an entry that is rewritten if it has the given name. -/
def Field.explicitUnder (name : String) (f : Field) : Field :=
  if f.key.isString name then ⟨f.key, explicitList f.value, f.items?.map Item.explicitAll⟩ else f

namespace Item

/-- Writing out the values of one field does not change which fields there are. -/
theorem field?_explicitUnder (name other : String) (fields : List Field) :
    field? other (fields.map (Field.explicitUnder name)) =
      (field? other fields).map (Field.explicitUnder name) := by
  have hkey : (fun f : Field => f.key.isString other) ∘ Field.explicitUnder name =
      fun f : Field => f.key.isString other := by
    funext f
    rw [Function.comp_apply, Field.explicitUnder]
    split <;> rfl
  rw [field?, field?, List.find?_map, hkey]

/-- What stands under another name is not rewritten. -/
theorem value?_explicitUnder {name other : String} (h : other ≠ name) (fields : List Field) :
    (field? other (fields.map (Field.explicitUnder name))).map (·.value) =
      (field? other fields).map (·.value) := by
  rw [field?_explicitUnder]
  cases hfield : field? other fields with
  | none => rfl
  | some f =>
    -- The field that was found has the name asked for, so it is not the one whose value is rewritten.
    rw [field?] at hfield
    have hother : f.key.isString other = true := by simpa using List.find?_some hfield
    have hname : f.key.isString name = false := by
      cases hkey : f.key <;> simp_all [Value.isString]
    simp [Field.explicitUnder, hname]

/-- The contents of a folder are rewritten. -/
theorem contents_explicitUnder (fields : List Field) :
    (field? "contents" (fields.map (Field.explicitUnder "contents"))).bind (·.items?) =
      ((field? "contents" fields).bind (·.items?)).map explicitAll := by
  rw [field?_explicitUnder]
  cases hfield : field? "contents" fields with
  | none => rfl
  | some f =>
    rw [field?] at hfield
    have hkey : f.key.isString "contents" = true := by simpa using List.find?_some hfield
    simp [Field.explicitUnder, hkey]

/-! ### Classifying rewritten mappings -/

/-- A mapping that is taken for a folder still is one with its contents rewritten. -/
theorem ofFields_folder {fields : List Field} {v : Value} {contents : List Item}
    (h : ofFields fields = .folder v contents) :
    ofFields (fields.map (Field.explicitUnder "contents")) = .folder v (explicitAll contents) := by
  simp only [ofFields] at h ⊢
  simp (disch := decide) only [value?_explicitUnder, contents_explicitUnder]
  -- The keys are looked for in the same order: only that of a folder can have been found.
  cases hproject : (field? "project_template" fields).map (·.value) with
  | some name => simp [hproject] at h
  | none =>
  cases htemplate : (field? "file_template" fields).map (·.value) with
  | some name => simp [hproject, htemplate] at h
  | none =>
  cases hfile : (field? "file" fields).map (·.value) with
  | some name => simp [hproject, htemplate, hfile] at h
  | none =>
  cases hfolder : (field? "folder" fields).map (·.value) with
  | some name =>
    simp only [hproject, htemplate, hfile, hfolder, folder.injEq] at h ⊢
    obtain ⟨rfl, rfl⟩ := h
    refine ⟨rfl, ?_⟩
    cases (field? "contents" fields).bind (·.items?) with
    | none => rfl
    | some contents => rfl
  | none =>
    -- No key of an item was found, so the item is a shorthand or ignored.
    simp only [hproject, htemplate, hfile, hfolder] at h
    split at h
    · cases h
    · split at h <;> cases h

/-- A mapping that is taken for a single key has no other entry. -/
theorem eq_of_ofFields_shorthand {fields : List Field} {key : Value} {contents? : Option (List Item)}
    (h : ofFields fields = .shorthand key contents?) : ∃ value, fields = [⟨key, value, contents?⟩] := by
  simp only [ofFields] at h
  repeat' split at h
  all_goals cases h
  exact ⟨_, rfl⟩

/-- No mapping is taken for an implicit file. -/
theorem ofFields_ne_implicitFile (fields : List Field) (v : Value) :
    ofFields fields ≠ .implicitFile v := by
  intro h
  simp only [ofFields] at h
  repeat' split at h
  all_goals cases h

/-- A single key that is spelled out is taken for a folder. -/
theorem ofFields_spelledOut (key value : Value) (items? contents? : Option (List Item)) :
    ofFields [⟨.string "folder", key, items?⟩, ⟨.string "contents", value, contents?⟩] =
      .folder key (contents?.getD []) := by
  simp [ofFields, field?, Value.isString]

mutual

/-- Rewriting an item and classifying it come to the same in either order. -/
theorem ofValue_explicitItem : ∀ v : Value, ofValue (explicitItem v) = (ofValue v).explicit
  | .string _ | .number _ | .bool _ => rfl
  | .null | .sequence _ | .tagged _ _ => rfl
  | .mapping entries => by
    rw [explicitItem, ofValue, ofValue]
    cases hitem : ofFields (fieldsOf entries) with
    | implicitFile v => exact absurd hitem (ofFields_ne_implicitFile _ v)
    | folder v contents =>
      rw [explicit, ← ofFields_folder hitem, ← fieldsOf_explicitUnder "contents" entries]
    | shorthand key contents? =>
      obtain ⟨value, hfields⟩ := eq_of_ofFields_shorthand hitem
      cases contents? with
      -- The value of a shorthand that has contents is a list, which is rewritten below the new key.
      | none => exact hitem
      | some contents =>
        -- There is one entry, and its value is the list.
        cases entries with
        | nil => cases hfields
        | cons entry entries =>
          obtain ⟨key', value'⟩ := entry
          rw [fieldsOf, List.cons.injEq, Field.mk.injEq] at hfields
          obtain ⟨⟨rfl, -, hcontents⟩, -⟩ := hfields
          have hrewritten := itemsOf?_explicitList value'
          rw [hcontents] at hrewritten
          show ofFields (fieldsOf (explicitShorthand ((key', value') :: entries))) = _
          rw [explicitShorthand, fieldsOf, fieldsOf, fieldsOf, ofFields_spelledOut, hrewritten]
          rfl
    | inclusion v title? description? => exact hitem
    | fileTemplate v => exact hitem
    | file v content? template? => exact hitem
    | script v => exact hitem
    | ignored => exact hitem

/-- Items that are written out are read as the items, written out. -/
theorem ofValues_explicitItems : ∀ vs : List Value,
    ofValues (explicitItems vs) = explicitAll (ofValues vs)
  | [] => rfl
  | v :: vs => by
    rw [explicitItems, ofValues, ofValues, explicitAll, ofValue_explicitItem v, ofValues_explicitItems vs]

/-- A list of items that is written out. -/
theorem itemsOf?_explicitList : ∀ v : Value,
    itemsOf? (explicitList v) = (itemsOf? v).map explicitAll
  | .sequence vs => by
    rw [explicitList, itemsOf?, itemsOf?, ofValues_explicitItems vs]
    rfl
  | .null | .bool _ | .number _ | .string _ | .mapping _ | .tagged _ _ => rfl

/-- The fields of entries of which one is written out. -/
theorem fieldsOf_explicitUnder (name : String) : ∀ entries : List (Value × Value),
    fieldsOf (explicitUnder name entries) = (fieldsOf entries).map (Field.explicitUnder name)
  | [] => rfl
  | (key, value) :: entries => by
    rw [explicitUnder, fieldsOf, fieldsOf, List.map_cons, fieldsOf_explicitUnder name entries,
      Field.explicitUnder]
    split
    · rw [itemsOf?_explicitList value]
    · rfl

end

end Item

/-! ### Documents -/

/-- The field that is written out, and all others. -/
theorem field?_explicitEntries (name other : String) (entries : List (Value × Value)) :
    Value.field? other (explicitEntries name entries) =
      if other = name then (Value.field? other entries).map explicitTagged
      else Value.field? other entries := by
  induction entries with
  | nil => simp [explicitEntries, Value.field?]
  | cons entry entries ih =>
    obtain ⟨key, value⟩ := entry
    rw [explicitEntries, List.map_cons, ← explicitEntries, Value.field?, Value.field?, ih]
    by_cases hother : key.isString other = true
    -- A key is the name of at most one field.
    · have hname : key.isString name = true ↔ other = name := by
        cases key <;> simp_all [Value.isString]
      by_cases heq : other = name
      · simp [heq ▸ hother, heq]
      · simp [hother, heq, hname]
    · simp [hother]

/-- What is behind the tags is rewritten. -/
theorem untagged_explicitTagged (v : Value) : (explicitTagged v).untagged = explicitList v.untagged := by
  fun_induction explicitTagged v with
  | case1 tag v ih => exact ih
  | case2 v hv =>
    cases v with
    | tagged tag v => exact absurd rfl (hv tag v)
    | null | bool _ | number _ | string _ | sequence _ | mapping _ => rfl

/-- The items of a rewritten document are the rewritten items of the document. -/
theorem itemValues?_explicit (v : Value) :
    itemValues? (explicit v) = (itemValues? v).map explicitItems := by
  cases v with
  | mapping entries =>
    -- The list is under the first of the keys that is there, which is also rewritten.
    rw [explicit, itemValues?, listKeys]
    cases hfiles : Value.field? "files" entries with
    | some value =>
      have hfiles' : Value.field? "files" (explicitEntries "files" entries) = some (explicitTagged value) := by
        rw [field?_explicitEntries, if_pos rfl, hfiles, Option.map_some]
      simp only [List.find?_cons, hfiles, Option.isSome_some, itemValues?, listKeys,
        List.findSome?_cons, hfiles', Option.map_some, untagged_explicitTagged]
      cases value.untagged <;> rfl
    | none =>
      cases hitems : Value.field? "items" entries with
      | none => simp [hfiles, hitems, itemValues?, listKeys]
      | some value =>
        -- The first key stays absent, so the second one is found again.
        have hfiles' : Value.field? "files" (explicitEntries "items" entries) = none := by
          rw [field?_explicitEntries, if_neg (by decide), hfiles]
        have hitems' : Value.field? "items" (explicitEntries "items" entries) =
            some (explicitTagged value) := by
          rw [field?_explicitEntries, if_pos rfl, hitems, Option.map_some]
        simp only [List.find?_cons, hfiles, hitems, Option.isSome_some, Option.isSome_none, itemValues?,
          listKeys, List.findSome?_cons, hfiles', hitems', Option.map_some, untagged_explicitTagged]
        cases value.untagged <;> rfl
  | sequence vs => rfl
  | null | bool _ | number _ | string _ | tagged _ _ => rfl

/-- Documents may be rewritten or classified first. -/
theorem items?_explicit (v : Value) :
    items? (explicit v) = (items? v).map Item.explicitAll := by
  rw [items?, items?, itemValues?_explicit, Option.map_map, Option.map_map]
  congr 1
  funext vs
  exact Item.ofValues_explicitItems vs

end Scaffold.Document
