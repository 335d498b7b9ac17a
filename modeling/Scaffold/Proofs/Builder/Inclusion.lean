import Scaffold.Proofs.Builder.Postconditions
import Mathlib.Data.List.Nodup
import Mathlib.Data.List.Perm.Subperm

namespace Scaffold

/-!
# What a document opens

The items of a document open other ones: the project templates that they include and what their code
gives. Nothing else of how these are built shows in the trees.

* `Table.fresh` — the names of a table that are not open yet; each inclusion leaves fewer of them;
* `Document.holdsCode` — whether there is code among the items of a text;
* `Builder.inclusion_congr`, `Builder.script_congr` — an inclusion opens a template that is not open yet, on
  top of those that are; code opens its items below the same ones;
* `Builder.items_congr_of_codes`, `Builder.items_congr` — the items of a document, with and without code.
-/

open Document (Item)
open Yaml (Value)

variable {σ : Type}

/-! ### Names that are not open -/

namespace Table

/-- The names in a table that are not among those open. -/
def fresh {α : Type} (t : Table α) (stack : List String) : List String :=
  t.keys.filter (· ∉ stack)

/-- What is found under a name is an entry of the table. -/
theorem mem_entries_of_get? {α : Type} {t : Table α} {name : String} {x : α}
    (h : t.get? name = some x) : (name, x) ∈ t.entries := by
  obtain ⟨entries⟩ := t
  simp only [get?] at h ⊢
  -- The induction is on the entries, the first of which counts.
  induction entries with
  | nil => simp at h
  | cons e entries ih =>
    obtain ⟨k, v⟩ := e
    rw [lookup_cons_ite] at h
    by_cases hk : name = k
    · rw [if_pos hk, Option.some.injEq] at h
      simp [hk, h]
    · rw [if_neg hk] at h
      exact List.mem_cons_of_mem _ (ih h)

/-- What is found under a name has a key in the table. -/
theorem mem_keys_of_get? {α : Type} {t : Table α} {name : String} {x : α}
    (h : t.get? name = some x) : name ∈ t.keys :=
  List.mem_map_of_mem (mem_entries_of_get? h)

/-- Opening a name of the table leaves fewer fresh ones. -/
theorem length_fresh_append {α : Type} {t : Table α} {stack : List String} {name : String} {x : α}
    (hx : t.get? name = some x) (hname : name ∉ stack) :
    (t.fresh (stack ++ [name])).length < (t.fresh stack).length := by
  -- With the name open, one template less can be opened.
  have hfilter : t.fresh (stack ++ [name]) = (t.fresh stack).filter (· ≠ name) := by
    simp only [fresh, List.filter_filter]
    refine List.filter_congr fun k _ => ?_
    simp [and_comm]
  have hmem : name ∈ t.fresh stack := by
    simpa [fresh, hname] using mem_keys_of_get? hx
  rw [hfilter, List.length_filter_lt_length_iff_exists]
  exact ⟨name, hmem, by simp⟩

/-- There are at most as many fresh templates as templates. -/
theorem length_fresh_le {α : Type} (t : Table α) (stack : List String) :
    (t.fresh stack).length ≤ t.size := by
  have h := List.length_filter_le (· ∉ stack) t.keys
  simpa [fresh, keys, size] using h

end Table

/-! ### Documents without code -/

/-- Whether the text of a document holds code among its items, in folders at any depth. -/
def Document.holdsCode (text : String) : Bool :=
  match Document.parse text with
  | .error _ => false
  | .ok v => ((Document.items? v).map fun is => !(Item.codesOf is).isEmpty).getD false

/-- A document that holds no code has no items with code. -/
theorem Document.codesOf_eq_nil {text : String} {v : Value} {is : List Item}
    (h : Document.holdsCode text = false) (hv : Document.parse text = .ok v)
    (his : Document.items? v = some is) : Item.codesOf is = [] := by
  rw [holdsCode, hv] at h
  simpa [his] using h

namespace Builder

/-- The items of a template are those of its text. -/
theorem templateItems_eq_ok {name source : String} {is : List Item}
    (h : templateItems name source = .ok is) :
    ∃ v, Document.parse source = .ok v ∧ Document.items? v = some is := by
  unfold templateItems at h
  generalize hread : Document.parse source = read at h
  cases read with
  | error e => cases h
  | ok v =>
    refine ⟨v, rfl, ?_⟩
    dsimp only [bind, Except.bind] at h
    -- A text that could be read fails only when it is no list of items.
    split at h
    · rename_i its hits
      cases h
      exact hits
    · cases h

/-- Neither has a template. -/
theorem codesOf_templateItems {name source : String} {is : List Item}
    (hcode : Document.holdsCode source = false) (h : templateItems name source = .ok is) :
    Item.codesOf is = [] := by
  obtain ⟨v, hv, his⟩ := templateItems_eq_ok h
  exact Document.codesOf_eq_nil hcode hv his

/-! ### What the items of a document open -/

/-- An inclusion opens a template of the library that is not open yet, on top of those that are. -/
theorem inclusion_congr {b : Builder σ} {nested nested' : Nested σ} {stack : List String}
    (h : ∀ ctx name source is, name ∉ stack → b.library.project? name = some source →
      templateItems name source = .ok is →
      nested ctx (stack ++ [name]) is = nested' ctx (stack ++ [name]) is)
    (ctx : Context) (v : Value) (title? description? : Option Value) :
    b.inclusion nested ctx stack v title? description? =
      b.inclusion nested' ctx stack v title? description? := by
  unfold inclusion
  -- Only what is nested below the template may differ.
  refine congrArg (b.nameOfTemplate ctx v >>= ·) (funext fun name => ?_)
  split
  · rfl
  · split
    · rfl
    · rename_i hmem
      -- Past both checks the name is new on the stack, as the hypothesis asks.
      cases hsource : b.library.project? name with
      | none => rfl
      | some source =>
        refine congrArg (b.overrides ctx title? description? >>= ·) (funext fun overrides => ?_)
        dsimp only
        generalize hread : templateItems name source = read
        cases read with
        | error e => rfl
        | ok is =>
          dsimp only
          rw [h _ name source is (by simpa using hmem) hsource hread]

/-- Code opens what is inside a document with the templates that are open already. -/
theorem script_congr {b : Builder σ} {nested nested' : Nested σ} {stack : List String}
    (h : ∀ ctx is, nested ctx stack is = nested' ctx stack is) (ctx : Context) (v : Value) :
    b.script nested ctx stack v = b.script nested' ctx stack v := by
  simp only [script]
  refine congrArg (b.filler.runCode ctx scriptDocument _ >>= ·) (funext fun x => ?_)
  cases scriptItems x with
  | error e => rfl
  | ok is =>
    dsimp only
    rw [h]

mutual

/-- An item depends on the nested items by its inclusions and scripts only. -/
theorem item_congr {b : Builder σ} {nested nested' : Nested σ} {ctx : Context}
    {stack : List String}
    (hinclusion : ∀ v title? description?, b.inclusion nested ctx stack v title? description? =
      b.inclusion nested' ctx stack v title? description?) :
    ∀ i : Item, (∀ v ∈ i.codes, b.script nested ctx stack v = b.script nested' ctx stack v) →
      b.item nested ctx stack i = b.item nested' ctx stack i
  -- The cases follow the kinds of items; those with contents go on with the list.
  | .implicitFile _, _ | .fileTemplate _, _ | .file _ _ _, _ | .shorthand _ none, _
  | .ignored, _ => by simp only [item]
  | .inclusion v title? description?, _ => by
    simp only [item]
    exact hinclusion v title? description?
  | .script v, hscript => by
    simp only [item]
    exact hscript v (by simp [Item.codes])
  | .folder v contents, hscript => by
    simp only [item]
    rw [items_congr_of_codes hinclusion contents (by simpa [Item.codes] using hscript)]
  | .shorthand key (some contents), hscript => by
    simp only [item]
    rw [items_congr_of_codes hinclusion contents (by simpa [Item.codes] using hscript)]

/-- **What items open.** Items open nothing but what their inclusions and their code do: folders pass on
    the templates that are open. -/
theorem items_congr_of_codes {b : Builder σ} {nested nested' : Nested σ} {ctx : Context}
    {stack : List String}
    (hinclusion : ∀ v title? description?, b.inclusion nested ctx stack v title? description? =
      b.inclusion nested' ctx stack v title? description?) :
    ∀ is : List Item,
      (∀ v ∈ Item.codesOf is, b.script nested ctx stack v = b.script nested' ctx stack v) →
      b.items nested ctx stack is = b.items nested' ctx stack is
  | [], _ => by simp only [items]
  | i :: is, hscript => by
    have hhere : ∀ v ∈ i.codes, b.script nested ctx stack v = b.script nested' ctx stack v :=
      fun v hv => hscript v (by simp [Item.codesOf, hv])
    have hrest : ∀ v ∈ Item.codesOf is,
        b.script nested ctx stack v = b.script nested' ctx stack v :=
      fun v hv => hscript v (by simp [Item.codesOf, hv])
    simp only [items]
    rw [item_congr hinclusion i hhere, items_congr_of_codes hinclusion is hrest]

end

/-- Without code among them, items open nothing but what their inclusions do. -/
theorem items_congr {b : Builder σ} {nested nested' : Nested σ} {ctx : Context}
    {stack : List String}
    (hinclusion : ∀ v title? description?, b.inclusion nested ctx stack v title? description? =
      b.inclusion nested' ctx stack v title? description?)
    (is : List Item) (h : Item.codesOf is = []) :
    b.items nested ctx stack is = b.items nested' ctx stack is :=
  items_congr_of_codes hinclusion is (by simp [h])

end Builder

end Scaffold
