import Scaffold.Builder
import Scaffold.Proofs.Document.Explicit

namespace Scaffold

/-!
# Short and explicit syntax

Files and folders that are given in short form are built like those given with the keys `file`, `folder` and
`contents`: their names are filled and sanitized in the same order, and failures come at the same places.

* `Builder.items_explicitAll` — items are built like their explicit forms;
* `Builder.build_explicit` — so is a document. In its explicit form, no item is in short form.
-/

open Document (Item)
open Yaml (Value)

namespace Builder

variable {σ : Type}

/-- A file that is given with neither content nor template is empty. -/
theorem file_empty (b : Builder σ) (ctx : Context) (v : Value) :
    b.file ctx v none none = do return [.file (← b.name ctx v) "" none] := by
  simp only [file, pure_bind]

section Items

variable (b : Builder σ) (nested : Nested σ) (ctx : Context) (stack : List String)

mutual

theorem item_explicit : ∀ i : Item, b.item nested ctx stack i.explicit = b.item nested ctx stack i
  | .implicitFile v => by
    rw [Item.explicit, item, item, file_empty]
  | .folder v contents => by
    rw [Item.explicit, item, item, items_explicitAll contents]
  | .shorthand key (some contents) => by
    rw [Item.explicit, item, item, items_explicitAll contents]
  | .shorthand _ none | .inclusion _ _ _ | .fileTemplate _ | .file _ _ _ | .script _ | .ignored => rfl

/-- **Items in explicit form.** They are built like the items themselves. -/
theorem items_explicitAll : ∀ is : List Item,
    b.items nested ctx stack (Item.explicitAll is) = b.items nested ctx stack is
  | [] => rfl
  | i :: is => by
    rw [Item.explicitAll, items, items, item_explicit i, items_explicitAll is]

end

end Items

/-- However many documents may be opened inside one another. -/
theorem itemsWithin_explicitAll (b : Builder σ) (depth : Nat) (ctx : Context) (stack : List String)
    (is : List Item) :
    b.itemsWithin depth ctx stack (Item.explicitAll is) = b.itemsWithin depth ctx stack is := by
  cases depth with
  | zero => exact b.items_explicitAll _ ctx stack is
  | succ depth => exact b.items_explicitAll _ ctx stack is

/-- **Explicit syntax.** A document and its explicit form are built alike in every context, with every engine and
    every library, below any templates that are open: the same tree comes of it, or nothing, or the same error.
    In the explicit form no file or folder is left in short form. -/
theorem build_explicit (b : Builder σ) (v : Value) (ctx : Context) (stack : List String) :
    (Document.items? (Document.explicit v)).all Item.areExplicit = true ∧
      b.build (Document.explicit v) ctx stack = b.build v ctx stack := by
  rw [Document.items?_explicit]
  -- Both halves are about the items, which the explicit document lists in their explicit form.
  constructor
  · cases Document.items? v with
    | none => rfl
    | some is => exact Item.areExplicit_explicitAll is
  · rw [build, build, Document.items?_explicit]
    cases Document.items? v with
    | none => rfl
    | some is =>
      rw [Option.map_some]
      dsimp only
      rw [b.itemsWithin_explicitAll]

end Builder

end Scaffold
