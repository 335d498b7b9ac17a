import Scaffold.Proofs.Builder.Postconditions
import Scaffold.Proofs.Trees

namespace Scaffold

/-!
# Names of built trees

Names are made of texts that nobody has checked: placeholders stand for any text, code gives any item,
templates come from a library. All of them are sanitized on their way into a tree.

* `Builder.itemsWithin_names`, `Builder.names_of_build` — the names in a built tree are clean.
-/

open Document (Item)
open Yaml (Value)

/-! ### Names in built trees -/

namespace Builder

variable {σ : Type}

/-- Clean names are kept by everything that a document does by itself. -/
theorem closed_names : Closed (fun t => ∀ n ∈ t.names, FileName.IsClean n) (fun _ => True) where
  file name content h := by simpa [Tree.names] using h
  folder name trees h htrees := by
    intro n hn
    rw [Tree.names, List.mem_cons] at hn
    rcases hn with rfl | hn
    · exact h
    · obtain ⟨t, ht, hn⟩ := Tree.mem_namesOf.1 hn
      exact htrees t ht n hn
  credit template t h := by rwa [Tree.names_credit]
  filling _ _ := trivial
  inTemplate _ _ _ _ := trivial
  missing _ _ := trivial
  malformed _ := trivial

/-- All names in the trees of items are clean, whatever is opened on the way. -/
theorem itemsWithin_names (b : Builder σ) (depth : Nat) (ctx : Context) (stack : List String)
    (is : List Item) :
    Yields (b.itemsWithin depth ctx stack is)
      (fun trees => ∀ t ∈ trees, ∀ n ∈ t.names, FileName.IsClean n) (fun _ => True) := by
  induction depth generalizing ctx stack is with
  | zero =>
    -- Nothing can be opened: what is nested fails.
    refine items_yields closed_names ?_ is fun v _ => ?_
    · exact inclusion_yields closed_names (fun _ _ => trivial) (fun _ _ _ _ => trivial)
        (fun _ _ _ _ _ _ _ => yields_throw trivial) ctx
    · exact script_yields closed_names (fun _ _ _ => trivial) ctx v
        fun _ _ _ => yields_throw trivial
  | succ depth ih =>
    refine items_yields closed_names ?_ is fun v _ => ?_
    · exact inclusion_yields closed_names (fun _ _ => trivial) (fun _ _ _ _ => trivial)
        (fun ctx name _ is _ _ _ => ih ctx (stack ++ [name]) is) ctx
    · exact script_yields closed_names (fun _ _ _ => trivial) ctx v fun _ is _ => ih ctx stack is

theorem rootName_isClean (ctx : Context) : FileName.IsClean (rootName ctx) := by
  unfold rootName
  exact FileName.sanitize_isClean _

/-- **Built names.** All names in the tree of a document are clean, that of the root included. -/
theorem names_of_build {b : Builder σ} {v : Value} {ctx : Context} {stack : List String}
    {s s' : σ} {t : Tree} (h : (b.build v ctx stack).run s = (.ok (some t), s')) :
    ∀ n ∈ t.names, FileName.IsClean n := by
  -- The root is named by the context and holds trees that are clean already.
  have hyields : Yields (b.build v ctx stack)
      (fun t? => ∀ t ∈ t?, ∀ n ∈ t.names, FileName.IsClean n) (fun _ => True) := by
    unfold build
    generalize b.library.nesting + scriptNesting = depth
    cases Document.items? v with
    | none => exact yields_pure (by simp)
    | some is =>
      refine (b.itemsWithin_names depth ctx stack is).bind fun trees htrees => yields_pure ?_
      intro t ht
      cases ht
      exact closed_names.folder (rootName ctx) trees (rootName_isClean ctx) htrees
  exact hyields.ok_of_run h t rfl

end Builder

end Scaffold
