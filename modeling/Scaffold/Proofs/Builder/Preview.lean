import Scaffold.Proofs.Builder.Cycles
import Scaffold.Proofs.Builder.Names
import Scaffold.Proofs.Trees.Preview

namespace Scaffold.Builder

/-!
# Previews of built trees

The tree of a document can be looked at before it is written. Its names are clean, so its drawing hides nothing but
contents and templates, unless a name has a line break in it.

* `build_preview` — what the drawings of built trees say.
-/

open Yaml (Value)

variable {σ σ' : Type}

/-- Without line breaks, the names of a built tree are plain. -/
theorem hasPlainNames_of_build {b : Builder σ} {v : Value} {ctx : Context} {stack : List String} {s s₁ : σ}
    {t : Tree} (h : (b.build v ctx stack).run s = (.ok (some t), s₁)) (hbreak : ∀ n ∈ t.names, '\n' ∉ n.toList) :
    t.HasPlainNames := fun n hn => ⟨names_of_build h n hn, hbreak n hn⟩

/-- **Previews.** Two built trees without line breaks in their names are drawn the same if and only if they have the
    same names, of files and of folders, one inside the other and in the same order. The lines of a drawing that do
    not end with a slash are as many as the files of the tree. -/
theorem build_preview {b : Builder σ} {b' : Builder σ'} {v v' : Value} {ctx ctx' : Context}
    {stack stack' : List String} {s s₁ : σ} {s' s₁' : σ'} {t u : Tree}
    (ht : (b.build v ctx stack).run s = (.ok (some t), s₁))
    (hu : (b'.build v' ctx' stack').run s' = (.ok (some u), s₁'))
    (htbreak : ∀ n ∈ t.names, '\n' ∉ n.toList) (hubreak : ∀ n ∈ u.names, '\n' ∉ n.toList) :
    (t.render = u.render ↔ t.outline = u.outline) ∧
      (Chars.lines t.render.toList).countP (fun line => line.getLast? ≠ some '/') = t.countFiles := by
  have htplain := hasPlainNames_of_build ht htbreak
  have huplain := hasPlainNames_of_build hu hubreak
  exact ⟨Tree.render_eq_iff htplain huplain, Tree.countP_lines_render htplain⟩

/-! ### A folder in full and in short form -/

def previewBuilder : Builder Unit := ⟨⟨idleEngine, none⟩, .ofTables .empty .empty⟩

/-- A folder with a file that has a content, and a file behind it. -/
def inFull : Value :=
  .sequence [.mapping [(.string "folder", .string "docs"), (.string "contents", .sequence
    [.mapping [(.string "file", .string "a b"), (.string "content", .string "text")]])], .string "b"]

/-- The same in short form, with empty files. -/
def inShort : Value := .sequence [.mapping [(.string "docs", .sequence [.string "a b"])], .string "b"]

/-- What is seen of the tree that steps give. -/
theorem exists_tree_of_view {α : Type} {x : Running Unit (Option Tree)} {view : Tree → α} {seen : α}
    (h : (x.run ()).1.toOption.join.map view = some seen) :
    ∃ t, x.run () = (.ok (some t), ()) ∧ view t = seen := by
  rcases hrun : x.run () with ⟨e | _ | t, _⟩
  · rw [hrun] at h
    cases h
  · rw [hrun] at h
    cases h
  · rw [hrun] at h
    exact ⟨t, rfl, Option.some.inj h⟩

/-- The two trees differ in what is in their files, and their drawings do not show it. -/
theorem build_preview_short : ∃ t u,
    (previewBuilder.build inFull .empty []).run () = (.ok (some t), ()) ∧
    (previewBuilder.build inShort .empty []).run () = (.ok (some u), ()) ∧
    (∀ n ∈ t.names, '\n' ∉ n.toList) ∧ (∀ n ∈ u.names, '\n' ∉ n.toList) ∧
    t.files ≠ u.files ∧ t.outline = u.outline ∧
    (Chars.lines t.render.toList).countP (fun line => line.getLast? ≠ some '/') = 2 := by
  have hfull : ((previewBuilder.build inFull .empty []).run ()).1.toOption.join.map
      (fun t => (t.names, t.files, t.render)) = some (["Project", "docs", "a b", "b"], [("a b", "text"), ("b", "")],
        "Project/\n  docs/\n    a b\n  b\n") := by
    decide +kernel
  have hshort : ((previewBuilder.build inShort .empty []).run ()).1.toOption.join.map
      (fun t => (t.names, t.files, t.render)) = some (["Project", "docs", "a b", "b"], [("a b", ""), ("b", "")],
        "Project/\n  docs/\n    a b\n  b\n") := by
    decide +kernel
  obtain ⟨t, ht, htview⟩ := exists_tree_of_view hfull
  obtain ⟨u, hu, huview⟩ := exists_tree_of_view hshort
  simp only [Prod.mk.injEq] at htview huview
  obtain ⟨htnames, htfiles, htrender⟩ := htview
  obtain ⟨hunames, hufiles, hurender⟩ := huview
  have htbreak : ∀ n ∈ t.names, '\n' ∉ n.toList := by
    rw [htnames]
    decide
  have hubreak : ∀ n ∈ u.names, '\n' ∉ n.toList := by
    rw [hunames]
    decide
  obtain ⟨hsame, hcount⟩ := build_preview ht hu htbreak hubreak
  refine ⟨t, u, ht, hu, htbreak, hubreak, ?_, hsame.1 (htrender.trans hurender.symm), ?_⟩
  · rw [htfiles, hufiles]
    decide
  · rw [hcount, Tree.countFiles_eq, htfiles]
    rfl

end Scaffold.Builder
