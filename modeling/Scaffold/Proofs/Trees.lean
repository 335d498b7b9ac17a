import Scaffold.Tree
import Mathlib.Data.List.Nodup

namespace Scaffold

/-!
# Parts of trees

* `Tree.induction_on` — induction from the children of a folder to the folder;
* `Tree.names` — the names in a tree, the root's first; `names_credit`, that credit does not touch them;
* `Tree.files` — the files in a tree, in order; `countFiles_eq`, that there are as many as are counted;
* `Tree.at?` — the node to which names lead from a node, and `Tree.FileAbove`, whether a file is on the way;
* `Tree.distinctSiblings` — whether no two nodes in one folder share a name; then `named?_of_mem` finds each
  of them by its name.
-/

namespace Tree

/-- What holds of files, and of folders if it holds of what is in them, holds of all trees. -/
@[elab_as_elim]
theorem induction_on {motive : Tree → Prop} (t : Tree)
    (file : ∀ name content t?, motive (.file name content t?))
    (folder : ∀ name children t?, (∀ child ∈ children, motive child) → motive (.folder name children t?)) :
    motive t :=
  match t with
  | .file name content t? => file name content t?
  | .folder name children t? => folder name children t? fun child _ => induction_on child file folder
termination_by sizeOf t
decreasing_by
  have := List.sizeOf_lt_of_mem ‹child ∈ children›
  simp only [Tree.folder.sizeOf_spec]
  omega

/-! ### Names in a tree -/

mutual

/-- The names of a tree and of all that is in it, from the root down. -/
def names : Tree → List String
  | .file name _ _ => [name]
  | .folder name children _ => name :: namesOf children

/-- The names of trees and of all that is in them. -/
def namesOf : List Tree → List String
  | [] => []
  | t :: ts => names t ++ namesOf ts

end

/-- A name in some trees is a name in one of them. -/
theorem mem_namesOf {n : String} {ts : List Tree} : n ∈ namesOf ts ↔ ∃ t ∈ ts, n ∈ t.names := by
  induction ts with
  | nil => simp [namesOf]
  | cons t ts ih => simp [namesOf, ih]

mutual

/-- Credit goes to a tree, not to its names. -/
theorem names_credit (template : String) : ∀ t : Tree, (t.credit template).names = t.names
  | .file name content t? => by simp only [credit, names]
  | .folder name children t? => by
    simp only [credit, names]
    rw [namesOf_creditAll template children]

/-- Who is credited for trees does not change their names. -/
theorem namesOf_creditAll (template : String) :
    ∀ ts : List Tree, namesOf (creditAll template ts) = namesOf ts
  | [] => by simp only [creditAll]
  | t :: ts => by
    simp only [creditAll, namesOf]
    rw [names_credit template t, namesOf_creditAll template ts]

end

/-! ### Files in a tree -/

mutual

/-- The names and contents of the files in a tree, from first to last. -/
def files : Tree → List (String × String)
  | .file name content _ => [(name, content)]
  | .folder _ children _ => filesOf children

/-- The files of some trees. -/
def filesOf : List Tree → List (String × String)
  | [] => []
  | t :: ts => files t ++ filesOf ts

end

mutual

/-- Files are counted as they are listed. -/
theorem countFiles_eq : ∀ t : Tree, t.countFiles = t.files.length
  | .file _ _ _ => rfl
  | .folder _ children _ => by
    rw [countFiles, files]
    exact countFilesIn_eq children

/-- The files of some trees are counted as they are listed. -/
theorem countFilesIn_eq : ∀ ts : List Tree, countFilesIn ts = (filesOf ts).length
  | [] => rfl
  | t :: ts => by
    rw [countFilesIn, filesOf, List.length_append, countFiles_eq t, countFilesIn_eq ts]

end

/-- The files of trees one behind the other. -/
theorem filesOf_append (ts us : List Tree) : filesOf (ts ++ us) = filesOf ts ++ filesOf us := by
  induction ts with
  | nil => rfl
  | cons t ts ih => rw [List.cons_append, filesOf, filesOf, ih, List.append_assoc]

mutual

/-- Who is credited for a tree does not change its files. -/
theorem files_credit (template : String) : ∀ t : Tree, (t.credit template).files = t.files
  | .file name content t? => by simp only [credit, files]
  | .folder name children t? => by
    simp only [credit, files]
    exact filesOf_creditAll template children

/-- Who is credited for trees does not change their files. -/
theorem filesOf_creditAll (template : String) :
    ∀ ts : List Tree, filesOf (creditAll template ts) = filesOf ts
  | [] => by simp only [creditAll]
  | t :: ts => by
    simp only [creditAll, filesOf]
    rw [files_credit template t, filesOf_creditAll template ts]

end

/-! ### Nodes -/

/-- Whether a tree is a file. -/
def isFile : Tree → Bool
  | .file _ _ _ => true
  | .folder _ _ _ => false

/-- The first of the trees that has the name. -/
def named? (name : String) (ts : List Tree) : Option Tree := ts.find? (·.name = name)

/-- The node to which names lead. -/
def at? (t : Tree) : List String → Option Tree
  | [] => some t
  | name :: way =>
    match named? name t.children with
    | some child => child.at? way
    | none => none

/-- A way goes through a child that is found by its name. -/
theorem at?_cons_eq_some {t child node : Tree} {name : String} {way : List String}
    (hchild : named? name t.children = some child) (h : child.at? way = some node) :
    t.at? (name :: way) = some node := by
  rw [at?, hchild]
  exact h

/-- A way of more than one name goes through a child. -/
theorem exists_child_of_at? {t node : Tree} {name : String} {way : List String}
    (h : t.at? (name :: way) = some node) :
    ∃ child ∈ t.children, child.name = name ∧ child.at? way = some node := by
  rw [at?] at h
  cases hchild : named? name t.children with
  | none =>
    rw [hchild] at h
    cases h
  | some child =>
    rw [hchild] at h
    exact ⟨child, List.mem_of_find?_eq_some hchild, by simpa using List.find?_some hchild, h⟩

mutual

/-- No two nodes in one folder share a name. -/
def distinctSiblings : Tree → Bool
  | .file _ _ _ => true
  | .folder _ children _ => decide (children.map name).Nodup && distinctSiblingsIn children

/-- Whether siblings have different names, anywhere in some trees. -/
def distinctSiblingsIn : List Tree → Bool
  | [] => true
  | t :: ts => distinctSiblings t && distinctSiblingsIn ts

end

/-- The same, as a statement about each tree. -/
theorem distinctSiblingsIn_iff {ts : List Tree} :
    distinctSiblingsIn ts = true ↔ ∀ t ∈ ts, t.distinctSiblings = true := by
  induction ts with
  | nil => simp [distinctSiblingsIn]
  | cons t ts ih => simp [distinctSiblingsIn, ih]

/-- The children of a tree have different names. -/
theorem nodup_children {t : Tree} (h : t.distinctSiblings = true) : (t.children.map name).Nodup := by
  cases t with
  | file _ _ _ => exact List.nodup_nil
  | folder _ children _ =>
    rw [distinctSiblings, Bool.and_eq_true, decide_eq_true_eq] at h
    exact h.1

/-- So have the children of its children. -/
theorem distinctSiblings_child {t child : Tree} (h : t.distinctSiblings = true)
    (hchild : child ∈ t.children) : child.distinctSiblings = true := by
  cases t with
  | file _ _ _ => cases hchild
  | folder _ children _ =>
    rw [distinctSiblings, Bool.and_eq_true] at h
    exact distinctSiblingsIn_iff.1 h.2 child hchild

@[simp] theorem named?_cons_self (t : Tree) (ts : List Tree) : named? t.name (t :: ts) = some t := by
  simp [named?]

/-- A child of another name is passed over. -/
theorem named?_cons_of_ne {t : Tree} {n : String} (h : n ≠ t.name) (ts : List Tree) :
    named? n (t :: ts) = named? n ts := by
  rw [named?, List.find?_cons_of_neg (by simpa using Ne.symm h)]
  rfl

/-- No child is found by a name that none has. -/
theorem named?_eq_none {n : String} {ts : List Tree} (h : n ∉ ts.map name) : named? n ts = none := by
  rw [named?, List.find?_eq_none]
  intro t ht heq
  rw [decide_eq_true_eq] at heq
  exact h (heq ▸ List.mem_map_of_mem ht)

/-- Among trees with distinct names, each one is found by its name. -/
theorem named?_of_mem {ts : List Tree} (hnodup : (ts.map name).Nodup) {t : Tree} (ht : t ∈ ts) :
    named? t.name ts = some t := by
  induction ts with
  | nil => cases ht
  | cons first ts ih =>
    rw [List.map_cons, List.nodup_cons] at hnodup
    -- No other sibling has the name, so the search does not stop before the tree.
    rcases List.mem_cons.1 ht with rfl | ht
    · exact named?_cons_self t ts
    · have hne : t.name ≠ first.name := by
        intro heq
        exact hnodup.1 (heq ▸ List.mem_map_of_mem ht)
      rw [named?_cons_of_ne hne]
      exact ih hnodup.2 ht

end Tree

end Scaffold
