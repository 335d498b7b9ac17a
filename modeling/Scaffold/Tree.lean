import Scaffold.Text.Lines

/-!
# Trees of files and folders

What a structure document is built into.

* `Tree.countFiles` is the number of files, folders not counted.
* `Tree.credit` notes which project template a tree comes from; an inner template keeps its trees.
* `Tree.render` draws a tree, one name a line.
-/

namespace Scaffold

/-- Files and folders to be made. Each may know the template that it comes from. -/
inductive Tree where
  | file (name content : String) (template? : Option String)
  /-- A folder; `template?` is the project template that it comes from. -/
  | folder (name : String) (children : List Tree) (template? : Option String)
  deriving Inhabited, Repr

namespace Tree

/-- The name of a node. -/
def name : Tree → String
  | .file name _ _ => name
  | .folder name _ _ => name

/-- What is in a node; nothing is in a file. -/
def children : Tree → List Tree
  | .file _ _ _ => []
  | .folder _ children _ => children

/-- The template that a node comes from. -/
def template? : Tree → Option String
  | .file _ _ t? => t?
  | .folder _ _ t? => t?

mutual

/-- The number of files. -/
def countFiles : Tree → Nat
  | .file _ _ _ => 1
  | .folder _ children _ => countFilesIn children

/-- The number of files in some trees. -/
def countFilesIn : List Tree → Nat
  | [] => 0
  | t :: ts => countFiles t + countFilesIn ts

end

mutual

/-- Notes the template on every part of the tree that has none yet. -/
def credit (template : String) : Tree → Tree
  | .file name content t? => .file name content (t?.or (some template))
  | .folder name children t? =>
    .folder name (creditAll template children) (t?.or (some template))

/-- Credits trees to a template, where they are not credited yet. -/
def creditAll (template : String) : List Tree → List Tree
  | [] => []
  | t :: ts => credit template t :: creditAll template ts

end

/-- The line of a name at a depth. -/
def renderLine (depth : Nat) (name mark : String) : List Char :=
  List.replicate (2 * depth) ' ' ++ name.toList ++ mark.toList ++ ['\n']

mutual

/-- The lines of a tree at a depth; folders have a slash behind their names. -/
def renderAt (depth : Nat) : Tree → List Char
  | .file name _ _ => renderLine depth name ""
  | .folder name children _ => renderLine depth name "/" ++ renderAll (depth + 1) children

/-- Draws some trees, one below the other. -/
def renderAll (depth : Nat) : List Tree → List Char
  | [] => []
  | t :: ts => renderAt depth t ++ renderAll depth ts

end

/-- A tree as it is drawn. -/
def render (t : Tree) : String := .ofList (renderAt 0 t)

end Tree

end Scaffold
