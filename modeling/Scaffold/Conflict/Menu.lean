import Scaffold.Conflict.Arbiter

/-!
# Asking with a menu

A prompt that shows what stands in the way and a menu of what may be done about it.

* `menu` offers the choices for a file or a folder by their labels; the terminal tells which one is selected.
-/

namespace Scaffold.Conflict

/-- How a choice is called in a menu. -/
def Choice.label : Choice → String
  | .overwrite => "Overwrite"
  | .overwriteAll => "Overwrite all"
  | .merge => "Merge"
  | .mergeAll => "Merge all"
  | .skip => "Skip"
  | .skipAll => "Skip all"
  | .keep => "Keep both"
  | .keepAll => "Keep both for all"
  | .cancel => "Cancel"

/-- What a menu says above the choices. -/
def Question.text (q : Question) : String :=
  (if q.isFolder then "Folder" else "File") ++ " '" ++ Files.Path.shownFrom q.destination q.path ++ "' already exists"

/-- What shows a text with some labels and lets a user select one of them, with states in `π`. -/
abbrev Terminal (π : Type) := (text : String) → (labels : List String) → StateM π (Except String (Fin labels.length))

/-- Asks with a menu on a terminal. -/
def menu {π : Type} (terminal : Terminal π) : Prompt π := fun q p =>
  let options := Choice.options q.isFolder
  match terminal q.text (options.map Choice.label) p with
  | (.ok selected, p) => (.ok (options.get (selected.cast (List.length_map _))), p)
  | (.error problem, p) => (.error (.prompt problem), p)

end Scaffold.Conflict
