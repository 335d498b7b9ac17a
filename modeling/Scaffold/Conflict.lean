import Scaffold.Files.FileSystem

/-!
# Conflicts

What to do where something stands already: the questions that come up, the decisions they are
answered with, and what a user may choose from.

* A decision is for one conflict; `Choice.isLasting` tells which choices stand for later ones too.
* `Policy.decision?` is the fixed answer of a policy; the policy to ask has none.
-/

namespace Scaffold.Conflict

/-- Merging makes sense for folders and overwrites a file; keeping makes sense for files and merges
    into a folder. -/
inductive Decision where
  /-- Replace what stands there. -/
  | overwrite
  /-- Write into the folder that stands there. -/
  | merge
  /-- Leave what stands there alone, and drop what should have been written. -/
  | skip
  /-- Write a file under another name. -/
  | keep
  /-- Stop. -/
  | cancel
  deriving DecidableEq, Repr

/-- Something stands at the path of a file or folder that is to be written. -/
structure Question where
  path : Files.Path
  /-- The folder that everything is written into. -/
  destination : Files.Path
  isFolder : Bool
  deriving DecidableEq, Repr

/-- What answers questions. It may look at the file system, and has states in `σ`. -/
abbrev Callback (σ : Type) := Files.FileSystem → Question → StateM σ Decision

/-! ### Choices -/

/-- What can be chosen when something is in the way. -/
inductive Choice where
  | overwrite | overwriteAll | merge | mergeAll | skip | skipAll | keep | keepAll | cancel
  deriving DecidableEq, Repr

namespace Choice

/-- The answer that a choice gives. -/
def decision : Choice → Decision
  | .overwrite | .overwriteAll => .overwrite
  | .merge | .mergeAll => .merge
  | .skip | .skipAll => .skip
  | .keep | .keepAll => .keep
  | .cancel => .cancel

/-- Whether the choice stands for all later conflicts of the same kind. -/
def isLasting : Choice → Bool
  | .overwriteAll | .mergeAll | .skipAll | .keepAll => true
  | _ => false

/-- What may be chosen for a file or a folder, in the order of the menu. -/
def options (isFolder : Bool) : List Choice :=
  (if isFolder then [.merge, .mergeAll] else [.keep, .keepAll])
    ++ [.overwrite, .overwriteAll, .skip, .skipAll, .cancel]

end Choice

/-! ### Policies -/

/-- How conflicts are decided without being asked for, or that they are asked for. -/
inductive Policy where
  | ask | overwrite | merge | skip | keep | cancel
  deriving DecidableEq, Repr

namespace Policy

/-- All policies. -/
def all : List Policy := [.ask, .overwrite, .merge, .skip, .keep, .cancel]

/-- The name of a policy on the command line. -/
def name : Policy → String
  | .ask => "ask"
  | .overwrite => "overwrite"
  | .merge => "merge"
  | .skip => "skip"
  | .keep => "keep"
  | .cancel => "cancel"

/-- The policy of a name, if there is one. -/
def ofName? (name : String) : Option Policy := all.find? (·.name = name)

/-- The answer that a policy gives, unless it asks. -/
def decision? : Policy → Option Decision
  | .ask => none
  | .overwrite => some .overwrite
  | .merge => some .merge
  | .skip => some .skip
  | .keep => some .keep
  | .cancel => some .cancel

end Policy

end Scaffold.Conflict
