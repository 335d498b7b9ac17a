import Scaffold.Conflict
import Scaffold.Error
import Scaffold.Tree

/-!
# Generation

Writing a tree to a file system. The root itself is not written; its children go into the
destination. Nothing that stands at a path is touched without a decision.

* `generate` writes a tree and tells how it went; what was written before a fault or a cancellation
  stays.
* `Run.events` is the history of a run: each question with its answer and each file written, in order.
* `freeVariant` is the first numbered variant of a path that leads to nothing.
-/

namespace Scaffold

open Files (Path FileSystem)
open Conflict (Decision Question Callback)

namespace Generation

/-- What happens during a run. -/
inductive Event where
  | asked (question : Question) (answer : Decision)
  /-- A file was written; so many are, of so many in all. -/
  | wrote (written total : Nat)
  deriving DecidableEq, Repr

/-- The state of a run. -/
structure Run (σ : Type) where
  files : FileSystem
  written : Nat
  events : List Event
  /-- The state of the callback. -/
  callback : σ

/-- Why a run stops early. -/
inductive Halt where
  | cancelled
  | failed (e : Error)

/-- What stays the same during a run. -/
structure Plan (σ : Type) where
  destination : Path
  total : Nat
  callback? : Option (Callback σ)

abbrev Writing (σ : Type) := ExceptT Halt (StateM (Run σ))

variable {σ : Type}

/-! ### Steps -/

/-- Does something to the file system that may fail halfway. -/
def change (f : FileSystem → Option Files.Fault × FileSystem) : Writing σ Unit := do
  let run ← get
  let (fault?, files) := f run.files
  set { run with files := files }
  match fault? with
  | some fault => throw (.failed (.io fault))
  | none => return ()

/-- Does something to the file system that happens or fails. -/
def attempt (f : FileSystem → Except Files.Fault FileSystem) : Writing σ Unit :=
  change fun files =>
    match f files with
    | .ok files => (none, files)
    | .error fault => (some fault, files)

/-- The decision on a conflict. Without a callback, files are overwritten and folders merged into. -/
def decide (plan : Plan σ) (path : Path) (isFolder : Bool) : Writing σ Decision := do
  match plan.callback? with
  | none => return if isFolder then .merge else .overwrite
  | some callback =>
    let run ← get
    let question : Question := ⟨path, plan.destination, isFolder⟩
    let (answer, s) := callback run.files question run.callback
    set { run with callback := s, events := run.events ++ [Event.asked question answer] }
    return answer

/-! ### Numbered variants -/

/-- The `n`-th variant of a path. -/
def variant (path : Path) (n : Nat) : Path :=
  let (stem, extension?) := (path.fileName?.map Files.stemAndExtension).getD ("", none)
  path.withFileName (stem ++ " (" ++ toString n ++ ")" ++ extension?.elim "" ("." ++ ·))

/-- The first variant from the `n`-th on that leads to nothing. -/
def freeVariantFrom (files : FileSystem) (path : Path) : (fuel n : Nat) → Path
  | 0, n => variant path n
  | fuel + 1, n =>
    if files.leads (variant path n) then freeVariantFrom files path fuel (n + 1) else variant path n

/-- The first variant of a path that leads to nothing. No entry stands at two variants, so one of the
    first ones is free. -/
def freeVariant (files : FileSystem) (path : Path) : Path :=
  freeVariantFrom files path (files.entries.length + 1) 1

/-! ### Writing -/

/-- Makes room for a folder; the answer tells whether to write it. -/
def clearForFolder (plan : Plan σ) (target : Path) : Writing σ Bool := do
  if !(← get).files.occupied target then return true
  match ← decide plan target true with
  | .overwrite => do
    change (·.remove target)
    return true
  | .merge | .keep => do
    if !(← get).files.isFolder target then change (·.remove target)
    return true
  | .skip => return false
  | .cancel => throw .cancelled

/-- Makes room for a file; the answer is where to write it, if it is to be written. -/
def clearForFile (plan : Plan σ) (target : Path) : Writing σ (Option Path) := do
  if !(← get).files.occupied target then return some target
  match ← decide plan target false with
  | .overwrite | .merge => do
    if (← get).files.isFolder target then change (·.remove target)
    return some target
  | .keep => return some (freeVariant (← get).files target)
  | .skip => return none
  | .cancel => throw .cancelled

/-- Writes a file and the folders around it. -/
def writeFile (plan : Plan σ) (target : Path) (content : String) : Writing σ Unit := do
  match target.parent? with
  | some parent => change (·.makeFolders parent)
  | none => pure ()
  attempt (·.writeText target content)
  modify fun run =>
    { run with
      written := run.written + 1
      events := run.events ++ [.wrote (run.written + 1) plan.total] }

mutual

/-- Writes a tree into the folder `parent`. -/
def writeTree (plan : Plan σ) (parent : Path) : Tree → Writing σ Unit
  | .file name content _ => do
    match ← clearForFile plan (parent.join name) with
    | some target => writeFile plan target content
    | none => return ()
  | .folder name children _ => do
    let target := parent.join name
    if ← clearForFolder plan target then
      change (·.makeFolders target)
      writeTrees plan target children

def writeTrees (plan : Plan σ) (parent : Path) : List Tree → Writing σ Unit
  | [] => return ()
  | t :: ts => do
    writeTree plan parent t
    writeTrees plan parent ts

end

/-! ### Outcomes -/

/-- How a generation went. -/
structure Outcome (σ : Type) where
  interrupt? : Option Halt
  destination : Path
  run : Run σ

def cancelNotice : String := "Generation cancelled."

namespace Outcome

def success (o : Outcome σ) : Bool := o.interrupt?.isNone

def wasCancelled (o : Outcome σ) : Bool :=
  match o.interrupt? with
  | some .cancelled => true
  | _ => false

def message (o : Outcome σ) : String :=
  match o.interrupt? with
  | none => "Project created in: " ++ o.destination.text
  | some .cancelled => cancelNotice
  | some (.failed e) => "Error creating project: " ++ e.message

end Outcome

/-- Writes the children of `root` into `destination`. -/
def generate (root : Tree) (destination : Path) (callback? : Option (Callback σ))
    (files : FileSystem) (s : σ) : Outcome σ :=
  let plan : Plan σ := ⟨destination, root.countFiles, callback?⟩
  let steps : Writing σ Unit := do
    change (·.makeFolders destination)
    writeTrees plan destination root.children
  match steps.run ⟨files, 0, [], s⟩ with
  | (.ok _, run) => ⟨none, destination, run⟩
  | (.error i, run) => ⟨some i, destination, run⟩

end Generation

end Scaffold
