import Scaffold.CommandLine.Session
import Scaffold.CommandLine.Usage
import Scaffold.Files.Difference
import Scaffold.Template.Session

/-!
# The program

The command line: copies the part of the disk that a call can look at into a file system value, runs
the call on it, and carries the difference back to the disk.
-/

namespace Scaffold.Disk

open Files (Path FileSystem Location Entry)

def locationText (place : Location) : String := "/" ++ Text.joinWith "/" place

/-- Where a path leads from a folder if none of its pieces is a link. -/
def lexicalPlace (here : Location) (p : Path) : Location :=
  p.pieces.foldl (fun place piece =>
      if Path.isIdle piece then place
      else if piece = ".." then place.dropLast
      else place ++ [piece])
    (if p.absolute then [] else here)

def placeOf (text : String) : Location := lexicalPlace [] (Path.ofText text)

/-- What stands at a location. Faults of the disk count as nothing. -/
def entryOn? (place : Location) : IO (Option Entry) := do
  let path := (← IO.currentDir) / locationText place
  let .ok info ← path.symlinkMetadata.toBaseIO | return none
  match info.type with
  | .dir => return some .folder
  | .symlink =>
    let .ok target ← (IO.FS.realPath path).toBaseIO | return some (.link "")
    return some (.link target.toString)
  | _ =>
    let .ok bytes ← (IO.FS.readBinFile path).toBaseIO | return none
    match String.fromUTF8? bytes with
    | some s => return some (.file (.text s))
    | none => return some (.file (.binary bytes.toList))

/-- A copy of a part of the disk. -/
structure Copy where
  files : FileSystem
  /-- The folders whose content is copied, or is about to be. -/
  whole : List Location

def Copy.put (c : Copy) (place : Location) (e : Entry) : Copy :=
  if place = [] then c else { c with files := c.files.put place e }

/-- Copies what stands at a location, with the way to it, the places that links lead to, and everything
    below it if `below` says so. -/
partial def copy (below : Bool) (place : Location) (c : Copy) : IO Copy := do
  if c.whole.contains place then return c
  if !below && (c.files.entryAt? place).isSome then return c
  let c ← if place = [] then pure c else copy false place.dropLast c
  match ← entryOn? place with
  | none => return c
  | some (.link target) => copy below (placeOf target) (c.put place (.link target))
  | some .folder =>
    let mut c := c.put place .folder
    if below then
      c := { c with whole := place :: c.whole }
      for e in ← ((← IO.currentDir) / locationText place).readDir do
        c ← copy true (place ++ [e.fileName]) c
    return c
  | some e => return c.put place e

def copyPath (c : Copy) (text : String) : IO Copy :=
  copy true (lexicalPlace c.files.workingFolder (Path.ofText text)) c

/-- Carries a change of the file system back to the disk. -/
def store (before after : FileSystem) : IO Unit := do
  let here ← IO.currentDir
  for place in before.cleared after do
    let path := here / locationText place
    if before.entryAt? place = some .folder then IO.FS.removeDir path else IO.FS.removeFile path
  for (place, e) in before.filled after do
    let path := here / locationText place
    match e with
    | .folder => IO.FS.createDir path
    | .file (.text s) => IO.FS.writeFile path s
    | .file (.binary bytes) => IO.FS.writeBinFile path ⟨bytes.toArray⟩
    | .link _ => pure ()

end Scaffold.Disk

namespace Scaffold.CommandLine

open Files (FileSystem)

/-- The part of the disk that a call can look at or change. -/
def copyFor (args : Arguments) (structure_ : String) : IO FileSystem := do
  let here := Disk.placeOf (← IO.currentDir).toString
  let given := [args.config?, args.preamble?, args.projectTemplates?, args.fileTemplates?,
    if args.named then none else some structure_]
  let c ← Disk.copy false here ⟨⟨[], here⟩, []⟩
  let c ← (given.filterMap id).foldlM Disk.copyPath c
  let config := ((Config.load c.files args.config?).toOption).getD {}
  let configured := [config.tokensFile?, config.projectTemplates?, config.fileTemplates?]
  let c ← (configured.filterMap id).foldlM Disk.copyPath c
  match Session.tree Template.engine none args c.files structure_ with
  | .error _ => return c.files
  | .ok tree =>
    let c ← Disk.copyPath c ((Files.Path.ofText args.outputFolder).join tree.name).text
    return c.files

/-- Runs a call on the disk; the answer is its exit code. -/
def call (args : Arguments) : IO Nat := do
  let fs ← match args.structure? with
    | some structure_ => copyFor args structure_
    | none => pure .empty
  let report := Session.run Template.engine none args fs
  Disk.store fs report.files
  (← IO.getStdout).putStr report.output
  (← IO.getStderr).putStr report.errors
  return report.exitCode

end Scaffold.CommandLine

open Scaffold.CommandLine in
def main (texts : List String) : IO UInt32 := do
  match Arguments.parse texts with
  | .ok args => return (← call args).toUInt32
  | .error fault =>
    let out ← if fault.isError then IO.getStderr else IO.getStdout
    out.putStr fault.text
    return fault.exitCode.toUInt32
