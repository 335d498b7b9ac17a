import Scaffold.Files.FileSystem

/-!
# Differences of file systems

What has to be done to turn one file system into another.

* `cleared` are the locations to clear, each behind everything that is below it.
* `filled` are the entries to put afterwards, each behind the folders around it.
-/

namespace Scaffold.Files

/-- Whether an entry can take the place of another one without the place being cleared first. -/
def Entry.overwrites (new old : Entry) : Bool :=
  match new, old with
  | .file _, .file _ => true
  | new, old => new = old

namespace FileSystem

def cleared (before after : FileSystem) : List Location :=
  let gone := before.entries.filter fun (place, old) =>
    match after.entryAt? place with
    | none => true
    | some new => !new.overwrites old
  (gone.map Prod.fst).mergeSort fun a b => b.length ≤ a.length

def filled (before after : FileSystem) : List (Location × Entry) :=
  let fresh := after.entries.filter fun (place, e) => before.entryAt? place ≠ some e
  fresh.mergeSort fun a b => a.1.length ≤ b.1.length

end FileSystem

end Scaffold.Files
