import Scaffold.Files.FileSystem
import Scaffold.Library
import Scaffold.Text.Case

/-!
# Template directories

Templates kept in two folders: the project template `name` is the file `name.yaml` in the one, the file
template `name` the file of that name in the other. Names may lead into folders, never out of them.

* `Directory.library` looks templates up.
* `Directory.projectNames` and `Directory.fileNames` list them, sorted without regard to case.
* `Directory.projectListing` and `Directory.fileListing` look for them from folder to folder.
-/

namespace Scaffold

open Files (Path Location FileSystem)

/-- The folders of project templates and of file templates. -/
structure Directory where
  projects? : Option Path
  files? : Option Path

namespace Directory

/-- What the names of project template files end with. -/
def documentSuffix : String := ".yaml"

/-- A name without the ending of a project template file. -/
def withoutSuffix (name : String) : Option String :=
  (Chars.dropSuffix? documentSuffix.toList name.toList).map String.ofList

/-! ### Looking up -/

/-- The path that a name stands for, unless it is empty, absolute, or leads out of its folder. -/
def relativePath? (name : String) : Option Path :=
  let p := Path.ofText (.ofList (Chars.replaceChar '\\' ['/'] (Chars.trim name.toList)))
  let inside (c : Files.Component) : Bool :=
    match c with
    | .name _ | .here => true
    | .root | .up => false
  if p.fileName?.isSome && p.components.all inside then some p else none

/-- The text of a file; nothing if there is none or it is no text. -/
def read? (fs : FileSystem) (p : Path) : Option String :=
  if fs.isFile p then (fs.readText p).toOption else none

/-- The text of a project template. -/
def project? (d : Directory) (fs : FileSystem) (name : String) : Option String := do
  let relative ← relativePath? ((withoutSuffix name).getD name)
  let folder ← d.projects?
  read? fs (folder.join (relative.text ++ documentSuffix))

/-- The text of a file template. -/
def file? (d : Directory) (fs : FileSystem) (name : String) : Option String := do
  let relative ← relativePath? name
  let folder ← d.files?
  read? fs (folder.join relative.text)

/-- The templates of the directory. A file can be open inside itself by another spelling of its name, and
    there is no end to the spellings, so building gives up at some depth: the limit of paths. -/
def library (d : Directory) (fs : FileSystem) : Library where
  project? := d.project? fs
  file? := d.file? fs
  nesting := FileSystem.pathLimit

/-! ### Listing -/

/-- Folders that are not looked into. -/
def unlistedFolders : List String := [".git", ".hg", ".svn"]

/-- Files that are no templates, besides those whose names start with `._`. -/
def unlistedFiles : List String := [".DS_Store", ".localized", "Thumbs.db", "desktop.ini"]

/-- Whether a file or folder of this name is left out of the listing. -/
def isUnlisted (name : String) : Bool :=
  unlistedFiles.contains name || ['.', '_'].isPrefixOf name.toList

/-- Whether a file at a place below the folder of templates is listed. -/
def isListed (place : Location) : Bool :=
  place.dropLast.all (!unlistedFolders.contains ·) && place.getLast?.any (!isUnlisted ·)

/-- The names of the files below a folder; links are left out. -/
def namesIn (fs : FileSystem) (folder : Path) : List String :=
  match fs.locate true folder, fs.isFolder folder with
  | .ok root, true =>
    fs.entries.filterMap fun (place, entry) =>
      match entry with
      | .file _ =>
        let below := place.drop root.length
        if root.isPrefixOf place && isListed below then some (Text.joinWith "/" below) else none
      | _ => none
  | _, _ => []

/-- Sorted by lower case. -/
def sorted (names : List String) : List String :=
  (names.map fun n => (Text.lower n, n)).mergeSort (fun a b => !(b.1 < a.1)) |>.map Prod.snd

/-- The names of the file templates, in order. -/
def fileNames (d : Directory) (fs : FileSystem) : List String :=
  sorted ((d.files?.map (namesIn fs)).getD [])

/-- The names of the project templates, in order. -/
def projectNames (d : Directory) (fs : FileSystem) : List String :=
  (sorted ((d.projects?.map (namesIn fs)).getD [])).filterMap withoutSuffix

/-! ### Going from folder to folder -/

/-- A folder that the system does not read. -/
structure Unread where
  folder : Path
  fault : Files.Fault

/-- The names for what stands in a folder under the name `name`: those that `enter` finds if it is a folder to look
    into, its own if it is a template. -/
def namesAt (enter : Path → Except Unread (List String)) (folder : Path) (name : String) :
    Files.Entry → Except Unread (List String)
  | .folder =>
    if unlistedFolders.contains name then .ok []
    else do return (← enter (folder.join name)).map fun below => name ++ "/" ++ below
  | .file _ => .ok (if isUnlisted name then [] else [name])
  | .link _ => .ok []

/-- The names below a folder, found from folder to folder. Each folder inside another one takes from `levels`, which are
    as many as the bytes of a path, so that the paths of the folders are too long before there are none left. -/
def namesBelow (fs : FileSystem) : (levels : Nat) → Path → Except Unread (List String)
  | 0, folder => .error ⟨folder, .nameTooLong⟩
  | levels + 1, folder => do
    let children ← (fs.readFolder folder).mapError (⟨folder, ·⟩)
    return (← children.mapM fun e => namesAt (namesBelow fs levels) folder e.1 e.2).flatten

/-- The sorted names below a folder. A folder that is not there has none, one that is there is read, with the folders
    to look into that are in it. -/
def listing (fs : FileSystem) (folder? : Option Path) : Except Unread (List String) :=
  match folder? with
  | none => .ok []
  | some folder => if fs.isFolder folder then (namesBelow fs FileSystem.pathLimit folder).map sorted else .ok []

/-- The listing of the file templates, or the folder that could not be read. -/
def fileListing (d : Directory) (fs : FileSystem) : Except Unread (List String) := listing fs d.files?

/-- The listing of the project templates, or the folder that could not be read. -/
def projectListing (d : Directory) (fs : FileSystem) : Except Unread (List String) :=
  (listing fs d.projects?).map (·.filterMap withoutSuffix)

end Directory

end Scaffold
