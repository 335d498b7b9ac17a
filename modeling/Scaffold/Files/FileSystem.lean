import Scaffold.Files.Fault
import Scaffold.Files.Path
import Scaffold.Text.Blank

/-!
# File systems

A file system as a value: what stands at each location, and the folder that relative paths start from.
Paths are walked as the system does it: symbolic links are followed, except the last one where an
operation is about the link itself.

* `entryAt?` is the view of a file system: every operation is described by what it does to it.
* `locate` finds the location that a path names; the last name need not exist.
* `makeFolder`, `writeText`, `removeFile` change one location or fail and change nothing.
* `makeFolders` and `removeTree` are compound: what they did before a fault stays done.
-/

namespace Scaffold.Files

/-- The names on the way from the root to a place, without links and dots. -/
abbrev Location := List String

/-- What a file holds: a text, or something that is none. -/
inductive Content where
  | text (s : String)
  /-- The content of a file that is no UTF-8 text. -/
  | binary (bytes : List UInt8)
  deriving DecidableEq

/-- What stands at a location. -/
inductive Entry where
  | folder
  | file (content : Content)
  /-- A symbolic link with the path it points to, relative to its own folder. -/
  | link (target : String)
  deriving DecidableEq

/-- Folders, files and links. Two files never share a content, as hard links would, everything may be looked at and
    changed whatever its permissions, and there is nothing else, such as a device or a pipe. -/
structure FileSystem where
  /-- What stands at each location but the root, which is a folder. -/
  entries : List (Location × Entry)
  /-- Where relative paths start. -/
  workingFolder : Location

namespace FileSystem

/-- A file system with nothing but its root. -/
def empty : FileSystem := ⟨[], []⟩

/-- What stands at a location; the root is a folder. -/
def entryAt? (fs : FileSystem) (place : Location) : Option Entry :=
  if place = [] then some .folder else fs.entries.lookup place

/-- Lets `entry` stand at `place`. -/
def put (fs : FileSystem) (place : Location) (entry : Entry) : FileSystem :=
  { fs with entries := (place, entry) :: fs.entries.filter (·.1 != place) }

/-- Clears `place` and everything below it. -/
def cut (fs : FileSystem) (place : Location) : FileSystem :=
  { fs with entries := fs.entries.filter fun e => !place.isPrefixOf e.1 }

/-- Clears everything below `place`. -/
def cutBelow (fs : FileSystem) (place : Location) : FileSystem :=
  { fs with entries := fs.entries.filter fun e => !place.isPrefixOf e.1 || e.1 == place }

/-! ### Walking a path -/

/-- The number of bytes that a name may have. -/
def nameLimit : Nat := 255

/-- The number of bytes that a path may have. -/
def pathLimit : Nat := 4095

/-- The number of links that are followed on one walk. -/
def linkLimit : Nat := 40

/-- Walks from the folder `at_` along `pieces`; `onLink` goes on from a link that is followed. -/
def walkWith (fs : FileSystem) (followLast : Bool)
    (onLink : Location → List String → Except Fault Location) (at_ : Location) :
    List String → Except Fault Location
  | [] => .ok at_
  | piece :: rest =>
    match fs.entryAt? at_ with
    | none => .error .notFound
    | some .folder =>
      if Path.isIdle piece then walkWith fs followLast onLink at_ rest
      else if piece = ".." then walkWith fs followLast onLink at_.dropLast rest
      else if nameLimit < piece.utf8ByteSize then .error .nameTooLong
      else
        let next := at_ ++ [piece]
        match fs.entryAt? next with
        | some (.link target) =>
          -- The last piece may be a link that is wanted itself.
          if rest.isEmpty && !followLast then .ok next
          else
            let q := Path.ofText target
            onLink (if q.absolute then [] else at_) (q.pieces ++ rest)
        | some _ => walkWith fs followLast onLink next rest
        -- A new name may only be the last piece.
        | none => if rest.isEmpty then .ok next else .error .notFound
    | some _ => .error .notDirectory

/-- Walks along `pieces` and follows so many links. -/
def walk (fs : FileSystem) (followLast : Bool) :
    (links : Nat) → Location → List String → Except Fault Location
  | 0 => walkWith fs followLast fun _ _ => .error .tooManyLinks
  | links + 1 => walkWith fs followLast (walk fs followLast links)

/-- The location that a path names. Everything on the way exists; the location itself need not. -/
def locate (fs : FileSystem) (followLast : Bool) (p : Path) : Except Fault Location :=
  if p.pieces.any (·.toList.contains '\x00') then .error .nulInPath
  else if p.text.isEmpty then .error .notFound
  else if pathLimit < p.text.utf8ByteSize then .error .nameTooLong
  else walk fs followLast linkLimit (if p.absolute then [] else fs.workingFolder) p.pieces

/-! ### Looking -/

/-- What a path leads to, through links. -/
def stat (fs : FileSystem) (p : Path) : Except Fault Entry := do
  match fs.entryAt? (← fs.locate true p) with
  | some e => .ok e
  | none => .error .notFound

/-- What stands at a path; a link is not followed. -/
def entry (fs : FileSystem) (p : Path) : Except Fault Entry := do
  match fs.entryAt? (← fs.locate false p) with
  | some e => .ok e
  | none => .error .notFound

/-- Whether a path leads to a folder. -/
def isFolder (fs : FileSystem) (p : Path) : Bool :=
  match fs.stat p with
  | .ok .folder => true
  | _ => false

/-- Whether a path leads to a file. -/
def isFile (fs : FileSystem) (p : Path) : Bool :=
  match fs.stat p with
  | .ok (.file _) => true
  | _ => false

/-- Whether the path leads to something. -/
def leads (fs : FileSystem) (p : Path) : Bool := (fs.stat p).toBool

/-- Whether anything stands at the path, a link that leads nowhere included. -/
def occupied (fs : FileSystem) (p : Path) : Bool := (fs.entry p).toBool

/-- The text of the file that a path leads to. -/
def readText (fs : FileSystem) (p : Path) : Except Fault String := do
  match ← fs.stat p with
  | .file (.text s) => .ok s
  | .file (.binary _) => .error .notText
  | _ => .error .isDirectory

/-- The names of what stands right below a place. -/
def children (fs : FileSystem) (place : Location) : List (String × Entry) :=
  fs.entries.filterMap fun e => if e.1.dropLast = place then e.1.getLast?.map (·, e.2) else none

/-- What is in the folder that a path leads to. -/
def readFolder (fs : FileSystem) (p : Path) : Except Fault (List (String × Entry)) := do
  let place ← fs.locate true p
  match fs.entryAt? place with
  | some .folder => .ok (fs.children place)
  | some _ => .error .notDirectory
  | none => .error .notFound

/-! ### Changing -/

/-- The path without slashes at its end. -/
def withoutSlashes (p : Path) : Path :=
  { p with pieces := (p.pieces.reverse.dropWhile (· = "")).reverse }

/-- Creates a folder where nothing stands. Slashes at the end of the path lead nowhere, but the system counts them
    when it looks whether the path is too long. -/
def makeFolder (fs : FileSystem) (p : Path) : Except Fault FileSystem := do
  if pathLimit < p.text.utf8ByteSize && !p.pieces.any (·.toList.contains '\x00') then .error .nameTooLong
  else
    let place ← fs.locate false (withoutSlashes p)
    match fs.entryAt? place with
    | some _ => .error .exists_
    | none => .ok (fs.put place .folder)

/-- Creates a folder and those around it, as far as they are missing. The number of pieces bounds
    the folders to try. -/
def makeFoldersWithin : Nat → Path → FileSystem → Option Fault × FileSystem
  | 0, _, fs => (some .notFound, fs)
  | fuel + 1, p, fs =>
    let again (fs : FileSystem) : Option Fault × FileSystem :=
      match fs.makeFolder p with
      | .ok fs => (none, fs)
      | .error fault => (if fs.isFolder p then none else some fault, fs)
    if p.text.isEmpty then (none, fs)
    else match fs.makeFolder p with
      | .ok fs => (none, fs)
      | .error .notFound =>
        -- A missing parent is made first; then the folder itself is tried once more.
        match p.parent? with
        | none => (some .notFound, fs)
        | some parent =>
          match makeFoldersWithin fuel parent fs with
          | (none, fs) => again fs
          | (some fault, fs) => (some fault, fs)
      | .error fault => (if fs.isFolder p then none else some fault, fs)

/-- Makes a folder with those around it. -/
def makeFolders (fs : FileSystem) (p : Path) : Option Fault × FileSystem :=
  makeFoldersWithin (p.pieces.length + 1) p fs

/-- Writes a text to the file that the path leads to, which is created if need be. -/
def writeText (fs : FileSystem) (p : Path) (s : String) : Except Fault FileSystem := do
  let place ← fs.locate true (withoutSlashes p)
  if p.pieces.getLast? = some "" then .error .isDirectory
  else match fs.entryAt? place with
    | some .folder => .error .isDirectory
    | _ => .ok (fs.put place (.file (.text s)))

/-- Removes a file or a link. -/
def removeFile (fs : FileSystem) (p : Path) : Except Fault FileSystem := do
  let place ← fs.locate false p
  match fs.entryAt? place with
  | none => .error .notFound
  | some .folder => .error .isDirectory
  | some _ => .ok (fs.cut place)

/-- Removes a folder with everything in it. A folder cannot be removed by a path that ends with a
    dot entry, but what is in it can. -/
def removeTree (fs : FileSystem) (p : Path) : Option Fault × FileSystem :=
  match fs.locate false p with
  | .error fault => (some fault, fs)
  | .ok place =>
    let kept := fs.cutBelow place
    match (withoutSlashes p).pieces.getLast? with
    | none => (some .busy, kept)
    | some "." => (some .invalidArgument, kept)
    | some ".." => (some .notEmpty, kept)
    | some _ => (none, fs.cut place)

/-- Removes whatever stands at the path. -/
def remove (fs : FileSystem) (p : Path) : Option Fault × FileSystem :=
  match fs.entry p with
  | .error fault => (some fault, fs)
  | .ok .folder => fs.removeTree p
  | .ok _ =>
    match fs.removeFile p with
    | .ok fs => (none, fs)
    | .error fault => (some fault, fs)

/-! ### What the view shows -/

/-- The root is a folder. -/
theorem entryAt?_root (fs : FileSystem) : fs.entryAt? [] = some .folder := by
  simp [entryAt?]

/-- Looking among the entries that are kept. -/
theorem lookup_filter_eq (keep : Location → Bool) (entries : List (Location × Entry))
    (place : Location) :
    (entries.filter fun e => keep e.1).lookup place =
      if keep place then entries.lookup place else none := by
  induction entries with
  -- The entry at the head is the one looked for, or another one, and is kept or not.
  | nil => simp
  | cons e entries ih =>
    obtain ⟨l, x⟩ := e
    by_cases hl : place = l
    · by_cases hk : keep l
      · simp [hl, hk]
      · simp [hl, hk]
        simpa [hl, hk] using ih
    · have hb : (place == l) = false := by simp [hl]
      by_cases hk : keep l
      · simp [hk, List.lookup_cons, hb, ih]
      · simp [hk, List.lookup_cons, hb, ih]

/-- An entry that is put is the only one that changes. -/
theorem entryAt?_put (fs : FileSystem) (place other : Location) (e : Entry) (h : place ≠ []) :
    (fs.put place e).entryAt? other = if other = place then some e else fs.entryAt? other := by
  -- The root has no entry to replace; the place itself is found at the head; any other one behind it.
  by_cases ho : other = []
  · subst ho
    simp [entryAt?, Ne.symm h]
  · by_cases hp : other = place
    · subst hp
      simp [entryAt?, put, ho]
    · have hb : (other == place) = false := by simp [hp]
      have := lookup_filter_eq (· != place) fs.entries other
      simp only [entryAt?, put, ho, if_false, List.lookup_cons, hb, this, hp]
      simp [hp]

/-- A cut takes what is at a place and below it. -/
theorem entryAt?_cut (fs : FileSystem) (place other : Location) (h : place ≠ []) :
    (fs.cut place).entryAt? other =
      if place.isPrefixOf other then none else fs.entryAt? other := by
  by_cases ho : other = []
  · subst ho
    cases place with
    | nil => exact absurd rfl h
    | cons a l => simp [entryAt?, List.isPrefixOf]
  · have := lookup_filter_eq (fun l => !place.isPrefixOf l) fs.entries other
    simp only [entryAt?, cut, ho, if_false, this]
    by_cases hp : place.isPrefixOf other <;> simp [hp]

end FileSystem

end Scaffold.Files
