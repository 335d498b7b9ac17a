import Scaffold.Text.Lines

/-!
# Paths

A path as it is written: its pieces between slashes, empty ones and dots included.

* `Path.join` puts a name behind a path; an absolute name replaces it.
* `Path.fileName?` is the last piece that names something, if the path ends with one.
* `stemAndExtension` cuts a name at its last dot; a dot in front does not count.
-/

namespace Scaffold.Files

structure Path where
  absolute : Bool
  pieces : List String
  deriving DecidableEq, Repr, Inhabited

/-- The pieces of a path that stand for a place of their own. -/
inductive Component where
  | root
  | here
  | up
  | name (s : String)
  deriving DecidableEq, Repr

namespace Path

def ofText (text : String) : Path :=
  match text.toList with
  | [] => ⟨false, []⟩
  | ['/'] => ⟨true, []⟩
  | '/' :: rest => ⟨true, Text.splitOn '/' (.ofList rest)⟩
  | _ => ⟨false, Text.splitOn '/' text⟩

def text (p : Path) : String := (if p.absolute then "/" else "") ++ Text.joinWith "/" p.pieces

/-- The path of `name` in the folder `p`. -/
def join (p : Path) (name : String) : Path :=
  let q := ofText name
  if q.absolute then q
  else if p.pieces.getLast? = some "" then
    ⟨p.absolute, p.pieces.dropLast ++ (if q.pieces.isEmpty then [""] else q.pieces)⟩
  else if p.pieces.isEmpty then ⟨p.absolute, q.pieces⟩
  else ⟨p.absolute, p.pieces ++ (if q.pieces.isEmpty then [""] else q.pieces)⟩

/-- Whether a piece says nothing: an empty one, or a dot. -/
def isIdle (piece : String) : Bool := piece = "" || piece = "."

/-- What a piece behind the first one stands for. -/
def component? (piece : String) : Option Component :=
  if isIdle piece then none else some (if piece = ".." then .up else .name piece)

/-- The components of a path; a dot counts only at the start of a relative path. -/
def components (p : Path) : List Component :=
  let rest := p.pieces.filterMap component?
  if p.absolute then .root :: rest
  else if p.pieces.head? = some "." then .here :: rest
  else rest

/-- The name that the path ends with. -/
def fileName? (p : Path) : Option String :=
  match p.components.getLast? with
  | some (.name s) => some s
  | _ => none

/-- Drops idle pieces at the end, except for a dot that is the whole path. -/
def trimPieces (p : Path) : List String :=
  match (p.pieces.reverse.dropWhile isIdle).reverse with
  | [] => if !p.absolute && p.pieces.head? = some "." then ["."] else []
  | pieces => pieces

/-- The path without its last component, if it has one. -/
def parent? (p : Path) : Option Path :=
  match p.components.getLast? with
  | none | some .root => none
  | some _ =>
    let shorter : Path := ⟨p.absolute, p.trimPieces.dropLast⟩
    some ⟨p.absolute, shorter.trimPieces⟩

/-- The pieces behind so many of those that are not idle, from one that is not idle to another one. -/
def piecesBehind : Nat → List String → List String
  | _, [] => []
  | passed, piece :: rest =>
    if isIdle piece then piecesBehind passed rest
    else match passed with
      | 0 => ((piece :: rest).reverse.dropWhile isIdle).reverse
      | passed + 1 => piecesBehind passed rest

/-- The text of a path as seen from a folder above it; any other path is shown as it is. From the empty path, all of it
    is seen but what is idle at the end. -/
def shownFrom (base p : Path) : String :=
  if base.components.isEmpty then (⟨p.absolute, p.trimPieces⟩ : Path).text
  else if base.components.isPrefixOf p.components then
    Text.joinWith "/" (piecesBehind (base.pieces.filter (!isIdle ·)).length p.pieces)
  else p.text

/-- The path with another name in place of its last one. -/
def withFileName (p : Path) (name : String) : Path :=
  ((if p.fileName?.isSome then p.parent? else none).getD p).join name

end Path

/-- Cuts a name at its last dot. Without a dot, or with no other than the one in front, all of it is
    the stem. -/
def stemAndExtension (name : String) : String × Option String :=
  let s := name.toList
  let behind := (s.reverse.takeWhile (· != '.')).reverse
  let before := s.take (s.length - behind.length - 1)
  if behind.length = s.length || before.isEmpty then (name, none)
  else (.ofList before, some (.ofList behind))

end Scaffold.Files
