import Scaffold.Text.Blank

/-!
# Lines and pieces

Cutting a text at a character, and finding and replacing pieces of it.

* `splitOn` and `joinWith` are inverse to each other on pieces without the separator.
* `lines` is `splitOn '\n'` without the empty piece after a last line break and without the
  carriage return of a line that ends in `\r\n`.
-/

namespace Scaffold.Chars

/-! ### Pieces -/

/-- The pieces of `s` between the occurrences of `sep`; there is always at least one. -/
def splitOn (sep : Char) : List Char → List (List Char)
  | [] => [[]]
  | c :: s =>
    if c = sep then [] :: splitOn sep s
    else match splitOn sep s with
      | [] => [[c]]
      | piece :: pieces => (c :: piece) :: pieces

/-- A text has at least one piece. -/
theorem splitOn_ne_nil (sep : Char) (s : List Char) : splitOn sep s ≠ [] := by
  cases s with
  | nil => simp [splitOn]
  | cons c s =>
    rw [splitOn]
    split
    · simp
    · split <;> simp

/-- The pieces with `sep` between them. -/
def joinWith (sep : List Char) : List (List Char) → List Char
  | [] => []
  | [piece] => piece
  | piece :: pieces => piece ++ sep ++ joinWith sep pieces

/-! ### Lines -/

/-- A line without the carriage return at its end. -/
def stripReturn (line : List Char) : List Char :=
  if line.getLast? = some '\r' then line.dropLast else line

/-- Turns the pieces between line breaks into lines: the last piece is a line only if it is not
    empty, and only the others lose a carriage return. -/
def closeLines : List (List Char) → List (List Char)
  | [] => []
  | [last] => if last.isEmpty then [] else [last]
  | line :: rest => stripReturn line :: closeLines rest

def lines (s : List Char) : List (List Char) := closeLines (splitOn '\n' s)

/-! ### Occurrences -/

/-- Whether `piece` occurs in `s`. -/
def contains (piece : List Char) : List Char → Bool
  | [] => piece.isEmpty
  | c :: s => piece.isPrefixOf (c :: s) || contains piece s

/-- Scans `s` for `piece`; the first `skip` characters belong to an occurrence already replaced. -/
def replaceFrom (piece new : List Char) : Nat → List Char → List Char
  | _, [] => []
  | skip + 1, _ :: s => replaceFrom piece new skip s
  | 0, c :: s =>
    if piece.isPrefixOf (c :: s) then new ++ replaceFrom piece new (piece.length - 1) s
    else c :: replaceFrom piece new 0 s

/-- Replaces every occurrence of the non-empty `piece`, from the left and without overlap. -/
def replace (piece new s : List Char) : List Char := replaceFrom piece new 0 s

/-- Replaces every occurrence of the character `c`. -/
def replaceChar (c : Char) (new : List Char) (s : List Char) : List Char :=
  s.flatMap fun d => if d = c then new else [d]

/-- What is left of `s` after `piece` at its end, if it ends so. -/
def dropSuffix? (piece s : List Char) : Option (List Char) :=
  if piece.isSuffixOf s then some (s.take (s.length - piece.length)) else none

end Scaffold.Chars

namespace Scaffold.Text

def splitOn (sep : Char) (s : String) : List String :=
  (Chars.splitOn sep s.toList).map String.ofList

def joinWith (sep : String) (pieces : List String) : String :=
  .ofList (Chars.joinWith sep.toList (pieces.map String.toList))

def lines (s : String) : List String := (Chars.lines s.toList).map String.ofList

def contains (piece s : String) : Bool := Chars.contains piece.toList s.toList

def replace (piece new s : String) : String :=
  .ofList (Chars.replace piece.toList new.toList s.toList)

end Scaffold.Text
