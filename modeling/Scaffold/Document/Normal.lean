import Scaffold.Text.Letter
import Scaffold.Text.Lines

/-!
# Normal form of a structure document

Structure documents are written by hand. Two habits would trip up a YAML reader: tabs as indentation,
and names that start with a placeholder, such as `- {mp:Title}:`, which YAML reads as the start of a
mapping. Both are mended in the text, line by line.

* Every tab becomes two spaces.
* `quoteLine` puts single quotes around a name or value that starts with a placeholder.
* The lines of a block scalar, which are indented by more than the line that opens it, stay as they
  are.
-/

namespace Scaffold.Document

open Chars

/-! ### Quoting -/

/-- The depth of braces behind `c`; closing braces without an opening one do not count. -/
def braceDepth (depth : Nat) (c : Char) : Nat :=
  if c = '\x7b' then depth + 1 else if c = '\x7d' then depth - 1 else depth

/-- Cuts a text in front of its comment: a hash behind a blank, outside of braces. -/
def splitComment (depth : Nat) (afterBlank : Bool) : List Char → List Char × List Char
  | [] => ([], [])
  | c :: s =>
    if c = '#' && depth == 0 && afterBlank then ([], c :: s)
    else
      let (value, comment) := splitComment (braceDepth depth c) (isBlank c) s
      (c :: value, comment)

/-- Cuts a text in front of the colon that ends a key: one outside of braces with a blank or nothing
    behind it. Without such a colon all of it is the key. -/
def splitKey (depth : Nat) : List Char → List Char × List Char
  | [] => ([], [])
  | c :: s =>
    if c = ':' && depth == 0 && s.head?.all isBlank then ([], c :: s)
    else
      let (key, rest) := splitKey (braceDepth depth c) s
      (c :: key, rest)

/-- A text between single quotes, its own quotes doubled. -/
def quote (s : List Char) : List Char := '\x27' :: replaceChar '\x27' ['\x27', '\x27'] s ++ ['\x27']

/-- A dash and the blanks behind it, any number of times; the blanks are not optional. -/
def dashes : Nat → List Char → List Char × List Char
  | 0, s => ([], s)
  | fuel + 1, s =>
    match s with
    | '-' :: rest =>
      let blanks := rest.takeWhile isBlank
      if blanks.isEmpty then ([], s)
      else
        let (more, rest) := dashes fuel (rest.dropWhile isBlank)
        ('-' :: blanks ++ more, rest)
    | _ => ([], s)

/-- A key of ASCII start, its colon and the blanks behind it, if the text starts with them. -/
def leadingKey (s : List Char) : List Char × List Char :=
  match s with
  | [] => ([], [])
  | c :: rest =>
    if Text.isAsciiLetter c || c = '_' then
      let name := rest.takeWhile fun x => Text.isWord x || x == '-'
      match rest.dropWhile fun x => Text.isWord x || x == '-' with
      | ':' :: behind =>
        let blanks := behind.takeWhile isBlank
        if blanks.isEmpty then ([], s) else (c :: name ++ ':' :: blanks, behind.dropWhile isBlank)
      | _ => ([], s)
    else ([], s)

/-- What may stand in front of a value on its line: blanks, dashes and a key. -/
def splitLead (line : List Char) : List Char × List Char :=
  let blanks := line.takeWhile isBlank
  let (dashed, rest) := dashes line.length (line.dropWhile isBlank)
  let (key, rest) := leadingKey rest
  (blanks ++ dashed ++ key, rest)

/-- Whether a text starts with the marker of a placeholder. -/
def startsPlaceholder : List Char → Bool
  | '\x7b' :: m :: p :: d :: _ =>
    (m == 'm' || m == 'M') && (p == 'p' || p == 'P') && (d == '.' || d == ':')
  | _ => false

/-- Quotes the value of a line if it starts with a placeholder. -/
def quoteLine (line : List Char) : List Char :=
  let (lead, body) := splitLead line
  if startsPlaceholder body then
    let (value, comment) := splitComment 0 false (trimEnd body)
    let (key, rest) := splitKey 0 (trimEnd value)
    lead ++ quote key ++ rest ++ value.drop (trimEnd value).length ++ comment
  else line

/-! ### Block scalars -/

/-- What may stand in front of the indicator of a block scalar: blanks, or a colon or dash with
    blanks behind it. -/
def beforeIndicator (s : List Char) : Bool :=
  allBlank s || (s.getLast?.any isBlank && (trimEnd s).getLast?.any fun c => c == ':' || c == '-')

/-- What may stand behind the indicator of a block scalar: a sign, a digit, a comment. -/
def behindIndicator (s : List Char) : Bool :=
  let s := if s.head?.any fun c => c == '+' || c == '-' then s.tail else s
  let s := if s.head?.any Text.isAsciiDigit then s.tail else s
  let s := s.dropWhile isBlank
  s.isEmpty || s.head? == some '#'

/-- Whether the line opens a block scalar; `before` holds its start, the nearest character first. -/
def opensBlockFrom (before : List Char) : List Char → Bool
  | [] => false
  | c :: s =>
    ((c == '|' || c == '>') && beforeIndicator before.reverse && behindIndicator s)
      || opensBlockFrom (c :: before) s

def opensBlock (line : List Char) : Bool := opensBlockFrom [] line

/-- The width in bytes of the blanks that a line starts with. -/
def indentation (line : List Char) : Nat := byteLength (line.takeWhile isBlank)

/-! ### Documents -/

/-- Whether a line lies in the block scalar opened by a line with indentation `parent`. -/
def insideBlock (parent : Nat) (line : List Char) : Bool :=
  allBlank line || parent < indentation line

/-- Normalizes lines; `block?` is the indentation of the line whose block scalar is open. -/
def normalizeLines (block? : Option Nat) : List (List Char) → List (List Char)
  | [] => []
  | line :: lines =>
    if block?.any (insideBlock · line) then line :: normalizeLines block? lines
    else if opensBlock line then line :: normalizeLines (some (indentation line)) lines
    else quoteLine line :: normalizeLines none lines

def expandTabs (s : List Char) : List Char := replaceChar '\t' [' ', ' '] s

def normalizeChars (s : List Char) : List Char :=
  joinWith ['\n'] (normalizeLines none (splitOn '\n' (expandTabs s)))

/-- Prepares the text of a structure document for the YAML reader. -/
def normalize (text : String) : String := .ofList (normalizeChars text.toList)

end Scaffold.Document
