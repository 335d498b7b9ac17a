import Scaffold.Text.Blank
import Scaffold.Text.Letter

/-!
# A place in a YAML text

A cursor holds the text that is still to be read and where it starts. Line breaks are `\n`, `\r`,
`\r\n` and the three line separators of Unicode; the first four all read as `\n`. Columns count
characters; the index counts bytes.
-/

namespace Scaffold.Yaml

/-- Characters that end a line. -/
def isBreak (c : Char) : Bool :=
  c == '\n' || c == '\r' || c == '\u0085' || c == '\u2028' || c == '\u2029'

/-- Characters that indent or separate. -/
def isSpaceOrTab (c : Char) : Bool := c == ' ' || c == '\t'

/-- A blank, a line break, or the end of the text. -/
def isEdge : Option Char → Bool
  | none => true
  | some c => isSpaceOrTab c || isBreak c

/-- The characters of names of anchors, directives and tag handles. -/
def isNameChar (c : Char) : Bool :=
  Text.isAsciiLetter c || Text.isAsciiDigit c || c == '_' || c == '-'

/-- The characters that a YAML text may hold. -/
def isAllowed (c : Char) : Bool :=
  c == '\t' || c == '\n' || c == '\r' || (' ' ≤ c && c ≤ '~') || c == '\u0085'
    || ('\u00a0' ≤ c && c ≤ '\ufffd') || 0x10000 ≤ c.toNat

/-- A place in a text: what is left, how many bytes are behind, and line and column. -/
structure Cursor where
  rest : List Char
  index : Nat
  line : Nat
  column : Nat
  deriving Inhabited

namespace Cursor

/-- The cursor at the start of a text. -/
def start (s : List Char) : Cursor := ⟨s, 0, 0, 0⟩

/-- The next character. -/
def peek (c : Cursor) : Option Char := c.rest.head?

/-- The character `n` places ahead. -/
def peekAt (c : Cursor) (n : Nat) : Option Char := c.rest[n]?

/-- Whether nothing is left. -/
def atEnd (c : Cursor) : Bool := c.rest.isEmpty

/-- Passes over one character that is no line break. -/
def skip (c : Cursor) : Cursor :=
  match c.rest with
  | [] => c
  | x :: rest => ⟨rest, c.index + x.utf8Size, c.line, c.column + 1⟩

/-- The cursor a number of characters further, none of which ends a line. -/
def skipN : Nat → Cursor → Cursor
  | 0, c => c
  | n + 1, c => skipN n c.skip

/-- Reads the line break in front, if there is one, as the text it stands for. -/
def readBreak (c : Cursor) : List Char × Cursor :=
  match c.rest with
  | '\r' :: '\n' :: rest => (['\n'], ⟨rest, c.index + 2, c.line + 1, 0⟩)
  | b :: rest =>
    if isBreak b then
      ([if b = '\u2028' || b = '\u2029' then b else '\n'],
        ⟨rest, c.index + b.utf8Size, c.line + 1, 0⟩)
    else ([], c)
  | [] => ([], c)

/-- The cursor behind a line break. -/
def skipBreak (c : Cursor) : Cursor := c.readBreak.2

/-- Reads the longest run of characters that satisfy `p`, none of which is a line break. -/
def readWhile (p : Char → Bool) (c : Cursor) : List Char × Cursor :=
  let run := c.rest.takeWhile fun x => p x && !isBreak x
  (run, ⟨c.rest.drop run.length, c.index + Chars.byteLength run, c.line, c.column + run.length⟩)

/-- The cursor behind the characters with a property. -/
def skipWhile (p : Char → Bool) (c : Cursor) : Cursor := (c.readWhile p).2

/-- The cursor behind spaces and tabs. -/
def skipBlanks (c : Cursor) : Cursor := c.skipWhile isSpaceOrTab

/-- Passes over a comment, if one starts here. -/
def skipComment (c : Cursor) : Cursor :=
  if c.peek = some '#' then c.skipWhile fun _ => true else c

/-- Whether the cursor is at a document marker: three times `mark` at the start of a line. -/
def atMarker (mark : Char) (c : Cursor) : Bool :=
  c.column == 0 && c.rest.take 3 == [mark, mark, mark] && isEdge (c.peekAt 3)

/-- Whether the marker of a document starts here. -/
def atAnyMarker (c : Cursor) : Bool := c.atMarker '-' || c.atMarker '.'

end Cursor

end Scaffold.Yaml
