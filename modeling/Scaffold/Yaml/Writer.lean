import Scaffold.Text.Lines
import Scaffold.Yaml.Cursor
import Scaffold.Yaml.Scalar

/-!
# Writing values as block YAML

Collections are written in block style, one item or entry a line; empty ones as `[]` and `\x7b\x7d`. A
sequence under a key is not indented.

* `Form.choose` picks how a string is written: plain if it reads back as that string, with line breaks
  as a literal block, else in single quotes, and in double quotes if nothing else can hold it.
* `Value.write?` is the text of a document without a line break at its end, unless the last scalar ends
  with one. Some mappings with a collection as their only key have no text.
-/

namespace Scaffold.Yaml

/-! ### Characters -/

/-- Characters that may stand in a scalar without an escape. -/
def isPrintable (c : Char) : Bool :=
  c == '\n' || (' ' ≤ c && c ≤ '~') || ('\u00a0' ≤ c && c ≤ '\ud7ff')
    || ('\ue000' ≤ c && c ≤ '\ufffd' && c != '\ufeff') || 0x10000 ≤ c.toNat

/-- What is known of a character's surroundings: the one before and the one after it. -/
structure Neighbours where
  before : Option Char
  here : Char
  after : Option Char

/-- The characters of a text with their neighbours. -/
def neighbours (before : Option Char) : List Char → List Neighbours
  | [] => []
  | c :: s => ⟨before, c, s.head?⟩ :: neighbours (some c) s

/-- A character that would be read as punctuation of a block scalar at its place. -/
def Neighbours.isIndicator (n : Neighbours) : Bool :=
  match n.before with
  | none =>
    "#,[]\x7b\x7d&*!|>\x27\"%@\x60".toList.contains n.here
      || ((n.here == '?' || n.here == ':' || n.here == '-') && isEdge n.after)
  | some b =>
    (n.here == ':' && isEdge n.after) || (n.here == '#' && isEdge (some b))

/-! ### Forms of scalars -/

/-- The ways to write a string. -/
inductive Form where
  | plain | single | double | literal
  deriving DecidableEq, Repr

namespace Form

/-- What the characters of a text allow. -/
structure Traits where
  plainAllowed : Bool
  singleAllowed : Bool
  literalAllowed : Bool

/-- Whether one character directly follows another somewhere in the text. -/
def hasPair (p q : Char → Bool) (s : List Char) : Bool :=
  (neighbours none s).any fun n => q n.here && n.before.any p

/-- What a text allows: characters that are not printable, blanks at its ends and breaks behind blanks forbid forms. -/
def traits (s : List Char) : Traits :=
  let space := fun c : Char => c == ' '
  let edged := s.head?.any (fun c => space c || isBreak c) || s.getLast?.any (fun c => space c || isBreak c)
  let special := s.any (!isPrintable ·) || hasPair space isBreak s
  let marker := ['-', '-', '-'].isPrefixOf s || ['.', '.', '.'].isPrefixOf s
  { plainAllowed := !(edged || special || s.any isBreak || marker
      || (neighbours none s).any Neighbours.isIndicator)
    singleAllowed := !(special || hasPair isBreak space s)
    literalAllowed := !(special || s.getLast?.any space) }

/-- Whether the text without quotes would be read as something else than a string, or might be by a
    reader that takes digits behind a zero for a number. -/
def readsAsOther (s : String) : Bool :=
  match Scalar.resolve s with
  | .value (.string _) => Scalar.hasLeadingZero s.toList
  | _ => true

/-- The form of a string. -/
def choose (s : String) : Form :=
  let t := traits s.toList
  let quoted : Form := if t.singleAllowed then .single else .double
  if s.toList.contains '\n' then if t.literalAllowed then .literal else .double
  else if readsAsOther s then quoted
  else if t.plainAllowed then .plain
  else quoted

end Form

/-! ### Texts of scalars -/

/-- `n` as hexadecimal digits, at least `width` of them. -/
def hexDigits (width n : Nat) : List Char :=
  let digits := (Nat.toDigits 16 n).map fun c => if 'a' ≤ c then Char.ofNat (c.toNat - 32) else c
  List.replicate (width - digits.length) '0' ++ digits

/-- A character between double quotes. -/
def escape (c : Char) : List Char :=
  match c with
  | '\x00' => ['\\', '0']
  | '\x07' => ['\\', 'a']
  | '\x08' => ['\\', 'b']
  | '\t' => ['\\', 't']
  | '\n' => ['\\', 'n']
  | '\x0b' => ['\\', 'v']
  | '\x0c' => ['\\', 'f']
  | '\r' => ['\\', 'r']
  | '\x1b' => ['\\', 'e']
  | '"' => ['\\', '"']
  | '\\' => ['\\', '\\']
  | '\u0085' => ['\\', 'N']
  | '\u2028' => ['\\', 'L']
  | '\u2029' => ['\\', 'P']
  | c =>
    -- Other characters that cannot be shown are given by their code, in the shortest form that has room.
    if isPrintable c then [c]
    else if c.toNat ≤ 0xFF then '\\' :: 'x' :: hexDigits 2 c.toNat
    else if c.toNat ≤ 0xFFFF then '\\' :: 'u' :: hexDigits 4 c.toNat
    else '\\' :: 'U' :: hexDigits 8 c.toNat

/-- A text between double quotes. -/
def doubleQuoted (s : List Char) : List Char := '"' :: s.flatMap escape ++ ['"']

/-- Spaces at the start of a line. -/
def pad (indent : Nat) : List Char := List.replicate indent ' '

/-- The text between single quotes: quotes are doubled, and after a line separator the indentation is
    repeated. -/
def singleBody (indent : Nat) (afterBreak : Bool) : List Char → List Char
  | [] => if afterBreak then pad indent else []
  | c :: s =>
    if isBreak c then c :: singleBody indent true s
    else
      (if afterBreak then pad indent else []) ++ (if c = '\x27' then ['\x27', '\x27'] else [c])
        ++ singleBody indent false s

/-- A text between single quotes; lines after the first are indented. -/
def singleQuoted (indent : Nat) (s : List Char) : List Char :=
  '\x27' :: singleBody indent false s ++ ['\x27']

/-- The header of a literal block: the indentation if the text starts with a blank or a line break,
    and a sign that tells how many line breaks end the text. -/
def literalHeader (s : List Char) : List Char :=
  let indentation := if s.head?.any fun c => c == ' ' || isBreak c then ['2'] else []
  let sign :=
    match s.reverse with
    | [] => ['-']
    | [c] => if isBreak c then ['+'] else ['-']
    | c :: d :: _ => if !isBreak c then ['-'] else if isBreak d then ['+'] else []
  '|' :: indentation ++ sign

/-- The lines of a literal block; empty lines are not indented. -/
def literalBody (indent : Nat) (afterBreak : Bool) : List Char → List Char
  | [] => []
  | c :: s =>
    if isBreak c then c :: literalBody indent true s
    else (if afterBreak then pad indent else []) ++ c :: literalBody indent false s

/-- A literal block: its header, and its lines with their indentation. -/
def literal (indent : Nat) (s : List Char) : List Char :=
  literalHeader s ++ '\n' :: literalBody indent true s

/-- A string in its form; lines after the first are indented by `indent`. -/
def writeString (indent : Nat) (s : String) : List Char :=
  match Form.choose s with
  | .plain => s.toList
  | .single => singleQuoted indent s.toList
  | .double => doubleQuoted s.toList
  | .literal => literal indent s.toList

/-! ### Tags -/

/-- The characters of tags that are written without an escape. -/
def isTagChar (c : Char) : Bool :=
  Text.isAsciiLetter c || Text.isAsciiDigit c || "-_;/?:@&=+$,.!~*\x27()[]".toList.contains c

/-- A tag; other characters are written as the bytes that they consist of. A tag that is nothing but
    its mark is written between brackets. -/
def writeTag (tag : String) : List Char :=
  if tag = "!!" then "!<!>".toList
  else tag.toList.flatMap fun c =>
    if isTagChar c then [c]
    else (String.singleton c).toUTF8.toList.flatMap fun b => '%' :: hexDigits 2 b.toNat

/-! ### Documents -/

/-- Starts a new line of a collection after `text`, which a literal block may have ended already. -/
def newLine (indent : Nat) (text : List Char) : List Char :=
  (if text.getLast?.any isBreak then [] else ['\n']) ++ pad indent

namespace Value

/-- A key that is written in front of its colon: a scalar on one line or an empty collection, of at
    most 128 bytes. -/
def isSimpleKey : Value → Bool
  | .null | .bool _ | .number _ => true
  | .string s => !s.toList.any isBreak && s.utf8ByteSize ≤ 128
  | .sequence items => items.isEmpty
  | .mapping entries => entries.isEmpty
  | .tagged tag v =>
    match v with
    | .string s => !s.toList.any isBreak && s.utf8ByteSize + tag.utf8ByteSize ≤ 128
    | .sequence items => items.isEmpty
    | .mapping entries => entries.isEmpty
    | .tagged _ _ => false
    | _ => true

/-- Where a node is written. -/
inductive Slot where
  /-- Behind the dash of a sequence item. -/
  | item
  /-- Behind the colon of a simple key. -/
  | field
  /-- Behind the question mark of a key, or the colon of its value. -/
  | complex
  deriving DecidableEq

/-- A tag in front of a value on the same line. -/
def tagText : Option String → List Char
  | none => []
  | some tag => writeTag tag ++ [' ']

mutual

/-- The text of a value behind an indicator of a collection whose lines start at column `col`. -/
def writeNode (slot : Slot) (col : Nat) (tag? : Option String) : Value → List Char
  | .null => ' ' :: tagText tag? ++ "null".toList
  | .bool b => ' ' :: tagText tag? ++ (toString b).toList
  | .number n => ' ' :: tagText tag? ++ n.text.toList
  | .string s => ' ' :: tagText tag? ++ writeString (col + 2) s
  | .tagged tag v => writeNode slot col (some tag) v
  | .sequence items =>
    if items.isEmpty then ' ' :: tagText tag? ++ ['[', ']']
    else
      match tag?, slot with
      -- A sequence below a key stands at the key's column, an item's content behind the dash.
      | none, .field => '\n' :: pad col ++ writeItems col items
      | none, _ => ' ' :: writeItems (col + 2) items
      | some tag, .item => ' ' :: writeTag tag ++ '\n' :: pad (col + 2) ++ writeItems (col + 2) items
      | some tag, _ => ' ' :: writeTag tag ++ '\n' :: pad col ++ writeItems col items
  | .mapping entries =>
    if entries.isEmpty then ' ' :: tagText tag? ++ ['\x7b', '\x7d']
    else
      match tag?, slot with
      | none, .field => '\n' :: pad (col + 2) ++ writeEntries (col + 2) entries
      | none, _ => ' ' :: writeEntries (col + 2) entries
      | some tag, _ => ' ' :: writeTag tag ++ '\n' :: pad (col + 2) ++ writeEntries (col + 2) entries

/-- The lines of a sequence at column `col`; the place is there already. -/
def writeItems (col : Nat) : List Value → List Char
  | [] => []
  | item :: items =>
    let text := '-' :: writeNode .item col none item
    if items.isEmpty then text else text ++ newLine col text ++ writeItems col items

/-- The lines of a mapping at column `col`; the place is there already. -/
def writeEntries (col : Nat) : List (Value × Value) → List Char
  | [] => []
  | (key, value) :: entries =>
    let head :=
      if key.isSimpleKey then (writeNode .complex col none key).tail
      else
        let text := '?' :: writeNode .complex col none key
        text ++ newLine col text
    let text := head ++ ':' :: writeNode (if key.isSimpleKey then .field else .complex) col none value
    if entries.isEmpty then text else text ++ newLine col text ++ writeEntries col entries

end

/-- A collection as a document of its own; other values as the scalar that stands for them. -/
def write : Value → List Char
  | .sequence items => if items.isEmpty then ['[', ']'] else writeItems 0 items
  | .mapping entries => if entries.isEmpty then ['\x7b', '\x7d'] else writeEntries 0 entries
  | v => (writeNode .field 0 none v).tail

/-! ### Collections behind an indicator -/

/-- An empty collection stands behind its indicator on the same line. -/
theorem writeNode_nil (slot : Slot) (col : Nat) :
    writeNode slot col none (.sequence []) = [' ', '[', ']'] ∧
      writeNode slot col none (.mapping []) = [' ', '\x7b', '\x7d'] := by
  cases slot <;> simp [writeNode, tagText]

/-- Under a key a sequence starts on a line of its own, at the column of the key. -/
theorem writeNode_sequence (slot : Slot) (col : Nat) {items : List Value} (hne : items ≠ []) :
    writeNode slot col none (.sequence items)
      = if slot = .field then '\n' :: (pad col ++ writeItems col items) else ' ' :: writeItems (col + 2) items := by
  cases slot <;> simp [writeNode, hne]

/-- Under a key a mapping starts on a line of its own, two columns behind the key. -/
theorem writeNode_mapping (slot : Slot) (col : Nat) {entries : List (Value × Value)} (hne : entries ≠ []) :
    writeNode slot col none (.mapping entries)
      = if slot = .field then '\n' :: (pad (col + 2) ++ writeEntries (col + 2) entries)
        else ' ' :: writeEntries (col + 2) entries := by
  cases slot <;> simp [writeNode, hne]

/-! ### What can be written -/

/-- A key that would be taken for a part of the mapping whose only key it is. -/
def isMisplacedKey : Value → Bool
  | .mapping [_] => true
  | .tagged _ _ => true
  | _ => false

mutual

/-- Whether a value has a text; `underTag` says that it stands behind a tag. A mapping with one entry
    has none if its key is again such a mapping or has a tag, unless it stands behind a tag itself. -/
def isWritable (underTag : Bool) : Value → Bool
  | .sequence items => areWritable items
  | .mapping [(key, value)] =>
    (underTag || !key.isMisplacedKey) && isWritable false key && isWritable false value
  | .mapping entries => entriesAreWritable entries
  | .tagged _ v => isWritable true v
  | _ => true

/-- Whether all items have a text. -/
def areWritable : List Value → Bool
  | [] => true
  | v :: items => isWritable false v && areWritable items

/-- Whether all keys and values have a text. -/
def entriesAreWritable : List (Value × Value) → Bool
  | [] => true
  | (key, value) :: entries =>
    isWritable false key && isWritable false value && entriesAreWritable entries

end

/-- The text of a value that has one. -/
def write? (v : Value) : Option (List Char) := if v.isWritable false then some v.write else none

end Value

end Scaffold.Yaml
