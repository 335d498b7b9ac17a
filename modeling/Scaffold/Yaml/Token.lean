/-!
# YAML tokens

The tokens of a YAML stream, and the faults that reading one can end with. Lines are counted from
zero here; messages count from one.
-/

namespace Scaffold.Yaml

/-- A tag as the bytes that its characters and escapes stand for. -/
structure Tag where
  bytes : List UInt8
  deriving DecidableEq, Repr

namespace Tag

def ofString (s : String) : Tag := ⟨s.toUTF8.toList⟩

def append (t u : Tag) : Tag := ⟨t.bytes ++ u.bytes⟩

/-- The name of a tag of the core schema. -/
def core (name : String) : Tag := .ofString ("tag:yaml.org,2002:" ++ name)

/-- What counts of a tag: the bytes in front of the first zero. -/
def stem (t : Tag) : List UInt8 := t.bytes.takeWhile (· != 0)

/-- Whether a tag belongs to an application: it starts with an exclamation mark. -/
def isApplication (t : Tag) : Bool := t.stem.head? == some 33

/-- A name without an exclamation mark in front of it, unless it is nothing else. -/
def withoutMark (name : String) : String :=
  match name.toList with
  | '!' :: c :: rest => .ofList (c :: rest)
  | _ => name

/-- How the tag of an application is written, if its bytes are a text. A tag without a name is named
    by its own mark. -/
def application? (t : Tag) : Option String :=
  match t.stem with
  | 33 :: name =>
    let name := if name.isEmpty then [33] else name
    (String.fromUTF8? ⟨name.toArray⟩).map fun s => "!" ++ withoutMark s
  | _ => none

end Tag

/-- Why a text is not a YAML document, and on which line, if that is known. -/
structure Fault where
  problem : String
  line? : Option Nat
  deriving DecidableEq, Repr, Inhabited

inductive ScalarStyle where
  | plain | singleQuoted | doubleQuoted | literal | folded
  deriving DecidableEq, Repr

inductive TokenKind where
  | versionDirective (major minor : Nat)
  | tagDirective (handle : String) (start : Tag)
  | documentStart
  | documentEnd
  | blockSequenceStart
  | blockMappingStart
  | blockEnd
  | flowSequenceStart
  | flowSequenceEnd
  | flowMappingStart
  | flowMappingEnd
  | blockEntry
  | flowEntry
  | key
  | value
  | alias (name : String)
  | anchor (name : String)
  | tag (handle : String) (suffix : Tag)
  | scalar (text : String) (style : ScalarStyle)
  | streamEnd
  deriving DecidableEq, Repr

/-- A token with the lines it starts and ends on. -/
structure Token where
  kind : TokenKind
  line : Nat
  endLine : Nat
  deriving DecidableEq, Repr

/-- The tokens that can be told before reading stops, and the fault that stops it, if any. -/
structure TokenStream where
  tokens : List Token
  fault? : Option Fault

end Scaffold.Yaml
