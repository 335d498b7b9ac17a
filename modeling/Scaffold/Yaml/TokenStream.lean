import Scaffold.Yaml.ScalarToken

/-!
# From text to tokens

A key without a question mark is known as a key only when its colon is met, so a token that could
start one stays pending: the key token, and the start of a mapping, are inserted in front of it
afterwards. A pending key must end on its own line and within 1024 bytes.

* `Scan.fetch` reads the next token.
* `TokenStream.ofText` reads them all. When reading fails, only the tokens in front of the first
  pending key are told, since the others might still have changed.
-/

namespace Scaffold.Yaml

/-- A token that may turn out to start a key. -/
structure PendingKey where
  /-- Nothing but a key may stand here. -/
  required : Bool
  /-- The number of tokens in front of it. -/
  number : Nat
  index : Nat
  line : Nat
  column : Nat

/-- The state of reading: the tokens so far, the last one first, and the open collections. -/
structure Scan where
  cursor : Cursor
  tokens : List Token
  /-- The column of the innermost block collection, none outside of all. -/
  indent : Option Nat
  /-- The columns of the block collections around it. -/
  indents : List (Option Nat)
  /-- One pending key for each open flow collection and one for the block around them. -/
  keys : List (Option PendingKey)
  keyAllowed : Bool

namespace Scan

/-- The scan at the start of a text. -/
def start (s : List Char) : Scan :=
  { cursor := .start s, tokens := [], indent := none, indents := [], keys := [none],
    keyAllowed := true }

/-- Whether the scan is between brackets or braces. -/
def inFlow (s : Scan) : Bool := 1 < s.keys.length

/-- Fails at the cursor. -/
def fail {α : Type} (s : Scan) (problem : String) : Except Fault α := s.cursor.fail problem

/-- Adds a token that starts at `line` and ends at the cursor. -/
def push (s : Scan) (kind : TokenKind) (line : Nat) : Scan :=
  { s with tokens := ⟨kind, line, s.cursor.line⟩ :: s.tokens }

/-- Adds a token of one character at the cursor and passes over the character. -/
def pushMark (s : Scan) (kind : TokenKind) : Scan :=
  { s with tokens := ⟨kind, s.cursor.line, s.cursor.line⟩ :: s.tokens, cursor := s.cursor.skip }

/-- Inserts a token in front of token `number`. -/
def insert (s : Scan) (number : Nat) (token : Token) : Scan :=
  let after := s.tokens.length - number
  { s with tokens := s.tokens.take after ++ token :: s.tokens.drop after }

/-! ### Pending keys -/

/-- Gives up pending keys that the cursor has left behind. -/
def dropStale (s : Scan) : Except Fault Scan := do
  let keys ← s.keys.mapM fun key? =>
    match key? with
    | none => .ok none
    | some key =>
      if key.line < s.cursor.line || key.index + 1024 < s.cursor.index then
        if key.required then s.fail "could not find expected ':'" else .ok none
      else .ok (some key)
  return { s with keys := keys }

/-- Gives up the innermost pending key. -/
def removeKey (s : Scan) : Except Fault Scan :=
  match s.keys with
  | some key :: keys =>
    if key.required then s.fail "could not find expected ':'"
    else .ok { s with keys := none :: keys }
  | _ => .ok s

/-- Makes the next token a pending key, where a key may stand. -/
def saveKey (s : Scan) : Except Fault Scan :=
  if s.keyAllowed then do
    let s ← s.removeKey
    let key : PendingKey :=
      { required := !s.inFlow && s.indent == some s.cursor.column
        number := s.tokens.length
        index := s.cursor.index
        line := s.cursor.line
        column := s.cursor.column }
    return { s with keys := some key :: s.keys.tail }
  else .ok s

/-- The number of tokens that can no longer change. -/
def settled (s : Scan) : Nat :=
  s.keys.foldl (fun n key? => key?.elim n fun key => min n key.number) s.tokens.length

/-! ### Indentation -/

/-- Opens a block collection at `column`, unless one is open there; its token goes in front of token
    `number`. -/
def rollIndent (s : Scan) (column number : Nat) (kind : TokenKind) (line : Nat) : Scan :=
  if s.inFlow || s.indent.any (column ≤ ·) then s
  else { s with indents := s.indent :: s.indents, indent := some column }
    |>.insert number ⟨kind, line, line⟩

/-- Closes the block collections that are indented by more than `column`. -/
def unrollFrom (column : Option Nat) (line : Nat) :
    List (Option Nat) → Option Nat → List Token → List (Option Nat) × Option Nat × List Token
  | [], indent, tokens => ([], indent, tokens)
  | outer :: indents, indent, tokens =>
    match indent with
    | none => (outer :: indents, indent, tokens)
    | some i =>
      if column.all (· < i) then
        unrollFrom column line indents outer (⟨.blockEnd, line, line⟩ :: tokens)
      else (outer :: indents, indent, tokens)

/-- Closes the block collections that end in front of `column`; with none, all of them. -/
def unrollIndent (s : Scan) (column : Option Nat) : Scan :=
  if s.inFlow then s
  else
    let (indents, indent, tokens) := unrollFrom column s.cursor.line s.indents s.indent s.tokens
    { s with indents := indents, indent := indent, tokens := tokens }

/-- Passes over blanks, comments and line breaks, and over a byte order mark at the start of a line. In
    block context a tab may not stand where a key may start. -/
def skipToToken : Nat → Scan → Scan
  | 0, s => s
  | fuel + 1, s =>
    let c := s.cursor
    let c := if c.column = 0 && c.peek = some '\ufeff' then c.skip else c
    let tabs := s.inFlow || !s.keyAllowed
    let c := (c.skipWhile fun x => x == ' ' || (tabs && x == '\t')).skipComment
    if c.peek.any isBreak then
      skipToToken fuel
        { s with cursor := c.skipBreak, keyAllowed := s.keyAllowed || !s.inFlow }
    else { s with cursor := c }

/-! ### Directives, anchors and tags -/

/-- The tokens for which one scalar reader serves several places. -/
def readName (problem : String) (c : Cursor) : Except Fault (List Char × Cursor) :=
  let (name, c) := c.readWhile isNameChar
  if name.isEmpty then c.fail problem else .ok (name, c)

/-- A part of a version: up to nine digits. -/
def readVersionPart (c : Cursor) : Except Fault (Nat × Cursor) :=
  let (digits, after) := c.readWhile Text.isAsciiDigit
  if digits.isEmpty then c.fail "did not find expected version number"
  else if 9 < digits.length then c.fail "found extremely long version number"
  else .ok (digits.foldl (fun n d => 10 * n + (d.toNat - 48)) 0, after)

/-- Reads `!`, `!name` or `!name!`. -/
def readHandle (directive : Bool) (c : Cursor) : Except Fault (List Char × Cursor) :=
  if c.peek ≠ some '!' then c.fail "did not find expected '!'"
  else
    let (name, c) := c.skip.readWhile isNameChar
    if c.peek = some '!' then .ok ('!' :: name ++ ['!'], c.skip)
    else if directive && !name.isEmpty then c.fail "did not find expected '!'"
    else .ok ('!' :: name, c)

/-- Whether a character may stand in a tag without an escape. -/
def isUriChar (verbatim : Bool) (x : Char) : Bool :=
  isNameChar x || ";/?:@&=+$.%!~*\x27()".toList.contains x
    || (verbatim && [',', '[', ']'].contains x)

/-- The number of bytes of a character whose first byte is `b`. -/
def utf8Width (b : Nat) : Nat :=
  if b < 0x80 then 1
  else if 0xC0 ≤ b && b < 0xE0 then 2
  else if 0xE0 ≤ b && b < 0xF0 then 3
  else if 0xF0 ≤ b && b < 0xF8 then 4
  else 0

/-- One escaped byte of a tag. -/
def readOctet (c : Cursor) : Except Fault (Nat × Cursor) :=
  match c.rest with
  | '%' :: a :: b :: _ =>
    match hexNumber? [a, b] with
    | some n => .ok (n, c.skipN 3)
    | none => c.fail "did not find URI escaped octet"
  | _ => c.fail "did not find URI escaped octet"

/-- The remaining escaped bytes of a character. -/
def readTrailing : Nat → List UInt8 → Cursor → Except Fault (List UInt8 × Cursor)
  | 0, bytes, c => .ok (bytes, c)
  | n + 1, bytes, c => do
    let (b, c) ← readOctet c
    if b / 64 = 2 then readTrailing n (bytes ++ [UInt8.ofNat b]) c
    else c.fail "found an incorrect trailing UTF-8 octet"

/-- The bytes of a character written with escapes. -/
def readEscapes (c : Cursor) : Except Fault (List UInt8 × Cursor) := do
  let (b, c) ← readOctet c
  let width := utf8Width b
  if width = 0 then c.fail "found an incorrect leading UTF-8 octet"
  else readTrailing (width - 1) [UInt8.ofNat b] c

/-- Reads the bytes of a tag; `acc` holds those that are known already. -/
def readUri (verbatim : Bool) : Nat → List UInt8 → Cursor → Except Fault (List UInt8 × Cursor)
  | 0, acc, c => .ok (acc, c)
  | fuel + 1, acc, c =>
    match c.peek with
    | none => .ok (acc, c)
    | some x =>
      if !isUriChar verbatim x then .ok (acc, c)
      else if x = '%' then do
        let (e, c) ← readEscapes c
        readUri verbatim fuel (acc ++ e) c
      else readUri verbatim fuel (acc ++ [UInt8.ofNat x.toNat]) c.skip

/-- A tag behind `head`, which has been read; there must be at least one character. -/
def readTagUri (verbatim : Bool) (head : List Char) (c : Cursor) : Except Fault (Tag × Cursor) := do
  let start := Tag.ofString (.ofList head.tail)
  let (uri, after) ← readUri verbatim (c.rest.length + 1) start.bytes c
  if uri.isEmpty && head.isEmpty then after.fail "did not find expected tag URI"
  else return (⟨uri⟩, after)

/-- Reads a tag. -/
def readTag (flow : Bool) (c : Cursor) : Except Fault (TokenKind × Cursor) := do
  let (kind, c) ←
    if c.peekAt 1 = some '<' then do
      let (uri, c) ← readTagUri true [] (c.skipN 2)
      if c.peek = some '>' then pure (TokenKind.tag "" uri, c.skip)
      else c.fail "did not find the expected '>'"
    else do
      let (handle, c) ← readHandle false c
      -- A handle that ends with a mark of its own is named; anything else belongs to the tag.
      if 1 < handle.length && handle.getLast? = some '!' then
        let (uri, c) ← readTagUri false [] c
        pure (TokenKind.tag (.ofList handle) uri, c)
      else
        let (uri, c) ← readTagUri false handle c
        -- A mark alone is a tag without a handle.
        if uri.bytes.isEmpty then pure (TokenKind.tag "" (.ofString "!"), c)
        else pure (TokenKind.tag "!" uri, c)
  -- In a flow collection a comma may follow directly.
  if (flow && c.peek = some ',') || isEdge c.peek then return (kind, c)
  else c.fail "did not find expected whitespace or line break"

/-- Reads the name of an anchor or an alias. -/
def readAnchor (c : Cursor) : Except Fault (List Char × Cursor) :=
  let (name, c) := c.skip.readWhile isNameChar
  let ends := isEdge c.peek || c.peek.any fun x => "?:,]\x7d%@\x60".toList.contains x
  if name.isEmpty || !ends then c.fail "did not find expected alphabetic or numeric character"
  else .ok (name, c)

/-- Reads a directive; unknown ones are passed over. -/
def readDirective (c : Cursor) : Except Fault (TokenKind × Cursor) := do
  let (name, c) ← readName "could not find expected directive name" c.skip
  if !isEdge c.peek then c.fail "found unexpected non-alphabetical character"
  else
    let (kind, c) ←
      if name = "YAML".toList then do
        let (major, c) ← readVersionPart c.skipBlanks
        if c.peek ≠ some '.' then c.fail "did not find expected digit or '.' character"
        else
          let (minor, c) ← readVersionPart c.skip
          pure (TokenKind.versionDirective major minor, c)
      else if name = "TAG".toList then do
        let (handle, c) ← readHandle true c.skipBlanks
        if !c.peek.any isSpaceOrTab then c.fail "did not find expected whitespace"
        else
          let (uri, c) ← readTagUri true [] c.skipBlanks
          if isEdge c.peek then pure (TokenKind.tagDirective (.ofList handle) uri, c)
          else c.fail "did not find expected whitespace or line break"
      else c.fail "found unknown directive name"
    let c := c.skipBlanks.skipComment
    if isEdge c.peek then return (kind, c.skipBreak)
    else c.fail "did not find expected comment or line break"

/-! ### Tokens -/

/-- Replaces the cursor and adds the token that was read up to it. -/
def take (s : Scan) (kind : TokenKind) (c : Cursor) : Scan :=
  { s with cursor := c, tokens := ⟨kind, s.cursor.line, c.line⟩ :: s.tokens }

/-- A token that starts or ends a document or the stream closes everything. -/
def closeAll (s : Scan) : Except Fault Scan := do
  let s ← (s.unrollIndent none).removeKey
  return { s with keyAllowed := false }

/-- The end of the text, which closes all collections. -/
def fetchEnd (s : Scan) : Except Fault Scan := do
  let c := s.cursor
  let s := { s with cursor := if c.column = 0 then c else { c with line := c.line + 1, column := 0 } }
  let s ← s.closeAll
  return s.push .streamEnd s.cursor.line

/-- The marker of a document, which closes all collections. -/
def fetchMarker (s : Scan) (kind : TokenKind) : Except Fault Scan := do
  let s ← s.closeAll
  return s.take kind (s.cursor.skipN 3)

/-- A bracket or brace that opens a collection. -/
def fetchFlowStart (s : Scan) (kind : TokenKind) : Except Fault Scan := do
  let s ← s.saveKey
  return { s with keys := none :: s.keys, keyAllowed := true }.pushMark kind

/-- A bracket or brace that closes a collection. -/
def fetchFlowEnd (s : Scan) (kind : TokenKind) : Except Fault Scan := do
  let s ← s.removeKey
  let keys := if s.inFlow then s.keys.tail else s.keys
  return { s with keys := keys, keyAllowed := false }.pushMark kind

/-- An indicator that opens a block collection where none is open. -/
def openBlock (s : Scan) (kind : TokenKind) (problem : String) : Except Fault Scan :=
  if s.inFlow then .ok s
  else if s.keyAllowed then
    .ok (s.rollIndent s.cursor.column s.tokens.length kind s.cursor.line)
  else s.fail problem

/-- The dash of an item, in front of which a sequence may start. -/
def fetchBlockEntry (s : Scan) : Except Fault Scan := do
  let s ← s.openBlock .blockSequenceStart
    "block sequence entries are not allowed in this context"
  let s ← s.removeKey
  return { s with keyAllowed := true }.pushMark .blockEntry

/-- The question mark of a key, in front of which a mapping may start. -/
def fetchKey (s : Scan) : Except Fault Scan := do
  let s ← s.openBlock .blockMappingStart "mapping keys are not allowed in this context"
  let s ← s.removeKey
  return { s with keyAllowed := !s.inFlow }.pushMark .key

/-- The colon of a value. What was read in front of it may turn out to be its key. -/
def fetchValue (s : Scan) : Except Fault Scan :=
  match s.keys with
  | some key :: keys =>
    let s := s.insert key.number ⟨.key, key.line, key.line⟩
    let s := s.rollIndent key.column key.number .blockMappingStart key.line
    .ok ({ s with keys := none :: keys, keyAllowed := false }.pushMark .value)
  | _ => do
    let s ← s.openBlock .blockMappingStart "mapping values are not allowed in this context"
    return { s with keyAllowed := !s.inFlow }.pushMark .value

/-- A token that may start a key and after which none may start on the same line. -/
def fetchKeyLike (s : Scan) (readToken : Cursor → Except Fault (TokenKind × Cursor)) :
    Except Fault Scan := do
  let s ← s.saveKey
  let (kind, c) ← readToken s.cursor
  return { s with keyAllowed := false }.take kind c

/-- An anchor or an alias. -/
def fetchAnchor (s : Scan) (kind : String → TokenKind) : Except Fault Scan :=
  s.fetchKeyLike fun c => do
    let (name, c) ← readAnchor c
    return (kind (.ofList name), c)

/-- A scalar in quotes. -/
def fetchQuoted (s : Scan) (single : Bool) : Except Fault Scan :=
  s.fetchKeyLike fun c => do
    let (text, c) ← readQuoted single c
    return (.scalar (.ofList text) (if single then .singleQuoted else .doubleQuoted), c)

/-- A scalar in block style. -/
def fetchBlock (s : Scan) (literal : Bool) : Except Fault Scan := do
  let s ← s.removeKey
  let (text, endLine, c) ← readBlock literal s.indent s.cursor.skip
  let kind := TokenKind.scalar (.ofList text) (if literal then .literal else .folded)
  return { s with keyAllowed := true, cursor := c, tokens := ⟨kind, s.cursor.line, endLine⟩ :: s.tokens }

/-- A scalar without quotes. -/
def fetchPlain (s : Scan) : Except Fault Scan := do
  let s ← s.saveKey
  let (p, c) ← readPlain s.inFlow s.indent s.cursor
  let token : Token := ⟨.scalar (.ofList p.text) .plain, s.cursor.line, p.endLine⟩
  return { s with keyAllowed := p.broken, cursor := c, tokens := token :: s.tokens }

/-- Whether a plain scalar may start here. -/
def startsPlain (s : Scan) (x : Char) (next : Option Char) : Bool :=
  !("-?:,[]\x7b\x7d#&*!|>\x27\"%@\x60".toList.contains x || isEdge (some x))
    || (x == '-' && !next.any isSpaceOrTab)
    || (!s.inFlow && (x == '?' || x == ':') && !isEdge next)

/-- Reads the token that starts at the cursor. -/
def fetchHere (s : Scan) : Except Fault Scan :=
  let c := s.cursor
  let next := c.peekAt 1
  match c.peek with
  | none => s.fetchEnd
  | some x =>
    -- A directive ends every collection that is open.
    if c.column = 0 && x = '%' then do
      let s ← s.closeAll
      let (kind, c) ← readDirective s.cursor
      return s.take kind c
    else if c.atMarker '-' then s.fetchMarker .documentStart
    else if c.atMarker '.' then s.fetchMarker .documentEnd
    else if x = '[' then s.fetchFlowStart .flowSequenceStart
    else if x = '\x7b' then s.fetchFlowStart .flowMappingStart
    else if x = ']' then s.fetchFlowEnd .flowSequenceEnd
    else if x = '\x7d' then s.fetchFlowEnd .flowMappingEnd
    else if x = ',' then do
      let s ← s.removeKey
      return { s with keyAllowed := true }.pushMark .flowEntry
    -- A dash is an indicator only in front of an edge; in a flow collection the other two always are.
    else if x = '-' && isEdge next then s.fetchBlockEntry
    else if x = '?' && (s.inFlow || isEdge next) then s.fetchKey
    else if x = ':' && (s.inFlow || isEdge next) then s.fetchValue
    else if x = '*' then s.fetchAnchor .alias
    else if x = '&' then s.fetchAnchor .anchor
    else if x = '!' then s.fetchKeyLike (readTag s.inFlow)
    else if x = '|' && !s.inFlow then s.fetchBlock true
    else if x = '>' && !s.inFlow then s.fetchBlock false
    else if x = '\x27' then s.fetchQuoted true
    else if x = '"' then s.fetchQuoted false
    else if s.startsPlain x next then s.fetchPlain
    else s.fail "found character that cannot start any token"

/-- Reads the next token, and those that close block collections in front of it. -/
def fetch (s : Scan) : Except Fault Scan := do
  let s := skipToToken (s.cursor.rest.length + 1) s
  let s ← s.dropStale
  (s.unrollIndent (some s.cursor.column)).fetchHere

/-- Whether the last token read is the end of the stream. -/
def done (s : Scan) : Bool := s.tokens.head?.any (·.kind == .streamEnd)

end Scan

namespace TokenStream

/-- Reads tokens until the stream ends or a fault is met. Every token but the last takes at least one
    character, which bounds the number of steps. -/
def read : Nat → Scan → TokenStream
  | 0, s => ⟨s.tokens.reverse, none⟩
  | fuel + 1, s =>
    match s.fetch.bind Scan.dropStale with
    | .error fault => ⟨s.tokens.reverse.take s.settled, some fault⟩
    | .ok s => if s.done then ⟨s.tokens.reverse, none⟩ else read fuel s

/-- The tokens of a text. A text with a character that YAML does not allow has none. -/
def ofText (text : List Char) : TokenStream :=
  if text.all isAllowed then read (text.length + 2) (.start text)
  else ⟨[], some ⟨"control characters are not allowed", some 0⟩⟩

end TokenStream

end Scaffold.Yaml
