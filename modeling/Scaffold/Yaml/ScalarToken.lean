import Scaffold.Yaml.Cursor
import Scaffold.Yaml.Token

/-!
# Scalars as tokens

Reading the text of quoted, block and plain scalars, with line folding and escapes undone.

* `readQuoted` reads to the closing quote.
* `readBlock` reads literal and folded block scalars: the indentation is that of the first line that
  is not empty unless the header gives it, and the header says what becomes of the last line breaks.
* `readPlain` stops at a comment, at `: `, at a line that is indented too little, and inside flow
  collections at their punctuation.
-/

namespace Scaffold.Yaml

/-- A fault at the place of the cursor. -/
def Cursor.fail {α : Type} (c : Cursor) (problem : String) : Except Fault α :=
  .error ⟨problem, some c.line⟩

/-! ### Folding -/

/-- Blanks and line breaks between two words of a scalar: blanks on the first line, then the first
    line break, then the later ones. -/
structure Gap where
  blanks : List Char := []
  /-- Whether a line break was seen, also an escaped one. -/
  broken : Bool := false
  first : List Char := []
  later : List Char := []

/-- The text that a gap stands for: a single line break becomes a space, more of them lose the
    first, and a line separator is kept. -/
def Gap.text (g : Gap) : List Char :=
  if g.broken then
    if g.first = ['\n'] then if g.later.isEmpty then [' '] else g.later
    else g.first ++ g.later
  else g.blanks

/-- Reads blanks and line breaks. With `indent` given, a tab in the indentation of a later line is a
    fault. -/
def readGap (indent : Option Nat) : Nat → Gap → Cursor → Except Fault (Gap × Cursor)
  | 0, g, c => .ok (g, c)
  | fuel + 1, g, c =>
    match c.peek with
    | none => .ok (g, c)
    | some x =>
      if isSpaceOrTab x then
        -- A tab may not stand where the indentation of the next line would be.
        if g.broken && x = '\t' && indent.any (c.column < ·) then
          c.fail "found a tab character that violates indentation"
        -- Blanks are kept only as long as no break follows them.
        else if g.broken then readGap indent fuel g c.skip
        else readGap indent fuel { g with blanks := g.blanks ++ [x] } c.skip
      else if isBreak x then
        let (b, c) := c.readBreak
        if g.broken then readGap indent fuel { g with later := g.later ++ b } c
        else readGap indent fuel { g with broken := true, first := b, blanks := [] } c
      else .ok (g, c)

/-! ### Quoted scalars -/

/-- What a backslash in front of `c` stands for: a character, or a code of so many digits. -/
def escape? (c : Char) : Option (Char ⊕ Nat) :=
  match c with
  | '0' => some (.inl '\x00')
  | 'a' => some (.inl '\x07')
  | 'b' => some (.inl '\x08')
  | 't' => some (.inl '\t')
  | '\t' => some (.inl '\t')
  | 'n' => some (.inl '\n')
  | 'v' => some (.inl '\x0b')
  | 'f' => some (.inl '\x0c')
  | 'r' => some (.inl '\r')
  | 'e' => some (.inl '\x1b')
  | ' ' => some (.inl ' ')
  | '"' => some (.inl '"')
  | '/' => some (.inl '/')
  | '\\' => some (.inl '\\')
  | 'N' => some (.inl '\u0085')
  | '_' => some (.inl '\u00a0')
  | 'L' => some (.inl '\u2028')
  | 'P' => some (.inl '\u2029')
  | 'x' => some (.inr 2)
  | 'u' => some (.inr 4)
  | 'U' => some (.inr 8)
  | _ => none

def hexDigit? (c : Char) : Option Nat :=
  if Text.isAsciiDigit c then some (c.toNat - 48)
  else if 'a' ≤ c && c ≤ 'f' then some (c.toNat - 87)
  else if 'A' ≤ c && c ≤ 'F' then some (c.toNat - 55)
  else none

/-- The number written with hexadecimal digits. -/
def hexNumber? (digits : List Char) : Option Nat :=
  digits.foldlM (fun n c => (hexDigit? c).map (16 * n + ·)) 0

/-- Reads the character code of `width` digits at the cursor. -/
def readCode (width : Nat) (c : Cursor) : Except Fault (Char × Cursor) :=
  let digits := c.rest.take width
  match if digits.length = width then hexNumber? digits else none with
  | none => c.fail "did not find expected hexdecimal number"
  | some n =>
    if (0xD800 ≤ n && n ≤ 0xDFFF) || 0x10FFFF < n then
      c.fail "found invalid Unicode character escape code"
    else .ok (Char.ofNat n, c.skipN width)

/-- The unbroken run of characters at the cursor, up to the quote or a blank; the flag says that it
    ended with an escaped line break. -/
def readWord (single : Bool) :
    Nat → List Char → Cursor → Except Fault (List Char × Bool × Cursor)
  | 0, acc, c => .ok (acc.reverse, false, c)
  | fuel + 1, acc, c =>
    match c.peek with
    | none => .ok (acc.reverse, false, c)
    | some x =>
      if isSpaceOrTab x || isBreak x then .ok (acc.reverse, false, c)
      -- Two quotes in a row are a quote of the text.
      else if single && x = '\x27' then
        if c.peekAt 1 = some '\x27' then readWord single fuel (x :: acc) (c.skipN 2)
        else .ok (acc.reverse, false, c)
      else if !single && x = '"' then .ok (acc.reverse, false, c)
      else if !single && x = '\\' then
        match c.peekAt 1 with
        | none => c.fail "found unknown escape character"
        | some e =>
          -- A break behind a backslash is no part of the text.
          if isBreak e then .ok (acc.reverse, true, c.skip.skipBreak)
          else match escape? e with
            | none => c.fail "found unknown escape character"
            | some (.inl y) => readWord single fuel (y :: acc) (c.skipN 2)
            | some (.inr width) =>
              match readCode width (c.skipN 2) with
              | .error fault => .error fault
              | .ok (y, c) => readWord single fuel (y :: acc) c
      else readWord single fuel (x :: acc) c.skip

/-- Reads a quoted scalar up to and with its closing quote. -/
def readQuotedFrom (single : Bool) (budget : Nat) :
    Nat → List Char → Cursor → Except Fault (List Char × Cursor)
  | 0, _, c => c.fail "found unexpected end of stream"
  | fuel + 1, acc, c =>
    if c.atAnyMarker then c.fail "found unexpected document indicator"
    else if c.atEnd then c.fail "found unexpected end of stream"
    else do
      let (word, broken, c) ← readWord single budget [] c
      let acc := acc ++ word
      if c.peek = some (if single then '\x27' else '"') then return (acc, c.skip)
      let (gap, c) ← readGap none budget { broken := broken } c
      readQuotedFrom single budget fuel (acc ++ gap.text) c

def readQuoted (single : Bool) (c : Cursor) : Except Fault (List Char × Cursor) :=
  readQuotedFrom single (c.rest.length + 1) (c.rest.length + 1) [] c.skip

/-! ### Block scalars -/

inductive Chomping where
  | strip | clip | keep
  deriving DecidableEq

/-- Reads the header of a block scalar behind its indicator. -/
def readHeader (c : Cursor) : Except Fault (Chomping × Option Nat × Cursor) := do
  let sign? (c : Cursor) : Option Chomping :=
    if c.peek = some '+' then some .keep else if c.peek = some '-' then some .strip else none
  let digit? (c : Cursor) : Option Nat :=
    (c.peek.filter Text.isAsciiDigit).map fun d => d.toNat - 48
  let refuseZero (increment : Option Nat) : Except Fault Unit :=
    if increment = some 0 then c.fail "found an indentation indicator equal to 0" else .ok ()
  let (chomping, increment, c) ←
    -- The sign and the digit may come in either order.
    match sign? c with
    | some sign => do
      let c := c.skip
      let increment := digit? c
      refuseZero increment
      pure (sign, increment, if increment.isSome then c.skip else c)
    | none =>
      match digit? c with
      | some n => do
        refuseZero (some n)
        let c := c.skip
        match sign? c with
        | some sign => pure (sign, some n, c.skip)
        | none => pure (Chomping.clip, some n, c)
      | none => pure (Chomping.clip, none, c)
  let c := c.skipBlanks.skipComment
  if isEdge c.peek then return (chomping, increment, c.skipBreak)
  else c.fail "did not find expected comment or line break"

/-- Empty lines in front of a line of content: the line breaks, the widest indentation met, and the
    line where the last break ended. -/
structure Margin where
  breaks : List Char := []
  widest : Nat := 0
  endLine : Nat

/-- Reads indentation and empty lines. Without a known `indent`, all spaces are indentation. -/
def readMargin (indent : Option Nat) : Nat → Margin → Cursor → Except Fault (Margin × Cursor)
  | 0, m, c => .ok (m, c)
  | fuel + 1, m, c =>
    let spaces := (c.rest.takeWhile (· == ' ')).length
    -- An indentation that is known is all that is skipped.
    let n := match indent with
      | none => spaces
      | some i => min spaces (i - c.column)
    let c := c.skipN n
    -- The widest line counts even if it is empty.
    let m := { m with widest := max m.widest c.column }
    if c.peek = some '\t' && indent.all (c.column < ·) then
      c.fail "found a tab character where an indentation space is expected"
    else match c.peek with
      | some x =>
        if isBreak x then
          let (b, c) := c.readBreak
          readMargin indent fuel { m with breaks := m.breaks ++ b, endLine := c.line } c
        else .ok (m, c)
      | none => .ok (m, c)

/-- The lines of a block scalar. `lead` is the break of the line before and `empty` the breaks of
    the empty lines after it; `afterBlank` says that the line before started with a blank. -/
def readBlockLines (literal : Bool) (indent : Nat) (budget : Nat) :
    Nat → (acc lead empty : List Char) → (afterBlank : Bool) → (endLine : Nat) → Cursor →
      Except Fault (List Char × List Char × List Char × Nat × Cursor)
  | 0, acc, lead, empty, _, endLine, c => .ok (acc, lead, empty, endLine, c)
  | fuel + 1, acc, lead, empty, afterBlank, endLine, c =>
    if c.column = indent && !c.atEnd then do
      let startsBlank := c.peek.any isSpaceOrTab
      let joint :=
        -- In a folded block a single break between two lines of text is a space.
        if !literal && lead = ['\n'] && !afterBlank && !startsBlank then
          if empty.isEmpty then [' '] else empty
        else lead ++ empty
      let (line, c) := c.readWhile fun _ => true
      let (lead, c) := c.readBreak
      let (margin, c) ← readMargin (some indent) budget { endLine := c.line } c
      readBlockLines literal indent budget fuel (acc ++ joint ++ line) lead margin.breaks
        startsBlank margin.endLine c
    else .ok (acc, lead, empty, endLine, c)

/-- Reads a block scalar behind its indicator; `outer` is the indentation around it, none at the top.
    Returns the text, the line where it ends, and what follows. -/
def readBlock (literal : Bool) (outer : Option Nat) (c : Cursor) :
    Except Fault (List Char × Nat × Cursor) := do
  let budget := c.rest.length + 1
  let (chomping, increment, c) ← readHeader c
  let known := increment.map (outer.getD 0 + ·)
  let (margin, c) ← readMargin known budget { endLine := c.line } c
  -- The content is indented by more than what is around it, and by one space at least.
  let indent := known.getD (max (max margin.widest ((outer.map (· + 1)).getD 0)) 1)
  let (text, lead, empty, endLine, c) ←
    readBlockLines literal indent budget budget [] [] margin.breaks false margin.endLine c
  -- What follows the last line is kept or dropped as the header says.
  let text := if chomping = .strip then text else text ++ lead
  let text := if chomping = .keep then text ++ empty else text
  return (text, endLine, c)

/-! ### Plain scalars -/

/-- Punctuation of flow collections. -/
def isFlowMark (c : Char) : Bool :=
  c == ',' || c == '[' || c == ']' || c == '\x7b' || c == '\x7d'

/-- The unbroken run of characters at the cursor, up to a blank or to what ends a plain scalar. -/
def readPlainWord (flow : Bool) : Nat → List Char → Cursor → Except Fault (List Char × Cursor)
  | 0, acc, c => .ok (acc.reverse, c)
  | fuel + 1, acc, c =>
    match c.peek with
    | none => .ok (acc.reverse, c)
    | some x =>
      if isSpaceOrTab x || isBreak x then .ok (acc.reverse, c)
      else
        let next := c.peekAt 1
        if flow && x = ':' && next.any fun y => isFlowMark y || y == '?' then
          -- A colon ends the word if nothing stands directly behind it.
          c.fail "found unexpected ':'"
        else if x = ':' && isEdge next then .ok (acc.reverse, c)
        else if flow && isFlowMark x then .ok (acc.reverse, c)
        else readPlainWord flow fuel (x :: acc) c.skip

/-- The text of a plain scalar, the line it ends on, and whether a line break follows it. -/
structure Plain where
  text : List Char
  endLine : Nat
  broken : Bool

/-- Reads words and the gaps between them; `gap` is the gap in front of the cursor. -/
def readPlainFrom (flow : Bool) (indent : Nat) (budget : Nat) :
    Nat → Plain → Gap → Cursor → Except Fault (Plain × Cursor)
  | 0, p, g, c => .ok ({ p with broken := g.broken }, c)
  | fuel + 1, p, g, c =>
    -- A hash behind a gap starts a comment.
    if c.atAnyMarker || c.peek = some '#' then .ok ({ p with broken := g.broken }, c)
    else do
      let (word, after) ← readPlainWord flow budget [] c
      let (p, g) :=
        if word.isEmpty then (p, g)
        else
          (⟨p.text ++ g.text ++ word, after.line, false⟩, ({} : Gap))
      if isEdge after.peek && !after.atEnd then
        let (g, c) ← readGap (some indent) budget g after
        if !flow && c.column < indent then return ({ p with broken := g.broken }, c)
        else readPlainFrom flow indent budget fuel p g c
      else return ({ p with broken := g.broken }, after)

/-- Reads a plain scalar; `outer` is the indentation around it, none at the top. -/
def readPlain (flow : Bool) (outer : Option Nat) (c : Cursor) : Except Fault (Plain × Cursor) :=
  let budget := c.rest.length + 1
  readPlainFrom flow ((outer.map (· + 1)).getD 0) budget budget ⟨[], c.line, false⟩ {} c

end Scaffold.Yaml
