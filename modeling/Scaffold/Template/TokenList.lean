import Scaffold.Template.Literal
import Scaffold.Template.Token

/-!
# Token lists

Cutting the source of a template into tokens, each with the line it starts in.

* `TokenList.ofSource` gives the tokens up to the end or to the first fault.
* A mark with a minus sign removes all blanks on its side, one with a plus sign none. A tag without a
  sign takes the blanks in front of it that fill its line up, and the line break behind it.
-/

namespace Scaffold.Template

/-- A token and the line it starts in. -/
structure Located where
  token : Token
  line : Nat
  deriving Inhabited

/-- The tokens in front of the first fault, if there is one. -/
structure TokenList where
  tokens : List Located
  fault? : Option Fault
  deriving Inhabited

namespace TokenList

/-! ### Source text -/

/-- What is left of a source: the characters, the line they start in, and whether only blanks stand
    in front of them in it. -/
structure Source where
  rest : List Char
  line : Nat
  fresh : Bool

/-- Whether a character ends a line. -/
def isBreak (c : Char) : Bool := c = '\n' || c = '\r'

namespace Source

/-- Moves behind the characters `passed`, with `rest` after them. -/
def move (s : Source) (passed rest : List Char) : Source where
  rest := rest
  line := s.line + passed.count '\n'
  fresh := passed.foldl (fun fresh c => isBreak c || (fresh && Chars.isBlank c)) s.fresh

/-- The place `n` characters further. -/
def skip (s : Source) (n : Nat) : Source := s.move (s.rest.take n) (s.rest.drop n)

/-- The place behind the characters with a property. -/
def skipWhile (s : Source) (p : Char → Bool) : Source :=
  s.move (s.rest.takeWhile p) (s.rest.dropWhile p)

/-- Moves behind one line break. -/
def skipBreak (s : Source) : Source :=
  match s.rest with
  | '\r' :: '\n' :: _ => s.skip 2
  | '\r' :: _ => s.skip 1
  | '\n' :: _ => s.skip 1
  | _ => s

end Source

/-! ### Marks -/

/-- What a mark opens. -/
inductive Region where
  | value | tag | comment
  deriving DecidableEq

/-- What a mark does to the blanks on its side. -/
inductive Trim where
  | remove | keep | default
  deriving DecidableEq

/-- The sign behind a mark that opens, or at the end in front of one that closes. -/
def Trim.ofHead (s : List Char) : Trim :=
  match s with
  | '-' :: _ => .remove
  | '+' :: _ => .keep
  | _ => .default

/-- How many characters a sign takes. -/
def Trim.width : Trim → Nat
  | .default => 0
  | _ => 1

/-- The kind of region that a mark opens. -/
def region? : List Char → Option Region
  | '\x7b' :: '\x7b' :: _ => some .value
  | '\x7b' :: '%' :: _ => some .tag
  | '\x7b' :: '#' :: _ => some .comment
  | _ => none

/-- The characters in front of the first mark, and what starts with the mark. -/
def splitAtMark : List Char → List Char × List Char
  | [] => ([], [])
  | c :: s =>
    if (region? (c :: s)).isSome then ([], c :: s)
    else
      let (before, rest) := splitAtMark s
      (c :: before, rest)

/-- The characters in front of the first occurrence of two characters, and what follows these. -/
def splitAtPair? (a b : Char) : List Char → Option (List Char × List Char)
  | [] => none
  | [_] => none
  | c :: d :: s =>
    if c = a && d = b then some ([], s)
    else (splitAtPair? a b (d :: s)).map fun (before, rest) => (c :: before, rest)

/-- Removes the blanks at the end of the last line. -/
def stripLine (s : List Char) : List Char :=
  Chars.dropEndWhile (fun c => Chars.isBlank c && !isBreak c) s

/-- The text in front of a mark. -/
def leadText (region : Region) (trim : Trim) (fresh : Bool) (lead : List Char) : List Char :=
  match trim with
  | .remove => Chars.trimEnd lead
  | .keep => lead
  | .default => if region ≠ .value && fresh then stripLine lead else lead

/-- The place behind a mark that closes: blanks are removed, or a tag takes the line break. -/
def behindMark (region : Region) (trim : Trim) (s : Source) : Source :=
  match trim with
  | .remove => s.skipWhile Chars.isBlank
  | .keep => s
  | .default => if region = .value then s else s.skipBreak

/-- Whether a character separates tokens. -/
def isAsciiSpace (c : Char) : Bool :=
  c = ' ' || c = '\t' || c = '\n' || c = '\r' || c = '\x0c'

/-! ### Raw text -/

/-- What follows a tag that consists of one word, behind its opening mark, and the sign at its
    end. -/
def wordTag? (word : String) (s : List Char) : Option (Trim × List Char) :=
  let s := s.dropWhile isAsciiSpace
  if word.toList.isPrefixOf s then
    let s := (s.drop word.length).dropWhile isAsciiSpace
    let trim := Trim.ofHead s
    match s.drop trim.width with
    | '%' :: '\x7d' :: rest => some (trim, rest)
    | _ => none
  else none

/-- The end of raw text: the text, the sign in front of the word, the sign behind it, and what
    follows. -/
def rawEnd? (s : List Char) : Option (List Char × Trim × Trim × List Char) :=
  match s with
  | [] => none
  | c :: r =>
    -- The end of the raw text is a tag by itself; everything before it is copied.
    let here :=
      if region? (c :: r) = some .tag then
        let inner := r.drop 1
        let trim := Trim.ofHead inner
        (wordTag? "endraw" (inner.drop trim.width)).map fun (last, rest) =>
          (([] : List Char), trim, last, rest)
      else none
    match here with
    | some found => some found
    | none => (rawEnd? r).map fun (text, rest) => (c :: text, rest)

/-- Raw text without the blanks that the tags around it take. -/
def trimRaw (first last : Trim) (text : List Char) : List Char :=
  let text := match first with
    | .remove => Chars.trimStart text
    | .keep => text
    | .default => (Source.skipBreak ⟨text, 1, false⟩).rest
  match last with
  | .remove => Chars.trimEnd text
  | .keep => text
  | .default =>
    let stripped := stripLine text
    if stripped.isEmpty || (stripped.getLast?.map isBreak).getD false then stripped else text

/-! ### Steps -/

/-- Where the scan is: outside of all marks, or inside of one with brackets open. -/
inductive Mode where
  | outside
  | inside (region : Region) (depth : Int)

/-- What one step gives: tokens, and where to go on; nothing at the end of the source. -/
structure Step where
  tokens : List Located
  next? : Option (Mode × Source)

/-- The fault of a text that is no token. -/
def unreadable (detail : String) (template : String) (line : Nat) : Fault :=
  ⟨.unreadable, some detail, some ⟨template, line⟩⟩

/-- The tokens for a piece of text. -/
def textTokens (line : Nat) (text : List Char) : List Located :=
  if text.isEmpty then [] else [⟨.text (.ofList text), line⟩]

/-- Goes on at a mark, whose sign is `trim`. -/
def atMark (template : String) (region : Region) (trim : Trim) (s : Source) :
    Except Fault Step :=
  -- The mark has two characters, with the sign that trims behind them.
  let inner := s.skip (2 + trim.width)
  match region with
  | .value => .ok ⟨[⟨.openValue, s.line⟩], some (.inside .value 0, inner)⟩
  | .comment =>
    match splitAtPair? '#' '\x7d' inner.rest with
    | none => .error (unreadable "unexpected end of comment" template s.line)
    | some (body, rest) =>
      let last := Trim.ofHead (body.getLast?.toList)
      let after := inner.move (body ++ ['#', '\x7d']) rest
      .ok ⟨[], some (.outside, behindMark .comment last after)⟩
  | .tag =>
    -- A raw block is read as a whole, up to its own end tag.
    match wordTag? "raw" inner.rest with
    | none => .ok ⟨[⟨.openTag, s.line⟩], some (.inside .tag 0, inner)⟩
    | some (first, raw) =>
      let start := inner.move (inner.rest.take (inner.rest.length - raw.length)) raw
      match rawEnd? raw with
      | none => .error (unreadable "unexpected end of raw block" template start.line)
      | some (text, before, last, rest) =>
        let after := start.move (raw.take (raw.length - rest.length)) rest
        .ok ⟨textTokens start.line (trimRaw first before text),
          some (.outside, behindMark .tag last after)⟩

/-- Text up to the next mark. -/
def outsideStep (template : String) (s : Source) : Except Fault Step :=
  let (lead, rest) := splitAtMark s.rest
  match region? rest with
  | none => .ok ⟨textTokens s.line lead, none⟩
  | some region => do
    let trim := Trim.ofHead (rest.drop 2)
    let mark := s.move lead rest
    let step ← atMark template region trim mark
    return { step with
      tokens := textTokens s.line (leadText region trim mark.fresh lead) ++ step.tokens }

/-- The sign and the rest behind the mark that closes a region. -/
def closing? (region : Region) (s : List Char) : Option (Trim × List Char) :=
  let trim := Trim.ofHead s
  match region, s.drop trim.width with
  | .value, '\x7d' :: '\x7d' :: rest => some (trim, rest)
  | .tag, '%' :: '\x7d' :: rest => some (trim, rest)
  | _, _ => none

/-- Whether a word may start with the character. -/
def isWordStart (c : Char) : Bool := Text.isAsciiLetter c || c = '_'

/-- Whether a word may go on with the character. -/
def isWordPart (c : Char) : Bool := isWordStart c || Text.isAsciiDigit c

/-- A token that is no symbol, at the start of the source. -/
def literalStep (template : String) (s : Source) (c : Char) : Except Fault (Token × Source) :=
  if c = '"' || c = '\x27' then
    match Literal.takeQuoted c (s.rest.drop 1) with
    | none =>
      .error (unreadable "unexpected end of string" template (s.line + s.rest.count '\n'))
    | some (body, rest) =>
      match Literal.unescape body with
      | none => .error (.ofProblem .badEscape)
      | some text => .ok (.string text, s.move (s.rest.take (s.rest.length - rest.length)) rest)
  else if Text.isAsciiDigit c then
    let (number, rest) := Literal.readNumber s.rest
    let after := s.move (s.rest.take (s.rest.length - rest.length)) rest
    match number with
    | none => .error (unreadable "invalid number" template s.line)
    | some (.int n) => .ok (.int n, after)
    | some (.float x) => .ok (.float x, after)
  else if isWordStart c then
    .ok (.word (.ofList (s.rest.takeWhile isWordPart)), s.skipWhile isWordPart)
  else .error (unreadable "unexpected character" template s.line)

/-- One token between marks. -/
def insideStep (template : String) (region : Region) (depth : Int) (s : Source) :
    Except Fault Step :=
  let s := s.skipWhile isAsciiSpace
  -- Brackets that are open keep the region open, even at something that looks like its end.
  let closed := if depth = 0 then closing? region s.rest else none
  match closed, s.rest with
  | some (trim, rest), _ =>
    let after := s.move (s.rest.take (s.rest.length - rest.length)) rest
    let token : Token := if region = .value then .closeValue else .closeTag
    .ok ⟨[⟨token, s.line⟩], some (.outside, behindMark region trim after)⟩
  | none, [] => .ok ⟨[], none⟩
  | none, c :: rest =>
    -- Two characters that make a symbol together are read together.
    match (rest.head?.bind (Symbol.ofTwo? c)) with
    | some x => .ok ⟨[⟨.symbol x, s.line⟩], some (.inside region depth, s.skip 2)⟩
    | none =>
      match Symbol.ofOne? c with
      | some x =>
        .ok ⟨[⟨.symbol x, s.line⟩], some (.inside region (depth + x.nesting), s.skip 1)⟩
      | none => do
        let (token, after) ← literalStep template s c
        return ⟨[⟨token, s.line⟩], some (.inside region depth, after)⟩

/-- One step through a source, inside of a region or outside. -/
def step (template : String) : Mode → Source → Except Fault Step
  | .outside, s => outsideStep template s
  | .inside region depth, s => insideStep template region depth s

/-- The tokens of a source. Each step but the last one shortens it, so that its length bounds their
    number. -/
def scan (template : String) : Nat → Mode → Source → TokenList
  | 0, _, _ => ⟨[], none⟩
  | bound + 1, mode, s =>
    match step template mode s with
    | .error fault => ⟨[], some fault⟩
    | .ok ⟨tokens, none⟩ => ⟨tokens, none⟩
    | .ok ⟨tokens, some (mode, s)⟩ =>
      let rest := scan template bound mode s
      ⟨tokens ++ rest.tokens, rest.fault?⟩

/-- A source without the line break at its end. -/
def withoutLastBreak (s : List Char) : List Char :=
  let s := if s.getLast? = some '\n' then s.dropLast else s
  if s.getLast? = some '\r' then s.dropLast else s

/-- The tokens of a source. -/
def ofSource (template source : String) : TokenList :=
  let s := withoutLastBreak source.toList
  scan template (s.length + 2) .outside ⟨s, 1, true⟩

end TokenList

end Scaffold.Template
