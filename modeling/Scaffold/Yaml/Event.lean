import Scaffold.Yaml.TokenStream

/-!
# From tokens to events

The grammar of YAML, one event at a time: scalars, aliases, and the starts and ends of collections.
The positions where the grammar has to continue are kept on a stack, so that all events in front of a
fault are known.

* `Grammar.step` reads one event.
* `EventStream.ofTokens` reads the events of the first document; it also says whether anything comes
  after that document.
-/

namespace Scaffold.Yaml

/-- What a reader is told about a document, piece by piece. -/
inductive EventKind where
  | scalar (anchor? : Option String) (tag? : Option Tag) (text : String) (style : ScalarStyle)
  | alias (name : String)
  | sequenceStart (anchor? : Option String) (tag? : Option Tag)
  | sequenceEnd
  | mappingStart (anchor? : Option String) (tag? : Option Tag)
  | mappingEnd
  deriving DecidableEq, Repr

/-- An event and the line that it starts on. -/
structure Event where
  kind : EventKind
  line : Nat
  deriving DecidableEq, Repr

/-- Places in the grammar. -/
inductive Place where
  | blockNode
  | documentContent
  | documentEnd
  | blockSequenceEntry
  | indentlessEntry
  | blockMappingKey
  | blockMappingValue
  | flowSequenceFirst
  | flowSequenceEntry
  | pairKey
  | pairValue
  | pairEnd
  | flowMappingFirst
  | flowMappingKey
  | flowMappingValue
  | flowMappingEmptyValue
  deriving DecidableEq, Repr

/-- Where parsing stands: the tokens that are left and the places to continue at. -/
structure Grammar where
  tokens : List Token
  /-- The fault met after the last token. -/
  fault? : Option Fault
  /-- Prefixes that tag handles stand for. -/
  handles : List (String × Tag)
  place : Place
  places : List Place

/-- The result of one step. -/
inductive Step where
  | event (e : Event) (g : Grammar)
  /-- The document is over. -/
  | finished (g : Grammar)
  | failed (f : Fault)

namespace Grammar

/-- What stopped the tokens; a stream without a fault ends with its own token, which is never taken. -/
def stop (g : Grammar) : Fault := g.fault?.getD ⟨"unexpected end of tokens", none⟩

/-- Takes the next token off. -/
def advance (g : Grammar) : Grammar := { g with tokens := g.tokens.tail }

/-- Continues with the token in front. -/
def withToken (g : Grammar) (k : Token → Step) : Step :=
  match g.tokens with
  | t :: _ => k t
  | [] => .failed g.stop

/-- Fails at a token. -/
def refuse (problem : String) (t : Token) : Step := .failed ⟨problem, some t.line⟩

/-- Continues at the place on top of the stack. -/
def pop (g : Grammar) : Grammar :=
  match g.places with
  | p :: places => { g with place := p, places := places }
  | [] => { g with place := .documentEnd }

/-- Reads a node next and continues at `place` after it. -/
def pushPlace (g : Grammar) (place : Place) : Grammar := { g with places := place :: g.places }

/-- A node that is left out: an empty scalar. -/
def emptyScalar (g : Grammar) (line : Nat) : Step :=
  .event ⟨.scalar none none "" .plain, line⟩ g

/-! ### Nodes -/

/-- Anchor and tag in front of a node. -/
structure Properties where
  anchor? : Option String := none
  tag? : Option Tag := none
  line? : Option Nat := none

/-- The tag that a handle and a suffix stand for. -/
def resolveTag (g : Grammar) (handle : String) (suffix : Tag) : Option Tag :=
  if handle.isEmpty then some suffix else (g.handles.lookup handle).map (·.append suffix)

/-- Reads an anchor and a tag, in either order and at most one of each. -/
def readProperties (g : Grammar) : Except Fault (Properties × Grammar) :=
  -- An unknown handle is reported where it stands, or as the fault that ended the tokens behind it.
  let tagOf (p : Properties) (t : Token) (handle : String) (suffix : Tag) (g : Grammar) :
      Except Fault (Properties × Grammar) :=
    match g.resolveTag handle suffix with
    | some tag => .ok ({ p with tag? := some tag, line? := p.line?.or (some t.line) }, g.advance)
    | none =>
      .error (if g.advance.tokens.isEmpty then g.stop
        else ⟨"found undefined tag handle", some t.line⟩)
  -- The anchor and the tag come in either order, each at most once.
  match g.tokens with
  | ⟨.anchor name, line, _⟩ :: ⟨.tag handle suffix, tagLine, e⟩ :: _ =>
    tagOf { anchor? := some name, line? := some line } ⟨.tag handle suffix, tagLine, e⟩ handle suffix
      g.advance
  | ⟨.anchor name, line, _⟩ :: _ => .ok ({ anchor? := some name, line? := some line }, g.advance)
  | ⟨.tag handle suffix, line, e⟩ :: ⟨.anchor name, _, _⟩ :: _ =>
    match tagOf {} ⟨.tag handle suffix, line, e⟩ handle suffix g with
    | .ok (p, g) => .ok ({ p with anchor? := some name }, g.advance)
    | .error f => .error f
  | ⟨.tag handle suffix, line, e⟩ :: _ => tagOf {} ⟨.tag handle suffix, line, e⟩ handle suffix g
  | _ => .ok ({}, g)

/-- The node behind its properties. -/
def nodeBody (p : Properties) (block indentless : Bool) (g : Grammar) : Step :=
  g.withToken fun t =>
    let line := p.line?.getD t.line
    let g' := g.advance
    -- A dash starts a sequence only where it may stand at the column of a key.
    match t.kind, block, indentless with
    | .blockEntry, _, true =>
      .event ⟨.sequenceStart p.anchor? p.tag?, line⟩ { g with place := .indentlessEntry }
    | .scalar text style, _, _ => .event ⟨.scalar p.anchor? p.tag? text style, line⟩ g'.pop
    | .flowSequenceStart, _, _ =>
      .event ⟨.sequenceStart p.anchor? p.tag?, line⟩ { g' with place := .flowSequenceFirst }
    | .flowMappingStart, _, _ =>
      .event ⟨.mappingStart p.anchor? p.tag?, line⟩ { g' with place := .flowMappingFirst }
    | .blockSequenceStart, true, _ =>
      .event ⟨.sequenceStart p.anchor? p.tag?, line⟩ { g' with place := .blockSequenceEntry }
    | .blockMappingStart, true, _ =>
      .event ⟨.mappingStart p.anchor? p.tag?, line⟩ { g' with place := .blockMappingKey }
    | _, _, _ =>
      -- With an anchor or a tag, a missing node is an empty scalar.
      if p.anchor?.isSome || p.tag?.isSome then
        .event ⟨.scalar p.anchor? p.tag? "" .plain, line⟩ g.pop
      else refuse "did not find expected node content" t

/-- A node: an alias, a scalar or the start of a collection, behind its anchor and tag. -/
def node (block indentless : Bool) (g : Grammar) : Step :=
  g.withToken fun t =>
    match t.kind with
    | .alias name => .event ⟨.alias name, t.line⟩ g.advance.pop
    | _ =>
      match g.readProperties with
      | .ok (p, g) => nodeBody p block indentless g
      | .error f => .failed f

/-! ### Collections -/

/-- Tokens that a missing node of a block collection leaves in front. -/
def closesBlock (k : TokenKind) : Bool :=
  k == .key || k == .value || k == .blockEnd

/-- An item of a sequence in block style, or its end. -/
def blockSequenceEntry (g : Grammar) : Step :=
  g.withToken fun t =>
    match t.kind with
    | .blockEntry =>
      let g := g.advance
      g.withToken fun next =>
        if next.kind = .blockEntry || next.kind = .blockEnd then
          { g with place := .blockSequenceEntry }.emptyScalar t.endLine
        else (g.pushPlace .blockSequenceEntry).node true false
    | .blockEnd => .event ⟨.sequenceEnd, t.line⟩ g.advance.pop
    | _ => refuse "did not find expected '-' indicator" t

/-- An item of a sequence that is indented no more than the key it stands under, or its end. -/
def indentlessEntry (g : Grammar) : Step :=
  g.withToken fun t =>
    match t.kind with
    | .blockEntry =>
      let g := g.advance
      g.withToken fun next =>
        if next.kind = .blockEntry || closesBlock next.kind then
          { g with place := .indentlessEntry }.emptyScalar t.endLine
        else (g.pushPlace .indentlessEntry).node true false
    | _ => .event ⟨.sequenceEnd, t.line⟩ g.pop

/-- A key of a mapping in block style, or its end. -/
def blockMappingKey (g : Grammar) : Step :=
  g.withToken fun t =>
    match t.kind with
    | .key =>
      let g := g.advance
      g.withToken fun next =>
        if closesBlock next.kind then
          { g with place := .blockMappingValue }.emptyScalar t.endLine
        else (g.pushPlace .blockMappingValue).node true true
    | .blockEnd => .event ⟨.mappingEnd, t.line⟩ g.advance.pop
    | _ => refuse "did not find expected key" t

/-- The value of a key in block style. -/
def blockMappingValue (g : Grammar) : Step :=
  g.withToken fun t =>
    match t.kind with
    | .value =>
      let g := g.advance
      g.withToken fun next =>
        if closesBlock next.kind then { g with place := .blockMappingKey }.emptyScalar t.endLine
        else (g.pushPlace .blockMappingKey).node true true
    | _ => { g with place := .blockMappingKey }.emptyScalar t.line

/-- A flow sequence behind its opening bracket or the comma after an item. -/
def flowSequenceItem (g : Grammar) : Step :=
  g.withToken fun t =>
    match t.kind with
    | .key => .event ⟨.mappingStart none none, t.line⟩ { g.advance with place := .pairKey }
    | .flowSequenceEnd => .event ⟨.sequenceEnd, t.line⟩ g.advance.pop
    | _ => (g.pushPlace .flowSequenceEntry).node false false

/-- An item of a sequence between brackets, or its end. -/
def flowSequenceEntry (g : Grammar) : Step :=
  g.withToken fun t =>
    match t.kind with
    | .flowSequenceEnd => .event ⟨.sequenceEnd, t.line⟩ g.advance.pop
    | .flowEntry => g.advance.flowSequenceItem
    | _ => refuse "did not find expected ',' or ']'" t

/-- The key of a pair that stands for an item between brackets. -/
def pairKey (g : Grammar) : Step :=
  g.withToken fun t =>
    if t.kind = .value || t.kind = .flowEntry || t.kind = .flowSequenceEnd then
      { g.advance with place := .pairValue }.emptyScalar t.endLine
    else (g.pushPlace .pairValue).node false false

/-- The value of a pair that stands for an item between brackets. -/
def pairValue (g : Grammar) : Step :=
  g.withToken fun t =>
    match t.kind with
    | .value =>
      let g := g.advance
      g.withToken fun next =>
        if next.kind = .flowEntry || next.kind = .flowSequenceEnd then
          { g with place := .pairEnd }.emptyScalar next.line
        else (g.pushPlace .pairEnd).node false false
    | _ => { g with place := .pairEnd }.emptyScalar t.line

/-- The end of a pair that stands for an item between brackets. -/
def pairEnd (g : Grammar) : Step :=
  g.withToken fun t => .event ⟨.mappingEnd, t.line⟩ { g with place := .flowSequenceEntry }

/-- A flow mapping behind its opening brace or the comma after an entry. -/
def flowMappingItem (g : Grammar) : Step :=
  g.withToken fun t =>
    match t.kind with
    | .key =>
      let g := g.advance
      g.withToken fun next =>
        if next.kind = .value || next.kind = .flowEntry || next.kind = .flowMappingEnd then
          { g with place := .flowMappingValue }.emptyScalar next.line
        else (g.pushPlace .flowMappingValue).node false false
    | .flowMappingEnd => .event ⟨.mappingEnd, t.line⟩ g.advance.pop
    | _ => (g.pushPlace .flowMappingEmptyValue).node false false

/-- A key of a mapping between braces, or its end. -/
def flowMappingKey (g : Grammar) : Step :=
  g.withToken fun t =>
    match t.kind with
    | .flowMappingEnd => .event ⟨.mappingEnd, t.line⟩ g.advance.pop
    | .flowEntry => g.advance.flowMappingItem
    | _ => refuse "did not find expected ',' or '\x7d'" t

/-- The value of a key between braces. -/
def flowMappingValue (g : Grammar) : Step :=
  g.withToken fun t =>
    match t.kind with
    | .value =>
      let g := g.advance
      g.withToken fun next =>
        if next.kind = .flowEntry || next.kind = .flowMappingEnd then
          { g with place := .flowMappingKey }.emptyScalar next.line
        else (g.pushPlace .flowMappingKey).node false false
    | _ => { g with place := .flowMappingKey }.emptyScalar t.line

/-! ### Documents -/

/-- Tokens that end a document without content. -/
def endsDocument (k : TokenKind) : Bool :=
  match k with
  | .versionDirective _ _ | .tagDirective _ _ | .documentStart | .documentEnd | .streamEnd => true
  | _ => false

/-- The node of a document, which may be left out. -/
def documentContent (g : Grammar) : Step :=
  g.withToken fun t =>
    if endsDocument t.kind then g.pop.emptyScalar t.line else g.node true false

/-- The end of a document, with its marker if there is one. -/
def documentEnd (g : Grammar) : Step :=
  g.withToken fun t => .finished (if t.kind = .documentEnd then g.advance else g)

/-- Reads one event. -/
def step (g : Grammar) : Step :=
  match g.place with
  | .blockNode => g.node true false
  | .documentContent => g.documentContent
  | .documentEnd => g.documentEnd
  | .blockSequenceEntry => g.blockSequenceEntry
  | .indentlessEntry => g.indentlessEntry
  | .blockMappingKey => g.blockMappingKey
  | .blockMappingValue => g.blockMappingValue
  | .flowSequenceFirst => g.flowSequenceItem
  | .flowSequenceEntry => g.flowSequenceEntry
  | .pairKey => g.pairKey
  | .pairValue => g.pairValue
  | .pairEnd => g.pairEnd
  | .flowMappingFirst => g.flowMappingItem
  | .flowMappingKey => g.flowMappingKey
  | .flowMappingValue => g.flowMappingValue
  | .flowMappingEmptyValue => g.withToken fun t =>
      { g with place := .flowMappingKey }.emptyScalar t.line

/-- Reads the directives in front of a document; there is one version at most, and a handle is
    declared once. -/
def readDirectives (version : Bool) (declared : List (String × Tag)) :
    List Token → Except Fault (List (String × Tag) × Bool × List Token)
  | ⟨.versionDirective major minor, line, _⟩ :: rest =>
    if version then .error ⟨"found duplicate %YAML directive", some line⟩
    else if major ≠ 1 || (minor ≠ 1 && minor ≠ 2) then
      .error ⟨"found incompatible YAML document", some line⟩
    else readDirectives true declared rest
  | ⟨.tagDirective handle start, line, _⟩ :: rest =>
    if (declared.lookup handle).isSome then
      .error ⟨"found duplicate %TAG directive", some line⟩
    else readDirectives version (declared ++ [(handle, start)]) rest
  | rest => .ok (declared, version || !declared.isEmpty, rest)

/-- The handles that every document knows. -/
def defaultHandles : List (String × Tag) := [("!", .ofString "!"), ("!!", .core "")]

end Grammar

/-- The events of the first document of a stream. -/
structure EventStream where
  events : List Event
  /-- Why the events stop before the document is over. -/
  fault? : Option Fault
  /-- Whether something other than the end of the stream follows the document. -/
  more : Bool
  /-- The stream holds no document at all. -/
  isEmpty : Bool

namespace EventStream

/-- Whether something other than the end of the stream comes next. -/
def hasMore (g : Grammar) : Bool :=
  match g.tokens.dropWhile (·.kind == .documentEnd) with
  | t :: _ => t.kind != .streamEnd
  | [] => true

/-- Collects events, the last one first. A step that takes no token pushes or pops a place, so twice
    the number of tokens bounds the steps. -/
def collect : Nat → List Event → Grammar → EventStream
  | 0, events, g => ⟨events.reverse, some g.stop, false, false⟩
  | fuel + 1, events, g =>
    match g.step with
    | .event e g => collect fuel (e :: events) g
    | .finished g => ⟨events.reverse, none, hasMore g, false⟩
    | .failed f => ⟨events.reverse, some f, false, false⟩

/-- The events of all tokens; their number bounds the steps. -/
def ofTokens (stream : TokenStream) : EventStream :=
  let fail (f : Fault) : EventStream := ⟨[], some f, false, false⟩
  let stop : Fault := stream.fault?.getD ⟨"unexpected end of tokens", none⟩
  match Grammar.readDirectives false [] stream.tokens with
  | .error f => fail f
  | .ok (declared, explicit, tokens) =>
    let handles := declared ++ Grammar.defaultHandles
    let fuel := 4 * stream.tokens.length + 8
    match tokens with
    | [] => fail stop
    -- An empty text has no document, unless a directive asked for one.
    | ⟨.streamEnd, line, _⟩ :: _ =>
      if explicit then fail ⟨"did not find expected <document start>", some line⟩
      else ⟨[], none, false, true⟩
    | ⟨.documentStart, _, _⟩ :: rest =>
      collect fuel [] ⟨rest, stream.fault?, handles, .documentContent, [.documentEnd]⟩
    | t :: _ =>
      -- A document without a marker is allowed when no directive stands before it.
      if explicit then fail ⟨"did not find expected <document start>", some t.line⟩
      else collect fuel [] ⟨tokens, stream.fault?, handles, .blockNode, [.documentEnd]⟩

end EventStream

end Scaffold.Yaml
