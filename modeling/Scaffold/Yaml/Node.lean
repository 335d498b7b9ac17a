import Scaffold.Yaml.Event
import Scaffold.Yaml.Scalar

/-!
# From events to nodes and values

A node is the part of a document that one value is read from, with aliases replaced by what they stand
for. Where reading stopped, or would not stop, the tree of nodes has a hole, so a fault in an earlier
part of the document is met first.

* `Node.ofEvents` builds the tree. Collections may be nested 128 deep, and the number of aliases
  followed is limited by the size of the document.
* `Node.value` reads a value: keys are unique, and application tags are kept.
* `Yaml.parse` reads a text that holds one document.
-/

namespace Scaffold.Yaml

inductive Node where
  /-- A document without content. -/
  | void
  | scalar (tag? : Option Tag) (text : String) (style : ScalarStyle) (line : Nat)
  | sequence (tag? : Option Tag) (items : List Node) (line : Nat)
  | mapping (tag? : Option Tag) (entries : List (Node × Node)) (line : Nat)
  /-- Reading stopped here. -/
  | cut (fault : Fault)
  /-- A collection that is nested too deep. -/
  | tooDeep (line : Nat)
  | tooManyAliases
  deriving Inhabited

/-- An event together with the position of the event that its alias stands for. -/
structure LinkedEvent where
  event : Event
  target : Nat

namespace LinkedEvent

/-- Finds what each alias stands for: the last node before it with that anchor. An unknown anchor stops
    the events. -/
def link (anchors : List (String × Nat)) (position : Nat) (stop? : Option Fault) :
    List Event → List LinkedEvent × Option Fault
  | [] => ([], stop?)
  | e :: events =>
    -- An anchor is known behind the event that declares it, the inside of its collection included.
    let continue_ (anchor? : Option String) : List LinkedEvent × Option Fault :=
      let anchors := anchor?.elim anchors fun a => (a, position) :: anchors
      let (rest, fault?) := link anchors (position + 1) stop? events
      (⟨e, position⟩ :: rest, fault?)
    match e.kind with
    | .alias name =>
      match anchors.lookup name with
      | some target =>
        let (rest, fault?) := link anchors (position + 1) stop? events
        (⟨e, target⟩ :: rest, fault?)
      | none => ([], some ⟨"unknown anchor", some e.line⟩)
    | .scalar anchor? _ _ _ => continue_ anchor?
    | .sequenceStart anchor? _ => continue_ anchor?
    | .mappingStart anchor? _ => continue_ anchor?
    | .sequenceEnd | .mappingEnd => continue_ none

/-- What follows a collection whose start has been taken; `depth` counts the collections inside it
    that are still open. -/
def skipCollection : Nat → List LinkedEvent → List LinkedEvent
  | _, [] => []
  | depth, e :: events =>
    match e.event.kind with
    | .sequenceStart _ _ | .mappingStart _ _ => skipCollection (depth + 1) events
    | .sequenceEnd | .mappingEnd =>
      if depth = 0 then events else skipCollection (depth - 1) events
    | _ => skipCollection depth events

end LinkedEvent

namespace Node

/-- How deep collections may be nested. -/
def depthLimit : Nat := 128

/-- A node, the events behind it, and the number of aliases followed so far. -/
structure Part (α : Type) where
  result : α
  rest : List LinkedEvent
  aliases : Nat

/-- What nodes are built from. -/
structure Source where
  events : List LinkedEvent
  stop : Fault

/-- The number of aliases that may be followed. -/
def Source.aliasLimit (s : Source) : Nat := 100 * s.events.length

mutual

/-- The node in front of the events; `room` is how many collections may still be opened. -/
def readNode (src : Source) : (fuel room : Nat) → List LinkedEvent → Nat → Part Node
  | 0, _, _, aliases => ⟨.cut src.stop, [], aliases⟩
  | _, _, [], aliases => ⟨.cut src.stop, [], aliases⟩
  | fuel + 1, room, e :: events, aliases =>
    let line := e.event.line
    match e.event.kind with
    | .scalar _ tag? text style => ⟨.scalar tag? text style line, events, aliases⟩
    | .alias _ =>
      -- Each use of an alias reads the anchored node again, up to the limit.
      if src.aliasLimit < aliases + 1 then ⟨.tooManyAliases, events, aliases + 1⟩
      else
        let p := readNode src fuel room (src.events.drop e.target) (aliases + 1)
        ⟨p.result, events, p.aliases⟩
    | .sequenceStart _ tag? =>
      if room = 0 then ⟨.tooDeep line, LinkedEvent.skipCollection 0 events, aliases⟩
      else
        let p := readItems src fuel (room - 1) events aliases
        ⟨.sequence tag? p.result line, p.rest, p.aliases⟩
    | .mappingStart _ tag? =>
      if room = 0 then ⟨.tooDeep line, LinkedEvent.skipCollection 0 events, aliases⟩
      else
        let p := readEntries src fuel (room - 1) events aliases
        ⟨.mapping tag? p.result line, p.rest, p.aliases⟩
    | .sequenceEnd | .mappingEnd => ⟨.cut src.stop, [], aliases⟩

/-- The items of a sequence up to its end. -/
def readItems (src : Source) : (fuel room : Nat) → List LinkedEvent → Nat → Part (List Node)
  | 0, _, _, aliases => ⟨[.cut src.stop], [], aliases⟩
  | fuel + 1, room, events, aliases =>
    match events with
    | [] => ⟨[.cut src.stop], [], aliases⟩
    | e :: rest =>
      if e.event.kind = .sequenceEnd then ⟨[], rest, aliases⟩
      else
        let p := readNode src fuel room events aliases
        let q := readItems src fuel room p.rest p.aliases
        ⟨p.result :: q.result, q.rest, q.aliases⟩

/-- The entries of a mapping up to its end. -/
def readEntries (src : Source) :
    (fuel room : Nat) → List LinkedEvent → Nat → Part (List (Node × Node))
  | 0, _, _, aliases => ⟨[(.cut src.stop, .cut src.stop)], [], aliases⟩
  | fuel + 1, room, events, aliases =>
    match events with
    | [] => ⟨[(.cut src.stop, .cut src.stop)], [], aliases⟩
    | e :: rest =>
      if e.event.kind = .mappingEnd then ⟨[], rest, aliases⟩
      else
        let k := readNode src fuel room events aliases
        let v := readNode src fuel room k.rest k.aliases
        let q := readEntries src fuel room v.rest v.aliases
        ⟨(k.result, v.result) :: q.result, q.rest, q.aliases⟩

end

/-- The tree of the first document of a stream. Each level of the tree reads the events one after the
    other, which bounds the depth of the recursion. -/
def ofEvents (stream : EventStream) : Node :=
  if stream.isEmpty then .void
  else
    let (events, fault?) := LinkedEvent.link [] 0 stream.fault? stream.events
    let src : Source := ⟨events, fault?.getD ⟨"end of stream", none⟩⟩
    (readNode src ((depthLimit + 2) * (events.length + 2)) depthLimit events 0).result

/-! ### Values -/

/-- The value of a scalar whose application tag, if any, has been dealt with. -/
def scalarValue (tag? : Option Tag) (text : String) (style : ScalarStyle) (line : Nat) :
    Except Fault Value :=
  let fail (problem : String) : Except Fault Value := .error ⟨problem, some line⟩
  let resolved (r : Scalar.Resolved) : Except Fault Value :=
    match r with
    | .value v => .ok v
    | .outOfRange => fail "integer out of range"
  -- A tag of the core schema asks for a scalar of its kind; quoted scalars are strings otherwise.
  match tag? with
  | none => if style = .plain then resolved (Scalar.resolve text) else .ok (.string text)
  | some tag =>
    if tag = .core "bool" then
      match Scalar.boolWord? text with
      | some b => .ok (.bool b)
      | none => fail "expected a boolean"
    else if tag = .core "int" then
      match Scalar.int? text.toList with
      | some r => resolved r
      | none => fail "expected an integer"
    else if tag = .core "float" then
      match Scalar.float? text with
      | some x => .ok (.number (.float x))
      | none => fail "expected a float"
    else if tag = .core "null" then
      if Scalar.isNullWord text then .ok .null else fail "expected null"
    else if tag.isApplication && style = .plain then resolved (Scalar.resolve text)
    else .ok (.string text)

/-- How strictly a value is read. -/
structure Reading where
  /-- Application tags become part of the value; otherwise they are faults. -/
  keepTags : Bool
  /-- A repeated key is a fault. -/
  uniqueKeys : Bool

/-- Wraps a value in its application tag, if it has one. -/
def wrapTag (how : Reading) (tag? : Option Tag) (line : Nat) (value : Option Tag →
    Except Fault Value) : Except Fault Value :=
  match tag?.bind Tag.application? with
  | none => value tag?
  | some name =>
    if how.keepTags then (value none).map (.tagged name)
    else .error ⟨"a tag is not allowed here", some line⟩

mutual

def read (how : Reading) : Node → Except Fault Value
  | .void => .ok .null
  | .cut fault => .error fault
  | .tooDeep line => .error ⟨"recursion limit exceeded", some line⟩
  | .tooManyAliases => .error ⟨"repetition limit exceeded", none⟩
  | .scalar tag? text style line =>
    wrapTag how tag? line fun tag? => scalarValue tag? text style line
  | .sequence tag? items line =>
    wrapTag how tag? line fun _ => (readAll how items).map .sequence
  | .mapping tag? entries line =>
    wrapTag how tag? line fun _ => (readPairs how line [] entries).map .mapping

def readAll (how : Reading) : List Node → Except Fault (List Value)
  | [] => .ok []
  | node :: nodes => do
    let v ← read how node
    let vs ← readAll how nodes
    return v :: vs

/-- Reads entries; `before` holds the keys that the mapping has already. -/
def readPairs (how : Reading) (line : Nat) (before : List Value) :
    List (Node × Node) → Except Fault (List (Value × Value))
  | [] => .ok []
  | (k, v) :: entries => do
    let key ← read how k
    if how.uniqueKeys && before.any (Value.same key) then
      throw ⟨"duplicate entry", some line⟩
    let value ← read how v
    let rest ← readPairs how line (key :: before) entries
    return (key, value) :: rest

end

/-- The value of a node. -/
def value (n : Node) : Except Fault Value := read ⟨true, true⟩ n

/-- The value of a node in a place where tags have no meaning and repeated keys are sorted out
    later. -/
def content (n : Node) : Except Fault Value := read ⟨false, false⟩ n

/-- The text of a scalar, whatever it stands for. -/
def text? : Node → Option String
  | .scalar _ text _ _ => some text
  | _ => none

mutual

/-- The fault that stops reading inside the node, if there is one. -/
def cut? : Node → Option Fault
  | .cut fault => some fault
  | .sequence _ items _ => cutIn? items
  | .mapping _ entries _ => cutInPairs? entries
  | _ => none

def cutIn? : List Node → Option Fault
  | [] => none
  | node :: nodes => (cut? node).or (cutIn? nodes)

def cutInPairs? : List (Node × Node) → Option Fault
  | [] => none
  | (k, v) :: entries => ((cut? k).or (cut? v)).or (cutInPairs? entries)

end

end Node

/-- Reads a text that holds one document, with a reader for its node. -/
def parseWith {α : Type} (reader : Node → Except Fault α) (text : String) : Except Fault α := do
  let stream := EventStream.ofTokens (TokenStream.ofText text.toList)
  let result ← reader (Node.ofEvents stream)
  match stream.fault? with
  | some fault => .error fault
  | none =>
    if stream.more then
      .error ⟨"deserializing from YAML containing more than one document is not supported", none⟩
    else return result

def parse (text : String) : Except Fault Value := parseWith Node.value text

end Scaffold.Yaml
