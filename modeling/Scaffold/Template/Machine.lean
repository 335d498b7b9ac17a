import Scaffold.Template.Expression

/-!
# Running templates

The state of a template that runs: the scopes of its names, what values refer to, the output, and the
templates it is made of.

* What values refer to is kept in cells; inserted templates have cells of their own.

* Names are looked up from the innermost scope outwards; a new value goes into the innermost one.
* A definition keeps the names it uses in a closure. Later assignments in the scope it was made in go
  into the closure as well.
* `Machine.resolve` brings the content of records and loops in a value up to date.
-/

namespace Scaffold.Template

/-- Entries by name. -/
abbrev Names := List (String × Value)

/-- The names with `value` at `name`. -/
def Names.put (names : Names) (name : String) (value : Value) : Names :=
  match names with
  | [] => [(name, value)]
  | (k, v) :: names => if k = name then (k, value) :: names else (k, v) :: Names.put names name value

/-- A loop that runs. -/
structure LoopState where
  items : Array Value
  /-- How many items there are, if the loop can tell. -/
  length? : Option Nat
  /-- The number of items in front of the current one. -/
  index : Nat
  depth : Nat
  /-- What `changed` was asked about last. -/
  last? : Option (List Value)

/-- A definition with the scope it was made in. -/
structure Definition where
  signature : Signature
  params : List Param
  body : List Statement
  closure : Ref
  template : String

/-- What a value can refer to. -/
inductive Cell where
  | record (entries : Names)
  | closure (names : Names)
  | loop (state : LoopState)
  | definition (d : Definition)

/-- What is looked up behind the names of a scope. -/
inductive Backing where
  | nothing
  | names (entries : Names)
  | closure (at_ : Ref)

/-- The loop that a scope belongs to. -/
structure LoopScope where
  at_ : Ref
  /-- Whether the name `loop` stands for it. -/
  visible : Bool
  /-- What a call of the loop runs, if it can be called. -/
  recursion? : Option (Target × List Statement)

/-- Some names and what they stand for. -/
structure Scope where
  names : Names
  backing : Backing
  closure? : Option Ref
  loop? : Option LoopScope

/-- A scope without names. -/
def Scope.empty : Scope := ⟨[], .nothing, none, none⟩

/-- The versions of a block, those of templates that extend others first, and how many of them are
    left behind by calls of `super`. -/
structure BlockVersions where
  versions : List (String × List Statement)
  passed : Nat

/-- A template that runs. -/
structure Machine where
  /-- The templates that can be asked for by name. -/
  templates : List (String × Source)
  /-- The scopes, the innermost first. -/
  scopes : List Scope
  /-- What the calls around the scopes count towards the bound on nesting. -/
  outerDepth : Nat
  out : String
  /-- Whether the output is thrown away. -/
  discarding : Bool
  escaping : Escaping
  /-- The escaping that the running code started with. -/
  firstEscaping : Escaping
  /-- The name of the template whose code runs. -/
  template : String
  blocks : List (String × BlockVersions)
  block? : Option String
  /-- The template that the running one extends, and the output to go on with when it runs. -/
  parent? : Option (Source × String)
  /-- The templates that extend one another. -/
  extended : List String
  cells : Array Cell
  /-- The cells of inserted templates. -/
  insertedCells : Array Cell
  /-- Whether the running code is that of an inserted template. -/
  isInserted : Bool

/-- Steps of a template that runs. -/
abbrev Eval := StateT Machine (Except Fault)

namespace LoopState

/-- How far a loop has come, and how far it has to go. -/
def progress (l : LoopState) : String :=
  toString l.index ++ "/" ++ (l.length?.map toString).getD "?"

/-- What a loop says about itself. -/
def entries (l : LoopState) : List (Value × Value) :=
  let i := l.index
  let left (n : Nat) : Value := (l.length?.map fun length => Value.int (length - n : Nat)).getD .undefined
  let last := (l.length?.map fun length => length == 0 || i + 1 == length).getD false
  let item? (i : Nat) : Value := (l.items[i]?).getD .undefined
  [(.text "index0", .int i),
    (.text "index", .int (i + 1)),
    (.text "length", left 0),
    (.text "revindex", left i),
    (.text "revindex0", left (i + 1)),
    (.text "first", .bool (i == 0)),
    (.text "last", .bool last),
    (.text "depth", .int (l.depth + 1)),
    (.text "depth0", .int l.depth),
    (.text "previtem", if i = 0 then .undefined else item? (i - 1)),
    (.text "nextitem", item? (i + 1))]

end LoopState

namespace Value

mutual

/-- A value with its objects replaced. -/
def mapObjects (f : Role → List (Value × Value) → Value) : Value → Value
  | .list kind items => .list kind (mapObjectsOfItems f items)
  | .map entries => .map (mapObjectsOfEntries f entries)
  | .object role entries => f role entries
  | v => v

/-- The same for some items. -/
def mapObjectsOfItems (f : Role → List (Value × Value) → Value) : List Value → List Value
  | [] => []
  | v :: items => mapObjects f v :: mapObjectsOfItems f items

/-- The same for some entries. -/
def mapObjectsOfEntries (f : Role → List (Value × Value) → Value) :
    List (Value × Value) → List (Value × Value)
  | [] => []
  | (k, v) :: entries => (k, mapObjects f v) :: mapObjectsOfEntries f entries

end

end Value

namespace Machine

/-- A machine that runs the template `source` with names bound. -/
def start (templates : List (String × Source)) (bindings : Names) (discarding : Bool)
    (source : Source) : Machine where
  templates := templates
  scopes := [{ Scope.empty with backing := .names bindings }]
  outerDepth := 0
  out := ""
  discarding := discarding
  escaping := .off
  firstEscaping := .off
  template := source.name
  blocks := source.blocks.map fun (name, body) => (name, ⟨[(source.name, body)], 0⟩)
  block? := none
  parent? := none
  extended := []
  cells := #[]
  insertedCells := #[]
  isInserted := false

/-! ### Memory -/

/-- What a cell holds. -/
def cell? (m : Machine) (r : Ref) : Option Cell :=
  if r.inserted then m.insertedCells[r.index]? else m.cells[r.index]?

/-- Where the next cell will be. -/
def nextRef (m : Machine) : Ref :=
  ⟨m.isInserted, if m.isInserted then m.insertedCells.size else m.cells.size⟩

/-- Keeps something in a new cell, at `nextRef`. -/
def keep (m : Machine) (c : Cell) : Machine :=
  if m.isInserted then { m with insertedCells := m.insertedCells.push c }
  else { m with cells := m.cells.push c }

/-- Changes what a cell holds. -/
def changeCell (m : Machine) (r : Ref) (f : Cell → Cell) : Machine :=
  if r.inserted then { m with insertedCells := m.insertedCells.modify r.index f }
  else { m with cells := m.cells.modify r.index f }

/-- The names of a record. -/
def record? (m : Machine) (r : Ref) : Option Names :=
  match m.cell? r with
  | some (.record entries) => some entries
  | _ => none

/-- The names of a closure. -/
def closureNames? (m : Machine) (r : Ref) : Option Names :=
  match m.cell? r with
  | some (.closure names) => some names
  | _ => none

/-- The state of a loop. -/
def loop? (m : Machine) (r : Ref) : Option LoopState :=
  match m.cell? r with
  | some (.loop state) => some state
  | _ => none

/-- What a definition runs. -/
def definition? (m : Machine) (r : Ref) : Option Definition :=
  match m.cell? r with
  | some (.definition d) => some d
  | _ => none

/-- Changes the names of a record; other cells stay as they are. -/
def changeRecord (m : Machine) (r : Ref) (f : Names → Names) : Machine :=
  m.changeCell r fun
    | .record entries => .record (f entries)
    | c => c

/-- Changes the names of a closure; other cells stay as they are. -/
def changeClosure (m : Machine) (r : Ref) (f : Names → Names) : Machine :=
  m.changeCell r fun
    | .closure names => .closure (f names)
    | c => c

/-- Changes the state of a loop; other cells stay as they are. -/
def changeLoop (m : Machine) (r : Ref) (f : LoopState → LoopState) : Machine :=
  m.changeCell r fun
    | .loop state => .loop (f state)
    | c => c

/-! ### Content -/

/-- What a record or a loop is at present. -/
def content? (m : Machine) : Role → Option (Role × List (Value × Value))
  | .record r =>
    (m.record? r).map fun names =>
      (.record r, (names.mergeSort fun a b => a.1 ≤ b.1).map fun (k, v) => (.text k, v))
  | .loop r _ => (m.loop? r).map fun l => (.loop r l.progress, l.entries)
  | .definition _ _ | .library _ => none

/-- A value with its present content, but not that of its parts. -/
def refreshed (m : Machine) : Value → Value
  | .object role entries =>
    let (role, entries) := (m.content? role).getD (role, entries)
    .object role entries
  | v => v

/-- The value of a loop that runs. -/
def loopValue (m : Machine) (r : Ref) : Value := m.refreshed (.object (.loop r "") [])

/-! ### Names -/

/-- The function that a name stands for from the start. -/
def builtin? (name : String) : Option Value :=
  ([Builtin.range, .dict, .namespaces, .debug].find? (·.name = name)).map Value.builtin

/-- What a name stands for in one scope. -/
def inScope? (m : Machine) (name : String) (s : Scope) : Option Value :=
  let ofLoop : Option Value :=
    if name = "loop" then (s.loop?.filter (·.visible)).map fun l => m.loopValue l.at_ else none
  let behind : Option Value := match s.backing with
    | .nothing => none
    | .names entries => entries.lookup name
    | .closure r => (m.closureNames? r).bind (·.lookup name)
  ((s.names.lookup name).or ofLoop).or behind

/-- What a name stands for. -/
def lookup? (m : Machine) (name : String) : Option Value :=
  (m.scopes.findSome? (m.inScope? name)).or (builtin? name)

/-- Gives a name a value in the innermost scope. -/
def store (m : Machine) (name : String) (value : Value) : Machine :=
  match m.scopes with
  | [] => m
  | s :: scopes =>
    let m := match s.closure? with
      | some r => m.changeClosure r (·.put name value)
      | none => m
    { m with scopes := { s with names := s.names.put name value } :: scopes }

/-- The names given a value in the innermost scope, sorted. -/
def exports (m : Machine) : Names :=
  match m.scopes with
  | [] => []
  | s :: _ => s.names.mergeSort fun a b => a.1 ≤ b.1

/-- The machine with a closure for the innermost scope, and where it is. -/
def withClosure (m : Machine) : Machine × Ref :=
  match m.scopes with
  | [] => (m.keep (.closure []), m.nextRef)
  | s :: scopes =>
    match s.closure? with
    | some r => (m, r)
    | none =>
      ({ m.keep (.closure []) with scopes := { s with closure? := some m.nextRef } :: scopes }, m.nextRef)

/-- A closure with more names, and what they stand for; those that are there already stay. -/
def captured (m : Machine) (names : List String) (closure : Names) : Names :=
  names.foldl (fun (captured : Names) name =>
    if (captured.lookup name).isSome then captured
    else captured.put name ((m.lookup? name).getD .undefined)) closure

/-- Captures names in the closure of the innermost scope. -/
def enclose (m : Machine) (names : List String) : Machine × Ref :=
  let (m, r) := m.withClosure
  (m.changeClosure r (m.captured names), r)

/-! ### Nesting -/

/-- The deepest nesting of scopes, with calls counted as several. -/
def maxDepth : Nat := 500

/-- How many scopes are open, those of the code around included. -/
def depth (m : Machine) : Nat := m.outerDepth + m.scopes.length

/-! ### References -/

/-- The present content of values that refer to something, if `content?` knows it. -/
def resolveWithin (m : Machine) : Nat → Value → Value
  | 0, v => v
  | bound + 1, v =>
    v.mapObjects fun role entries =>
      let (role, entries) := (m.content? role).getD (role, entries)
      .object role (entries.map fun (k, w) => (k, m.resolveWithin bound w))

/-- The present content of a value. -/
def resolve (m : Machine) (v : Value) : Value :=
  if m.cells.isEmpty && m.insertedCells.isEmpty then v else m.resolveWithin 16 v

/-- Where code that runs now fails. -/
def place (m : Machine) (line : Nat) : Place := ⟨m.template, line⟩

end Machine

namespace Eval

variable {α : Type}

/-- Places a failure of `x`. -/
def atLine (line : Nat) (x : Eval α) : Eval α := fun m =>
  match x m with
  | .ok r => .ok r
  | .error fault => .error (fault.at_ (m.place line))

/-- A result that may be a fault, placed. -/
def ofExcept (line : Nat) (x : Except Fault α) : Eval α := fun m =>
  match x with
  | .ok a => .ok (a, m)
  | .error fault => .error (fault.at_ (m.place line))

/-- Ends with a fault. -/
def fail (f : Fault) : Eval α := throw f

/-- What a value is at present. -/
def resolved (v : Value) : Eval Value := return (← get).resolve v

/-- Whether a value counts as true. -/
def truth (v : Value) : Eval Bool := return (← resolved v).isTrue

/-- Writes a text behind the output. -/
def write (s : String) : Eval Unit := modify fun m => { m with out := m.out ++ s }

/-- Runs `x` with an output of its own, which may be thrown away. -/
def withOutput (discarding : Bool) (x : Eval α) : Eval (α × String) := do
  let outer := (← get).out
  let wasDiscarding := (← get).discarding
  modify ({ · with out := "", discarding := discarding })
  let a ← x
  let text := (← get).out
  modify ({ · with out := outer, discarding := wasDiscarding })
  return (a, text)

/-- Runs `x` and takes what it writes. -/
def captured (x : Eval α) : Eval (α × String) := withOutput false x

/-- Runs `x` and throws away what it writes. -/
def discarded (x : Eval α) : Eval α := do
  let (a, _) ← withOutput true x
  return a

/-- The value of captured output. -/
def outputValue (s : String) : Eval Value :=
  return .string ((← get).escaping ≠ .off) s

/-- Fails if scopes and calls are nested too deep. -/
def checkDepth : Eval Unit := do
  if Machine.maxDepth < (← get).depth then fail (.invalid "recursion limit exceeded")

/-- Runs `x` in a scope of its own. -/
def within (s : Scope) (x : Eval α) : Eval α := do
  modify fun m => { m with scopes := s :: m.scopes }
  checkDepth
  let a ← x
  modify fun m => { m with scopes := m.scopes.tail }
  return a

/-- Stores a value under a name in the innermost scope. -/
def store (name : String) (value : Value) : Eval Unit := modify (·.store name value)

end Eval

end Scaffold.Template
