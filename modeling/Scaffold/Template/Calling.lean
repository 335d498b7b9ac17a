import Scaffold.Template.FreeNames
import Scaffold.Template.Machine
import Scaffold.Template.Registry
import Scaffold.Template.Slice

/-!
# Calls

What happens when a value is called: a function that every template has, a definition, a loop, or a
block of the template.

* Code that is not part of the calling statement is run by a `Runner`, which takes from a budget.
* A definition runs in scopes of its own, behind which its closure lies. Its output is its value.
-/

namespace Scaffold.Template

/-- How the running of statements ends. -/
inductive Flow where
  | done
  /-- The loop around the statements is to end. -/
  | leave
  /-- The loop around the statements is to go on with its next item. -/
  | next
  deriving DecidableEq, Repr

/-- Runs statements from somewhere else. -/
abbrev Runner := List Statement → Eval Flow

/-- Runs a loop again on a value, the one that is meant or else the innermost one; its value is what
    it writes. -/
abbrev LoopCaller := Option Ref → Value → Eval Value

namespace Eval

/-! ### Entries of values -/

/-- The value at an index or a key, references followed. -/
def item (v key : Value) : Eval Value := do
  match ((← get).refreshed v).item key with
  | .ok w => return w
  | .error fault => fail fault

/-! ### Functions that every template has -/

/-- The longest range. -/
def maxRange : Nat := 100000

/-- How many numbers there are from `first` to `last`, which is left out, `step` apart. -/
def rangeLength (first last step : Int) : Nat :=
  if 0 < step then (last - first + step - 1).toNat / step.toNat
  else (first - last - step - 1).toNat / (-step).toNat

def range (args : Arguments) : Except Fault Value :=
  Parameters.run (do
    let bound := Parameters.asInt (.signed 64)
    let one ← bound (← Parameters.value)
    -- One bound counts up from zero; two are the start and the end.
    let two? ← Parameters.optional bound
    let step := (← Parameters.optional bound).getD 1
    let (first, last) := match two? with
      | some two => (one, two)
      | none => (0, one)
    if step = 0 then throw (.invalid "cannot create range with step of 0")
    let count := rangeLength first last step
    if maxRange < count then throw (.invalid "range has too many elements")
    return .list .iterable ((List.range count).map fun (i : Nat) => .int (first + i * step)))
    args

/-- The entries of a map, with more of them given by name. -/
def dict (args : Arguments) : Except Fault Value :=
  Parameters.run (do
    let named ← Parameters.namedArguments
    let entries ← match ← Parameters.next? with
      | none | some .none | some .undefined => pure []
      | some v =>
        match v.entries? with
        | some entries => pure (Value.putAll [] entries)
        | none => throw (.ofProblem .invalidOperation)
    return .map (Value.putAll entries (named.map fun (k, v) => (.text k, v)))) args

/-- The entries that a new record starts with. -/
def recordEntries (args : Arguments) : Except Fault Names :=
  Parameters.run (do
    match ← Parameters.next? with
    | none | some .none | some .undefined => return []
    | some v =>
      match v.entries? with
      | some entries => return entries.filterMap fun (k, v) => k.text?.map fun name => (name, v)
      | none =>
        throw (.invalid ("expected object or keyword arguments, got " ++ v.kind.name))) args

/-- Arguments without references. -/
def resolvedArguments (args : Arguments) : Eval Arguments := do
  let m ← get
  return ⟨args.positional.map m.resolve,
    args.named?.map (·.map fun (name, v) => (name, m.resolve v))⟩

/-- The result of a function, or its failure. -/
def ofResult {α : Type} (x : Except Fault α) : Eval α :=
  match x with
  | .ok a => return a
  | .error fault => fail fault

def callBuiltin (f : Builtin) (args : Arguments) : Eval Value := do
  let args ← resolvedArguments args
  match f with
  | .range => ofResult (range args)
  | .dict => ofResult (dict args)
  -- A record lives in a cell, so that it can be changed while it is referred to.
  | .namespaces =>
    let entries ← ofResult (recordEntries args)
    let m ← get
    modify (·.keep (.record entries))
    return (← get).refreshed (.object (.record m.nextRef) [])
  | .debug =>
    let exported := Value.ofNamed (← get).exports
    let shown : Value := match args.values with
      | [] => exported
      | [v] => v
      | values => .sequence values
    return .text shown.pretty

/-! ### Definitions -/

/-- What a call of a definition costs in depth, beside its scope. -/
def definitionCost : Nat := 4

/-- The value of a parameter: an argument by position or by name, but not both. -/
def parameterValue (args : Arguments) (i : Nat) (name : String) : Except Fault Value :=
  match args.positional[i]?, (args.named?.getD []).lookup name with
  | some _, some _ => .error ⟨.tooManyArguments, some ("duplicate argument " ++ name), none⟩
  | some v, none => .ok v
  | none, some v => .ok v
  | none, none => .ok .undefined

/-- The values of the parameters, which no argument may be left over from. -/
def parameterValues (s : Signature) (args : Arguments) : Except Fault (List (String × Value)) := do
  if s.params.length < args.positional.length then throw (.ofProblem .tooManyArguments)
  let values ← s.params.zipIdx.mapM fun (name, i) => do
    return (name, ← parameterValue args i name)
  let known := if s.usesCaller then "caller" :: s.params else s.params
  Parameters.onlyNamed (args.named?.getD []) known
  return values

/-- Binds parameters, the last one first; a default can use the parameters behind it. -/
def bindParams (run : Runner) : List (Param × Value) → Eval Unit
  | [] => return ()
  | (p, v) :: rest => do
    bindParams run rest
    match v, p.default? with
    | .undefined, some e =>
      let _ ← run [.assign (.name p.name) e]
    | v, _ => store p.name v

/-- Runs `x` with the scopes, output and template of the caller put aside. -/
def apart {α : Type} (scope : Scope) (template : String) (x : Eval α) : Eval (α × String) := do
  let outer ← get
  modify fun m => { m with
    scopes := [scope]
    outerDepth := m.depth + definitionCost
    out := ""
    discarding := false
    firstEscaping := m.escaping
    -- What is run here sees neither the blocks nor the output of what called it.
    template := template
    blocks := []
    block? := none
    parent? := none
    extended := [] }
  checkDepth
  let a ← x
  let text := (← get).out
  modify fun m => { m with
    scopes := outer.scopes
    outerDepth := outer.outerDepth
    out := outer.out
    discarding := outer.discarding
    firstEscaping := outer.firstEscaping
    template := outer.template
    blocks := outer.blocks
    block? := outer.block?
    parent? := outer.parent?
    extended := outer.extended
    escaping := outer.escaping }
  return (a, text)

def callDefinition (run : Runner) (d : Definition) (args : Arguments) : Eval Value := do
  let values ← ofResult (parameterValues d.signature args)
  let caller : Names :=
    if d.signature.usesCaller then
      [("caller", ((args.named?.getD []).lookup "caller").getD .undefined)]
    else []
  let scope : Scope := { Scope.empty with names := caller, backing := .closure d.closure }
  let (_, text) ← apart scope d.template do
    bindParams run (d.params.zip (values.map Prod.snd))
    run d.body
  outputValue text

/-! ### Calling values -/

def call (run : Runner) (v : Value) (args : Arguments) : Eval Value := do
  match v with
  | .builtin f => callBuiltin f args
  | .object (.definition _ r) _ =>
    match (← get).definition? r with
    | some d => callDefinition run d args
    | none => fail (.invalid "cannot call this macro. template state went away.")
  | .object (.loop _ _) _ =>
    fail ⟨.unknownFunction, some "loop cannot be called if reassigned to different variable", none⟩
  | v => fail (.invalid ("value of type " ++ v.kind.name ++ " is not callable"))

/-- The methods of a loop. -/
def callLoopMethod (r : Ref) (name : String) (args : Arguments) : Eval Value := do
  let some l := (← get).loop? r | fail (.ofProblem .unknownMethod)
  match name with
  | "changed" =>
    let values := args.values
    let same := match l.last? with
      | some last => Value.sameItems last values
      | none => false
    modify (·.changeLoop r ({ · with last? := some values }))
    return .bool !same
  | "cycle" =>
    let values := args.values
    return (values[l.index % values.length]?).getD .undefined
  | _ => fail ⟨.unknownMethod, some ("loop object has no method named " ++ name), none⟩

/-- Calls the value that a name behind a dot asks for. -/
def callMethod (run : Runner) (v : Value) (name : String) (args : Arguments) : Eval Value := do
  match (← get).refreshed v with
  | .object (.loop r _) _ => callLoopMethod r name args
  | v =>
    match v.entries?.bind (Value.find? (.text name)) with
    | some w => call run w args
    | none => fail ⟨.unknownMethod, some (v.kind.name ++ " has no method named " ++ name), none⟩

/-! ### Loops -/

/-- How deeply loops that can be called are nested around a new one. -/
def loopDepth (m : Machine) : Nat :=
  match m.scopes.findSome? (·.loop?) with
  | some l => if l.recursion?.isSome then ((m.loop? l.at_).map (·.depth + 1)).getD 0 else 0
  | none => 0

/-- Runs `body` for one item after the other. The result says whether the loop ended at its first
    item, or had none. -/
def forEach (r : Ref) (body : Value → Eval Flow) : Nat → List Value → Eval Bool
  | i, [] => do
    modify (·.changeLoop r ({ · with index := i }))
    return i = 0
  | i, v :: rest => do
    modify (·.changeLoop r ({ · with index := i }))
    match ← body (← ofResult v.valid) with
    | .leave => return i = 0
    | _ => forEach r body (i + 1) rest

/-- Runs a loop over the items of a value in a scope of its own, which all its items share. -/
def runLoop (recursion? : Option (Target × List Statement)) (v : Value) (body : Value → Eval Flow) :
    Eval Bool := do
  let items ← ofResult v.items
  let m ← get
  let length? := if v.isUncounted then none else some items.length
  modify (·.keep (.loop ⟨items.toArray, length?, 0, loopDepth m, none⟩))
  within { Scope.empty with loop? := some ⟨m.nextRef, true, recursion?⟩ } (forEach m.nextRef body 0 items)

/-! ### Blocks -/

/-- The current version of a block. -/
def blockVersion? (m : Machine) (name : String) : Option (String × List Statement) := do
  let versions ← m.blocks.lookup name
  versions.versions[versions.passed]?

/-- Moves to the version of a block behind the current one, or back. -/
def passVersion (name : String) (change : Nat → Nat) (m : Machine) : Machine :=
  { m with blocks := m.blocks.map fun (k, v) =>
      if k = name then (k, { v with passed := change v.passed }) else (k, v) }

/-- Runs the current version of a block in a scope of its own. -/
def runVersion (run : Runner) (name : String) : Eval Unit := do
  let m ← get
  match blockVersion? m name with
  | none => fail ⟨.unknownBlock, some ("block " ++ name ++ " not found"), none⟩
  | some (template, body) =>
    modify fun m => { m with
      -- `super` goes on from the block that is running.
      block? := some name
      template := template
      firstEscaping := m.escaping }
    let _ ← within .empty (run body)
    modify fun n => { n with
      block? := m.block?
      template := m.template
      firstEscaping := m.firstEscaping }

/-- Runs `x`, whose failures become one failure. -/
def summarized {α : Type} (fault : Fault) (x : Eval α) : Eval α := fun m =>
  match x m with
  | .ok r => .ok r
  | .error _ => .error fault

/-- The output of the version of the block behind the running one. -/
def callSuper (run : Runner) : Eval Value := do
  let m ← get
  match m.block? with
  | none => fail (.invalid "cannot super outside of block")
  | some name =>
    modify (passVersion name (· + 1))
    if (blockVersion? (← get) name).isNone then fail (.invalid "no parent block exists")
    let (_, text) ← summarized ⟨.badBlock, some "error in super block", none⟩
      (captured (runVersion run name))
    modify (passVersion name (· - 1))
    outputValue text

end Eval

end Scaffold.Template
