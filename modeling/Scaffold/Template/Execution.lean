import Scaffold.Template.Evaluation

/-!
# Execution of statements

What the statements of a running template write and change.

* `Statement.exec` follows the structure of the statement. Definitions, blocks, other templates and
  loops that call themselves are run by a `Runner`.
* `runWithin` ties the knot: it takes from a budget, which is larger than the nesting of scopes can be.
* `runTemplate` runs a template and then the templates that it extends.
-/

namespace Scaffold.Template

namespace Eval

/-! ### Output -/

/-- The text of a value in the output. -/
def outputText (mode : Escaping) (v : Value) : Except Fault String :=
  match v, mode with
  | .string true s, _ => .ok s
  | v, .off => .ok v.display
  | v, .json => JsonText.ofValue ⟨none⟩ v
  | v, .html =>
    match v.kind with
    | .undefined | .none | .bool | .number => .ok v.display
    | _ => .ok (escapeHtml v.display)

def writeValue (v : Value) : Eval Unit := do
  write (← ofResult (outputText (← get).escaping (← resolved v)))

/-- The escaping that a value asks for in code that started with the escaping `first`. -/
def escapingOf (first : Escaping) (v : Value) : Except Fault Escaping :=
  match v.text? with
  | some "html" => .ok .html
  | some "json" => .ok .json
  | some "none" => .ok .off
  | some _ => .error (.invalid "invalid value to autoescape tag")
  | none =>
    if v.same (.bool true) then .ok (if first = .off then .html else first) else .ok .off

/-! ### Templates by name -/

/-- The names that a value gives for a template: itself, or the items of a list. -/
def templateNames (v : Value) : List Value :=
  match v with
  | .list _ items => items
  | .map entries | .object _ entries => entries.map Prod.fst
  | v => [v]

/-- The first of the templates that exists. -/
def findTemplate (m : Machine) : List Value → Except Fault (Option Source)
  | [] => .ok none
  | v :: rest =>
    match v.text? with
    | none => .error (.invalid "template name was not a string")
    | some name =>
      match m.templates.lookup name with
      | some source => .ok (some source)
      | none => findTemplate m rest

/-- Runs the body of a template, and then the templates that it extends; `bound` is larger than the
    number of templates. -/
def runTemplate (run : Runner) : Nat → Source → Eval Unit
  | 0, _ => fail (.invalid "cycle in template inheritance")
  | bound + 1, source => do
    let _ ← run source.body
    match (← get).parent? with
    | none => return ()
    | some (parent, out) =>
      modify ({ · with parent? := none, template := parent.name, out := out })
      runTemplate run bound parent

/-- The versions of blocks, with the blocks of one more template behind them. -/
def addBlocks (blocks : List (String × BlockVersions)) (source : Source) :
    List (String × BlockVersions) :=
  source.blocks.foldl (fun blocks (name, body) =>
    if (blocks.lookup name).isSome then
      blocks.map fun (k, v) =>
        if k = name then (k, { v with versions := v.versions ++ [(source.name, body)] }) else (k, v)
    else blocks ++ [(name, ⟨[(source.name, body)], 0⟩)]) blocks

/-- What the insertion of a template costs in depth. -/
def insertionCost : Nat := 10

/-- The innermost scope without its closure, so that what `x` stores does not reach it. -/
def withoutClosure {α : Type} (x : Eval α) : Eval α := do
  let setClosure (closure? : Option Ref) (m : Machine) : Machine :=
    match m.scopes with
    | s :: scopes => { m with scopes := { s with closure? := closure? } :: scopes }
    | [] => m
  let outer := (← get).scopes.head?.bind (·.closure?)
  modify (setClosure none)
  let a ← x
  modify (setClosure outer)
  return a

/-- Runs a template in the place of a statement. A failure in it is a failure of the insertion. -/
def insert (run : Runner) (source : Source) : Eval Unit := do
  let outer ← get
  modify fun m => { m with outerDepth := m.outerDepth + insertionCost }
  checkDepth
  -- Another template starts without blocks, parent and escaping of its own.
  modify fun m => { m with
    template := source.name
    blocks := addBlocks [] source
    parent? := none
    escaping := .off
    firstEscaping := .off
    isInserted := true }
  summarized ⟨.badInclude, some ("error in " ++ source.name), none⟩
    (withoutClosure (runTemplate run (outer.templates.length + 1) source))
  modify fun m => { m with
    outerDepth := outer.outerDepth
    template := outer.template
    blocks := outer.blocks
    parent? := outer.parent?
    extended := outer.extended
    escaping := outer.escaping
    firstEscaping := outer.firstEscaping
    isInserted := outer.isInserted }

/-- Inserts the first of the templates that exists. -/
def insertNamed (run : Runner) (v : Value) (ignoreMissing : Bool) : Eval Unit := do
  let names := templateNames v
  match ← ofResult (findTemplate (← get) names) with
  | some source => insert run source
  | none =>
    if ignoreMissing || names.isEmpty then return ()
    else fail ⟨.templateNotFound, some "tried to include non-existing template", none⟩

/-- Extends a template: its body runs behind the running one, whose output is thrown away. -/
def extend (v : Value) : Eval Unit := do
  let m ← get
  if m.parent?.isSome then fail (.invalid "tried to extend a second time in a template")
  let some name := v.text? | fail (.invalid "template name was not a string")
  if m.extended.contains name || m.template = name then
    fail (.invalid ("cycle in template inheritance. " ++ name ++ " was referenced more than once"))
  match m.templates.lookup name with
  | none => fail ⟨.templateNotFound, some ("template " ++ name ++ " does not exist"), none⟩
  | some source =>
    modify fun m => { m with
      parent? := some (source, m.out)
      extended := name :: m.extended
      blocks := addBlocks m.blocks source }

end Eval

open Eval

/-! ### Targets -/

mutual

/-- Gives a target a value. -/
def Target.assign (run : Runner) (again : LoopCaller) : Target → Value → Eval Unit
  | .name id, v => store id v
  | .entry line record key, v => do
    match ← record.eval run again with
    | .object (.record r) _ => modify (·.changeRecord r (·.put key v))
    | w => atLine line (fail (.invalid ("can only assign to namespaces, not " ++ w.kind.name)))
  | .tuple line targets, v => do
    let items ← atLine line (unpack targets.length (← resolved v))
    Target.assignAll run again targets items
where
  /-- The items of a value, of which there must be `n`. -/
  unpack (n : Nat) (v : Value) : Eval (List Value) :=
    let items? : Option (List Value) := match v with
      | .list _ items => some items
      | .map entries | .object _ entries => some (entries.map Prod.fst)
      | _ => none
    match items? with
    | none => fail ⟨.cannotUnpack, some "value is not iterable", none⟩
    | some items =>
      if items.length = n then return items
      else fail ⟨.cannotUnpack, some "sequence of wrong length", none⟩

def Target.assignAll (run : Runner) (again : LoopCaller) :
    List Target → List Value → Eval Unit
  | [], _ => return ()
  | _, [] => return ()
  | t :: targets, v :: values => do
    t.assign run again v
    Target.assignAll run again targets values

end

namespace Eval

/-- Runs a loop again on a value, if it can be called; its value is what it writes. -/
def again (run : Runner) : LoopCaller := fun r? v => do
  -- The loop is the one called, or the innermost one when none is named.
  let loops := (← get).scopes.filterMap (·.loop?)
  match loops.find? fun l => r?.isNone || r? == some l.at_ with
  | none => fail (.invalid "cannot recurse outside of loop")
  | some l =>
    match l.recursion? with
    | none => fail (.invalid "cannot recurse outside of recursive loop")
    | some (target, body) =>
      let v ← resolved v
      let (_, text) ← captured <|
        runLoop (some (target, body)) v fun item => do
          -- The item is assigned to the targets without recursing once more.
          target.assign run (fun _ _ => fail (.invalid "cannot recurse here")) item
          run body
      outputValue text

/-- The value of an expression. -/
def eval (run : Runner) (e : Expr) : Eval Value := e.eval run (again run)

def assignTo (run : Runner) (target : Target) (v : Value) : Eval Unit :=
  target.assign run (again run) v

/-- Makes a definition of a body. -/
def makeDefinition (name : String) (params : List Param) (body : List Statement) : Eval Value := do
  let free := Param.free params body
  let (m, closure) := (← get).enclose (free.filter (· != "caller"))
  let signature : Signature := ⟨name, params.map (·.name), free.contains "caller"⟩
  let definition : Definition := ⟨signature, params, body, closure, m.template⟩
  modify fun _ => m.keep (.definition definition)
  return .ofDefinition signature m.nextRef

/-- The items of a loop that satisfy its condition. -/
def filterItems (run : Runner) (target : Target) (condition : Expr) (items : List Value) :
    Eval (List Value) := do
  let m ← get
  modify (·.keep (.loop ⟨items.toArray, some items.length, 0, loopDepth m, none⟩))
  within { Scope.empty with loop? := some ⟨m.nextRef, false, none⟩ } <| items.filterM fun item => do
    assignTo run target item
    truth (← eval run condition)

/-- What filters make of a value, one after the other. -/
def applyFilters (run : Runner) : List FilterCall → Value → Eval Value
  | [], v => return v
  | f :: rest, v => do
    let g ← Argument.evalAll run (again run) f.args
    let w ← atLine f.line (applyFilter f.name v g.arguments)
    applyFilters run rest w

/-- Runs `x` with another escaping. -/
def escapingAs {α : Type} (mode : Escaping) (x : Eval α) : Eval α := do
  let outer := (← get).escaping
  modify ({ · with escaping := mode })
  let a ← x
  modify ({ · with escaping := outer })
  return a

/-- The names that a template gives a value, and what it writes. -/
def imported (run : Runner) (e : Expr) : Eval Value := do
  let (names, text) ← captured <| within .empty do
    let v ← eval run e
    atLine e.line (insertNamed run v false)
    return (← get).exports
  return .object (.library text) (names.map fun (name, v) => (.text name, v))

/-- What names of a template stand for. -/
def importedNames (run : Runner) (e : Expr) (names : List String) : Eval (List Value) :=
  within .empty do
    let v ← eval run e
    atLine e.line (insertNamed run v false)
    let m ← get
    return names.map fun name => (m.lookup? name).getD .undefined

end Eval

/-! ### Statements -/

mutual

def Statement.exec (run : Runner) : Statement → Eval Flow
  | .text s => do
    write s
    return .done
  | .emit e => do
    let v ← eval run e
    atLine e.line (writeValue v)
    return .done
  | .loop target source condition? recursive body otherwise => do
    let v ← resolved (← eval run source)
    -- A condition is applied before the loop starts, so that the loop's length counts what passed.
    let v ← match condition? with
      | none => pure v
      | some condition => do
        let items ← ofExcept source.line v.items
        pure (.sequence (← filterItems run target condition items))
    let recursion? := if recursive then some (target, body) else none
    let unused ← atLine source.line <| runLoop recursion? v fun item => do
      assignTo run target item
      Statement.execAll run body
    -- The `else` part is run when the loop had no items.
    if unused then Statement.execAll run otherwise else return .done
  | .branch test yes no => do
    if ← truth (← eval run test) then Statement.execAll run yes else Statement.execAll run no
  | .bindings line entries body =>
    atLine line <| within .empty do
      for (target, e) in entries do
        assignTo run target (← eval run e)
      Statement.execAll run body
  | .assign target e => do
    assignTo run target (← eval run e)
    return .done
  | .capture target filters body => do
    let (flow, output) ← captured (Statement.execAll run body)
    let v ← applyFilters run filters (← outputValue output)
    assignTo run target v
    return flow
  | .escaping mode body => do
    let v ← eval run mode
    let mode ← ofExcept mode.line (escapingOf (← get).firstEscaping v)
    escapingAs mode (Statement.execAll run body)
  | .filtered filters body => do
    let (flow, output) ← captured (Statement.execAll run body)
    writeValue (← applyFilters run filters (← outputValue output))
    return flow
  | .block line name => do
    -- A block is written where it stands only when no parent places it.
    let m ← get
    if m.parent?.isNone && !m.discarding then atLine line (runVersion run name)
    return .done
  | .required line name =>
    atLine line (fail (.invalid ("required block " ++ name ++ " not found")))
  | .parent e => do
    let v ← eval run e
    atLine e.line (extend v)
    return .done
  | .insertion e ignoreMissing => do
    let v ← eval run e
    atLine e.line (insertNamed run v ignoreMissing)
    return .done
  | .importAll e name => do
    store name (← imported run e)
    return .done
  | .importNames e names => do
    let values ← discarded (importedNames run e (names.map Prod.fst))
    -- The last name is stored first.
    for ((_, name), v) in (names.zip values).reverse do
      store name v
    return .done
  | .define name params body => do
    store name (← makeDefinition name params body)
    return .done
  | .callWith line c params body => do
    let caller ← makeDefinition "caller" params body
    let v ← atLine line (c.eval run (again run) (some caller))
    writeValue v
    return .done
  | .perform line c => do
    let _ ← atLine line (c.eval run (again run) none)
    return .done
  | .leave => return .leave
  | .next => return .next

def Statement.execAll (run : Runner) : List Statement → Eval Flow
  | [] => return .done
  | x :: xs => do
    match ← x.exec run with
    | .done => Statement.execAll run xs
    | flow => return flow

end

namespace Eval

/-- Runs statements, and through them others that are nested at most as deeply as the budget
    allows. -/
def runWithin : Nat → Runner
  | 0, _, _ => .error (.invalid "recursion limit exceeded")
  | budget + 1, statements, m => Statement.execAll (runWithin budget) statements m

end Eval

end Scaffold.Template
