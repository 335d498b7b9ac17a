import Scaffold.Template.Calling

/-!
# Evaluation of expressions

The value of an expression in a running template. Operands are evaluated from the left, and `and`, `or`
and `if` leave out what they do not need.

* `Expr.eval` follows the structure of the expression; only calls leave it, through a `Runner`.
-/

namespace Scaffold.Template

namespace Eval

/-- Arguments under way: by position and by name. -/
structure Gathered where
  positional : List Value
  named : List (String × Value)
  anyNamed : Bool

/-- Adds a named argument; a later one of the same name wins. -/
def Gathered.name (g : Gathered) (name : String) (v : Value) : Gathered :=
  { g with named := Names.put g.named name v, anyNamed := true }

/-- Adds the argument of a call with a body. -/
def withCaller (g : Gathered) (caller? : Option Value) : Gathered :=
  match caller? with
  | some v => g.name "caller" v
  | none => g

/-- The arguments of a call, once all are gathered. -/
def Gathered.arguments (g : Gathered) : Arguments :=
  ⟨g.positional, if g.anyNamed then some g.named else none⟩

/-- Arguments: those by position first, then those by name. -/
def gather (positional : Eval (List Value)) (named : Gathered → Eval Gathered) : Eval Gathered := do
  named ⟨← positional, [], false⟩

/-- The items of a value that is spread into arguments. -/
def spreadItems (v : Value) : Eval (List Value) := do
  ofResult (← resolved v).items

/-- The entries of a map that is spread into named arguments. -/
def spreadEntries (v : Value) : Eval Names := do
  match (← resolved v).entries? with
  | some entries => return entries.filterMap fun (k, w) => k.text?.map fun name => (name, w)
  | none => fail (.invalid "attempted to apply keyword arguments from non map")

/-- Applies an operator to what both values are at present. -/
def applyBinary (op : BinaryOp) (v w : Value) : Eval Value := do
  ofResult (op.apply (← resolved v) (← resolved w))

/-- Applies a filter, which must be known. -/
def applyFilter (name : String) (v : Value) (args : Arguments) : Eval Value := do
  match Registry.filter? name with
  | some f =>
    let w ← ofResult (f (← get).escaping (← resolved v) (← resolvedArguments args))
    ofResult w.valid
  | none => fail ⟨.unknownFilter, some ("filter " ++ name ++ " is unknown"), none⟩

/-- Applies a test, which must be known. -/
def applyTest (name : String) (v : Value) (args : Arguments) : Eval Value := do
  match Registry.test? name with
  | some t => return .bool (← ofResult (t (← resolved v) (← resolvedArguments args)))
  | none => fail ⟨.unknownTest, some ("test " ++ name ++ " is unknown"), none⟩

/-- Whether two expressions can stand for one value: a list or a map that an expression makes on the
    spot is identical to no other. -/
def canBeIdentical (e : Expr) (args : List Argument) (v : Value) : Bool :=
  !v.hasParts || (e.findsValue && args.all fun
    | .positional other => other.findsValue
    | _ => true)

/-- Calls what a name stands for. A loop that runs can be called by any name. -/
def callNamed (run : Runner) (again : LoopCaller) (name : String) (args : Arguments) :
    Eval Value := do
  if name = "super" then
    if args.values.isEmpty then callSuper run
    else fail (.invalid "super() takes no arguments")
  else if name = "loop" then callLoop none
  else
    match (← get).lookup? name with
    | some (.object (.loop r progress) entries) =>
      if (← get).scopes.any fun s => (s.loop?.map (·.at_)) == some r then callLoop (some r)
      else call run (.object (.loop r progress) entries) args
    | some v => call run v args
    | none => fail ⟨.unknownFunction, some (name ++ " is unknown"), none⟩
where
  callLoop (r? : Option Ref) : Eval Value :=
    match args.values with
    | [v] => again r? v
    | _ => fail (.invalid "loop() takes one argument")

/-- The output of a block of the template. -/
def callBlock (run : Runner) (name : String) : Eval Value := do
  let m ← get
  if m.parent?.isSome then outputValue ""
  else
    let (_, text) ← captured (runVersion run name)
    outputValue text

end Eval

open Eval

mutual

/-- The value of an expression. -/
def Expr.eval (run : Runner) (again : LoopCaller) : Expr → Eval Value
  | .literal _ v => return v
  | .name _ id => return ((← get).lookup? id).getD .undefined
  | .list _ items => return .sequence (← Expr.evalItems run again items)
  | .map _ entries => return .ofEntries (← Expr.evalEntries run again entries)
  | .negative line e => do
    let v ← e.eval run again
    ofExcept line v.negate
  | .opposite _ e => return .bool !(← truth (← e.eval run again))
  | .binary line op l r => do
    let v ← l.eval run again
    let w ← r.eval run again
    atLine line (applyBinary op v w)
  | .comparisons _ first rest => do
    let v ← first.eval run again
    Expr.evalComparisons run again v rest
  -- The second operand is looked at only when the first does not decide, and the result is an operand.
  | .both _ l r => do
    let v ← l.eval run again
    if ← truth v then r.eval run again else return v
  | .either _ l r => do
    let v ← l.eval run again
    if ← truth v then return v else r.eval run again
  | .conditional _ test yes no => do
    if ← truth (← test.eval run again) then yes.eval run again else no.eval run again
  | .member line e name => do
    let v ← e.eval run again
    atLine line (item v (.text name))
  | .item line e key => do
    let v ← e.eval run again
    let k ← key.eval run again
    atLine line (item v k)
  | .slice line e start stop step => do
    let v ← e.eval run again
    let first ← start.eval run again
    let last ← stop.eval run again
    let by_ ← step.eval run again
    ofExcept line ((← resolved v).slice first last by_)
  | .filter line e name args => do
    let v ← e.eval run again
    let g ← gather (Argument.evalPositional run again args) fun g => Argument.evalNamed run again g args
    atLine line (applyFilter name v g.arguments)
  | .test line e name args => do
    -- Positional arguments are evaluated before named ones.
    let v ← e.eval run again
    let g ← gather (Argument.evalPositional run again args) fun g => Argument.evalNamed run again g args
    let passed ← atLine line (applyTest name v g.arguments)
    -- Equal values are the same one only when both expressions can stand for one object.
    if name = "sameas" && !canBeIdentical e args v then return .bool false else return passed
  | .call line c => atLine line (c.eval run again none)

/-- Whether a value and the operands behind it compare as they should, one after the other. -/
def Expr.evalComparisons (run : Runner) (again : LoopCaller) (v : Value) :
    List (BinaryOp × Expr) → Eval Value
  | [] => return .bool true
  | (op, e) :: rest => do
    let w ← e.eval run again
    if (← atLine e.line (applyBinary op v w)).isTrue then Expr.evalComparisons run again w rest
    else return .bool false

/-- Evaluates expressions from the left. -/
def Expr.evalItems (run : Runner) (again : LoopCaller) : List Expr → Eval (List Value)
  | [] => return []
  | e :: es => do
    let v ← e.eval run again
    return v :: (← Expr.evalItems run again es)

/-- Evaluates keys and values from the left. -/
def Expr.evalEntries (run : Runner) (again : LoopCaller) :
    List (Expr × Expr) → Eval (List (Value × Value))
  | [] => return []
  | (k, e) :: entries => do
    let key ← k.eval run again
    let v ← e.eval run again
    return (key, v) :: (← Expr.evalEntries run again entries)

/-- The value of a call, with the argument `caller` if there is one. -/
def Call.eval (run : Runner) (again : LoopCaller) : Call → Option Value → Eval Value
  | .function name args, caller? => do
    let g ← gather (Argument.evalPositional run again args) fun g => Argument.evalNamed run again g args
    callNamed run again name (withCaller g caller?).arguments
  | .method e name args, caller? => do
    let v ← e.eval run again
    let g ← gather (Argument.evalPositional run again args) fun g => Argument.evalNamed run again g args
    callMethod run v name (withCaller g caller?).arguments
  | .value e args, caller? => do
    let v ← e.eval run again
    let g ← gather (Argument.evalPositional run again args) fun g => Argument.evalNamed run again g args
    call run v (withCaller g caller?).arguments
  | .block name, _ => callBlock run name

/-- Evaluates the arguments without a name. -/
def Argument.evalPositional (run : Runner) (again : LoopCaller) :
    List Argument → Eval (List Value)
  | [] => return []
  | .positional e :: args => do
    let v ← e.eval run again
    return v :: (← Argument.evalPositional run again args)
  | .spread e :: args => do
    let vs ← spreadItems (← e.eval run again)
    return vs ++ (← Argument.evalPositional run again args)
  | .named _ _ :: args => Argument.evalPositional run again args
  | .spreadNamed _ :: args => Argument.evalPositional run again args

/-- Evaluates the arguments with a name. -/
def Argument.evalNamed (run : Runner) (again : LoopCaller) (g : Gathered) :
    List Argument → Eval Gathered
  | [] => return g
  | .named name e :: args => do
    let v ← e.eval run again
    Argument.evalNamed run again (g.name name v) args
  | .spreadNamed e :: args => do
    let entries ← spreadEntries (← e.eval run again)
    let g := entries.foldl (fun (g : Gathered) (name, v) => g.name name v) { g with anyNamed := true }
    Argument.evalNamed run again g args
  | .positional _ :: args => Argument.evalNamed run again g args
  | .spread _ :: args => Argument.evalNamed run again g args

end

/-- The values of arguments. -/
def Argument.evalAll (run : Runner) (again : LoopCaller) (args : List Argument) : Eval Gathered :=
  gather (Argument.evalPositional run again args) fun g => Argument.evalNamed run again g args

end Scaffold.Template
