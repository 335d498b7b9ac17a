import Scaffold.Template.Expression

/-!
# Free names

The names that the body of a definition takes from the scope around it: those that are read before the
body itself gives them a value.

* `Param.free` is what a definition has to capture.
* Some places are not looked at: what a slice is taken of, the records that are assigned to, the
  arguments of the filters of a block, the mode of escaping, and the names of other templates. A name
  that is read only there is not captured.
-/

namespace Scaffold.Template

mutual

/-- The names that an expression reads. -/
def Expr.reads : Expr → List String
  | .literal _ _ => []
  | .name _ id => [id]
  | .list _ items => Expr.readsOfItems items
  | .map _ entries => Expr.readsOfEntries entries
  | .negative _ e => e.reads
  | .opposite _ e => e.reads
  | .binary _ _ l r => l.reads ++ r.reads
  | .comparisons _ first rest => first.reads ++ Expr.readsOfComparisons rest
  | .both _ l r => l.reads ++ r.reads
  | .either _ l r => l.reads ++ r.reads
  | .conditional _ test yes no => test.reads ++ yes.reads ++ no.reads
  | .member _ e _ => e.reads
  | .item _ e key => e.reads ++ key.reads
  | .slice _ _ start stop step => start.reads ++ stop.reads ++ step.reads
  | .filter _ e _ args => e.reads ++ Argument.readsOfAll args
  | .test _ e _ args => e.reads ++ Argument.readsOfAll args
  | .call _ c => c.reads

/-- The names that some expressions read. -/
def Expr.readsOfItems : List Expr → List String
  | [] => []
  | e :: es => e.reads ++ Expr.readsOfItems es

/-- The names that keys and values read. -/
def Expr.readsOfEntries : List (Expr × Expr) → List String
  | [] => []
  | (k, v) :: entries => k.reads ++ v.reads ++ Expr.readsOfEntries entries

/-- The names that the rest of a chain of comparisons reads. -/
def Expr.readsOfComparisons : List (BinaryOp × Expr) → List String
  | [] => []
  | (_, e) :: rest => e.reads ++ Expr.readsOfComparisons rest

/-- The names that a call reads. -/
def Call.reads : Call → List String
  | .function name args => name :: Argument.readsOfAll args
  | .method e _ args => e.reads ++ Argument.readsOfAll args
  | .value e args => e.reads ++ Argument.readsOfAll args
  | .block _ => []

/-- The names that arguments read. -/
def Argument.readsOfAll : List Argument → List String
  | [] => []
  | .positional e :: args => e.reads ++ Argument.readsOfAll args
  | .named _ e :: args => e.reads ++ Argument.readsOfAll args
  | .spread e :: args => e.reads ++ Argument.readsOfAll args
  | .spreadNamed e :: args => e.reads ++ Argument.readsOfAll args

end

/-- What has been seen of a body: the names that have a value, and those that were free. -/
structure FreeNames where
  bound : List String
  free : List String

namespace FreeNames

/-- Binds names, which are not free from here on. -/
def bind (s : FreeNames) (names : List String) : FreeNames := { s with bound := names ++ s.bound }

/-- Reads names, those of which are free that are not bound. -/
def read (s : FreeNames) (names : List String) : FreeNames :=
  { s with free := s.free ++ names.filter fun name =>
      !s.bound.contains name && !s.free.contains name }

/-- The names that `after` found free, with the bound names of `s`. -/
def leave (s after : FreeNames) : FreeNames := { after with bound := s.bound }

end FreeNames

mutual

/-- The names that a target gives a value. -/
def Target.binds : Target → List String
  | .name id => [id]
  | .entry _ _ _ => []
  | .tuple _ targets => Target.bindsOfAll targets

/-- The names that some targets bind. -/
def Target.bindsOfAll : List Target → List String
  | [] => []
  | t :: targets => t.binds ++ Target.bindsOfAll targets

end

/-- The scope of a definition inside another one: its parameters have values. -/
def Param.enter (params : List Param) (s : FreeNames) : FreeNames :=
  (s.bind ("caller" :: params.map (·.name))).read
    (params.flatMap fun p => (p.default?.map Expr.reads).getD [])

mutual

/-- Goes through a statement. -/
def Statement.scan : Statement → FreeNames → FreeNames
  | .text _, s => s
  | .emit e, s => s.read e.reads
  | .loop target source condition? _ body otherwise, s =>
    let inner := (((s.bind ["loop"]).read source.reads).bind target.binds).read
      ((condition?.map Expr.reads).getD [])
    s.leave (Statement.scanAll otherwise (s.leave (Statement.scanAll body inner)))
  | .branch test yes no, s =>
    let s := s.read test.reads
    s.leave (Statement.scanAll no (s.leave (Statement.scanAll yes s)))
  | .bindings _ entries body, s =>
    let inner := entries.foldl (fun (s : FreeNames) (target, e) =>
      (s.bind target.binds).read e.reads) s
    s.leave (Statement.scanAll body inner)
  | .assign target e, s => (s.bind target.binds).read e.reads
  | .capture target _ body, s =>
    let s := s.bind target.binds
    s.leave (Statement.scanAll body s)
  | .escaping _ body, s => s.leave (Statement.scanAll body s)
  | .filtered _ body, s => s.leave (Statement.scanAll body s)
  | .block _ _, s => s
  | .required _ _, s => s
  | .parent _, s => s
  | .insertion _ _, s => s
  | .importAll _ name, s => s.bind [name]
  | .importNames _ names, s => s.bind (names.map Prod.snd)
  | .define name params body, s =>
    let s := s.bind [name]
    s.leave (Statement.scanAll body (Param.enter params s))
  | .callWith _ c params body, s =>
    let s := s.read c.reads
    s.leave (Statement.scanAll body (Param.enter params s))
  | .perform _ c, s => s.read c.reads
  | .leave, s => s
  | .next, s => s

/-- Goes through some statements. -/
def Statement.scanAll : List Statement → FreeNames → FreeNames
  | [], s => s
  | x :: xs, s => Statement.scanAll xs (x.scan s)

end

/-- The free names of a definition. -/
def Param.free (params : List Param) (body : List Statement) : List String :=
  let start : FreeNames :=
    (FreeNames.bind ⟨[], []⟩ (params.map (·.name))).read
      (params.flatMap fun p => (p.default?.map Expr.reads).getD [])
  (Statement.scanAll body start).free

end Scaffold.Template
