import Scaffold.Template.Arithmetic

/-!
# Expressions and statements

The parts of a template. Where a part can fail, it has the line that its failure is attributed to.

* `Expr.ofBinary`, `Expr.ofItems` and their kin build an expression from its parts. Parts that are
  known give a literal at once, unless the operator fails on them.
-/

namespace Scaffold.Template

mutual

/-- Expressions, with the lines that they start on. -/
inductive Expr where
  | literal (line : Nat) (v : Value)
  | name (line : Nat) (id : String)
  | list (line : Nat) (items : List Expr)
  | map (line : Nat) (entries : List (Expr × Expr))
  | negative (line : Nat) (e : Expr)
  | opposite (line : Nat) (e : Expr)
  | binary (line : Nat) (op : BinaryOp) (left right : Expr)
  /-- Comparisons of neighbours that all hold; they end at the first one that does not. -/
  | comparisons (line : Nat) (first : Expr) (rest : List (BinaryOp × Expr))
  /-- The right operand if the left one is true, else the left one. -/
  | both (line : Nat) (left right : Expr)
  /-- The left operand if it is true, else the right one. -/
  | either (line : Nat) (left right : Expr)
  | conditional (line : Nat) (test yes no : Expr)
  /-- The entry that a name behind a dot asks for. -/
  | member (line : Nat) (e : Expr) (name : String)
  | item (line : Nat) (e key : Expr)
  | slice (line : Nat) (e start stop step : Expr)
  | filter (line : Nat) (e : Expr) (name : String) (args : List Argument)
  | test (line : Nat) (e : Expr) (name : String) (args : List Argument)
  | call (line : Nat) (c : Call)

/-- What is called. -/
inductive Call where
  | function (name : String) (args : List Argument)
  | method (e : Expr) (name : String) (args : List Argument)
  | value (e : Expr) (args : List Argument)
  /-- The output of a block of the template. -/
  | block (name : String)

/-- Arguments of calls. -/
inductive Argument where
  | positional (e : Expr)
  | named (name : String) (e : Expr)
  /-- The items of a value as arguments. -/
  | spread (e : Expr)
  /-- The entries of a map as named arguments. -/
  | spreadNamed (e : Expr)

end

/-- The expression that stands for nothing. -/
instance : Inhabited Expr := ⟨.literal 0 .undefined⟩

namespace Expr

/-- The line of an expression. -/
def line : Expr → Nat
  | .literal line _ | .name line _ | .list line _ | .map line _ | .negative line _
  | .opposite line _ | .binary line _ _ _ | .comparisons line _ _ | .both line _ _ | .either line _ _
  | .conditional line _ _ _ | .member line _ _ | .item line _ _ | .slice line _ _ _ _ | .filter line _ _ _
  | .test line _ _ _ | .call line _ => line

/-- Whether an expression stands for a value that is there already, and makes none of its own. -/
def findsValue : Expr → Bool
  | .name _ _ | .member _ _ _ | .item _ _ _ | .conditional _ _ _ _ | .both _ _ _ | .either _ _ _ => true
  | _ => false

/-- The value of a literal. -/
def known? : Expr → Option Value
  | .literal _ v => some v
  | _ => none

/-- The values of literals, if all of them are. -/
def allKnown? (es : List Expr) : Option (List Value) := es.mapM known?

/-! ### Building expressions -/

/-- A list; one of literals is a literal. -/
def ofItems (line : Nat) (items : List Expr) : Expr :=
  match allKnown? items with
  | some vs => .literal line (.sequence vs)
  | none => .list line items

/-- A map; one of literals is a literal. -/
def ofEntries (line : Nat) (entries : List (Expr × Expr)) : Expr :=
  match allKnown? (entries.map Prod.fst), allKnown? (entries.map Prod.snd) with
  | some keys, some values => .literal line (.ofEntries (keys.zip values))
  | _, _ => .map line entries

/-- A negation; that of a literal is a literal. -/
def ofNot (e : Expr) : Expr :=
  match e.known? with
  | some v => .literal e.line (.bool !v.isTrue)
  | none => .opposite e.line e

/-- A number with the other sign; that of a literal is a literal, if there is no fault. -/
def ofNegative (e : Expr) : Expr :=
  match e.known?.map Value.negate with
  | some (.ok v) => .literal e.line v
  | _ => .negative e.line e

/-- An operator between two expressions; between literals it is a literal, if there is no fault. -/
def ofBinary (op : BinaryOp) (left right : Expr) : Expr :=
  match left.known?, right.known? with
  | some v, some w =>
    match op.apply v w with
    | .ok u => .literal right.line u
    | .error _ => .binary right.line op left right
  | _, _ => .binary right.line op left right

/-- Comparisons of neighbours. -/
def ofComparisons (first : Expr) (rest : List (BinaryOp × Expr)) : Expr :=
  match rest with
  | [] => first
  | [(op, e)] => ofBinary op first e
  | rest => .comparisons ((rest.getLast?.map (·.2.line)).getD first.line) first rest

/-- `and`. Of two known operands the result is the second one or false. -/
def ofBoth (left right : Expr) : Expr :=
  match left.known?, right.known? with
  | some v, some w => .literal right.line (if v.isTrue && w.isTrue then w else .bool false)
  | _, _ => .both right.line left right

/-- `or`. -/
def ofEither (left right : Expr) : Expr :=
  match left.known?, right.known? with
  | some v, some w => .literal right.line (if v.isTrue then v else w)
  | _, _ => .either right.line left right

end Expr

/-! ### Statements -/

/-- What a value is assigned to. -/
inductive Target where
  | name (id : String)
  /-- An entry of a record. -/
  | entry (line : Nat) (record : Expr) (name : String)
  | tuple (line : Nat) (targets : List Target)

/-- A filter that is applied to what a part of the template writes. -/
structure FilterCall where
  line : Nat
  name : String
  args : List Argument

/-- A parameter of a definition. -/
structure Param where
  name : String
  default? : Option Expr

/-- Statements: what stands between tags, and the tags themselves. -/
inductive Statement where
  | text (s : String)
  | emit (e : Expr)
  /-- The source is filtered by the condition; a recursive loop can be called by its body. -/
  | loop (target : Target) (source : Expr) (condition? : Option Expr) (recursive : Bool)
      (body otherwise : List Statement)
  | branch (test : Expr) (yes no : List Statement)
  /-- A scope with names of its own. -/
  | bindings (line : Nat) (entries : List (Target × Expr)) (body : List Statement)
  | assign (target : Target) (e : Expr)
  /-- Assigns what the body writes. -/
  | capture (target : Target) (filters : List FilterCall) (body : List Statement)
  | escaping (mode : Expr) (body : List Statement)
  | filtered (filters : List FilterCall) (body : List Statement)
  | block (line : Nat) (name : String)
  /-- Stands for what another template has to give. -/
  | required (line : Nat) (name : String)
  | parent (template : Expr)
  | insertion (template : Expr) (ignoreMissing : Bool)
  | importAll (template : Expr) (name : String)
  /-- Names of the template, and what they are called here. -/
  | importNames (template : Expr) (names : List (String × String))
  | define (name : String) (params : List Param) (body : List Statement)
  /-- Calls with a definition made of the body as the argument `caller`. -/
  | callWith (line : Nat) (c : Call) (params : List Param) (body : List Statement)
  | perform (line : Nat) (c : Call)
  /-- Ends the loop. -/
  | leave
  /-- Goes on with the next item of the loop. -/
  | next

/-- The statement that writes nothing. -/
instance : Inhabited Statement := ⟨.text ""⟩

/-- A template that has been read. -/
structure Source where
  name : String
  body : List Statement
  blocks : List (String × List Statement)
  deriving Inhabited

end Scaffold.Template
