import Scaffold.Template.Display

/-!
# Parameters

How filters, tests and functions take their arguments: one after the other, each as a value of the
kind that they need.

* `Parameters.finish` is the last step: no argument may be left over.
* Named arguments are taken with `namedArguments`. Where they are not asked for, they count as one
  more argument, a map.
-/

namespace Scaffold.Template

/-- The arguments of a call. -/
structure Arguments where
  positional : List Value
  named? : Option (List (String × Value))
  deriving Inhabited

/-- Arguments without a name. -/
def Arguments.ofList (values : List Value) : Arguments := ⟨values, none⟩

/-- All arguments as values, the named ones as one map. -/
def Arguments.values (a : Arguments) : List Value :=
  a.positional ++ (a.named?.map Value.ofNamed).toList

/-- Steps that take arguments. -/
abbrev Parameters := StateT Arguments (Except Fault)

namespace Parameters

variable {α : Type}

/-- The next argument, if there is one. -/
def next? : Parameters (Option Value) := do
  let a ← get
  match a.positional, a.named? with
  | v :: rest, _ =>
    set { a with positional := rest }
    return some v
  | [], some named =>
    set { a with named? := none }
    return some (.ofNamed named)
  | [], none => return none

/-- Takes an argument, which must be there. -/
def value : Parameters Value := do
  match ← next? with
  | some v => return v
  | none => throw (.ofProblem .missingArgument)

/-- An argument that may be left out, be `none` or be undefined. -/
def optional (convert : Value → Except Fault α) : Parameters (Option α) := do
  match ← next? with
  | none | some .none | some .undefined => return none
  | some v => return some (← convert v)

/-- All arguments that are left. -/
def rest : Parameters (List Value) := do
  let a ← get
  set (Arguments.ofList [])
  return a.values

/-- The arguments given by name. -/
def namedArguments : Parameters (List (String × Value)) := do
  let a ← get
  set { a with named? := none }
  return a.named?.getD []

/-- No argument is left over. -/
def finish : Parameters Unit := do
  if (← get).values.isEmpty then return () else throw (.ofProblem .tooManyArguments)

/-- Runs the steps on arguments, none of which may be left over. -/
def run (x : Parameters α) (args : Arguments) : Except Fault α :=
  (StateT.run (do let a ← x; finish; return a) args).map Prod.fst

/-- Fails if the named arguments come next, which make no text. -/
def refuseNamed : Parameters Unit := do
  let a ← get
  if a.positional.isEmpty && a.named?.isSome then
    throw (.invalid "cannot convert named arguments to string")

/-! ### Conversions -/

/-- Any value, by its text. -/
def toText (v : Value) : Except Fault String := .ok v.display

/-- A text and nothing else. -/
def asText (v : Value) : Except Fault String :=
  match v.text? with
  | some s => .ok s
  | none => .error (.invalid "value is not a string")

/-- A truth value; other values are a fault. -/
def asBool : Value → Except Fault Bool
  | .bool b => .ok b
  | v => .error (.invalid ("cannot convert " ++ v.kind.name ++ " to bool"))

/-- An integer that a width holds. -/
def asInt (w : Width) (v : Value) : Except Fault Int :=
  match v.int? with
  | some n =>
    if w.holds n then .ok n
    else .error (.invalid ("cannot convert " ++ v.quoted ++ " to integer"))
  | none => .error (.invalid ("cannot convert " ++ v.kind.name ++ " to integer"))

/-- A count. -/
def asNat (v : Value) : Except Fault Nat := (asInt (.unsigned 64) v).map Int.toNat

/-- Takes a text, with no arguments by name behind it. -/
def text : Parameters String := do
  refuseNamed
  toText (← value)

/-- Takes a text. -/
def plainText : Parameters String := do asText (← value)

/-- Takes a number that is not negative. -/
def nat : Parameters Nat := do asNat (← value)

/-- Takes a text, if there is one, with no arguments by name behind it. -/
def optionalText : Parameters (Option String) := do
  refuseNamed
  optional toText

/-- Takes a truth value, if there is one. -/
def optionalBool : Parameters (Option Bool) := optional asBool

/-! ### Named arguments -/

/-- The value of a named argument, unless it is missing, `none` or undefined. -/
def named? (named : List (String × Value)) (name : String) (convert : Value → Except Fault α) :
    Except Fault (Option α) :=
  match named.lookup name with
  | none | some .none | some .undefined => .ok none
  | some v => (convert v).map some

/-- A switch, off if it is missing. -/
def switch (named : List (String × Value)) (name : String) : Except Fault Bool := do
  return (← named? named name asBool).getD false

/-- No name other than the known ones may be given. -/
def onlyNamed (named : List (String × Value)) (known : List String) : Except Fault Unit :=
  match named.find? fun (name, _) => !known.contains name with
  | some (name, _) => .error ⟨.tooManyArguments, some ("unknown keyword argument " ++ name), none⟩
  | none => .ok ()

end Parameters

end Scaffold.Template
