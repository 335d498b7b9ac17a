/-!
# Faults of templates

Why a template cannot be read or run, and where.

* `Fault.message` is the only place where such faults are worded.
* `Fault.at` gives a fault its place, once: the innermost place wins.
-/

namespace Scaffold.Template

/-- What is wrong. -/
inductive Problem where
  | unreadable
  | invalidOperation
  | templateNotFound
  | tooManyArguments
  | missingArgument
  | unknownFilter
  | unknownFunction
  | unknownTest
  | unknownMethod
  | badEscape
  | undefinedValue
  | badSerialization
  | badInclude
  | cannotUnpack
  | unknownBlock
  | badBlock
  deriving DecidableEq, Repr

def Problem.text : Problem → String
  | .unreadable => "syntax error"
  | .invalidOperation => "invalid operation"
  | .templateNotFound => "template not found"
  | .tooManyArguments => "too many arguments"
  | .missingArgument => "missing argument"
  | .unknownFilter => "unknown filter"
  | .unknownFunction => "unknown function"
  | .unknownTest => "unknown test"
  | .unknownMethod => "unknown method"
  | .badEscape => "bad string escape"
  | .undefinedValue => "undefined value"
  | .badSerialization => "could not serialize to value"
  | .badInclude => "could not render include"
  | .cannotUnpack => "cannot unpack"
  | .unknownBlock => "unknown block"
  | .badBlock => "could not render block"

/-- A place in a template: its name and a line, counted from one. -/
structure Place where
  template : String
  line : Nat
  deriving DecidableEq, Repr

structure Fault where
  problem : Problem
  detail? : Option String
  place? : Option Place
  deriving DecidableEq, Repr

namespace Fault

def ofProblem (p : Problem) : Fault := ⟨p, none, none⟩

def invalid (detail : String) : Fault := ⟨.invalidOperation, some detail, none⟩

/-- Places a fault that has no place yet. -/
def at_ (f : Fault) (place : Place) : Fault :=
  match f.place? with
  | none => { f with place? := some place }
  | some _ => f

def message (f : Fault) : String :=
  f.problem.text ++ f.detail?.elim "" (": " ++ ·)
    ++ f.place?.elim "" fun p => " (in " ++ p.template ++ ":" ++ toString p.line ++ ")"

end Fault

end Scaffold.Template
