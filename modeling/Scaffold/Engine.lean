import Scaffold.Context
import Scaffold.Yaml.Value

/-!
# Script engines

What embedded code is run by. An engine is a state machine: it opens a session for a context, and then
evaluates expressions and executes blocks in the session opened last.

* `Engine.logged` is an engine together with the calls made to it, in order.
-/

namespace Scaffold

/-- Why code fails. The distinction matters: what is no expression may still be a block. -/
inductive CodeFailure where
  /-- The code is no code. -/
  | unreadable (message : String)
  /-- The code fails while it runs. -/
  | failed (message : String)
  deriving DecidableEq, Repr

def CodeFailure.message : CodeFailure → String
  | .unreadable m => m
  | .failed m => m

/-- What running code gives. -/
structure CodeResult where
  /-- The value that the code binds to `result`, if it binds one. -/
  result? : Option Yaml.Value
  output : String
  deriving Inhabited

/-- An engine with states in `σ`. -/
structure Engine (σ : Type) where
  /-- Opens a session for a context, after running the preamble. -/
  openSession : Context → Option String → StateM σ (Except CodeFailure Unit)
  evaluate : String → StateM σ (Except CodeFailure CodeResult)
  execute : String → StateM σ (Except CodeFailure CodeResult)

/-- A call to an engine. -/
inductive Call where
  | opened (ctx : Context) (preamble? : Option String)
  | evaluated (code : String)
  | executed (code : String)

/-- An engine that keeps a list of its calls, the first one first. -/
def Engine.logged {σ : Type} (e : Engine σ) : Engine (σ × List Call) where
  openSession ctx preamble? := fun (s, calls) =>
    let (r, s) := e.openSession ctx preamble? s
    (r, s, calls ++ [.opened ctx preamble?])
  evaluate code := fun (s, calls) =>
    let (r, s) := e.evaluate code s
    (r, s, calls ++ [.evaluated code])
  execute code := fun (s, calls) =>
    let (r, s) := e.execute code s
    (r, s, calls ++ [.executed code])

end Scaffold
