import Scaffold.Engine
import Scaffold.Template.Execution
import Scaffold.Template.StatementReader

/-!
# Sessions

The engine for embedded code: expressions and blocks are templates.

* An expression is run by assigning it to `result`; a block is run as it is, and gives what it writes
  and what it assigns to `result`.
* The preamble is a template of its own. What it gives a value is imported by all code of the session.
-/

namespace Scaffold.Template

/-- What is known in a session. -/
structure Session where
  templates : List (String × Source)
  bindings : Names
  /-- What stands in front of all code. -/
  header : String
  deriving Inhabited

namespace Session

/-- The name under which code can ask for the preamble. -/
def preambleName : String := "__preamble__"

/-- The name of code without a name. -/
def codeName : String := "<string>"

/-- The name whose value is the result of a block. -/
def resultName : String := "result"

/-- A tag with the given content. -/
def tag (content : String) : String := "\x7b% " ++ content ++ " %\x7d"

mutual

/-- A value as YAML. Integers beyond 64 bits are texts. -/
def toYaml : Value → Except Fault Yaml.Value
  | .undefined | .none => .ok .null
  | .bool b => .ok (.bool b)
  | .int n =>
    if (Width.signed 64).holds n || (Width.unsigned 64).holds n then .ok (.number (.int n))
    else .ok (.string (toString n))
  | .float x => .ok (.number (.float x))
  | .string _ s => .ok (.string s)
  | .list _ items => do return .sequence (← toYamlItems items)
  | .map entries => do return .mapping (← toYamlEntries entries)
  | .object _ entries => do return .mapping (← toYamlEntries entries)
  | .builtin f => .ok (.string (Value.display (.builtin f)))
  | .invalid fault => .error fault

def toYamlItems : List Value → Except Fault (List Yaml.Value)
  | [] => .ok []
  | v :: items => do
    let first ← toYaml v
    return first :: (← toYamlItems items)

def toYamlEntries : List (Value × Value) → Except Fault (List (Yaml.Value × Yaml.Value))
  | [] => .ok []
  | (k, v) :: entries => do
    let key ← toYaml k
    let value ← toYaml v
    return (key, value) :: (← toYamlEntries entries)

end

/-- Runs a template from its start. -/
def runSource (templates : List (String × Source)) (bindings : Names) (discarding : Bool)
    (source : Source) : Except Fault Machine :=
  let run := Eval.runWithin (Machine.maxDepth + 1)
  let start := Machine.start templates bindings discarding source
  (Eval.runTemplate run (templates.length + 2) source start).map Prod.snd

/-- What code can see of a context: the texts of its tokens, by name. -/
def bindingsOf (ctx : Context) : Names :=
  [("context", .ofNamed (ctx.values.entries.map fun (name, s) => (name, .text s)))]

/-- The import of the names that the preamble gives a value. -/
def headerOf (names : List String) : String :=
  let names := names.filter (· != resultName)
  if names.isEmpty then ""
  else tag ("from \"" ++ preambleName ++ "\" import " ++ Text.joinWith ", " names)

/-- Opens a session: the preamble runs once without output, to find what it gives a value. -/
def openWith (ctx : Context) (preamble? : Option String) : Except Fault Session := do
  let bindings := bindingsOf ctx
  match preamble?.filter (!Text.allBlank ·) with
  | none => return ⟨[], bindings, ""⟩
  | some text =>
    let source ← Source.read preambleName text
    let templates := [(preambleName, source)]
    let m ← runSource templates bindings true source
    return ⟨templates, bindings, headerOf (m.exports.map Prod.fst)⟩

/-- Runs code: its output, and its result if there is one. -/
def execute (s : Session) (code : String) : Except Fault CodeResult := do
  let source ← Source.read codeName (s.header ++ code)
  let m ← runSource s.templates s.bindings false source
  let result? ← (m.lookup? resultName).mapM fun v => toYaml (m.resolve v)
  return ⟨result?, m.out⟩

def evaluate (s : Session) (code : String) : Except Fault CodeResult :=
  s.execute (tag ("set " ++ resultName ++ " = (" ++ Text.trim code ++ ")"))

/-- A fault as a failure of code. -/
def codeFailure (f : Fault) : CodeFailure :=
  match f.problem with
  | .unreadable => .unreadable f.message
  | _ => .failed f.message

/-- The session that code runs in when none has been opened. -/
def blank : Session := ⟨[], [], ""⟩

end Session

/-- The engine whose code is templates; its state is the session opened last. -/
def engine : Engine (Option Session) where
  openSession ctx preamble? := fun s =>
    match Session.openWith ctx preamble? with
    | .ok session => (.ok (), some session)
    | .error fault => (.error (Session.codeFailure fault), s)
  evaluate code := fun s =>
    (((s.getD Session.blank).evaluate code).mapError Session.codeFailure, s)
  execute code := fun s =>
    (((s.getD Session.blank).execute code).mapError Session.codeFailure, s)

end Scaffold.Template
