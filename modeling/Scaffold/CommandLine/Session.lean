import Scaffold.Builder
import Scaffold.CommandLine.Arguments
import Scaffold.Config
import Scaffold.Conflict.Menu
import Scaffold.Document.Example
import Scaffold.Generation
import Scaffold.Library.Directory

/-!
# A call of the program

What a call does to the file system and what it prints.

* `Session.run` follows the arguments: it reads the configuration and the structure document, builds the
  tree, and shows it or writes it.
-/

namespace Scaffold.CommandLine

open Files (FileSystem Path)

/-- What is left of a call. -/
structure Report where
  exitCode : Nat
  output : String
  errors : String
  files : FileSystem

namespace Session

variable {σ : Type}

/-- The document that is built: its name and its text, and the project templates open around it. -/
structure Source where
  name : String
  text : String
  stack : List String

/-- Finds the structure document, as a file or as a project template. -/
def source (args : Arguments) (library : Library) (fs : FileSystem) (structure_ : String) :
    Except Error Source :=
  if args.named then
    match library.project? structure_ with
    | some text => .ok ⟨structure_, text, [structure_]⟩
    | none => .error (.missingTemplate .project structure_)
  else do
    let text ← Config.readFile fs structure_
    return ⟨((Path.ofText structure_).fileName?).getD structure_, text, []⟩

/-- What a menu has instead of a terminal where there is none. -/
def noTerminal : Conflict.Terminal Unit := fun _ _ => return .error "IO error: not a terminal"

/-- Builds the tree that the arguments ask for. -/
def tree (engine : Engine σ) (s : σ) (args : Arguments) (fs : FileSystem) (structure_ : String) :
    Except Error Tree := do
  let config ← Config.load fs args.config?
  let tokens ← config.allTokens fs
  let ctx := (Context.ofTitle args.title args.description).defineAll tokens.entries
  let preamble? ←
    match args.preamble? with
    | some path => do pure (some (← Config.readFile fs path))
    | none => pure config.preamble?
  let folder (path? : Option String) : Option Path := path?.map Path.ofText
  let library := (Directory.mk
    (folder (args.projectTemplates?.or config.projectTemplates?))
    (folder (args.fileTemplates?.or config.fileTemplates?))).library fs
  let source ← source args library fs structure_
  let builder : Builder σ := ⟨⟨engine, preamble?⟩, library⟩
  match ← (builder.buildText source.name source.text ctx source.stack).run s |>.1 with
  | some tree => return tree
  | none =>
    throw (.invalidItems (Error.quoted source.name) "the document has no item list")

/-- A call that ends with an error. -/
def failed (e : Error) (fs : FileSystem) : Report := ⟨1, "", e.message ++ "\n", fs⟩

/-- Writes a tree below the output folder. -/
def write (args : Arguments) (tree : Tree) (fs : FileSystem) : Report :=
  let destination := (Path.ofText args.outputFolder).join tree.name
  let callback := Conflict.Arbiter.callback args.policy (Conflict.menu noTerminal)
  let outcome := Generation.generate tree destination (some callback) fs { prompt := () }
  match outcome.run.callback.error? with
  | some e => failed e outcome.run.files
  | none =>
    if outcome.success || outcome.wasCancelled then
      ⟨0, outcome.message ++ "\n", "", outcome.run.files⟩
    else ⟨1, "", outcome.message ++ "\n", outcome.run.files⟩

/-- Runs a call with an engine in the state `s`. -/
def run (engine : Engine σ) (s : σ) (args : Arguments) (fs : FileSystem) : Report :=
  if args.printDefault then ⟨0, Document.example_, "", fs⟩
  else match args.structure? with
    | none => failed (.config "no structure document given") fs
    | some structure_ =>
      match tree engine s args fs structure_ with
      | .error e => failed e fs
      | .ok tree =>
        if args.preview then ⟨0, tree.render, "", fs⟩ else write args tree fs

end Session

end Scaffold.CommandLine
