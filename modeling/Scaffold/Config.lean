import Scaffold.Config.Definition
import Scaffold.Files.FileSystem

/-!
# Configuration

Where templates are found, the custom tokens, and code that runs before other code. A configuration is
a JSON text or, failing that, a YAML text.

* `Config.parse` reads a configuration; a blank one is the default.
* `Config.load` reads one from a file.
* `Config.allTokens` adds the tokens of the tokens file to the inline ones; later definitions win.
-/

namespace Scaffold

open Yaml (Node)

/-- The settings of a configuration file. -/
structure Config where
  projectTemplates? : Option String := none
  fileTemplates? : Option String := none
  /-- A file with more custom tokens. -/
  tokensFile? : Option String := none
  tokens : Table TokenBody := .empty
  preamble? : Option String := none
  deriving Inhabited

namespace Config

/-- The settings that a file may give. -/
inductive Field where
  | projectTemplates | fileTemplates | tokensFile | tokens | preamble
  deriving DecidableEq, Repr

/-- The fields in the order in which a list gives them. -/
def Field.all : List Field := [.projectTemplates, .fileTemplates, .tokensFile, .tokens, .preamble]

/-- The name of a setting in a file. -/
def Field.name : Field → String
  | .projectTemplates => "project_templates_dir"
  | .fileTemplates => "file_templates_dir"
  | .tokensFile => "custom_tokens_file"
  | .tokens => "custom_tokens"
  | .preamble => "python_preamble"

/-- The setting of a name, if there is one. -/
def Field.ofName? (name : String) : Option Field := Field.all.find? (·.name = name)

/-- The value of a field: an optional text, or tokens. -/
inductive Setting where
  | text (s? : Option String)
  | tokens (t : Table TokenBody)

/-- Sets a field; a setting of the wrong kind is ignored. -/
def set (c : Config) : Field → Setting → Config
  | .projectTemplates, .text s? => { c with projectTemplates? := s? }
  | .fileTemplates, .text s? => { c with fileTemplates? := s? }
  | .tokensFile, .text s? => { c with tokensFile? := s? }
  | .preamble, .text s? => { c with preamble? := s? }
  | .tokens, .tokens t => { c with tokens := t }
  | _, _ => c

/-- The configuration with these settings; no field may be set twice. -/
def ofSettings? : List (Field × Setting) → Option Config
  | [] => some {}
  | (field, setting) :: rest => do
    if rest.any (·.1 = field) then none else return (← ofSettings? rest).set field setting

/-! ### JSON -/

/-- How deep the arrays and objects of a custom token may be nested, so that the whole text is nested
    less than 128 deep. -/
def tokenDepthLimit : Nat := 125

/-- A token as JSON has it. -/
def jsonToken? (j : Json) : Option TokenBody := do
  if tokenDepthLimit < j.depth then none else TokenBody.ofValue? (← j.value?)

/-- The tokens of an object; all of its keys and values must be usable. -/
def jsonTokens? (entries : List (Option String × Json)) : Option (Table TokenBody) := do
  let tokens ← entries.mapM fun (key?, value) => do return (← key?, ← jsonToken? value)
  return .ofList tokens

/-- The value of a setting as JSON has it. -/
def jsonSetting? (field : Field) (j : Json) : Option Setting :=
  match field, j with
  | .tokens, .object entries => (jsonTokens? entries).map .tokens
  | .tokens, _ => none
  | _, .null => some (.text none)
  | _, .string (some s) => some (.text (some s))
  | _, _ => none

/-- The settings of an object by name, or those of an array by position. -/
def ofJson? : Json → Option Config
  | .object entries => do
    let settings ← entries.filterMapM fun (key?, value) => do
      match Field.ofName? (← key?) with
      | none => return none
      | some field => return some (field, ← jsonSetting? field value)
    ofSettings? settings
  | .array items => do
    if Field.all.length < items.length then none
    else
      let settings ← (Field.all.zip items).mapM fun (field, value) => do
        return (field, ← jsonSetting? field value)
      ofSettings? settings
  | _ => none

/-! ### YAML -/

/-- A fault without a place. -/
def refuse {α : Type} (problem : String) : Except Yaml.Fault α := .error ⟨problem, none⟩

/-- A value, or a fault if there is none. -/
def orRefuse {α : Type} (problem : String) : Option α → Except Yaml.Fault α
  | some x => .ok x
  | none => refuse problem

/-- Whether a scalar stands for no text at all. -/
def yamlAbsent (tag? : Option Yaml.Tag) (text : String) (style : Yaml.ScalarStyle) :
    Except Yaml.Fault Bool :=
  if style ≠ .plain then .ok false
  else match tag? with
    | some tag =>
      if tag = .core "null" then
        if Yaml.Scalar.isNullWord text then .ok true else refuse "expected null"
      else .ok false
    | none => .ok (text.isEmpty || Yaml.Scalar.isNullWord text)

/-- The entries of a mapping; an empty scalar is a mapping without entries. -/
def yamlEntries : Node → Except Yaml.Fault (List (Node × Node))
  | .void => .ok []
  | .cut fault => .error fault
  | .mapping _ entries _ => .ok entries
  | .scalar _ text style _ =>
    if text.isEmpty && style = .plain then .ok [] else refuse "expected a mapping"
  | _ => refuse "expected a mapping"

/-- A key has to be a text. -/
def yamlKey (n : Node) : Except Yaml.Fault String := orRefuse "expected a string" n.text?

/-- The tokens that a mapping defines; of repeated names the last one counts. -/
def yamlTokens (n : Node) : Except Yaml.Fault (Table TokenBody) := do
  let tokens ← (← yamlEntries n).mapM fun (k, v) => do
    let name ← yamlKey k
    let body ← orRefuse "no token definition" (TokenBody.ofValue? (← v.content))
    return (name, body)
  return .ofList tokens

/-- The value of a setting as YAML has it. -/
def yamlSetting (field : Field) (n : Node) : Except Yaml.Fault Setting := do
  if field = .tokens then return .tokens (← yamlTokens n)
  else match n with
    | .scalar tag? text style _ =>
      return .text (if ← yamlAbsent tag? text style then none else some text)
    | _ => refuse "expected a string"

/-- The configuration that a node stands for. -/
def ofNode (n : Node) : Except Yaml.Fault Config := do
  let settings ← (← yamlEntries n).filterMapM fun (k, v) => do
    match Field.ofName? (← yamlKey k) with
    | some field => return some (field, ← yamlSetting field v)
    | none =>
      match v.cut? with
      | some fault => throw fault
      | none => return none
  orRefuse "duplicate field" (ofSettings? settings)

/-! ### Configurations and token files -/

/-- Reads a configuration file. -/
def parse (text : String) : Except Error Config :=
  if Text.allBlank text then .ok {}
  else match (Json.parse text).bind ofJson? with
    | some c => .ok c
    | none =>
      match Yaml.parseWith ofNode text with
      | .ok c => .ok c
      | .error fault => .error (.config ("Invalid configuration format: " ++ fault.problem))

/-- Reads a file of tokens. -/
def parseTokens (path text : String) : Except Error (Table TokenBody) :=
  if Text.allBlank text then .ok .empty
  else match Yaml.parseWith yamlTokens text with
    | .ok tokens => .ok tokens
    | .error fault =>
      .error (.config ("Invalid custom tokens in " ++ path ++ ": " ++ fault.problem))

/-- The text of a file. -/
def readFile (fs : Files.FileSystem) (path : String) : Except Error String :=
  (fs.readText (.ofText path)).mapError .io

/-- Reads the configuration in a file; without one, the default. -/
def load (fs : Files.FileSystem) : Option String → Except Error Config
  | none => .ok {}
  | some path => do parse (← readFile fs path)

/-- The inline tokens, then those of the tokens file. -/
def allTokens (c : Config) (fs : Files.FileSystem) : Except Error (Table TokenBody) :=
  match c.tokensFile? with
  | none => .ok c.tokens
  | some path => do
    let more ← parseTokens path (← readFile fs path)
    return c.tokens.insertAll more.entries

end Config

end Scaffold
