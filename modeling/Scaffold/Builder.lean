import Scaffold.FileName
import Scaffold.Library
import Scaffold.Substitution
import Scaffold.Tree

/-!
# Building trees

From the items of a structure document to a tree of files and folders. Names and contents are
substituted, project templates are replaced by their items, and code may give more items.

* `Builder.items` handles the items of one document; what they include goes through `Nested`.
* `Builder.itemsWithin` ties the knot; each document inside another one takes from a budget.
* `Builder.build` gives the tree of a document, `Builder.buildText` that of its text, with every
  failure attributed to the text in which it arises.
-/

namespace Scaffold

open Document (Item)
open Yaml (Value)

/-- What trees are built with. -/
structure Builder (σ : Type) where
  filler : Filler σ
  library : Library

namespace Builder

variable {σ : Type}

/-- How the items of a document inside the current one are built: in a context, below the project
    templates that are open. -/
abbrev Nested (σ : Type) := Context → List String → List Item → Running σ (List Tree)

/-- The name of a root folder without a title. -/
def defaultName : String := "Project"

/-- The document that items given by code belong to. -/
def scriptDocument : String := "python block"

/-- Attributes the failures of `x` to a document. -/
def attributed {α : Type} (document text : String) (x : Running σ α) : Running σ α :=
  tryCatch x fun e => throw (e.attributedTo document text)

/-- The text of a value, with its placeholders filled. -/
def text (b : Builder σ) (ctx : Context) (v : Value) : Running σ String :=
  b.filler.fill ctx (Document.fillableText v)

/-- The name of a file or folder. -/
def name (b : Builder σ) (ctx : Context) (v : Value) : Running σ String := do
  return FileName.sanitize (← b.text ctx v)

/-- The name of a template. -/
def nameOfTemplate (b : Builder σ) (ctx : Context) (v : Value) : Running σ String := do
  return Text.trim (← b.text ctx v)

/-- The content of a file that is filled from a template. -/
def contentFrom (b : Builder σ) (ctx : Context) (template : String) : Running σ String :=
  match b.library.file? template with
  | none => throw (.missingTemplate .file template)
  | some source => attributed template source (b.filler.fill ctx source)

/-! ### Files -/

def fileTemplate (b : Builder σ) (ctx : Context) (v : Value) : Running σ (List Tree) := do
  let template ← b.nameOfTemplate ctx v
  let name := FileName.sanitize template
  let content ← b.contentFrom (ctx.inFile name) template
  return [.file name content none]

/-- A file; a content of its own counts more than a template. -/
def file (b : Builder σ) (ctx : Context) (v : Value) (content? template? : Option Value) :
    Running σ (List Tree) := do
  let name ← b.name ctx v
  let content ←
    match content?, template? with
    | some content, _ => b.text (ctx.inFile name) content
    | none, some template => do
      let template ← b.nameOfTemplate ctx template
      b.contentFrom (ctx.inFile name) template
    | none, none => pure ""
  return [.file name content none]

/-! ### Documents inside documents -/

/-- The overrides of an inclusion: a title of its own, with the name that is made of it, and a
    description of its own. -/
def overrides (b : Builder σ) (ctx : Context) (title? description? : Option Value) :
    Running σ (List (String × String)) := do
  -- A title or description of null counts as left out, as it does where none is given.
  let title ←
    match title?.filter (!·.isNull) with
    | none => pure []
    | some v => do
      let title ← b.text ctx v
      pure [("formatted_name", Context.slug title), ("title", title)]
  let description ←
    match description?.filter (!·.isNull) with
    | none => pure []
    | some v => do pure [("description", ← b.text ctx v)]
  return title ++ description

/-- The items of the text of a project template. -/
def templateItems (name source : String) : Except Error (List Item) := do
  match Document.items? (← Document.parse source) with
  | some items => return items
  | none =>
    throw (.invalidItems ("project template " ++ Error.quoted name) "the document has no item list")

/-- The trees of a project template. A template that is open already is refused. -/
def inclusion (b : Builder σ) (nested : Nested σ) (ctx : Context) (stack : List String)
    -- An empty name includes nothing; it is no missing template.
    (v : Value) (title? description? : Option Value) : Running σ (List Tree) := do
  let name ← b.nameOfTemplate ctx v
  if name.isEmpty then return []
  else if stack.contains name then throw (.cyclicInclude (stack ++ [name]))
  else match b.library.project? name with
    | none => throw (.missingTemplate .project name)
    | some source =>
      let ctx := ctx.overriding (← b.overrides ctx title? description?)
      let trees ← attributed name source do
        match templateItems name source with
        | .error e => throw e
        | .ok items => nested ctx (stack ++ [name]) items
      return Tree.creditAll name trees

/-- The items that code gives: its value, or what it printed if it has none. -/
def scriptItems (x : CodeResult) : Except Error (List Item) :=
  let invalid (reason : String) : Error := .invalidItems scriptDocument reason
  -- A result that was set goes before what was printed.
  match x.result? with
  | some .null => .ok []
  | some (.sequence items) => .ok (Item.ofValues items)
  | some _ => .error (invalid "\"result\" must be a list")
  | none =>
    let output := Text.trim x.output
    if output.isEmpty then .ok []
    else match Document.parse output with
      | .error e => .error (invalid ("output is not valid YAML: " ++ e.message))
      | .ok v =>
        match Document.items? v with
        | some items => .ok items
        | none => .error (invalid "output must be a list")

/-- The trees of the items that code gives. -/
def script (b : Builder σ) (nested : Nested σ) (ctx : Context) (stack : List String) (v : Value) :
    Running σ (List Tree) := do
  let code := Document.fillableText v
  let x ← b.filler.runCode ctx scriptDocument code
  match scriptItems x with
  | .error e => throw e
  | .ok items => attributed scriptDocument code (nested ctx stack items)

/-! ### Items -/

mutual

/-- The trees of an item. -/
def item (b : Builder σ) (nested : Nested σ) (ctx : Context) (stack : List String) :
    Item → Running σ (List Tree)
  | .implicitFile v => do return [.file (← b.name ctx v) "" none]
  | .inclusion v title? description? => b.inclusion nested ctx stack v title? description?
  | .fileTemplate v => b.fileTemplate ctx v
  | .file v content? template? => b.file ctx v content? template?
  | .folder v contents => do
    let name ← b.name ctx v
    return [.folder name (← items b nested ctx stack contents) none]
  | .script v => b.script nested ctx stack v
  | .shorthand key none => do
    -- The key is filled before the entry is refused, so that a fault in the key comes first.
    let _ ← b.text ctx key
    throw (.malformedShorthand (Document.fillableText key))
  | .shorthand key (some contents) => do
    let name ← b.name ctx key
    return [.folder name (← items b nested ctx stack contents) none]
  | .ignored => return []

/-- The trees of items, in order. -/
def items (b : Builder σ) (nested : Nested σ) (ctx : Context) (stack : List String) :
    List Item → Running σ (List Tree)
  | [] => return []
  | i :: is => do
    let trees ← item b nested ctx stack i
    return trees ++ (← items b nested ctx stack is)

end

/-- The trees of items with at most `depth` documents open inside one another. The bound and the error behind it stand
    for the call stack, on which a document is built inside another one: where it is used up, the program ends without
    a tree and without an error of its own. -/
def itemsWithin (b : Builder σ) : (depth : Nat) → Nested σ
  | 0 => b.items fun _ _ _ => throw .endlessExpansion
  | depth + 1 => b.items (b.itemsWithin depth)

/-- How many documents given by code may be open inside one another, above the project templates. This stands for what
    the call stack has room for, which depends on the machine. Only the items that code gives come without a name that
    is remembered while they are built, so these levels are not needed where no code gives items: among so many project
    templates as the library has, a chain that does not end names one that is open already. -/
def scriptNesting : Nat := 1000

/-! ### Documents -/

/-- The name of the root folder. -/
def rootName (ctx : Context) : String :=
  let title := Text.trim ctx.title
  FileName.sanitize (if title.isEmpty then defaultName else title)

/-- The tree of a document, or nothing if it has no items. The project templates in `stack` are open
    already. -/
def build (b : Builder σ) (v : Value) (ctx : Context) (stack : List String) :
    Running σ (Option Tree) := do
  match Document.items? v with
  | none => return none
  | some items =>
    let trees ← b.itemsWithin (b.library.nesting + scriptNesting) ctx stack items
    return some (.folder (rootName ctx) trees none)

/-- The tree of the text of a document. -/
def buildText (b : Builder σ) (document source : String) (ctx : Context) (stack : List String) :
    Running σ (Option Tree) :=
  attributed document source do
    match Document.parse source with
    | .error e => throw e
    | .ok v => b.build v ctx stack

end Builder

end Scaffold
