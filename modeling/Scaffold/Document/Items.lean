import Scaffold.Document.Normal
import Scaffold.Error
import Scaffold.Yaml.Node
import Scaffold.Yaml.Writer

/-!
# Items of a structure document

A structure document is a YAML list of items, or a mapping that holds one. Each item is classified once,
by the first of its keys in a fixed order of priority; the items of a folder are classified with it.

* `Document.parse` reads the text of a document.
* `itemValues?` finds the items in it.
* `plainText` is the text of a value where a name or a content is wanted.
* `Item.ofValue` tells what an item asks for.
-/

namespace Scaffold.Document

open Yaml (Value)

/-- Reads a structure document; a blank one is null. -/
def parse (text : String) : Except Error Value :=
  let text := normalize text
  if Text.allBlank text then .ok .null
  else match Yaml.parse text with
    | .ok v => .ok v
    | .error fault => .error (.parse (fault.line?.map (· + 1)) fault.problem)

/-- The keys under which a mapping may hold its items, in order of priority. -/
def listKeys : List String := ["files", "items"]

/-- The items of a document: the list itself, or the list under the first key that is present. A list under a key may
    have tags, which say nothing here. -/
def itemValues? : Value → Option (List Value)
  | .sequence items => some items
  | .mapping entries =>
    match (listKeys.findSome? (Value.field? · entries)).map Value.untagged with
    | some (.sequence items) => some items
    | _ => none
  | _ => none

/-- The text of a value as a name or content: null is empty, scalars are as they are written, and
    collections are block YAML, or empty if there is none. -/
def plainText : Value → String
  | .null => ""
  | .string s => s
  | .bool b => toString b
  | .number n => n.text
  | .tagged _ v => plainText v
  | v => .ofList (Chars.dropEndWhile (· == '\n') (v.write?.getD []))

/-- The text of a value that may be a placeholder without quotes, which YAML reads as a mapping of
    one key to null. -/
def fillableText : Value → String
  | .mapping [(key, .null)] => "\x7b" ++ plainText key ++ "\x7d"
  | v => plainText v

/-- What an item of a structure document asks for. -/
inductive Item where
  /-- An empty file. -/
  | implicitFile (name : Value)
  /-- The items of a project template, with a title and description of their own. -/
  | inclusion (name : Value) (title? description? : Option Value)
  /-- A file named after a file template and filled from it. -/
  | fileTemplate (name : Value)
  /-- A file with a content or filled from a file template. -/
  | file (name : Value) (content? template? : Option Value)
  | folder (name : Value) (contents : List Item)
  /-- Code that gives more items. -/
  | script (code : Value)
  /-- A key with the items of a folder, or with a value that is no list. -/
  | shorthand (key : Value) (contents? : Option (List Item))
  | ignored
  deriving Inhabited

/-- An entry of a mapping, and the items of its value if that is a list. -/
structure Field where
  key : Value
  value : Value
  items? : Option (List Item)

namespace Item

/-- The field with the given name. -/
def field? (name : String) (fields : List Field) : Option Field :=
  fields.find? (·.key.isString name)

/-- Classifies a mapping: the first of the known keys decides, then a single key. -/
def ofFields (fields : List Field) : Item :=
  let value? (name : String) : Option Value := (field? name fields).map (·.value)
  match value? "project_template" with
  | some name => .inclusion name (value? "title") (value? "description")
  | none =>
  match value? "file_template" with
  | some name => .fileTemplate name
  | none =>
  match value? "file" with
  | some name => .file name (value? "content") (value? "template")
  | none =>
  match value? "folder" with
  | some name => .folder name (((field? "contents" fields).bind (·.items?)).getD [])
  | none =>
  match value? "python" with
  | some code => .script code
  | none =>
  match fields with
  | [f] => .shorthand f.key f.items?
  | _ => .ignored

mutual

def ofValue : Value → Item
  | .string s => .implicitFile (.string s)
  | .number n => .implicitFile (.number n)
  | .bool b => .implicitFile (.bool b)
  | .mapping entries => ofFields (fieldsOf entries)
  | _ => .ignored

def ofValues : List Value → List Item
  | [] => []
  | v :: vs => ofValue v :: ofValues vs

def itemsOf? : Value → Option (List Item)
  | .sequence vs => some (ofValues vs)
  | _ => none

def fieldsOf : List (Value × Value) → List Field
  | [] => []
  | (key, value) :: entries => ⟨key, value, itemsOf? value⟩ :: fieldsOf entries

end

end Item

/-- The items of a document, classified. -/
def items? (v : Value) : Option (List Item) := (itemValues? v).map Item.ofValues

end Scaffold.Document
