import Scaffold.Context
import Scaffold.Document.Items
import Scaffold.Json

/-!
# Definitions of custom tokens

A token may be defined by a plain value, by code under the key `python`, or by a `type` and a `value`.
The first form that fits decides, and every value is taken as its text.

* `TokenBody.ofValue?` reads a definition.
* `Json.value?` turns a JSON tree into the value to read it from.
-/

namespace Scaffold

open Yaml (Value)

namespace Yaml.Value

mutual

/-- Whether some mapping in the value has a key twice. -/
def repeatsKey : Value → Bool
  | .sequence items => repeatsKeyIn items
  | .mapping entries => repeatsKeyHere entries
  | .tagged _ v => repeatsKey v
  | _ => false

def repeatsKeyIn : List Value → Bool
  | [] => false
  | item :: items => repeatsKey item || repeatsKeyIn items

def repeatsKeyHere : List (Value × Value) → Bool
  | [] => false
  | (k, v) :: entries =>
    repeatsKey k || repeatsKey v || entries.any (fun e => same k e.1) || repeatsKeyHere entries

end

end Yaml.Value

mutual

/-- The value that a JSON tree stands for, if all its strings and numbers are usable. -/
def Json.value? : Json → Option Value
  | .null => some .null
  | .bool b => some (.bool b)
  | .int n => some (.number (.int n))
  | .float x => if x.isInf then none else some (.number (.float x))
  | .string text? => text?.map .string
  | .array items => (Json.values? items).map .sequence
  | .object entries => (Json.entries? entries).map .mapping

def Json.values? : List Json → Option (List Value)
  | [] => some []
  | item :: items => do return (← Json.value? item) :: (← Json.values? items)

def Json.entries? : List (Option String × Json) → Option (List (Value × Value))
  | [] => some []
  | (key?, value) :: entries => do
    return (.string (← key?), ← Json.value? value) :: (← Json.entries? entries)

end

namespace TokenBody

/-- The field that a key names: by its name, or by its number. Other keys are no field names. -/
def fieldName? (names : List String) : Value → Option (Option String)
  | .string s => some (if s ∈ names then some s else none)
  | .number (.int n) => if 0 ≤ n then some names[n.toNat]? else none
  | _ => none

/-- The fields of a mapping with the given names, each there once at most; other entries do not
    matter. -/
def fields? (names : List String) : List (Value × Value) → Option (Table Value)
  | [] => some .empty
  | (key, value) :: entries => do
    let rest ← fields? names entries
    match ← fieldName? names key with
    | none => return rest
    | some name => if rest.contains name then none else return rest.insert name value

/-- A type and a value; without a value the text is empty. -/
def typed? (entries : List (Value × Value)) : Option TokenBody := do
  let fields ← fields? ["type", "value"] entries
  let value := (fields.get? "value").getD .null
  match fields.get? "type" with
  | some (.string kind) =>
    if value.repeatsKey then none
    else if Text.eqIgnoringAsciiCase kind "python" then
      return .code (Document.plainText value)
    else return .text (Document.plainText value)
  | _ => none

/-- Code under the key `python`. -/
def code? (entries : List (Value × Value)) : Option TokenBody := do
  let fields ← fields? ["python"] entries
  let value ← fields.get? "python"
  if value.repeatsKey then none else return .code (Document.plainText value)

/-- What a definition says the token is. -/
def ofValue? (v : Value) : Option TokenBody :=
  let plain := if v.repeatsKey then none else some (.text (Document.plainText v))
  match v with
  | .mapping entries => ((typed? entries).or (code? entries)).or plain
  | _ => plain

end TokenBody

end Scaffold
