import Scaffold.Decimal.Notation
import Scaffold.Template.Display

/-!
# JSON texts of values

Values written as JSON, on one line or with indentation. The keys of an object are texts, numbers and
booleans; a function is written as its text.
-/

namespace Scaffold.Template.JsonText

/-- Numbers that are not finite have no JSON form of their own. -/
def numberStyle : Decimal.Style where
  positional point := -5 < point && point ≤ 16
  infinity := "null"
  nan := "null"

/-- A floating-point number; JSON has none that is not finite. -/
def float (x : Float) : String := if x.isInf || x.isNaN then "null" else numberStyle.text x

/-- A character inside quotes. -/
def escapeChar : Char → List Char
  | '"' => "\\\"".toList
  | '\\' => "\\\\".toList
  | '\x08' => "\\b".toList
  | '\x0c' => "\\f".toList
  | '\n' => "\\n".toList
  | '\r' => "\\r".toList
  | '\t' => "\\t".toList
  | c => if c.toNat < 32 then '\\' :: 'u' :: digitsIn 16 4 c.toNat else [c]

/-- A text in quotes, with escapes. -/
def quote (s : String) : String := .ofList ('"' :: s.toList.flatMap escapeChar ++ ['"'])

/-- The key of an object. -/
def key : Value → Except Fault String
  | .string _ s => .ok (quote s)
  | .int n => .ok (quote (toString n))
  | .bool b => .ok (quote (if b then "true" else "false"))
  | .float x =>
    if x.isInf || x.isNaN then
      .error ⟨.badSerialization, some "float key must be finite (got NaN or +/-inf)", none⟩
    else .ok (quote (float x))
  | _ => .error ⟨.badSerialization, some "key must be a string", none⟩

/-- How parts are laid out: on one line, or on lines of their own behind `unit` for each level. -/
structure Layout where
  unit? : Option String

/-- The break in front of a part at a level. -/
def Layout.break_ (l : Layout) (level : Nat) : String :=
  match l.unit? with
  | none => ""
  | some unit => "\n" ++ String.join (List.replicate level unit)

/-- Parts between brackets. -/
def Layout.enclose (l : Layout) (opening closing : String) (level : Nat) (parts : List String) :
    String :=
  if parts.isEmpty then opening ++ closing
  else
    opening ++ l.break_ (level + 1) ++ Text.joinWith ("," ++ l.break_ (level + 1)) parts
      ++ l.break_ level ++ closing

/-- What stands between a key and its value. -/
def Layout.colon (l : Layout) : String := if l.unit?.isSome then ": " else ":"

mutual

/-- Writes a value; what has no JSON is a fault. -/
def write (l : Layout) (level : Nat) : Value → Except Fault String
  | .undefined | .none => .ok "null"
  | .bool b => .ok (if b then "true" else "false")
  | .int n => .ok (toString n)
  | .float x => .ok (float x)
  | .string _ s => .ok (quote s)
  | .list _ items => do
    return l.enclose "[" "]" level (← writeItems l (level + 1) items)
  | .map entries => do
    return l.enclose "\x7b" "\x7d" level (← writeEntries l (level + 1) entries)
  | .object _ entries => do
    return l.enclose "\x7b" "\x7d" level (← writeEntries l (level + 1) entries)
  | .builtin f => .ok (quote (Value.display (.builtin f)))
  | .invalid fault => .error ⟨.badSerialization, some fault.message, none⟩

/-- Writes items, each of them as a value. -/
def writeItems (l : Layout) (level : Nat) : List Value → Except Fault (List String)
  | [] => .ok []
  | v :: items => do
    let first ← write l level v
    return first :: (← writeItems l level items)

/-- Writes entries, with keys that must be texts, numbers or truth values. -/
def writeEntries (l : Layout) (level : Nat) : List (Value × Value) → Except Fault (List String)
  | [] => .ok []
  | (k, v) :: entries => do
    let first := (← key k) ++ l.colon ++ (← write l level v)
    return first :: (← writeEntries l level entries)

end

/-- A value as JSON. -/
def ofValue (l : Layout) (v : Value) : Except Fault String := write l 0 v

/-- A JSON text that can stand inside HTML. -/
def htmlSafe (s : String) : String :=
  .ofList (s.toList.flatMap fun c =>
    if c = '<' || c = '>' || c = '&' || c = '\x27' then '\\' :: 'u' :: digitsIn 16 4 c.toNat
    else [c])

end Scaffold.Template.JsonText
