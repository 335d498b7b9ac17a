import Scaffold.Decimal.Notation
import Scaffold.Template.Value
import Scaffold.Text.Letter
import Scaffold.Text.Lines

/-!
# Texts of values

How values are written into the output, and how they are written inside lists and maps.

* `Value.display` writes a text as it is and nothing for an undefined value.
* `Value.quoted` is the form inside lists and maps: texts are in quotes, and very large and very small
  numbers have an exponent.
* `Value.pretty` spreads lists and maps over several lines.
-/

namespace Scaffold.Template

/-- In the output, floating-point numbers are written without an exponent. -/
def displayStyle : Decimal.Style where
  positional _ := true
  infinity := "inf"
  nan := "NaN"

/-- Inside lists and maps, numbers from 0.0001 up to `10 ^ 16` are written without an exponent. -/
def quotedStyle : Decimal.Style where
  positional point := -4 < point && point ≤ 16
  infinity := "inf"
  nan := "NaN"

/-- The digits of a number in a base up to sixteen, at least `width` of them. -/
def digitsIn (base width n : Nat) : List Char :=
  let digits := Nat.toDigits base n
  List.replicate (width - digits.length) '0' ++ digits

/-- A character inside quotes. -/
def quoteChar : Char → List Char
  | '"' => ['\\', '"']
  | '\\' => ['\\', '\\']
  | '\n' => ['\\', 'n']
  | '\r' => ['\\', 'r']
  | '\t' => ['\\', 't']
  | '\x00' => ['\\', '0']
  | c =>
    if Text.isFormless c then ['\\', 'u', '\x7b'] ++ digitsIn 16 1 c.toNat ++ ['\x7d'] else [c]

/-- A text in double quotes. -/
def quoteText (s : String) : String := .ofList ('"' :: s.toList.flatMap quoteChar ++ ['"'])

namespace Value

/-- The text of a value without parts. -/
def atomText : Value → String
  | .undefined => "undefined"
  | .none => "None"
  | .bool true => "True"
  | .bool false => "False"
  | .int n => toString n
  | .float x => quotedStyle.text x
  | .string _ s => quoteText s
  | .builtin f => "minijinja::functions::builtins::" ++ f.name
  | .invalid fault => "<invalid value: " ++ fault.message ++ ">"
  | .list _ _ | .map _ | .object _ _ => ""

/-- The text of a map that is not written as its entries. -/
def roleText? : Role → Option String
  | .record _ => Option.none
  | .definition s _ => some ("<macro " ++ s.name ++ ">")
  | .loop _ progress => some ("<loop " ++ progress ++ ">")
  | .library output => some output

mutual

/-- A value inside of another one: texts are in quotes. -/
def quoted : Value → String
  | .list .stream _ => "<iterator>"
  | .list _ items => "[" ++ Text.joinWith ", " (quotedItems items) ++ "]"
  | .map entries => "\x7b" ++ Text.joinWith ", " (quotedEntries entries) ++ "\x7d"
  | .object role entries =>
    match roleText? role with
    | some text => text
    | Option.none => "\x7b" ++ Text.joinWith ", " (quotedEntries entries) ++ "\x7d"
  | v => v.atomText

/-- The same for some items. -/
def quotedItems : List Value → List String
  | [] => []
  | v :: items => quoted v :: quotedItems items

/-- The same for some entries. -/
def quotedEntries : List (Value × Value) → List String
  | [] => []
  | (k, v) :: entries => (quoted k ++ ": " ++ quoted v) :: quotedEntries entries

end

/-- The text that a value puts into the output. -/
def display : Value → String
  | .string _ s => s
  | .undefined => ""
  | .float x => displayStyle.text x
  | v => v.quoted

/-- A text with four more blanks in front of each of its lines. -/
def shifted (s : String) : String :=
  .ofList (Chars.joinWith ['\n'] ((Chars.splitOn '\n' s.toList).map ("    ".toList ++ ·)))

/-- Parts of a value on lines of their own, between brackets. -/
def block (opening closing : String) (parts : List String) : String :=
  opening ++ (if parts.isEmpty then "" else "\n")
    ++ String.join (parts.map fun p => shifted p ++ ",\n") ++ closing

mutual

/-- A value on several lines, as the debug function shows it. -/
def pretty : Value → String
  | .list .stream _ => "<iterator>"
  | .list _ items => block "[" "]" (prettyItems items)
  | .map entries => block "\x7b" "\x7d" (prettyEntries entries)
  | .object role entries =>
    match roleText? role with
    | some text => text
    | Option.none => block "\x7b" "\x7d" (prettyEntries entries)
  | v => v.atomText

/-- The same for some items. -/
def prettyItems : List Value → List String
  | [] => []
  | v :: items => pretty v :: prettyItems items

/-- The same for some entries. -/
def prettyEntries : List (Value × Value) → List String
  | [] => []
  | (k, v) :: entries => (pretty k ++ ": " ++ pretty v) :: prettyEntries entries

end

end Value

/-! ### Escaping -/

/-- How values are escaped on their way into the output. -/
inductive Escaping where
  | off | html | json
  deriving DecidableEq, Repr

/-- The entity of a character with a meaning in HTML. -/
def htmlChar : Char → List Char
  | '<' => "&lt;".toList
  | '>' => "&gt;".toList
  | '&' => "&amp;".toList
  | '"' => "&quot;".toList
  | '\x27' => "&#x27;".toList
  | '/' => "&#x2f;".toList
  | c => [c]

/-- A text with the characters replaced that mean something in HTML. -/
def escapeHtml (s : String) : String := .ofList (s.toList.flatMap htmlChar)

end Scaffold.Template
