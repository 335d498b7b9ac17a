import Scaffold.Template.Format
import Scaffold.Template.JsonText
import Scaffold.Text.Case
import Scaffold.WordCase

/-!
# Filters on texts

Functions from values to values that work on texts, most of them on the text of any value. Some of them
make safe texts of safe ones; where other texts come in, these are escaped first.
-/

namespace Scaffold.Template

/-- A filter: what it makes of a value, its arguments, and the escaping in force. -/
abbrev Filter := Escaping → Value → Arguments → Except Fault Value

namespace TextFilter

open Parameters

/-- A filter on the text of a value, without arguments. -/
def onText (f : String → String) : Filter := fun _ v args => do
  run (pure ()) args
  return .text (f v.display)

/-- A text that is as safe as the value it was made of. -/
def likewise (v : Value) (s : String) : Value :=
  match v with
  | .string safe _ => .string safe s
  | _ => .text s

/-- A filter on the text of a value that keeps it safe. -/
def keepingSafe (f : String → String) : Filter := fun _ v args => do
  run (pure ()) args
  return likewise v (f v.display)

/-- Whether a value is a text that is marked as safe. -/
def isSafe : Value → Bool
  | .string safe _ => safe
  | _ => false

/-- The text of a value, escaped unless it is safe. -/
def safeText (v : Value) : String := if isSafe v then v.display else escapeHtml v.display

/-- A function on characters as one on texts. -/
def chars (f : List Char → List Char) (s : String) : String := .ofList (f s.toList)

/-- Capitals at the starts of words; blanks and punctuation end a word. -/
def titleFrom (starting : Bool) : List Char → List Char
  | [] => []
  | c :: s =>
    if Text.isAsciiPunctuation c || Chars.isBlank c then c :: titleFrom true s
    else (if starting then Text.upperChar c else Text.lowerChar c) ++ titleFrom false s

/-- A capital at the start, small letters behind it. -/
def capitalize : List Char → List Char
  | [] => []
  | c :: s => Text.upperChar c ++ Text.lowerChars s

/-- Replaces a text, also the empty one, which is found between all characters. -/
def replaceAll (piece new s : List Char) : List Char :=
  if piece.isEmpty then new ++ s.flatMap fun c => c :: new else Chars.replace piece new s

/-- Under escaping, one safe text makes all of them safe. -/
def replace : Filter := fun mode v args =>
  run (do
    let piece ← value
    let new ← value
    let replaced (shown : Value → String) : String :=
      chars (replaceAll (shown piece).toList (shown new).toList) (shown v)
    if mode = .html && [v, piece, new].any isSafe then return .string true (replaced safeText)
    else return .text (replaced Value.display)) args

/-- The text without blanks, or without some characters, at both ends. -/
def trim : Filter := fun _ v args =>
  run (do
    match ← optionalText with
    | none => return likewise v (Text.trim v.display)
    | some set =>
      let drop (c : Char) : Bool := set.toList.contains c
      return likewise v
        (chars (fun s => Chars.dropEndWhile drop (s.dropWhile drop)) v.display)) args

/-! ### Splitting -/

/-- Splits at a non-empty text, at most `limit?` times. `skip` characters belong to an occurrence. -/
def splitAt (sep : List Char) : Nat → Option Nat → List Char → List (List Char)
  | _, _, [] => [[]]
  | skip + 1, limit?, _ :: s => splitAt sep skip limit? s
  | 0, limit?, c :: s =>
    if sep.isPrefixOf (c :: s) && limit? != some 0 then
      -- The rest of a separator that starts here is skipped, one character at a time.
      [] :: splitAt sep (sep.length - 1) (limit?.map (· - 1)) s
    else match splitAt sep 0 limit? s with
      | [] => [[c]]
      | piece :: pieces => (c :: piece) :: pieces

/-- Splits between all characters, at most `limit?` times. -/
def splitChars (limit? : Option Nat) (s : List Char) : List (List Char) :=
  let pieces := [] :: s.map ([·]) ++ [[]]
  match limit? with
  | none => pieces
  | some n => if pieces.length ≤ n + 1 then pieces else pieces.take n ++ [(pieces.drop n).flatten]

/-- The runs of characters that are no blanks, at most `limit` of them, and the rest. -/
def words : Nat → List Char → List (List Char)
  | limit, s =>
    let s := Chars.trimStart s
    match limit with
    | 0 => if s.isEmpty then [] else [s]
    | limit + 1 =>
      if s.isEmpty then []
      else s.takeWhile (!Chars.isBlank ·) :: words limit (s.dropWhile (!Chars.isBlank ·))

/-- Splits at a text, between characters, or at blanks. -/
def splitText (sep? : Option String) (limit? : Option Nat) (s : List Char) : List (List Char) :=
  match sep? with
  | none => words (limit?.getD s.length) s
  | some sep => if sep.isEmpty then splitChars limit? s else splitAt sep.toList 0 limit? s

/-- A list of texts. -/
def texts (pieces : List (List Char)) : Value :=
  .sequence (pieces.map fun p => .text (.ofList p))

/-- The pieces of a text, at most one more than a given number. -/
def split : Filter := fun _ v args =>
  run (do
    let sep? ← optionalText
    let limit? ← optional (asInt (.signed 64))
    let limit? := (limit?.filter (0 ≤ ·)).map Int.toNat
    return texts (splitText sep? limit? v.display.toList)) args

/-- The lines of a text. -/
def lines : Filter := fun _ v args => do
  run (pure ()) args
  return texts (Chars.lines v.display.toList)

/-! ### Indentation -/

/-- A text without the line break at its end. -/
def dropBreak (s : List Char) : List Char :=
  let s := if s.getLast? = some '\n' then s.dropLast else s
  if s.getLast? = some '\r' then s.dropLast else s

/-- Puts blanks in front of lines; whether also of the first one and of blank ones can be chosen. -/
def indentLines (width : Nat) (first blank : Bool) (s : List Char) : List Char :=
  let pad := List.replicate width ' '
  let padded (line : List Char) : List Char :=
    (if line.isEmpty && !blank then [] else pad) ++ line ++ ['\n']
  match Chars.splitOn '\n' (dropBreak s) with
  | [] => []
  | line :: lines =>
    dropBreak ((if first then padded line else line ++ ['\n']) ++ lines.flatMap padded)

/-- The text with indented lines. -/
def indent : Filter := fun _ v args =>
  run (do
    let named ← namedArguments
    let width? ← optional asNat
    let first? ← optionalBool
    let blank? ← optionalBool
    -- The positional arguments go before the named ones; the width is four if neither is given.
    let width := (width?.or (← named? named "width" asNat)).getD 4
    let first := (first?.or (← named? named "first" asBool)).getD false
    let blank := (blank?.or (← named? named "blank" asBool)).getD false
    onlyNamed named ["width", "first", "blank"]
    return likewise v (chars (indentLines width first blank) v.display)) args

/-! ### Escaping -/

/-- The text as it is written in HTML, which is safe. -/
def escape : Filter := fun mode v args => do
  run (pure ()) args
  match v, mode with
  | .string true s, _ => return .string true s
  | v, .json => return .string true (← JsonText.ofValue ⟨none⟩ v)
  | v, _ => return .string true (escapeHtml v.display)

/-- The text, marked as safe. -/
def safe : Filter := fun _ v args => do
  run (pure ()) args
  return .string true v.display

/-- The layout that an argument asks for: a number of blanks, or two of them. -/
def layout (v? : Option Value) : Except Fault JsonText.Layout :=
  let spaces (n : Nat) : JsonText.Layout := ⟨some (.ofList (List.replicate n ' '))⟩
  match v? with
  | none | some .none | some .undefined => .ok ⟨none⟩
  | some (.bool b) => .ok (if b then spaces 2 else ⟨none⟩)
  | some v => (asNat v).map spaces

/-- The value as JSON, which is safe. -/
def json : Filter := fun _ v args =>
  run (do
    let named ← namedArguments
    let first ← optional pure
    onlyNamed named ["indent"]
    let l ← layout (first.or (named.lookup "indent"))
    return .string true (JsonText.htmlSafe (← JsonText.ofValue l v))) args

/-- The bytes that stay as they are in an encoded URL. -/
def isUrlSafe (c : Char) : Bool :=
  Text.isAsciiLetter c || Text.isAsciiDigit c || c = '/' || c = '.' || c = '-' || c = '_'

/-- A text with all other bytes as two digits behind a percent sign. -/
def percentEncode (s : String) : String :=
  String.join (s.toList.map fun c =>
    if isUrlSafe c then String.singleton c
    else String.join ((String.singleton c).toUTF8.toList.map fun b =>
      .ofList ('%' :: (digitsIn 16 2 b.toNat).map Text.asciiUpper)))

/-- The text or the entries of a map as a part of an address. -/
def urlEncode : Filter := fun _ v args => do
  run (pure ()) args
  match v with
  | .undefined | .none => return .text ""
  | .map entries | .object _ entries =>
    -- Entries without a value are left out of a query.
    let given := entries.filter fun (_, w) => !(w.kind = .none || w.kind = .undefined)
    return .text (Text.joinWith "&" (given.map fun (k, w) =>
      percentEncode k.display ++ "=" ++ percentEncode w.display))
  | v => return .text (percentEncode v.display)

/-- The text with arguments in the places that it has for them. -/
def format : Filter := fun _ v args => do
  return likewise v (← Format.fill (isSafe v) (← asText v) args)

/-! ### All filters on texts -/

/-- The filters of this module by their names. -/
def all : List (String × Filter) := [
  ("snake_case", onText WordCase.snake),
  ("kebab_case", onText WordCase.kebab),
  ("camel_case", onText WordCase.camel),
  ("pascal_case", onText WordCase.pascal),
  ("title_case", onText WordCase.title),
  ("screaming_snake_case", onText WordCase.screamingSnake),
  ("safe", safe),
  ("escape", escape),
  ("e", escape),
  ("lower", keepingSafe Text.lower),
  ("upper", keepingSafe Text.upper),
  ("title", onText (chars (titleFrom true))),
  ("capitalize", keepingSafe (chars capitalize)),
  ("replace", replace),
  ("trim", trim),
  ("split", split),
  ("lines", lines),
  ("indent", indent),
  ("tojson", json),
  ("urlencode", urlEncode),
  ("format", format)]

end TextFilter

end Scaffold.Template
