import Scaffold.Text.CaseMap
import Scaffold.Text.Letter

/-!
# Upper and lower case of texts

Full case mapping: a character may become several, and a capital sigma at the end of a word becomes
the final sigma.
-/

namespace Scaffold.Text

/-- A capital of ASCII as a small letter. -/
def asciiLower (c : Char) : Char := if isAsciiUpper c then Char.ofNat (c.toNat + 32) else c

/-- A small letter of ASCII as a capital. -/
def asciiUpper (c : Char) : Char := if isAsciiLower c then Char.ofNat (c.toNat - 32) else c

/-- The other case of a character beyond ASCII, by the tables of one direction. -/
def mapCase (one : List Shift) (many : List (Nat × List Nat)) (c : Char) : List Char :=
  match many.lookup c.toNat with
  | some codes => codes.map Char.ofNat
  | none =>
    match one.find? (·.span.contains c.toNat) with
    | some shift => [Char.ofNat (shift.target + (c.toNat - shift.span.first))]
    | none => [c]

/-- The small letters of a character, wherever it stands. -/
def lowerChar (c : Char) : List Char :=
  if isAscii c then [asciiLower c] else mapCase CaseMap.lower CaseMap.lowerMany c

/-- The capitals of a character. -/
def upperChar (c : Char) : List Char :=
  if isAscii c then [asciiUpper c] else mapCase CaseMap.upper CaseMap.upperMany c

/-- Whether the nearest character that is not case-ignorable has a case. -/
def nextIsCased (s : List Char) : Bool :=
  ((s.dropWhile isCaseIgnorable).head?.map isCased).getD false

/-- Lower case of `s`, where `before` holds the characters in front of it, the nearest first. -/
def lowerFrom (before : List Char) : List Char → List Char
  | [] => []
  | c :: s =>
    let lowered :=
      if c = 'Σ' then if nextIsCased before && !nextIsCased s then ['ς'] else ['σ']
      else lowerChar c
    lowered ++ lowerFrom (c :: before) s

/-- A text in small letters; how a sigma is written depends on its neighbours. -/
def lowerChars (s : List Char) : List Char := lowerFrom [] s

/-- A text in capitals. -/
def upperChars (s : List Char) : List Char := s.flatMap upperChar

/-- A text in small letters. -/
def lower (s : String) : String := .ofList (lowerChars s.toList)

/-- A text in capitals. -/
def upper (s : String) : String := .ofList (upperChars s.toList)

/-- Equality of texts up to the case of ASCII letters. -/
def eqIgnoringAsciiCase (s t : String) : Bool :=
  s.toList.map asciiLower == t.toList.map asciiLower

end Scaffold.Text
