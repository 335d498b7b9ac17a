/-!
# Blanks

The characters that count as blank space, and texts without the blanks at their ends.

* `isBlank` is the Unicode property White_Space.
* `trim`, `trimStart` and `trimEnd` remove blanks at the ends of a text and nothing else.
-/

namespace Scaffold.Chars

/-- The Unicode property White_Space. -/
def isBlank (c : Char) : Bool :=
  c == ' ' || ('\t' ≤ c && c ≤ '\r') || c == '\u0085' || c == '\u00a0' || c == '\u1680'
    || ('\u2000' ≤ c && c ≤ '\u200a') || c == '\u2028' || c == '\u2029' || c == '\u202f'
    || c == '\u205f' || c == '\u3000'

/-- Drops the longest end of `s` all of whose characters satisfy `p`. -/
def dropEndWhile (p : Char → Bool) (s : List Char) : List Char :=
  (s.reverse.dropWhile p).reverse

def trimStart (s : List Char) : List Char := s.dropWhile isBlank

def trimEnd (s : List Char) : List Char := dropEndWhile isBlank s

def trim (s : List Char) : List Char := trimEnd (trimStart s)

/-- Drops the characters equal to `c` at both ends of `s`. -/
def trimOf (c : Char) (s : List Char) : List Char :=
  dropEndWhile (· == c) (s.dropWhile (· == c))

/-- A text of blanks only; the empty text is one. -/
def allBlank (s : List Char) : Bool := s.all isBlank

/-- The number of bytes of the text in UTF-8. -/
def byteLength (s : List Char) : Nat := s.foldr (fun c n => c.utf8Size + n) 0

/-- What is left of `s` after its first `n` bytes, unless that would cut a character in two. -/
def dropBytes? : Nat → List Char → Option (List Char)
  | 0, s => some s
  | _, [] => none
  | n, c :: s => if c.utf8Size ≤ n then dropBytes? (n - c.utf8Size) s else none
  termination_by _ s => s.length

end Scaffold.Chars

namespace Scaffold.Text

def trim (s : String) : String := .ofList (Chars.trim s.toList)

def trimEnd (s : String) : String := .ofList (Chars.trimEnd s.toList)

/-- Drops the line breaks at the end of `s`. -/
def trimEndBreaks (s : String) : String := .ofList (Chars.dropEndWhile (· == '\n') s.toList)

def allBlank (s : String) : Bool := Chars.allBlank s.toList

end Scaffold.Text
