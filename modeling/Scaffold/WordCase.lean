import Scaffold.Text.Case
import Scaffold.Text.Blank

/-!
# Words in names

Names such as `read_only`, `read-only` and `ReadOnly` are made of words. Two ways of finding the words
are at work:

* `separated` puts a mark between words and keeps runs of capitals together.
* `joined` starts each word with a capital and knows words from one another by separators, digits and
  a capital behind a small letter.

Only ASCII letters change their case.
-/

namespace Scaffold.WordCase

open Text (asciiLower asciiUpper isAlphanumeric isNumeric isLowercase isUppercase)

/-- A name without what stands behind its last letter or digit. -/
def trimmed (s : List Char) : List Char := Chars.dropEndWhile (!isAlphanumeric ·) s

/-! ### Words with a mark between them -/

/-- Whether a small letter stands at a position. -/
def isLowercaseAt (s : Array Char) (i : Nat) : Bool := ((s[i]?).map isLowercase).getD false

/-- Whether a word starts with `c`: it is no small letter, but one of its neighbours is. They are
    looked up around `place`, the number of bytes in front of `c`. -/
def startsWord (s : Array Char) (place : Nat) (c : Char) : Bool :=
  c == asciiUpper c && (isLowercaseAt s (place + 1) || isLowercaseAt s (place - 1))

/-- The state while words are separated: the output, last character first, whether a word has just
    ended, and the position in bytes. -/
structure Separation where
  written : List Char
  between : Bool
  place : Nat

/-- One character further, with a mark in front of it where a word starts. -/
def separateStep (mark : Char) (convert : Char → Char) (s : Array Char) (state : Separation)
    (c : Char) : Separation :=
  let after := state.place + c.utf8Size
  if !isAlphanumeric c then
    ⟨if state.between then state.written else mark :: state.written, true, after⟩
  else if !state.between && startsWord s state.place c then
    ⟨convert c :: mark :: state.written, false, after⟩
  else ⟨convert c :: state.written, false, after⟩

/-- The words of `s` with a mark between them. -/
def separated (mark : Char) (convert : Char → Char) (s : List Char) : List Char :=
  ((trimmed s).foldl (separateStep mark convert s.toArray) ⟨[], true, 0⟩).written.reverse

/-! ### Words that start with a capital -/

/-- How words are joined: whether the first one starts with a capital too, whether a digit ends a
    word, and whether there are spaces between words. -/
structure Joining where
  capitalFirst : Bool
  digitEndsWord : Bool
  spaced : Bool

/-- The state while words are joined: the output, last character first, whether a word starts next, and
    the last character that neither started nor ended a word. -/
structure Joint where
  written : List Char
  starting : Bool
  last : Option Char

/-- One character further, which is a capital where a word starts. -/
def joinStep (j : Joining) (state : Joint) (c : Char) : Joint :=
  if !isAlphanumeric c then
    if state.written.isEmpty then state else { state with starting := true }
  else if j.digitEndsWord && isNumeric c then ⟨c :: state.written, true, state.last⟩
  else if state.starting || ((state.last.map isLowercase).getD false && isUppercase c) then
    let before := if j.spaced && !state.written.isEmpty then ' ' :: state.written else state.written
    ⟨asciiUpper c :: before, false, state.last⟩
  else ⟨asciiLower c :: state.written, false, some c⟩

/-- The words of `s`, joined. -/
def joined (j : Joining) (s : List Char) : List Char :=
  ((trimmed s).foldl (joinStep j) ⟨[], j.capitalFirst, none⟩).written.reverse

/-! ### Forms of names -/

/-- A function on names that is one on their characters. -/
def onChars (f : List Char → List Char) (s : String) : String := .ofList (f s.toList)

/-- Small words with underscores between them. -/
def snake : String → String := onChars (separated '_' asciiLower)

/-- Small words with dashes between them. -/
def kebab : String → String := onChars (separated '-' asciiLower)

/-- Capitals with underscores between the words. -/
def screamingSnake : String → String := onChars (separated '_' asciiUpper)

/-- Words with capitals at their starts, the first one aside. -/
def camel : String → String := onChars (joined ⟨false, true, false⟩)

/-- Words with capitals at their starts. -/
def pascal : String → String := onChars (joined ⟨true, true, false⟩)

/-- Words with capitals at their starts and blanks between them. -/
def title : String → String := onChars (joined ⟨true, false, true⟩)

end Scaffold.WordCase
