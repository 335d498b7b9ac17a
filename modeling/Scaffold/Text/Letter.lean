import Scaffold.Text.Formless

/-!
# Letters, digits and word characters

Character classes of the Unicode character database. ASCII is decided directly; the spans of
`Property` decide the rest.
-/

namespace Scaffold.Text

/-- Characters of ASCII. -/
def isAscii (c : Char) : Bool := c.toNat < 128

/-- Capitals of ASCII. -/
def isAsciiUpper (c : Char) : Bool := 'A' ≤ c && c ≤ 'Z'

/-- Small letters of ASCII. -/
def isAsciiLower (c : Char) : Bool := 'a' ≤ c && c ≤ 'z'

/-- Letters of ASCII. -/
def isAsciiLetter (c : Char) : Bool := isAsciiUpper c || isAsciiLower c

/-- Digits of ASCII. -/
def isAsciiDigit (c : Char) : Bool := '0' ≤ c && c ≤ '9'

/-- The printable ASCII characters that are neither letters nor digits nor blanks. -/
def isAsciiPunctuation (c : Char) : Bool :=
  '!' ≤ c && c ≤ '~' && !isAsciiLetter c && !isAsciiDigit c

/-- Membership of a character beyond ASCII in one of the tables. -/
def listed (table : List Span) (c : Char) : Bool :=
  !isAscii c && table.any (·.contains c.toNat)

/-- Decimal digits, letter numbers and other numbers. -/
def isNumeric (c : Char) : Bool :=
  isAsciiDigit c || listed Property.numeric c || listed Property.numericLetter c

/-- Letters and numbers of any writing. -/
def isAlphanumeric (c : Char) : Bool :=
  isAsciiLetter c || isAsciiDigit c || listed Property.alphabetic c || listed Property.numeric c

/-- Letters, marks, digits, connectors and joiners. -/
def isWord (c : Char) : Bool :=
  isAsciiLetter c || isAsciiDigit c || c == '_' || listed Property.alphabetic c
    || listed Property.wordMark c

/-- Small letters of any writing. -/
def isLowercase (c : Char) : Bool := isAsciiLower c || listed Property.lowercase c

/-- Capitals of any writing. -/
def isUppercase (c : Char) : Bool := isAsciiUpper c || listed Property.uppercase c

/-- Characters that have a case. -/
def isCased (c : Char) : Bool := isLowercase c || isUppercase c || listed Property.titlecase c

/-- Characters that cannot be seen by themselves. -/
def isFormless (c : Char) : Bool := c.toNat < 32 || c.toNat = 127 || listed Property.formless c

/-- Characters that are passed over when the neighbours of a letter are looked at. -/
def isCaseIgnorable (c : Char) : Bool :=
  c == '\x27' || c == '.' || c == ':' || c == '^' || c == '\x60'
    || listed Property.caseIgnorable c

end Scaffold.Text
