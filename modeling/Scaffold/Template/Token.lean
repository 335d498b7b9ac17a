/-!
# Tokens of templates

The words of the template language: plain text, the marks around expressions and tags, and what stands
between the marks.
-/

namespace Scaffold.Template

/-- Operators and punctuation. -/
inductive Symbol where
  | plus | minus | times | divide | wholeDivide | percent | power | tilde
  | equal | unequal | less | lessEqual | greater | greaterEqual
  | assign | dot | comma | colon | pipe
  | openParen | closeParen | openBracket | closeBracket | openBrace | closeBrace
  deriving DecidableEq, Repr

inductive Token where
  /-- Text outside expressions and tags. -/
  | text (s : String)
  | openValue
  | closeValue
  | openTag
  | closeTag
  | word (s : String)
  | string (s : String)
  | int (n : Nat)
  | float (x : Float)
  | symbol (s : Symbol)
  deriving Inhabited

namespace Token

def isWord (w : String) : Token → Bool
  | .word s => s == w
  | _ => false

def isOneOf (words : List String) : Token → Bool
  | .word s => words.contains s
  | _ => false

def isSymbol (x : Symbol) : Token → Bool
  | .symbol s => s == x
  | _ => false

def isCloseTag : Token → Bool
  | .closeTag => true
  | _ => false

def isCloseValue : Token → Bool
  | .closeValue => true
  | _ => false

end Token

/-- The symbols written with two characters. -/
def Symbol.ofTwo? : Char → Char → Option Symbol
  | '/', '/' => some .wholeDivide
  | '*', '*' => some .power
  | '=', '=' => some .equal
  | '!', '=' => some .unequal
  | '>', '=' => some .greaterEqual
  | '<', '=' => some .lessEqual
  | _, _ => none

/-- The symbols written with one character. -/
def Symbol.ofOne? : Char → Option Symbol
  | '+' => some .plus
  | '-' => some .minus
  | '*' => some .times
  | '/' => some .divide
  | '%' => some .percent
  | '~' => some .tilde
  | '<' => some .less
  | '>' => some .greater
  | '=' => some .assign
  | '.' => some .dot
  | ',' => some .comma
  | ':' => some .colon
  | '|' => some .pipe
  | '(' => some .openParen
  | ')' => some .closeParen
  | '[' => some .openBracket
  | ']' => some .closeBracket
  | '\x7b' => some .openBrace
  | '\x7d' => some .closeBrace
  | _ => none

/-- How a symbol changes the number of brackets that are open. -/
def Symbol.nesting : Symbol → Int
  | .openParen | .openBracket | .openBrace => 1
  | .closeParen | .closeBracket | .closeBrace => -1
  | _ => 0

end Scaffold.Template
