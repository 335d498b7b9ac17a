import Scaffold.Json
import Scaffold.Template.Fault
import Scaffold.Text.Lines
import Scaffold.Yaml.Scalar

/-!
# Literals of templates

Numbers and quoted texts in expressions.

* `Literal.readNumber` takes the longest run of characters that may be one number; the run has a value
  only if all of it is a number.
* `Literal.unescape` gives the text that a quoted text stands for.
-/

namespace Scaffold.Template.Literal

/-! ### Numbers -/

inductive Number where
  | int (n : Nat)
  | float (x : Float)

/-- How far a number has been read. -/
inductive Stage where
  | based | whole | places | exponentMark | exponent
  deriving DecidableEq

/-- The stage after one more character, unless the number ends in front of it. -/
def Stage.next? (base : Nat) (stage : Stage) (c : Char) : Option Stage :=
  if c = '.' && stage = .whole then some .places
  else if (c = 'e' || c = 'E') && (stage = .whole || stage = .places) then some .exponentMark
  else if (c = '+' || c = '-') && stage = .exponentMark then some .exponent
  else if Text.isAsciiDigit c then some (if stage = .exponentMark then .exponent else stage)
  else if base = 16 && stage = .based && (Json.hexDigit? c).isSome then some stage
  else if c = '_' then some stage
  else none

/-- Whether a point in front of `s` leads to a name. -/
def startsName (s : List Char) : Bool :=
  (s.head?.map fun c => Text.isAsciiLetter c || c = '_').getD false

/-- The characters of a number, the last stage, and what follows. -/
def takeNumber (base : Nat) (stage : Stage) : List Char → List Char × Stage × List Char
  | [] => ([], stage, [])
  | c :: s =>
    match (if c = '.' && startsName s then none else stage.next? base c) with
    | none => ([], stage, c :: s)
    | some stage =>
      let (digits, last, rest) := takeNumber base stage s
      (c :: digits, last, rest)

/-- The base that a prefix of two characters announces. -/
def base? : List Char → Option (Nat × List Char)
  | '0' :: m :: s =>
    if m = 'b' || m = 'B' then some (2, s)
    else if m = 'o' || m = 'O' then some (8, s)
    else if m = 'x' || m = 'X' then some (16, s)
    else none
  | _ => none

/-- A number at the start of `s`, nothing in the first place if the characters make none, and what
    follows it. -/
def readNumber (s : List Char) : Option Number × List Char :=
  let (base, first, s) := match base? s with
    | some (base, s) => (base, Stage.based, s)
    | none => (10, Stage.whole, s)
  let (digits, stage, rest) := takeNumber base first s
  let digits := digits.filter (· != '_')
  let number :=
    if stage = .based || stage = .whole then
      ((Yaml.Scalar.natural? base digits).filter fun (n : Nat) => (Width.unsigned 128).holds n).map .int
    else (Yaml.Scalar.decimal? digits).map fun (digits, places, exponent) =>
      .float (Decimal.toFloat false (Decimal.natOfDigits digits) (exponent - places))
  (number, rest)

/-! ### Texts -/

/-- The characters up to the closing quote, escapes left as they are, and what follows the quote. -/
def takeQuoted (quote : Char) : List Char → Option (List Char × List Char)
  | [] => none
  | '\\' :: c :: s => (takeQuoted quote s).map fun (body, rest) => ('\\' :: c :: body, rest)
  | c :: s =>
    if c = quote then some ([], s)
    else (takeQuoted quote s).map fun (body, rest) => (c :: body, rest)

def isSurrogate (n : Nat) : Bool := 0xD800 ≤ n && n < 0xE000

/-- The character of a pair of surrogates. -/
def ofSurrogates? (high low : Nat) : Option Char :=
  if high < 0xDC00 && 0xDC00 ≤ low then
    some (Char.ofNat (0x10000 + (high - 0xD800) * 0x400 + (low - 0xDC00)))
  else none

/-- The text of a quoted text, or nothing if an escape in it is bad. A backslash that makes no escape
    stays. `high` is the first half of a
    pair of surrogates, which only its second half may follow. -/
def unescapeFrom (high : Option Nat) : List Char → Option (List Char)
  | [] => if high.isNone then some [] else none
  | '\\' :: 'u' :: a :: b :: c :: d :: s => do
    let n ← Yaml.Scalar.natural? 16 [a, b, c, d]
    match high with
    | none =>
      if isSurrogate n then unescapeFrom (some n) s
      else return Char.ofNat n :: (← unescapeFrom none s)
    | some high => return (← ofSurrogates? high n) :: (← unescapeFrom none s)
  | '\\' :: 'x' :: a :: b :: s => do
    let n ← Yaml.Scalar.natural? 16 [a, b]
    if high.isSome then none else return Char.ofNat n :: (← unescapeFrom none s)
  | '\\' :: c :: s =>
    if high.isSome then none
    else match (Json.escape? c).or (if c = '\x27' then some c else none) with
      | some d => (unescapeFrom none s).map (d :: ·)
      | none =>
        match Yaml.Scalar.digit? 8 c with
        | some n => octal n 2 s
        | none =>
          if c = 'u' || c = 'x' then none else (unescapeFrom none s).map ('\\' :: c :: ·)
  | '\\' :: [] => none
  | c :: s => if high.isSome then none else (unescapeFrom none s).map (c :: ·)
where
  /-- An octal escape after its first digit, with at most `more` digits to come. -/
  octal (n : Nat) : Nat → List Char → Option (List Char)
    | more + 1, c :: s =>
      match Yaml.Scalar.digit? 8 c with
      | some d => octal (8 * n + d) more s
      | none => if n < 256 then (unescapeFrom none (c :: s)).map (Char.ofNat n :: ·) else none
    | _, s => if n < 256 then (unescapeFrom none s).map (Char.ofNat n :: ·) else none

def unescape (s : List Char) : Option String := (unescapeFrom none s).map String.ofList

end Scaffold.Template.Literal
