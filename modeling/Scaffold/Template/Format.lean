import Scaffold.Decimal.Places
import Scaffold.Template.Parameter
import Scaffold.Text.Case

/-!
# Formats

Texts with places for values: a percent sign, perhaps a name in parentheses, flags, a least width, a
precision, and the letter of a conversion.

* `Format.fill` fills the places of a format, by position or from a map. Values that are left over do
  not matter.
* In a safe format, the texts of values are escaped.
-/

namespace Scaffold.Template.Format

/-- A place in a format. -/
structure Directive where
  /-- The name of the value; without one, the next value is taken. -/
  name? : Option String
  flags : List Char
  width : Nat
  precision? : Option Nat
  letter : Char

/-! ### Reading -/

/-- A name in parentheses, if there is one. -/
def nameOf? (s : List Char) : Option String × List Char :=
  match s with
  | '(' :: r =>
    if r.contains ')' then
      (some (.ofList (r.takeWhile (· != ')'))), (r.dropWhile (· != ')')).drop 1)
    else (none, s)
  | s => (none, s)

/-- A precision behind a point, if there is one. -/
def precisionOf? (s : List Char) : Option Nat × List Char :=
  match s with
  | '.' :: r =>
    (some (Decimal.natOfDigits (r.takeWhile Text.isAsciiDigit)), r.dropWhile Text.isAsciiDigit)
  | s => (none, s)

/-- A directive behind a percent sign, and what follows it. The sizes of numbers are passed over. -/
def directive? (s : List Char) : Option (Directive × List Char) :=
  let (name?, s) := nameOf? s
  let isFlag (c : Char) : Bool := "-+ 0#".toList.contains c
  let flags := s.takeWhile isFlag
  let s := s.dropWhile isFlag
  -- No digits are a width of zero, which asks for no padding.
  let width := Decimal.natOfDigits (s.takeWhile Text.isAsciiDigit)
  let (precision?, s) := precisionOf? (s.dropWhile Text.isAsciiDigit)
  match s.dropWhile ("hlL".toList.contains ·) with
  | c :: s => some (⟨name?, flags, width, precision?, c⟩, s)
  | [] => none

/-! ### Conversions -/

namespace Directive

def has (d : Directive) (flag : Char) : Bool := d.flags.contains flag

/-- A text filled up to the width of a directive. -/
def pad (d : Directive) (body : List Char) : List Char :=
  let blanks := List.replicate (d.width - body.length) ' '
  if d.has '-' then body ++ blanks else blanks ++ body

/-- A number filled up to the width of a directive; zeros go behind its sign. -/
def padNumber (d : Directive) (sign body : List Char) : List Char :=
  if d.has '0' && !d.has '-' then
    sign ++ List.replicate (d.width - (sign.length + body.length)) '0' ++ body
  else d.pad (sign ++ body)

def sign (d : Directive) (negative : Bool) : List Char :=
  if negative then ['-'] else if d.has '+' then ['+'] else if d.has ' ' then [' '] else []

/-- An integer in a base, with `mark` in front of it if the directive asks for one. -/
def integer (d : Directive) (base : Nat) (mark : String) (n : Int) : List Char :=
  d.padNumber (d.sign (n < 0) ++ if d.has '#' then mark.toList else [])
    (digitsIn base (d.precision?.getD 0) n.natAbs)

/-- Digits with a point behind the first one, and an exponent of at least two digits. -/
def exponentText (digits : List Char) (exponent : Int) : List Char :=
  digits.take 1 ++ (if digits.length ≤ 1 then [] else '.' :: digits.drop 1) ++ ['e']
    ++ [if exponent < 0 then '-' else '+'] ++ digitsIn 10 2 exponent.natAbs

/-- A decimal without zeros at its end. -/
def trimmed (s : List Char) : List Char :=
  if s.contains '.' then
    let s := Chars.dropEndWhile (· == '0') s
    if s.getLast? = some '.' then s.dropLast else s
  else s

/-- A non-negative number in the notation of a lower-case letter. -/
def magnitude (d : Directive) (letter : Char) (b? : Option Decimal.Binary) : List Char :=
  let precision := d.precision?.getD 6
  let digits (places : Nat) : List Char × Int := match b? with
    | some b => Decimal.leadingDigits places b
    -- Zero has no digits of its own, so it is shown by zeros.
    | none => (List.replicate (places + 1) '0', 0)
  let value : Decimal.Ratio := (b?.map (·.value)).getD ⟨0, 1⟩
  let keepsZeros := d.has '#'
  match letter with
  | 'f' => value.fixed precision
  | 'e' => exponentText (digits precision).1 (digits precision).2
  | _ =>
    let count := max 1 precision
    let (shown, exponent) := digits (count - 1)
    -- The shorter form: an exponent is written for very small and very large numbers only.
    if -4 ≤ exponent && exponent < count then
      let s := value.fixed (count - 1 - exponent).toNat
      if keepsZeros then s else trimmed s
    else
      let rest := shown.drop 1
      let rest := if keepsZeros then rest else Chars.dropEndWhile (· == '0') rest
      exponentText (shown.take 1 ++ rest) exponent

/-- A floating-point number. -/
def float (d : Directive) (x : Float) : List Char :=
  -- The case of the letter is the case of `nan`, `inf` and the exponent.
  let upper := Text.isAsciiUpper d.letter
  let cased (s : List Char) : List Char := if upper then s.map Text.asciiUpper else s
  let letter := Text.asciiLower d.letter
  match Decimal.read x with
  | .nan => d.pad (cased "nan".toList)
  | .infinity negative => d.pad (d.sign negative ++ cased "inf".toList)
  | .zero negative => d.padNumber (d.sign negative) (cased (d.magnitude letter none))
  | .finite negative b => d.padNumber (d.sign negative) (cased (d.magnitude letter (some b)))

/-- The integer that a value is cut off to. -/
def integer? (v : Value) : Option Int := v.int?.or (v.float?.map (·.toInt64.toInt))

/-- The character that a value stands for. -/
def character (v : Value) : List Char :=
  match v with
  | .int n => [Char.ofNat n.toNat]
  | v => v.display.toList.take 1

/-- What a directive makes of a value. The texts of values go through `clean`. -/
def apply (d : Directive) (clean : Value → String → String) (v : Value) :
    Except Fault (List Char) :=
  let cut (s : List Char) : List Char := (d.precision?.map fun n => s.take n).getD s
  let ofInteger (f : Int → List Char) : Except Fault (List Char) :=
    match integer? v with
    | some n => .ok (f n)
    | none => .error (.invalid "number required")
  match d.letter with
  -- `s` shows the value as it is printed, `r` and `a` as it is quoted, both cut to the precision.
  | 's' => .ok (d.pad (cut (clean v v.display).toList))
  | 'r' | 'a' => .ok (d.pad (cut (clean .undefined v.quoted).toList))
  | 'c' => .ok (d.pad (character v))
  | 'd' | 'i' | 'u' => ofInteger (d.integer 10 "")
  | 'x' => ofInteger (d.integer 16 "0x")
  | 'X' => ofInteger fun n => (d.integer 16 "0x" n).map Text.asciiUpper
  | 'o' => ofInteger (d.integer 8 "0o")
  | 'f' | 'F' | 'e' | 'E' | 'g' | 'G' =>
    match v.float? with
    | some x => .ok (d.float x)
    | none => .error (.invalid "number required")
  | _ => .error (.invalid "unsupported format character")

end Directive

/-! ### Filling -/

/-- The value for a directive, and the values that are left. -/
def valueFor (named : List (Value × Value)) (values : List Value) (d : Directive) :
    Except Fault (Value × List Value) :=
  match d.name?, values with
  | some name, _ =>
    match Value.find? (.text name) named with
    | some v => .ok (v, values)
    | none => .error ⟨.missingArgument, some ("no value for " ++ name), none⟩
  | none, v :: values => .ok (v, values)
  | none, [] => .error ⟨.missingArgument, some "not enough arguments for format string", none⟩

/-- Fills the directives of a format; `bound` is larger than the length of the format. -/
def fillFrom (clean : Value → String → String) (named : List (Value × Value)) :
    Nat → List Value → List Char → Except Fault (List Char)
  | 0, _, _ => .ok []
  | _, _, [] => .ok []
  -- Two percent signs stand for one.
  | bound + 1, values, '%' :: '%' :: s => do
    return '%' :: (← fillFrom clean named bound values s)
  | bound + 1, values, '%' :: s =>
    match directive? s with
    | none => .error (.invalid "incomplete format")
    | some (d, rest) => do
      let (v, values) ← valueFor named values d
      let text ← d.apply clean v
      return text ++ (← fillFrom clean named bound values rest)
  | bound + 1, values, c :: s => do return c :: (← fillFrom clean named bound values s)

/-- Fills a format with arguments. Names stand for arguments by name or, if there are none, for the
    entries of the first argument. -/
def fill (safe : Bool) (pattern : String) (args : Arguments) : Except Fault String := do
  let named := match args.named? with
    | some named => named.map fun (k, v) => (Value.text k, v)
    | none => (args.positional.head?.bind (·.entries?)).getD []
  -- In a safe text the arguments are escaped unless they are safe themselves.
  let clean (v : Value) (s : String) : String :=
    match safe, v with
    | true, .string true _ => s
    | true, _ => escapeHtml s
    | false, _ => s
  let s := pattern.toList
  return .ofList (← fillFrom clean named (s.length + 1) args.positional s)

end Scaffold.Template.Format
