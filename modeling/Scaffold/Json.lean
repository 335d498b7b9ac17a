import Scaffold.Decimal.Notation
import Scaffold.Text.Letter
import Scaffold.Width

/-!
# JSON

Reading JSON texts. The tree keeps what a user of it may refuse: strings with half a surrogate pair,
numbers out of range, repeated keys and deep nesting are faults only where they are used.

* `Json.parse` reads a text that holds one value.
* `Numeral.value` is the value of a number. Digits that 64 bits do not hold are dropped, and the rest
  is scaled in floating-point arithmetic.
-/

namespace Scaffold

/-- Values of a JSON text. -/
inductive Json where
  | null
  | bool (b : Bool)
  | int (n : Int)
  /-- A number with a point, an exponent or too many digits; infinity if it is out of range. -/
  | float (x : Float)
  /-- A string; nothing if it holds an unpaired surrogate. -/
  | string (text? : Option String)
  | array (items : List Json)
  /-- The entries in order, repeated keys included. -/
  | object (entries : List (Option String × Json))
  deriving Inhabited

namespace Json

/-! ### Characters -/

/-- Blanks of JSON. -/
def isSpace (c : Char) : Bool := c == ' ' || c == '\n' || c == '\t' || c == '\r'

/-- What stands behind the blanks. -/
def skipSpace (s : List Char) : List Char := s.dropWhile isSpace

/-- What a hexadecimal digit stands for. -/
def hexDigit? (c : Char) : Option Nat :=
  if Text.isAsciiDigit c then some (c.toNat - 48)
  else if 'a' ≤ c && c ≤ 'f' then some (c.toNat - 87)
  else if 'A' ≤ c && c ≤ 'F' then some (c.toNat - 55)
  else none

/-- The code written with four hexadecimal digits. -/
def hexCode? : List Char → Option (Nat × List Char)
  | a :: b :: c :: d :: rest => do
    let n ← [a, b, c, d].foldlM (fun n x => (hexDigit? x).map (16 * n + ·)) 0
    return (n, rest)
  | _ => none

/-! ### Numbers -/

/-- A number as it is written: its sign, the digits in front of the point, those behind it, and the
    exponent. -/
structure Numeral where
  negative : Bool
  whole : List Char
  places : Option (List Char)
  exponent : Option Int

/-- Reads the digits behind a point, if one is there. -/
def readPlaces : List Char → Option (Option (List Char) × List Char)
  | '.' :: s =>
    let digits := s.takeWhile Text.isAsciiDigit
    if digits.isEmpty then none else some (some digits, s.dropWhile Text.isAsciiDigit)
  | s => some (none, s)

/-- Reads an exponent, if one is there. -/
def readExponent : List Char → Option (Option Int × List Char)
  | [] => some (none, [])
  | e :: s =>
    if e = 'e' || e = 'E' then
      let (negative, s) := match s with
        | '-' :: s => (true, s)
        | '+' :: s => (false, s)
        | s => (false, s)
      let digits := s.takeWhile Text.isAsciiDigit
      let n : Int := Decimal.natOfDigits digits
      if digits.isEmpty then none
      else some (some (if negative then -n else n), s.dropWhile Text.isAsciiDigit)
    else some (none, e :: s)

/-- A number and what stands behind it. -/
def readNumeral (s : List Char) : Option (Numeral × List Char) := do
  let (negative, s) := match s with
    | '-' :: s => (true, s)
    | s => (false, s)
  let whole := s.takeWhile Text.isAsciiDigit
  if whole.isEmpty || (whole.head? = some '0' && 1 < whole.length) then none
  else
    let (places, s) ← readPlaces (s.dropWhile Text.isAsciiDigit)
    let (exponent, s) ← readExponent s
    return (⟨negative, whole, places, exponent⟩, s)

/-- The number that the digits make as long as 64 bits hold it, and the digits left. -/
def fitDigits (n : Nat) : List Char → Nat × List Char
  | [] => (n, [])
  | c :: digits =>
    let more := 10 * n + (c.toNat - '0'.toNat)
    if (Width.unsigned 64).holds more then fitDigits more digits else (n, c :: digits)

/-- A power of ten as a floating-point number. -/
def powerOfTen (n : Nat) : Float := Float.ofScientific 1 false n

/-- `x · 10 ^ e` in floating-point arithmetic; infinity beyond its range. -/
def scale (x : Float) (e : Int) : Float :=
  if x == 0.0 then x
  else if 308 < e then 1.0 / 0.0
  else if 0 ≤ e then x * powerOfTen e.toNat
  else if -308 ≤ e then x / powerOfTen (-e).toNat
  else if -616 ≤ e then x / powerOfTen 308 / powerOfTen (-(e + 308)).toNat
  else 0.0

/-- The value of a number. Minus zero is no integer. -/
def Numeral.value (n : Numeral) : Json :=
  let (digits, dropped) := fitDigits 0 n.whole
  let int := if n.negative then -Int.ofNat digits else Int.ofNat digits
  -- A number stays whole as long as it has neither places nor an exponent, and fits into 64 bits.
  if n.places.isNone && n.exponent.isNone && dropped.isEmpty && (Width.signed 64).low ≤ int
      && !(n.negative && digits = 0) then .int int
  else
    let places := n.places.getD []
    let (digits, left) := fitDigits digits places
    -- Digits that did not fit are made up for by the exponent.
    let shift : Int := dropped.length - (places.length - left.length : Nat)
    let x := scale (Float.ofNat digits) (n.exponent.getD 0 + shift)
    .float (if n.negative then -x else x)

/-! ### Strings -/

/-- A string under way: the characters read, the last first, or nothing after an unpaired
    surrogate. -/
abbrev Draft := Option (List Char)

/-- One more character of a text that is being read, from the front. -/
def Draft.push (d : Draft) (c : Char) : Draft := d.map (c :: ·)

/-- Reads what follows a backslash and a `u`. -/
def readUnicode (d : Draft) (s : List Char) : Option (Draft × List Char) := do
  let (n, s) ← hexCode? s
  -- A half of a pair stands for nothing when it is alone.
  if 0xDC00 ≤ n && n ≤ 0xDFFF then return (none, s)
  else if 0xD800 ≤ n && n ≤ 0xDBFF then
    match s with
    | '\\' :: 'u' :: t =>
      let (m, t) ← hexCode? t
      if 0xDC00 ≤ m && m ≤ 0xDFFF then
        return (d.push (Char.ofNat (0x10000 + (n - 0xD800) * 0x400 + (m - 0xDC00))), t)
      else return (none, t)
    | s => return (none, s)
  else return (d.push (Char.ofNat n), s)

/-- What a letter behind a backslash stands for. -/
def escape? (c : Char) : Option Char :=
  match c with
  | '"' => some '"'
  | '\\' => some '\\'
  | '/' => some '/'
  | 'b' => some '\x08'
  | 'f' => some '\x0c'
  | 'n' => some '\n'
  | 'r' => some '\r'
  | 't' => some '\t'
  | _ => none

/-- Reads a string behind its opening quote. -/
def readString : Nat → Draft → List Char → Option (Option String × List Char)
  | 0, _, _ => none
  | _, _, [] => none
  | fuel + 1, d, c :: s =>
    if c = '"' then some (d.map fun cs => .ofList cs.reverse, s)
    else if c = '\\' then
      match s with
      | 'u' :: s => do
        let (d, s) ← readUnicode d s
        readString fuel d s
      | e :: s => do readString fuel (d.push (← escape? e)) s
      | [] => none
    -- Control characters have to be escaped.
    else if c < ' ' then none
    else readString fuel (d.push c) s

/-! ### Values -/

/-- Drops the word `w` in front of `s`. -/
def dropWord? (w s : List Char) : Option (List Char) :=
  if w.isPrefixOf s then some (s.drop w.length) else none

mutual

/-- Reads the value in front of a text. -/
def readValue : Nat → List Char → Option (Json × List Char)
  | 0, _ => none
  | fuel + 1, s =>
    match skipSpace s with
    | [] => none
    | '"' :: s => (readString (s.length + 1) (some []) s).map fun (text?, s) => (.string text?, s)
    | '[' :: s =>
      match skipSpace s with
      | ']' :: s => some (.array [], s)
      | s => (readItems fuel s).map fun (items, s) => (.array items, s)
    | '\x7b' :: s =>
      match skipSpace s with
      | '\x7d' :: s => some (.object [], s)
      | s => (readEntries fuel s).map fun (entries, s) => (.object entries, s)
    | 'n' :: s => (dropWord? "ull".toList s).map (.null, ·)
    | 't' :: s => (dropWord? "rue".toList s).map (.bool true, ·)
    | 'f' :: s => (dropWord? "alse".toList s).map (.bool false, ·)
    | c :: s => (readNumeral (c :: s)).map fun (n, s) => (n.value, s)

/-- Reads the items of an array up to its end. -/
def readItems : Nat → List Char → Option (List Json × List Char)
  | 0, _ => none
  | fuel + 1, s => do
    let (item, s) ← readValue fuel s
    match skipSpace s with
    | ']' :: s => return ([item], s)
    | ',' :: s =>
      let (items, s) ← readItems fuel s
      return (item :: items, s)
    | _ => none

/-- Reads the entries of an object up to its end. -/
def readEntries : Nat → List Char → Option (List (Option String × Json) × List Char)
  | 0, _ => none
  | fuel + 1, s => do
    match skipSpace s with
    | '"' :: s =>
      let (key, s) ← readString (s.length + 1) (some []) s
      match skipSpace s with
      | ':' :: s =>
        let (value, s) ← readValue fuel s
        match skipSpace s with
        | '\x7d' :: s => return ([(key, value)], s)
        | ',' :: s =>
          let (entries, s) ← readEntries fuel s
          return ((key, value) :: entries, s)
        | _ => none
      | _ => none
    | _ => none

end

/-- Reads a text that holds one value. Each step takes a character, which bounds the steps. -/
def parse (text : String) : Option Json :=
  match readValue (text.length + 1) text.toList with
  | some (v, s) => if (skipSpace s).isEmpty then some v else none
  | none => none

mutual

/-- How many arrays and objects lie inside one another. -/
def depth : Json → Nat
  | .array items => depthOfItems items + 1
  | .object entries => depthOfEntries entries + 1
  | _ => 0

/-- How deep the items of an array are nested. -/
def depthOfItems : List Json → Nat
  | [] => 0
  | item :: items => max (depth item) (depthOfItems items)

/-- How deep the values of an object are nested. -/
def depthOfEntries : List (Option String × Json) → Nat
  | [] => 0
  | (_, value) :: entries => max (depth value) (depthOfEntries entries)

end

end Json

end Scaffold
