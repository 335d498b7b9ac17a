import Scaffold.Text.Letter
import Scaffold.Yaml.Value

/-!
# Plain scalars

The value that a scalar written without quotes stands for: null, a boolean, an integer in one of four
bases, a floating-point number, or the text itself.

* `Scalar.resolve` decides, in this order; an integer outside 64 bits but inside 128 bits has no value.
* A text with a leading zero and further digits is never a number.
-/

namespace Scaffold.Yaml.Scalar

/-- What a plain scalar is. -/
inductive Resolved where
  | value (v : Value)
  /-- An integer that 128 bits hold but 64 bits do not. -/
  | outOfRange

def isNullWord (s : String) : Bool := s ∈ ["null", "Null", "NULL", "~"]

def boolWord? (s : String) : Option Bool :=
  if s ∈ ["true", "True", "TRUE"] then some true
  else if s ∈ ["false", "False", "FALSE"] then some false
  else none

/-- The value of a digit in bases up to sixteen. -/
def digit? (base : Nat) (c : Char) : Option Nat :=
  let d :=
    if Text.isAsciiDigit c then some (c.toNat - 48)
    else if 'a' ≤ c && c ≤ 'f' then some (c.toNat - 87)
    else if 'A' ≤ c && c ≤ 'F' then some (c.toNat - 55)
    else none
  d.filter (· < base)

/-- The value of a non-empty run of digits. -/
def natural? (base : Nat) (digits : List Char) : Option Nat :=
  if digits.isEmpty then none
  else digits.foldlM (fun n c => (digit? base c).map (base * n + ·)) 0

/-- Whether the text is a zero followed by more digits, with a sign or not. -/
def hasLeadingZero (s : List Char) : Bool :=
  let digits := match s with
    | '-' :: r => r
    | '+' :: r => r
    | s => s
  match digits with
  | '0' :: rest => !rest.isEmpty && rest.all Text.isAsciiDigit
  | _ => false

/-- The integer that digits with an optional base mark stand for, if it is below `bound`. -/
def magnitude? (bound : Nat) (digits : List Char) : Option Nat :=
  let based := match digits with
    | '0' :: 'x' :: r => natural? 16 r
    | '0' :: 'o' :: r => natural? 8 r
    | '0' :: 'b' :: r => natural? 2 r
    | _ => none
  (based.filter (· < bound)).or
    (if hasLeadingZero digits then none else (natural? 10 digits).filter (· < bound))

/-- Non-negative integers below `2 ^ bits`; a plus sign is allowed. -/
def unsigned? (bits : Nat) (s : List Char) : Option Int :=
  match s with
  | '+' :: digits => (magnitude? (Nat.pow 2 bits) digits).map Int.ofNat
  | digits => (magnitude? (Nat.pow 2 bits) digits).map Int.ofNat

/-- Integers from `-2 ^ (bits - 1)` on, written with a minus sign. -/
def negative? (bits : Nat) (s : List Char) : Option Int :=
  match s with
  | '-' :: digits => (magnitude? (Nat.pow 2 (bits - 1) + 1) digits).map fun n => -Int.ofNat n
  | _ => none

/-- A run of digits with an optional point and exponent: digits, how many of them follow the point,
    and the exponent. -/
def decimal? (s : List Char) : Option (List Char × Nat × Int) :=
  let whole := s.takeWhile Text.isAsciiDigit
  let rest := s.dropWhile Text.isAsciiDigit
  let (places, rest) := match rest with
    | '.' :: r => (r.takeWhile Text.isAsciiDigit, r.dropWhile Text.isAsciiDigit)
    | r => ([], r)
  -- There must be a digit before or behind the point.
  if whole.isEmpty && places.isEmpty then none
  else match rest with
    | [] => some (whole ++ places, places.length, 0)
    | e :: r =>
      -- The exponent has at least one digit.
      if e = 'e' || e = 'E' then
        let (negative, digits) := match r with
          | '-' :: d => (true, d)
          | '+' :: d => (false, d)
          | d => (false, d)
        if digits.isEmpty || !digits.all Text.isAsciiDigit then none
        else
          let n : Int := Decimal.natOfDigits digits
          some (whole ++ places, places.length, if negative then -n else n)
      else none

/-- A finite number in decimal notation, with an optional minus sign. -/
def finite? (s : List Char) : Option Float :=
  let (negative, digits) := match s with
    | '-' :: d => (true, d)
    | d => (false, d)
  match decimal? digits with
  | some (digits, places, exponent) =>
    let x := Decimal.toFloat negative (Decimal.natOfDigits digits) (exponent - places)
    if x.isInf then none else some x
  | none => none

def float? (s : String) : Option Float :=
  if s ∈ [".inf", ".Inf", ".INF", "+.inf", "+.Inf", "+.INF"] then some (1.0 / 0.0)
  else if s ∈ ["-.inf", "-.Inf", "-.INF"] then some (-1.0 / 0.0)
  else if s ∈ [".nan", ".NaN", ".NAN"] then some (0.0 / 0.0)
  else match s.toList with
    | '+' :: '-' :: _ => none
    | '+' :: '+' :: _ => none
    | '+' :: digits => finite? digits
    | digits => finite? digits

/-- The value of an integer, looking first for 64 bits and then for 128. -/
def int? (s : List Char) : Option Resolved :=
  match (unsigned? 64 s).or (negative? 64 s) with
  | some n => some (.value (.number (.int n)))
  | none => ((unsigned? 128 s).or (negative? 128 s)).map fun _ => .outOfRange

/-- The value of a plain scalar. -/
def resolve (s : String) : Resolved :=
  if s.isEmpty || isNullWord s then .value .null
  else match boolWord? s with
    | some b => .value (.bool b)
    | none =>
      match int? s.toList with
      | some r => r
      | none =>
        if hasLeadingZero s.toList then .value (.string s)
        else match float? s with
          | some x => .value (.number (.float x))
          | none => .value (.string s)

end Scaffold.Yaml.Scalar
