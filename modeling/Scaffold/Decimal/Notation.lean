import Scaffold.Decimal.Shortest

/-!
# Written forms of floating-point numbers

A `Style` says which numbers are written with a decimal point only and which with an exponent, and
how infinity and not-a-number are spelt. Each output format of the library has one such value.
-/

namespace Scaffold.Decimal

/-- Numbers with `lowest < point ≤ highest` digits in front of the decimal point are written
    positionally, the others with an exponent. -/
structure Style where
  positional : Int → Bool
  infinity : String
  nan : String

/-- The digits of `n`. -/
def digitChars (n : Nat) : List Char := Nat.toDigits 10 n

/-- A decimal without an exponent; a whole number gets `.0`. -/
def Scientific.positionalText (s : Scientific) : String :=
  let digits := digitChars s.digits
  let point : Int := digits.length + s.exponent
  .ofList <|
    if point ≤ 0 then "0.".toList ++ List.replicate (-point).toNat '0' ++ digits
    else if 0 ≤ s.exponent then digits ++ List.replicate s.exponent.toNat '0' ++ ".0".toList
    else digits.take point.toNat ++ '.' :: digits.drop point.toNat

/-- A decimal with one digit in front of the point and an exponent. -/
def Scientific.exponentText (s : Scientific) : String :=
  let digits := digitChars s.digits
  let exponent : Int := digits.length + s.exponent - 1
  .ofList (digits.take 1 ++ (if digits.length ≤ 1 then [] else '.' :: digits.drop 1) ++ ['e'])
    ++ toString exponent

/-- The text of a positive decimal in a style. -/
def Style.scientific (style : Style) (s : Scientific) : String :=
  if style.positional ((digitChars s.digits).length + s.exponent) then s.positionalText
  else s.exponentText

/-- The text of a decoded number in a style. -/
def Style.reading (style : Style) : Reading → String
  | .nan => style.nan
  | .infinity negative => (if negative then "-" else "") ++ style.infinity
  | .zero negative => (if negative then "-" else "") ++ "0.0"
  | .finite negative b => (if negative then "-" else "") ++ style.scientific b.shortest

def Style.text (style : Style) (x : Float) : String := style.reading (read x)

/-! ### Reading decimals -/

/-- The floating-point number nearest to `± digits · 10 ^ exponent`. Exponents far outside the range
    of floating-point numbers are not computed with. -/
def toFloat (negative : Bool) (digits : Nat) (exponent : Int) : Float :=
  let size : Int := (digitChars digits).length + exponent
  let magnitude : Float :=
    if digits = 0 || size < -400 then 0.0
    else if 400 < size then 1.0 / 0.0
    else if 0 ≤ exponent then Float.ofScientific digits false exponent.toNat
    else Float.ofScientific digits true (-exponent).toNat
  if negative then -magnitude else magnitude

/-- The value of a run of decimal digits. -/
def natOfDigits (digits : List Char) : Nat :=
  digits.foldl (fun n c => 10 * n + (c.toNat - '0'.toNat)) 0

end Scaffold.Decimal
