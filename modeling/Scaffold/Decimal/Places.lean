import Scaffold.Decimal.Notation

/-!
# Decimals with a given number of places

Digits of a non-negative rational number, cut off after a number of places. The last digit is rounded;
a half goes to the even neighbour.

* `Ratio.fixed` counts places behind the decimal point.
* `Ratio.leading` counts places behind the first digit that is not zero.
-/

namespace Scaffold.Decimal

/-- The nearest integer; a half goes to the even neighbour. -/
def Ratio.round (r : Ratio) : Nat :=
  let below := r.num / r.den
  let rest := 2 * (r.num % r.den)
  if r.den < rest || (rest = r.den && below % 2 = 1) then below + 1 else below

/-- A decimal with `places` digits behind the point. -/
def Ratio.fixed (places : Nat) (r : Ratio) : List Char :=
  let digits := digitChars (r.scale places).round
  let digits := List.replicate (places + 1 - digits.length) '0' ++ digits
  let point := digits.length - places
  if places = 0 then digits else digits.take point ++ '.' :: digits.drop point

/-- The power of ten of the first digit of a positive number, which is `guess` or its neighbour
    below. -/
def Ratio.magnitude (guess : Int) (r : Ratio) : Int :=
  if r.lt (Ratio.scale ⟨1, 1⟩ guess) then guess - 1 else guess

/-- The digits of a positive number with `places` digits behind the first one, and the power of ten of
    the first one. -/
def Ratio.leading (places : Nat) (guess : Int) (r : Ratio) : List Char × Int :=
  let top := r.magnitude guess
  let digits := digitChars (r.scale (places - top)).round
  if places + 1 < digits.length then (digits.take (places + 1), top + 1) else (digits, top)

/-- The leading digits of a number that has been decoded. -/
def leadingDigits (places : Nat) (b : Binary) : List Char × Int :=
  let s := b.shortest
  b.value.leading places ((digitChars s.digits).length + s.exponent - 1)

end Scaffold.Decimal
