import Scaffold.Decimal.Shortest

/-!
# Floating-point numbers as exact numbers

A finite number is `± m · 2 ^ e` with a natural number `m` and an integer `e`.

* `Exact.compareInt` compares it with an integer without rounding either of them.
-/

namespace Scaffold.Decimal

/-- A finite number as `± mantissa · 2 ^ exponent`. -/
structure Exact where
  negative : Bool
  mantissa : Nat
  exponent : Int

namespace Exact

def ofFloat? (x : Float) : Option Exact :=
  match read x with
  | .nan | .infinity _ => none
  | .zero negative => some ⟨negative, 0, 0⟩
  | .finite negative b => some ⟨negative, b.mantissa, b.exponent⟩

/-- The mantissa with the sign of the number. -/
def signed (a : Exact) : Int := if a.negative then -(a.mantissa : Int) else a.mantissa

/-- How the integer `n` compares with the number. -/
def compareInt (n : Int) (a : Exact) : Ordering :=
  if 0 ≤ a.exponent then compare n (a.signed * Nat.pow 2 a.exponent.toNat)
  else compare (n * Nat.pow 2 (-a.exponent).toNat) a.signed

end Exact

end Scaffold.Decimal
