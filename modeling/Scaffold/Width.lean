/-!
# Widths of integers

The integers that so many bits hold, without a sign or with one.

* `Width.holds` decides it: `n` lies between `low` and `high`.
-/

namespace Scaffold

inductive Width where
  | unsigned (bits : Nat)
  | signed (bits : Nat)
  deriving DecidableEq, Repr

namespace Width

/-- The least integer. -/
def low : Width → Int
  | .unsigned _ => 0
  | .signed bits => -Int.ofNat (Nat.pow 2 (bits - 1))

/-- The greatest integer. -/
def high : Width → Int
  | .unsigned bits => Int.ofNat (Nat.pow 2 bits) - 1
  | .signed bits => Int.ofNat (Nat.pow 2 (bits - 1)) - 1

def holds (w : Width) (n : Int) : Bool := w.low ≤ n && n ≤ w.high

/-- The integer nearest to `n` that the width holds. -/
def clamp (w : Width) (n : Int) : Int := if n < w.low then w.low else if w.high < n then w.high else n

end Width

end Scaffold
