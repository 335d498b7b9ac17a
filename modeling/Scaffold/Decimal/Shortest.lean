/-!
# The shortest decimal that reads back

A finite binary number is `m · 2 ^ q`. The reals that round to it form an interval around it, closed
if `m` is even. Of all decimals in the interval those with the fewest digits are candidates, and of
these the nearest is taken; of two equally near ones, the even one.

* `Binary.interval` gives the ends of the interval as integers over a common denominator.
* `Binary.shortest` tries 1, 2, … 17 digits; on each grid only the two neighbours of the value need
  a test, since a grid that meets the interval at all meets it in one of them.
-/

namespace Scaffold.Decimal

/-- The decimal `digits · 10 ^ exponent`. -/
structure Scientific where
  digits : Nat
  exponent : Int
  deriving DecidableEq, Repr

/-- The positive binary number `mantissa · 2 ^ exponent`. The neighbour below is half as far away as
    the one above if `atPower` holds. -/
structure Binary where
  mantissa : Nat
  exponent : Int
  atPower : Bool
  deriving DecidableEq, Repr

/-- A non-negative rational with a positive denominator. -/
structure Ratio where
  num : Nat
  den : Nat

/-- `value · 10 ^ e` for an integer `e`. -/
def Ratio.scale (r : Ratio) (e : Int) : Ratio :=
  if 0 ≤ e then ⟨r.num * Nat.pow 10 e.toNat, r.den⟩ else ⟨r.num, r.den * Nat.pow 10 (-e).toNat⟩

def Ratio.lt (r s : Ratio) : Bool := r.num * s.den < s.num * r.den

def Ratio.le (r s : Ratio) : Bool := r.num * s.den ≤ s.num * r.den

/-- `m · 2 ^ e` for an integer `e`. -/
def Ratio.ofBinary (m : Nat) (e : Int) : Ratio :=
  if 0 ≤ e then ⟨m * Nat.pow 2 e.toNat, 1⟩ else ⟨m, Nat.pow 2 (-e).toNat⟩

namespace Binary

def value (b : Binary) : Ratio := .ofBinary b.mantissa b.exponent

/-- The reals that round to `b` lie between these two; the ends themselves round to `b` exactly if
    the mantissa is even. -/
def interval (b : Binary) : Ratio × Ratio :=
  (if b.atPower then .ofBinary (4 * b.mantissa - 1) (b.exponent - 2)
    else .ofBinary (2 * b.mantissa - 1) (b.exponent - 1),
   .ofBinary (2 * b.mantissa + 1) (b.exponent - 1))

/-- Whether the real `r` rounds to `b`. -/
def roundsTo (b : Binary) (r : Ratio) : Bool :=
  let (low, high) := b.interval
  if b.mantissa % 2 = 0 then low.le r && r.le high else low.lt r && r.lt high

/-- The number of decimal digits in front of the decimal point of `num / den`, negative if zeros
    follow the point; `guess` is at most one too small. -/
def pointFrom (r : Ratio) (guess : Int) : Int :=
  if r.lt (Ratio.scale ⟨1, 1⟩ guess) then guess else guess + 1

/-- The position of the decimal point: `10 ^ (point - 1) ≤ value < 10 ^ point`. -/
def point (b : Binary) : Int :=
  let bits : Int := b.exponent + Nat.log2 b.mantissa
  -- 1233 / 4096 is just below log₁₀ 2
  let guess := (bits * 1233) / 4096
  let guess := if (Ratio.scale ⟨1, 1⟩ guess).le b.value then guess else guess - 1
  pointFrom b.value (guess + 1)

/-- The candidate with `n` digits: the nearer of the two neighbours of the value on the grid
    `10 ^ (point - n)` that round to `b`. -/
def onGrid (b : Binary) (n : Nat) : Option Scientific :=
  let e : Int := b.point - n
  let scaled := b.value.scale (-e)
  let below := scaled.num / scaled.den
  let rest := scaled.num % scaled.den
  let fits (d : Nat) : Bool := 0 < d && b.roundsTo (Ratio.scale ⟨d, 1⟩ e)
  let nearBelow : Bool := 2 * rest < scaled.den || (2 * rest = scaled.den && below % 2 = 0)
  match fits below, rest ≠ 0 && fits (below + 1) with
  | true, true => some ⟨if nearBelow then below else below + 1, e⟩
  | true, false => some ⟨below, e⟩
  | false, true => some ⟨below + 1, e⟩
  | false, false => none

/-- A decimal without zeros at the end of its digits. -/
def stripZeros : Nat → Scientific → Scientific
  | 0, s => s
  | fuel + 1, s =>
    if s.digits ≠ 0 && s.digits % 10 = 0 then stripZeros fuel ⟨s.digits / 10, s.exponent + 1⟩ else s

/-- The shortest decimal that reads back as `b`. Seventeen digits always suffice. -/
def shortest (b : Binary) : Scientific :=
  let found := (List.range 17).findSome? fun n => b.onGrid (n + 1)
  stripZeros 20 (found.getD ⟨b.mantissa, b.exponent⟩)

end Binary

/-! ### Floating-point numbers -/

/-- What a 64-bit floating-point number stands for. -/
inductive Reading where
  | nan
  | infinity (negative : Bool)
  | zero (negative : Bool)
  | finite (negative : Bool) (value : Binary)
  deriving DecidableEq, Repr

/-- Decodes the bits of a floating-point number. -/
def readBits (bits : Nat) : Reading :=
  let negative : Bool := Nat.pow 2 63 ≤ bits
  let exponent : Nat := bits / Nat.pow 2 52 % Nat.pow 2 11
  let fraction : Nat := bits % Nat.pow 2 52
  if exponent = 2047 then if fraction = 0 then .infinity negative else .nan
  else if exponent = 0 then
    if fraction = 0 then .zero negative else .finite negative ⟨fraction, -1074, false⟩
  else
    .finite negative
      ⟨Nat.pow 2 52 + fraction, Int.ofNat exponent - 1075, fraction = 0 && 1 < exponent⟩

def read (x : Float) : Reading := readBits x.toBits.toNat

end Scaffold.Decimal
