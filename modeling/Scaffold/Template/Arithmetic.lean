import Scaffold.Template.Display

/-!
# Arithmetic of values

The operators of expressions. Integers are exact as long as 128 bits hold the result; a floating-point
operand makes the whole operation one of floating-point numbers.

* `BinaryOp.apply` covers all operators with two operands except `and` and `or`.
* `floatRemainder` is exact: it is computed with the integers that the operands stand for.
-/

namespace Scaffold.Template

/-- Operators between two values. -/
inductive BinaryOp where
  | add | subtract | multiply | divide | wholeDivide | remainder | power | concat
  | equal | unequal | less | lessEqual | greater | greaterEqual | member | notMember
  deriving DecidableEq, Repr

/-- An operator as it is written. -/
def BinaryOp.text : BinaryOp → String
  | .add => "+"
  | .subtract => "-"
  | .multiply => "*"
  | .divide => "/"
  | .wholeDivide => "//"
  | .remainder => "%"
  | .power => "**"
  | .concat => "~"
  | .equal => "=="
  | .unequal => "!="
  | .less => "<"
  | .lessEqual => "<="
  | .greater => ">"
  | .greaterEqual => ">="
  | .member => "in"
  | .notMember => "not in"

/-! ### Floating-point numbers -/

/-- The remainder of a division that rounds the quotient towards zero; it has the sign of `x`. -/
def floatRemainder (x y : Float) : Float :=
  match Decimal.Exact.ofFloat? x, Decimal.Exact.ofFloat? y with
  | some a, some b =>
    if b.mantissa = 0 then 0.0 / 0.0
    else
      let e := min a.exponent b.exponent
      let m := a.mantissa * Nat.pow 2 (a.exponent - e).toNat
      let n := b.mantissa * Nat.pow 2 (b.exponent - e).toNat
      let r := (Float.ofNat (m % n)).scaleB e
      if a.negative then -r else r
  | some _, none => if y.isNaN then y else x
  | none, _ => 0.0 / 0.0

/-- The integer next to a number on the side of zero. -/
def floatTruncate (x : Float) : Float := if x < 0.0 then x.ceil else x.floor

/-- The quotient whose remainder is not negative. -/
def floatQuotient (x y : Float) : Float :=
  let q := floatTruncate (x / y)
  if floatRemainder x y < 0.0 then (if 0.0 < y then q - 1.0 else q + 1.0) else q

/-! ### Operators -/

namespace Value

/-- An operation on operands that it has no meaning for. -/
def unusable {α : Type} (op : BinaryOp) (v w : Value) : Except Fault α :=
  .error (.invalid ("tried to use " ++ op.text ++ " operator on unsupported types "
    ++ v.kind.name ++ " and " ++ w.kind.name))

/-- An operation without a result. -/
def impossible {α : Type} (op : BinaryOp) (v w : Value) : Except Fault α :=
  .error (.invalid ("unable to calculate " ++ v.quoted ++ " " ++ op.text ++ " " ++ w.quoted))

/-- An integer result, if 128 bits hold it. -/
def checked (op : BinaryOp) (v w : Value) (n : Int) : Except Fault Value :=
  if inRange n then .ok (.int n) else impossible op v w

/-- An operation on two numbers. -/
def arithmetic (op : BinaryOp) (ints : Int → Int → Except Fault Value)
    (floats : Float → Float → Float) (v w : Value) : Except Fault Value :=
  match pair? v w with
  | some (.ints m n) => ints m n
  | some (.floats x y) => .ok (.float (floats x y))
  | Option.none => unusable op v w

/-- The sum of numbers, or texts or lists one behind the other. -/
def add (v w : Value) : Except Fault Value :=
  match v, w with
  | .string _ s, .string _ t => .ok (text (s ++ t))
  | .list k xs, .list l ys =>
    .ok (.list (if k = .stream || l = .stream then .stream else .iterable) (xs ++ ys))
  | v, w => arithmetic .add (fun m n => checked .add v w (m + n)) (· + ·) v w

/-- The difference of numbers. -/
def subtract (v w : Value) : Except Fault Value :=
  arithmetic .subtract (fun m n => checked .subtract v w (m - n)) (· - ·) v w

/-- How often to repeat something. -/
def count (what : String) (v : Value) : Except Fault Nat :=
  match v.int?.filter (Width.unsigned 64).holds with
  | some n => .ok n.toNat
  | Option.none => .error (.invalid (what ++ " can only be multiplied with integers"))

/-- A text a number of times. -/
def repeatText (s : String) (v : Value) : Except Fault Value := do
  let n ← count "strings" v
  return text (if s.isEmpty then "" else String.join (List.replicate n s))

/-- The items of a list a number of times. -/
def repeatItems (items : List Value) (v : Value) : Except Fault Value := do
  let n ← count "sequences and iterables" v
  return .list .iterable (if items.isEmpty then [] else (List.replicate n items).flatten)

/-- The product of numbers, or a text or list a number of times. -/
def multiply (v w : Value) : Except Fault Value :=
  match v, w with
  | .string _ s, w => repeatText s w
  | v, .string _ s => repeatText s v
  | .list .stream _, _ => .error (.invalid "cannot repeat unsized iterables")
  | _, .list .stream _ => .error (.invalid "cannot repeat unsized iterables")
  | .list _ items, w => repeatItems items w
  | v, .list _ items => repeatItems items v
  | v, w => arithmetic .multiply (fun m n => checked .multiply v w (m * n)) (· * ·) v w

/-- Division always gives a floating-point number. -/
def divide (v w : Value) : Except Fault Value :=
  match v.float?, w.float? with
  | some x, some y => .ok (.float (x / y))
  | _, _ => unusable .divide v w

/-- The quotient without a fraction. -/
def wholeDivide (v w : Value) : Except Fault Value :=
  arithmetic .wholeDivide
    (fun m n => if n = 0 then impossible .wholeDivide v w else checked .wholeDivide v w (m / n))
    floatQuotient v w

/-- The rest that goes with the quotient without a fraction. -/
def remainder (v w : Value) : Except Fault Value :=
  arithmetic .remainder
    (fun m n => if n = 0 then impossible .remainder v w else checked .remainder v w (m % n))
    floatRemainder v w

/-- Powers of small bases are the only ones that large exponents leave in range. -/
def intPower (m : Int) (n : Nat) : Option Int :=
  if m = 0 then some (if n = 0 then 1 else 0)
  else if m = 1 then some 1
  else if m = -1 then some (if n % 2 = 0 then 1 else -1)
  else if n ≤ 127 then some (m.pow n)
  else Option.none

/-- A power; the exponent of an integer is not negative. -/
def power (v w : Value) : Except Fault Value :=
  arithmetic .power
    (fun m n =>
      if (Width.unsigned 32).holds n then
        match intPower m n.toNat with
        | some p => checked .power v w p
        | Option.none => impossible .power v w
      else impossible .power v w)
    Float.pow v w

/-- The texts of two values, one behind the other. -/
def concat (v w : Value) : Value := text (v.display ++ w.display)

/-- Whether `v` is an item of a list, a key of a map or a part of a text. -/
def contains (container v : Value) : Except Fault Bool :=
  match container with
  | .undefined => .ok false
  | .string _ s => .ok (Text.contains v.display s)
  | .list _ items => .ok (items.any (same · v))
  | .map entries => .ok (lookup? v entries).isSome
  | .object _ entries => .ok (find? v entries).isSome
  | .builtin _ => .ok false
  | _ => .error (.invalid "cannot perform a containment check on this value")

/-- The opposite of a number. The least integer has none in range, and the number one beyond the
    greatest integer stays as it is. -/
def negate : Value → Except Fault Value
  | .int n =>
    if n = width.high + 1 then .ok (.int n)
    else if inRange n && inRange (-n) then .ok (.int (-n))
    else .error (.invalid "number is too large to be negated")
  | .float x => .ok (.float (-x))
  | _ => .error (.ofProblem .invalidOperation)

end Value

/-- What an operator makes of two values. -/
def BinaryOp.apply (op : BinaryOp) (v w : Value) : Except Fault Value :=
  match op with
  | .add => v.add w
  | .subtract => v.subtract w
  | .multiply => v.multiply w
  | .divide => v.divide w
  | .wholeDivide => v.wholeDivide w
  | .remainder => v.remainder w
  | .power => v.power w
  | .concat => .ok (v.concat w)
  | .equal => .ok (.bool (v.same w))
  | .unequal => .ok (.bool !(v.same w))
  | .less => .ok (.bool ((v.compare w).isLT))
  | .lessEqual => .ok (.bool ((v.compare w).isLE))
  | .greater => .ok (.bool ((v.compare w).isGT))
  | .greaterEqual => .ok (.bool ((v.compare w).isGE))
  | .member => do return .bool (← w.contains v)
  | .notMember => do return .bool !(← w.contains v)

end Scaffold.Template
