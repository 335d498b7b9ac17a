import Scaffold.Decimal.Notation

/-!
# YAML values

What a YAML document says once anchors, styles and line breaks are gone.

* `Number` keeps integers and floating-point numbers apart: `1` and `1.0` are different values.
* `Value.same` is the equality that decides whether a key is repeated. The order of the entries of a
  mapping does not matter to it, and not-a-number equals itself.
-/

namespace Scaffold.Yaml

/-- Integers stay integers; everything else is a floating-point number. -/
inductive Number where
  | int (n : Int)
  | float (x : Float)
  deriving Inhabited, Repr

/-- The written form of numbers in YAML. -/
def floatStyle : Decimal.Style where
  positional point := -5 < point && point ≤ 16
  infinity := ".inf"
  nan := ".nan"

def Number.text : Number → String
  | .int n => toString n
  | .float x => floatStyle.text x

def Number.same : Number → Number → Bool
  | .int m, .int n => m == n
  | .float x, .float y => x == y || (x.isNaN && y.isNaN)
  | _, _ => false

/-- A value; the entries of a mapping are in document order. -/
inductive Value where
  | null
  | bool (b : Bool)
  | number (n : Number)
  | string (s : String)
  | sequence (items : List Value)
  | mapping (entries : List (Value × Value))
  /-- A value with an application tag such as `!t`. -/
  | tagged (tag : String) (value : Value)
  deriving Inhabited, Repr

namespace Value

mutual

/-- Equality of values, the order of mapping entries aside. -/
def same : Value → Value → Bool
  | .null, .null => true
  | .bool a, .bool b => a == b
  | .number m, .number n => m.same n
  | .string s, .string t => s == t
  | .sequence xs, .sequence ys => sameItems xs ys
  | .mapping xs, .mapping ys => xs.length == ys.length && sameEntries xs ys
  | .tagged s x, .tagged t y => s == t && same x y
  | _, _ => false

def sameItems : List Value → List Value → Bool
  | [], [] => true
  | x :: xs, y :: ys => same x y && sameItems xs ys
  | _, _ => false

/-- Every entry of the first list is in the second one. -/
def sameEntries : List (Value × Value) → List (Value × Value) → Bool
  | [], _ => true
  | (k, v) :: xs, ys => sameEntryIn k v ys && sameEntries xs ys

def sameEntryIn (key value : Value) : List (Value × Value) → Bool
  | [] => false
  | (k, v) :: ys => (same key k && same value v) || sameEntryIn key value ys

end

/-- Whether two values are the same string; other values are never looked up by name. -/
def isString (name : String) : Value → Bool
  | .string s => s == name
  | _ => false

/-- The value of the entry whose key is the string `name`. -/
def field? (name : String) : List (Value × Value) → Option Value
  | [] => none
  | (k, v) :: entries => if k.isString name then some v else field? name entries

/-- What stands behind the tags of a value. -/
def untagged : Value → Value
  | .tagged _ v => untagged v
  | v => v

/-- Whether a value is null, tags aside. -/
def isNull (v : Value) : Bool :=
  match v.untagged with
  | .null => true
  | _ => false

end Value

end Scaffold.Yaml
