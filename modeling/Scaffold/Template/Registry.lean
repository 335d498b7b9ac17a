import Scaffold.Template.ListFilter

/-!
# Tests and filters by name

What can stand behind `is` and behind a bar.

* `test?` and `filter?` look them up; `filter?` takes from a budget because filters can apply filters.
-/

namespace Scaffold.Template.Registry

open Parameters

/-! ### Tests -/

/-- A test without arguments. -/
def plain (p : Value → Bool) : ValueTest := fun v args => do
  run (pure ()) args
  return p v

/-- A test with one argument. -/
def binary (p : Value → Value → Except Fault Bool) : ValueTest := fun v args =>
  run (do p v (← value)) args

/-- A comparison of the characters of an argument with those of the value. -/
def withText (p : List Char → List Char → Bool) : ValueTest := fun v args =>
  run (do return p (← text).toList v.display.toList) args

/-- A comparison. -/
def order (p : Ordering → Bool) : ValueTest := binary fun v w => .ok (p (v.compare w))

/-- A test on a text and nothing else. -/
def onText (p : String → Bool) : ValueTest := fun v args => do
  run (pure ()) args
  return p (← asText v)

/-- Whether a value is an integer. -/
def isInt : Value → Bool
  | .int _ => true
  | _ => false

/-- Whether a value is a floating-point number. -/
def isFloat : Value → Bool
  | .float _ => true
  | _ => false

/-- Whether the second number divides the first one. -/
def divides (v w : Value) : Bool :=
  match Value.pair? v w with
  | some (.ints m n) => n != 0 && m % n == 0
  | some (.floats x y) => floatRemainder x y == 0.0
  | none => false

/-- Equality of values of one kind, as far as the values can tell. -/
def identical (v w : Value) : Bool := v.kind == w.kind && isInt v == isInt w && v.same w

/-- Whether a value is one of the truth values. -/
def isBool (b : Bool) : Value → Bool
  | .bool c => b == c
  | _ => false

/-- Tests that look at nothing but values. -/
def valueTests : List (String × ValueTest) := [
  ("undefined", plain (·.isUndefined)),
  ("defined", plain (!·.isUndefined)),
  ("none", plain (·.kind == .none)),
  ("safe", plain TextFilter.isSafe),
  ("escaped", plain TextFilter.isSafe),
  ("boolean", plain (·.kind == .bool)),
  ("odd", plain fun v => (v.int?.map (· % 2 != 0)).getD false),
  ("even", plain fun v => (v.int?.map (· % 2 == 0)).getD false),
  ("divisibleby", binary fun v w => .ok (divides v w)),
  ("number", plain (·.kind == .number)),
  ("integer", plain isInt),
  ("int", plain isInt),
  ("float", plain isFloat),
  ("string", plain (·.kind == .string)),
  ("sequence", plain (·.kind == .sequence)),
  ("iterable", plain (·.items?.isSome)),
  ("mapping", plain (·.kind == .map)),
  ("true", plain (isBool true)),
  ("false", plain (isBool false)),
  ("startingwith", withText fun s t => s.isPrefixOf t),
  ("endingwith", withText fun s t => s.isSuffixOf t),
  ("lower", onText (·.toList.all Text.isLowercase)),
  ("upper", onText (·.toList.all Text.isUppercase)),
  ("sameas", binary fun v w => .ok (identical v w)),
  ("eq", binary fun v w => .ok (v.same w)),
  ("equalto", binary fun v w => .ok (v.same w)),
  ("==", binary fun v w => .ok (v.same w)),
  ("ne", binary fun v w => .ok !(v.same w)),
  ("!=", binary fun v w => .ok !(v.same w)),
  ("lt", order (·.isLT)),
  ("lessthan", order (·.isLT)),
  ("<", order (·.isLT)),
  ("le", order (·.isLE)),
  ("<=", order (·.isLE)),
  ("gt", order (·.isGT)),
  ("greaterthan", order (·.isGT)),
  (">", order (·.isGT)),
  ("ge", order (·.isGE)),
  (">=", order (·.isGE)),
  ("in", binary fun v w =>
    match w.contains v with
    | .ok b => .ok b
    | .error _ => .ok false)]

/-! ### Names -/

/-- Names of the filters that apply tests and filters. -/
def higherNames : List String := ["select", "reject", "selectattr", "rejectattr", "map"]

/-- Whether there is a filter of the name. -/
def isFilterName (name : String) : Bool :=
  ((TextFilter.all ++ ListFilter.all).map Prod.fst ++ higherNames).contains name

/-- Whether there is a test of the name. -/
def isTestName (name : String) : Bool :=
  (valueTests.map Prod.fst ++ ["filter", "test"]).contains name

/-- A test whether a text is a name. -/
def isName (p : String → Bool) : ValueTest := fun v args => do
  run (pure ()) args
  return p (← asText v)

/-- The test of a name, if there is one. -/
def test? (name : String) : Option ValueTest :=
  match name with
  | "filter" => some (isName isFilterName)
  | "test" => some (isName isTestName)
  | name => valueTests.lookup name

/-- The filter called `name`, if filters are not nested more deeply than the budget allows. -/
def filterWithin : Nat → String → Option Filter
  | 0, _ => none
  | budget + 1, name =>
    match name with
    | "select" => some (ListFilter.select test? false true)
    | "reject" => some (ListFilter.select test? false false)
    | "selectattr" => some (ListFilter.select test? true true)
    | "rejectattr" => some (ListFilter.select test? true false)
    | "map" => some (ListFilter.mapItems (filterWithin budget))
    | name => (TextFilter.all.lookup name).or (ListFilter.all.lookup name)

/-- The filter called `name`. -/
def filter? (name : String) : Option Filter := filterWithin 100 name

end Scaffold.Template.Registry
