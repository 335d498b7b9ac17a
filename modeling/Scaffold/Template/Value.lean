import Scaffold.Decimal.Exact
import Scaffold.Template.Fault
import Scaffold.Width

/-!
# Values of templates

What expressions of a template give. Data is immutable except for records and loops: their values name
a place in the memory of a running template, beside what was found there last.

* `Value.compare` is the order of keys and of sorting: first by kind, then by content.
* `Value.same` is equality; numbers and booleans are compared by the number they stand for.
* The entries of a map are sorted by `Value.compare`; `Value.put` keeps them so.
-/

namespace Scaffold.Template

/-- How the items of a list came about. It shows in tests of a value's kind only. -/
inductive ListKind where
  | sequence
  | iterable
  /-- Items that are counted by going through them only. -/
  | stream
  /-- A key and the items that have it, which can be asked for by the names `grouper` and `list`. -/
  | group
  deriving DecidableEq, Repr

/-- The functions that every template can call. -/
inductive Builtin where
  | range | dict | namespaces | debug
  deriving DecidableEq, Repr

/-- The name that a function is called by. -/
def Builtin.name : Builtin → String
  | .range => "range"
  | .dict => "dict"
  | .namespaces => "namespace"
  | .debug => "debug"

/-- What a definition says about itself. -/
structure Signature where
  name : String
  params : List String
  usesCaller : Bool
  deriving DecidableEq, Repr

/-- A place in the memory of a running template. What inserted templates make is numbered apart. -/
structure Ref where
  inserted : Bool
  index : Nat
  deriving DecidableEq, Repr

/-- What a map is beside its entries. -/
inductive Role where
  /-- A value whose entries can be assigned to. -/
  | record (at_ : Ref)
  /-- A piece of template that is called with arguments. -/
  | definition (s : Signature) (at_ : Ref)
  /-- The state of a loop that is running, and how far it has come. -/
  | loop (at_ : Ref) (progress : String)
  /-- What another template gives a value, and what that template writes. -/
  | library (output : String)
  deriving DecidableEq, Repr

/-- Values of template code. -/
inductive Value where
  | undefined
  | none
  | bool (b : Bool)
  | int (n : Int)
  | float (x : Float)
  /-- A text; a safe one is not escaped when it is written. -/
  | string (safe : Bool) (s : String)
  | list (kind : ListKind) (items : List Value)
  | map (entries : List (Value × Value))
  /-- A map that is more than its entries. -/
  | object (role : Role) (entries : List (Value × Value))
  | builtin (f : Builtin)
  /-- An item that could not be had. -/
  | invalid (fault : Fault)
  deriving Inhabited

namespace Value

/-- A text that is not marked as safe. -/
def text (s : String) : Value := .string false s

/-- A list whose items are all there. -/
def sequence (items : List Value) : Value := .list .sequence items

/-- A definition says what it is called with. -/
def ofDefinition (s : Signature) (at_ : Ref) : Value :=
  .object (.definition s at_) [
    (text "name", text s.name),
    (text "arguments", sequence (s.params.map text)),
    (text "caller", .bool s.usesCaller)]

/-! ### Kinds -/

/-- Kinds of values, in their order. -/
inductive Kind where
  | undefined | none | bool | number | string | sequence | map | iterable | plain | invalid
  deriving DecidableEq, Repr

/-- The place of a kind in the order of kinds. -/
def Kind.rank : Kind → Nat
  | .undefined => 0
  | .none => 1
  | .bool => 2
  | .number => 3
  | .string => 4
  | .sequence => 5
  | .map => 6
  | .iterable => 7
  | .plain => 8
  | .invalid => 9

/-- The name of a kind in messages. -/
def Kind.name : Kind → String
  | .undefined => "undefined"
  | .none => "none"
  | .bool => "bool"
  | .number => "number"
  | .string => "string"
  | .sequence => "sequence"
  | .map => "map"
  | .iterable => "iterator"
  | .plain => "plain object"
  | .invalid => "invalid value"

/-- The kind of a value. -/
def kind : Value → Kind
  | .undefined => .undefined
  | .none => .none
  | .bool _ => .bool
  | .int _ | .float _ => .number
  | .string _ _ => .string
  | .list .iterable _ | .list .stream _ => .iterable
  | .list _ _ => .sequence
  | .map _ | .object _ _ => .map
  | .builtin _ => .plain
  | .invalid _ => .invalid

/-- Whether a value is a list or a map. -/
def hasParts : Value → Bool
  | .list _ _ | .map _ | .object _ _ => true
  | _ => false

/-- Whether the value is undefined. -/
def isUndefined : Value → Bool
  | .undefined => true
  | _ => false

/-- The text that the value is, if it is one. -/
def text? : Value → Option String
  | .string _ s => some s
  | _ => Option.none

/-- Whether the value counts as true in a condition. -/
def isTrue : Value → Bool
  | .undefined | .none => false
  | .bool b => b
  | .int n => n != 0
  | .float x => !(x == 0.0)
  | .string _ s => !s.isEmpty
  | .list .stream _ => true
  | .list _ items => !items.isEmpty
  | .map entries | .object _ entries => !entries.isEmpty
  | .builtin _ => true
  | .invalid _ => false

/-! ### Numbers -/

/-- The integers that results of arithmetic lie in. -/
def width : Width := .signed 128

/-- Whether an integer may be the result of arithmetic. -/
def inRange (n : Int) : Bool := width.holds n

/-- The integer that a value stands for: booleans and whole numbers do. -/
def int? : Value → Option Int
  | .bool b => some (if b then 1 else 0)
  | .int n => if inRange n then some n else Option.none
  | .float x =>
    let n := x.toInt64.toInt
    if Float.ofInt n == x then some n else Option.none
  | _ => Option.none

/-- The number that a value stands for, as a floating-point number. -/
def float? : Value → Option Float
  | .bool b => some (if b then 1.0 else 0.0)
  | .int n => some (Float.ofInt n)
  | .float x => some x
  | _ => Option.none

/-- Two numbers, brought to one form. -/
inductive Pair where
  | ints (m n : Int)
  | floats (x y : Float)

/-- Integers at or above `2 ^ 127` are no operands beside smaller ones. -/
def pair? : Value → Value → Option Pair
  | .float x, v => v.float?.map (.floats x)
  | v, .float y => v.float?.map (.floats · y)
  | .int m, .int n =>
    let span : Int := Int.ofNat (Nat.pow 2 128)
    if !inRange m && !inRange n then some (.ints (m - span) (n - span))
    else if inRange m && inRange n then some (.ints m n)
    else Option.none
  | v, w => do return .ints (← v.int?) (← w.int?)

/-! ### Order and equality -/

/-- The rank of a floating-point number in the total order that puts minus zero below zero and
    not-a-number at the ends. -/
def floatRank (x : Float) : Int :=
  let bits : Nat := x.toBits.toNat
  let sign : Nat := Nat.pow 2 63
  if bits < sign then bits else (sign : Int) - bits - 1

/-- How a number and a floating-point number compare. Integers in range are not rounded for it. -/
def compareToFloat (v : Value) (x : Float) : Ordering :=
  match v.int?, Decimal.Exact.ofFloat? x with
  | some n, some a => a.compareInt n
  | _, _ => Ord.compare (floatRank (v.float?.getD 0.0)) (floatRank x)

/-- How two numbers compare, floating-point numbers by the order that is total on them. -/
def compareNumbers : Value → Value → Ordering
  | .float x, .float y => Ord.compare (floatRank x) (floatRank y)
  | v, .float y => compareToFloat v y
  | .float x, w => (compareToFloat w x).swap
  | .int m, .int n => Ord.compare m n
  | v, w =>
    match v.int?, w.int? with
    | some m, some n => Ord.compare m n
    | _, _ => .eq

mutual

/-- How two values compare: by their kinds, and within a kind by what they are. -/
def compare : Value → Value → Ordering
  | .string _ s, .string _ t => Ord.compare s t
  | .list k xs, .list l ys =>
    if (list k []).kind = (list l []).kind then compareItems xs ys
    else Ord.compare (list k []).kind.rank (list l []).kind.rank
  | .map xs, .map ys => compareEntries xs ys
  | .map xs, .object _ ys => compareEntries xs ys
  | .object _ xs, .map ys => compareEntries xs ys
  | .object _ xs, .object _ ys => compareEntries xs ys
  | v, w =>
    if v.kind = w.kind then compareNumbers v w else Ord.compare v.kind.rank w.kind.rank

/-- How lists compare: the first items that differ decide. -/
def compareItems : List Value → List Value → Ordering
  | [], [] => .eq
  | [], _ :: _ => .lt
  | _ :: _, [] => .gt
  | x :: xs, y :: ys => (compare x y).then (compareItems xs ys)

/-- How maps compare: the first entries that differ decide. -/
def compareEntries : List (Value × Value) → List (Value × Value) → Ordering
  | [], [] => .eq
  | [], _ :: _ => .lt
  | _ :: _, [] => .gt
  | (k, v) :: xs, (l, w) :: ys =>
    ((compare k l).then (compare v w)).then (compareEntries xs ys)

end

/-- Whether two numbers are equal. -/
def sameNumbers (v w : Value) : Bool :=
  match v, w with
  | .float x, .float y => x == y
  | v, .float y => v.float?.isSome && !y.isNaN && compareToFloat v y == .eq
  | .float x, w => w.float?.isSome && !x.isNaN && compareToFloat w x == .eq
  | .int m, .int n => m == n
  | v, w =>
    match v.int?, w.int? with
    | some m, some n => m == n
    | _, _ => false

/-- The value at a key, where entries need not be sorted. -/
def find? (key : Value) (entries : List (Value × Value)) : Option Value :=
  (entries.find? fun (k, _) => compare k key == .eq).map Prod.snd

mutual

/-- Whether two values are equal. -/
def same : Value → Value → Bool
  | .undefined, .undefined => true
  | .none, .none => true
  | .string _ s, .string _ t => s == t
  | .list _ xs, .list _ ys => sameItems xs ys
  | .map xs, .map ys => xs.length == ys.length && sameEntries xs ys
  | .map xs, .object _ ys => xs.length == ys.length && sameEntries xs ys
  | .object _ xs, .map ys => xs.length == ys.length && sameEntries xs ys
  | .object _ xs, .object _ ys => xs.length == ys.length && sameEntries xs ys
  | .builtin f, .builtin g => f == g
  | v, w => sameNumbers v w

/-- Whether the items of two lists are equal, one by one. -/
def sameItems : List Value → List Value → Bool
  | [], [] => true
  | x :: xs, y :: ys => same x y && sameItems xs ys
  | _, _ => false

/-- Whether all entries of a map are entries of another one. -/
def sameEntries : List (Value × Value) → List (Value × Value) → Bool
  | [], _ => true
  | (k, v) :: xs, ys =>
    (match find? k ys with
      | some w => same v w
      | Option.none => false) && sameEntries xs ys

end

/-! ### Maps -/

/-- The value at a key. -/
def lookup? (key : Value) : List (Value × Value) → Option Value
  | [] => Option.none
  | (k, v) :: entries =>
    match compare k key with
    | .lt => lookup? key entries
    | .eq => some v
    | .gt => Option.none

/-- The entries with `value` at `key`; a key that is there already stays as it is. -/
def put (key value : Value) : List (Value × Value) → List (Value × Value)
  | [] => [(key, value)]
  | (k, v) :: entries =>
    match compare k key with
    | .lt => (k, v) :: put key value entries
    | .eq => (k, value) :: entries
    | .gt => (key, value) :: (k, v) :: entries

/-- Puts entries into a map, one after the other. -/
def putAll (entries more : List (Value × Value)) : List (Value × Value) :=
  more.foldl (fun entries (key, value) => put key value entries) entries

/-- The map with some entries, the later ones of which win. -/
def ofEntries (entries : List (Value × Value)) : Value := .map (putAll [] entries)

/-- The map with texts as keys. -/
def ofNamed (entries : List (String × Value)) : Value :=
  ofEntries (entries.map fun (name, value) => (text name, value))

/-! ### Items -/

/-- The characters of a text, each of them as a text. -/
def chars (s : String) : List Value := s.toList.map fun c => text (String.singleton c)

/-- The entries of a map of any sort. -/
def entries? : Value → Option (List (Value × Value))
  | .map entries | .object _ entries => some entries
  | _ => Option.none

/-- What iterating over a value gives: the items of a list, the keys of a map, the characters of a
    text, and nothing for a value that is missing. -/
def items? : Value → Option (List Value)
  | .undefined | .none => some []
  | .string _ s => some (chars s)
  | .list _ items => some items
  | .map entries | .object _ entries => some (entries.map Prod.fst)
  | _ => Option.none

/-- The fault of asking for the items of a value that has none. -/
def notIterable (v : Value) : Fault := .invalid (v.kind.name ++ " is not iterable")

/-- The items that a loop goes through. -/
def items (v : Value) : Except Fault (List Value) :=
  match v, v.items? with
  | .invalid fault, _ => .error fault
  | _, some items => .ok items
  | v, Option.none => .error v.notIterable

/-- Whether the items of a value are counted by going through them only. -/
def isUncounted : Value → Bool
  | .string _ _ | .list .stream _ => true
  | _ => false

/-- How many characters, items or entries the value has, if it has any. -/
def length? : Value → Option Nat
  | .string _ s => some s.length
  | .list .stream _ => Option.none
  | .list _ items => some items.length
  | .map entries | .object _ entries => some entries.length
  | _ => Option.none

/-- An element counted from the start, or from the end by a negative index. -/
def nth? {α : Type} (items : List α) (i : Int) : Option α :=
  if 0 ≤ i then items[i.toNat]?
  else if -i ≤ items.length then items[items.length - (-i).toNat]?
  else Option.none

/-- The value at an index or a key, if there is one. -/
def item? : Value → Value → Option Value
  | .map entries, key => lookup? key entries
  | .object _ entries, key => find? key entries
  | .list .group [grouper, members], .string _ name =>
    if name = "grouper" then some grouper else if name = "list" then some members else Option.none
  | .list .stream items, key => (key.int?.filter (0 ≤ ·)).bind (nth? items)
  | .list _ items, key => key.int?.bind (nth? items)
  | .string _ s, key => key.int?.bind (nth? (chars s))
  | _, _ => Option.none

/-- The value, unless it is one that could not be had. -/
def valid : Value → Except Fault Value
  | .invalid fault => .error fault
  | v => .ok v

/-- The value at an index or a key; a missing one is undefined, except that nothing can be looked up
    in what is undefined itself. -/
def item (v key : Value) : Except Fault Value :=
  match v.item? key with
  | some w => w.valid
  | Option.none => if v.isUndefined then .error (.ofProblem .undefinedValue) else .ok .undefined

end Value

end Scaffold.Template
