import Scaffold.Template.Arithmetic
import Scaffold.Template.TextFilter
import Scaffold.Yaml.Scalar

/-!
# Filters on lists, maps and numbers

Functions from values to values that look at the items of a value or at the number it is.

* `select` and `mapItems` are given the tests and filters they look up by name.
* Sorting is stable; texts are compared without regard to the case of ASCII letters unless the filter
  is told otherwise.
-/

namespace Scaffold.Template

/-- A test: whether a value passes it, with arguments. -/
abbrev ValueTest := Value → Arguments → Except Fault Bool

namespace ListFilter

open Parameters

/-- A filter without arguments. -/
def plain (f : Value → Except Fault Value) : Filter := fun _ v args => do
  run (pure ()) args
  f v

/-! ### Paths -/

/-- One step of a path: an index if it is a number, else a name. -/
def pathKey (step : String) : Value :=
  match Yaml.Scalar.natural? 10 step.toList with
  | some n => .int n
  | none => .text step

/-- The value at a path of names and indices with dots between them. -/
def path (v : Value) (p : String) : Except Fault Value :=
  (Text.splitOn '.' p).foldlM (fun v step => v.item (pathKey step)) v

/-- The value at a path, or `default` if there is none. -/
def pathOr (default : Value) (v : Value) (p : String) : Value :=
  match path v p with
  | .ok .undefined | .error _ => default
  | .ok w => w

/-! ### Items and their order -/

/-- How many characters, items or entries the value has. -/
def length (v : Value) : Except Fault Value :=
  match v.length? with
  | some n => .ok (.int n)
  | none => .error (.invalid ("cannot calculate length of value of type " ++ v.kind.name))

/-- A list of what is in the value. -/
def toList (v : Value) : Except Fault Value := do return .sequence (← v.items)

/-- The text or the items from the end to the start; what is missing stays so. -/
def reverse : Value → Except Fault Value
  | .undefined => .ok .undefined
  | .none => .ok .none
  | .string safe s => .ok (.string safe (TextFilter.chars List.reverse s))
  | v =>
    match v.items? with
    | some items => .ok (.list .iterable items.reverse)
    | none => .error (.invalid ("cannot reverse values of type " ++ v.kind.name))

/-- The first item, or undefined if there is none. -/
def first (v : Value) : Except Fault Value :=
  match v with
  | .undefined | .none => .error (.invalid "cannot get first item from value")
  | v =>
    match v.items? with
    | some items => .ok (items.head?.getD .undefined)
    | none => .error (.invalid "cannot get first item from value")

/-- The last character of a text or item of a list, or undefined if there is none. -/
def last (v : Value) : Except Fault Value :=
  match v with
  | .string _ s => .ok ((Value.chars s).getLast?.getD .undefined)
  | .list _ items => .ok (items.getLast?.getD .undefined)
  | _ => .error (.invalid "cannot get last item from value")

/-- The order of sorting. -/
def compareFor (caseSensitive : Bool) (v w : Value) : Ordering :=
  match v, w with
  | .string _ s, .string _ t =>
    if caseSensitive then compare s t
    else compare (s.toList.map Text.asciiLower) (t.toList.map Text.asciiLower)
  | v, w => v.compare w

/-- The order of the first keys that differ. -/
def compareKeys (caseSensitive : Bool) : List Value → List Value → Ordering
  | v :: vs, w :: ws => (compareFor caseSensitive v w).then (compareKeys caseSensitive vs ws)
  | _, _ => .eq

/-- Sorts, perhaps downwards; items that compare equal keep their order. -/
def sortedWith {α : Type} (order : α → α → Ordering) (reversed : Bool) (items : List α) : List α :=
  items.mergeSort fun v w => if reversed then (order v w).isGE else (order v w).isLE

/-- Sorts by several keys, the first of which counts most. -/
def sortedBy (keys : Value → List Value) (caseSensitive reversed : Bool) (items : List Value) :
    List Value :=
  sortedWith (fun v w => compareKeys caseSensitive (keys v) (keys w)) reversed items

/-- The least of the values, or the greatest one; the first of several least ones, the last of
    several greatest ones. -/
def extreme (greatest : Bool) (items : List Value) : Value :=
  match items with
  | [] => .undefined
  | v :: vs => vs.foldl (fun best w =>
      if greatest then (if (w.compare best).isGE then w else best)
      else if (w.compare best).isLT then w else best) v

/-- The least of the items. -/
def smallest (v : Value) : Except Fault Value := do return extreme false (← v.items)

/-- The greatest of the items. -/
def greatest (v : Value) : Except Fault Value := do return extreme true (← v.items)

/-- Sorts items, by what stands at some paths in them if an attribute is given. -/
def sort : Filter := fun _ v args =>
  run (do
    let named ← namedArguments
    let items ← v.items
    let caseSensitive ← switch named "case_sensitive"
    let path? ← named? named "attribute" asText
    let reversed ← switch named "reverse"
    onlyNamed named ["case_sensitive", "attribute", "reverse"]
    -- Several paths may be given, separated by commas.
    let keys (w : Value) : List Value := match path? with
      | some p => (Text.splitOn ',' p).map fun p => pathOr .undefined w (Text.trim p)
      | none => [w]
    return .sequence (sortedBy keys caseSensitive reversed items)) args

/-- Sorts the entries of a map by their keys or values and makes pairs of them. -/
def dictSort : Filter := fun _ v args =>
  run (do
    let named ← namedArguments
    let some entries := v.entries? | throw (.invalid "cannot convert value into pair list")
    let order? ← named? named "by" asText
    let caseSensitive ← switch named "case_sensitive"
    let reversed ← switch named "reverse"
    onlyNamed named ["by", "case_sensitive", "reverse"]
    -- Keys are compared unless values are asked for, whatever else `by` says.
    let byValue := order? == some "value"
    let order (a b : Value × Value) : Ordering :=
      if byValue then compareFor caseSensitive a.2 b.2 else compareFor caseSensitive a.1 b.1
    let sorted := sortedWith order reversed entries
    return .sequence (sorted.map fun (k, w) => .sequence [k, w])) args

/-- The entries of a map as pairs. -/
def pairs (v : Value) : Except Fault Value :=
  match v.entries? with
  | some entries => .ok (.list .iterable (entries.map fun (k, w) => .sequence [k, w]))
  | none => .error (.invalid "cannot convert value into pair list")

/-- Values without repetitions; `key` is what is compared. -/
def distinct (key : Value → Value) (seen : List Value) : List Value → List Value
  | [] => []
  | v :: vs =>
    if seen.any fun w => w.compare (key v) == .eq then distinct key seen vs
    else v :: distinct key (key v :: seen) vs

/-- The items without those that are there already in front of them. -/
def unique : Filter := fun _ v args =>
  run (do
    let named ← namedArguments
    let path? ← named? named "attribute" asText
    let caseSensitive ← switch named "case_sensitive"
    onlyNamed named ["attribute", "case_sensitive"]
    let key (w : Value) : Value :=
      let w := match path? with
        | some p => pathOr .undefined w p
        | none => w
      -- Texts are the same in any case unless it counts.
      match w with
      | .string _ s => if caseSensitive then .text s else .text (Text.lower s)
      | w => w
    return .sequence (distinct key [] (← v.items))) args

/-- Runs of items with equal keys. -/
def runs (same : Value → Value → Bool) (key : Value → Value) : List Value → List (Value × List Value)
  | [] => []
  | v :: vs =>
    match runs same key vs with
    | (k, members) :: rest =>
      if same (key v) k then (key v, v :: members) :: rest else (key v, [v]) :: (k, members) :: rest
    | [] => [(key v, [v])]

/-- Groups of the items that have the same value at a path, with that value. -/
def groupBy : Filter := fun _ v args =>
  run (do
    let named ← namedArguments
    let path? ← optional asText
    let default := ((named.lookup "default").getD .undefined)
    let caseSensitive ← switch named "case_sensitive"
    let path_ ← match path? with
      | some p => pure p
      | none =>
        -- Without a position the path may be given by its name.
        match named.lookup "attribute" with
        | some w => asText w
        | none => throw (.ofProblem .missingArgument)
    onlyNamed named ["attribute", "default", "case_sensitive"]
    let key (w : Value) : Value := pathOr default w path_
    let sorted := sortedBy (fun w => [key w]) caseSensitive false (← v.items)
    let groups := runs (fun a b => compareFor caseSensitive a b == .eq) key sorted
    return .sequence (groups.map fun (k, members) => .list .group [lastKey k members key,
      .sequence members])) args
where
  /-- Of keys that differ in case only, the last one names the group. -/
  lastKey (k : Value) (members : List Value) (key : Value → Value) : Value :=
    (members.getLast?.map key).getD k

/-! ### Rows -/

/-- Rows of `n` items; `bound` is the number of items. -/
def rows (n : Nat) : Nat → List Value → List (List Value)
  | 0, _ => []
  | _, [] => []
  | bound + 1, items => items.take n :: rows n bound (items.drop n)

/-- A row filled up with a value. -/
def fillRow (n : Nat) (fill? : Option Value) (row : List Value) : List Value :=
  match fill? with
  | some w => row ++ List.replicate (n - row.length) w
  | none => row

/-- The items in rows of equal length, the last of which may be filled up. -/
def batch : Filter := fun _ v args =>
  run (do
    let n ← nat
    let fill? ← optional pure
    if n = 0 then throw (.invalid "count cannot be 0")
    let items ← v.items
    return .sequence ((rows n items.length items).map fun r => .sequence (fillRow n fill? r))) args

/-- Items in `n` columns, of which the first `longer` have one item more than the others. -/
def columns (size longer : Nat) (fill? : Option Value) : Nat → List Value → List (List Value)
  | 0, _ => []
  | n + 1, items =>
    let own := if 0 < longer then size + 1 else size
    let column := items.take own
    let column := if longer = 0 then column ++ fill?.toList else column
    column :: columns size (longer - 1) fill? n (items.drop own)

/-- The items in a number of columns that differ by one item at most. -/
def slice : Filter := fun _ v args =>
  run (do
    let n ← nat
    let fill? ← optional pure
    if n = 0 then throw (.invalid "count cannot be 0")
    let items ← v.items
    return .sequence ((columns (items.length / n) (items.length % n) fill? n items).map
      Value.sequence)) args

/-- Texts one after the other; nothing stands between them until something has been written. -/
def joined (joiner : String) (texts : List String) : String :=
  texts.foldl (fun s t => (if s.isEmpty then s else s ++ joiner) ++ t) ""

/-- Under escaping, one safe text makes all of them safe. -/
def join : Filter := fun mode v args =>
  run (do
    let joiner := (← optional pure).getD (.text "")
    match v.items? with
    | none => throw (.invalid ("cannot join value of type " ++ v.kind.name))
    | some items =>
      let result (shown : Value → String) : String := joined (shown joiner) (items.map shown)
      -- A safe part makes the whole safe, so the unsafe parts are escaped.
      if mode = .html && (joiner :: items).any TextFilter.isSafe then
        return .string true (result TextFilter.safeText)
      else return .text (result Value.display)) args

/-- The items of a value, or one item that could not be had. -/
def itemsOrFault (v : Value) : List Value :=
  match v.items with
  | .ok items => items
  | .error fault => [.invalid fault]

/-- One list behind the other, or one map over the other if all of them are maps. -/
def chain : Filter := fun _ v args =>
  run (do
    let all := v :: (← rest)
    if all.all (·.kind = .map) then
      return .map ((all.filterMap (·.entries?)).foldl Value.putAll [])
    else
      let kind : ListKind := if all.all (·.kind = .sequence) then .sequence else .stream
      return .list kind (all.flatMap itemsOrFault)) args

/-- The first items, the second items and so on, as long as all lists have one; `bound` is the length
    of one of them. -/
def transposed : Nat → List (List Value) → List Value
  | 0, _ => []
  | bound + 1, lists =>
    match lists.mapM List.head? with
    | some heads => .sequence heads :: transposed bound (lists.map List.tail)
    | none => []

/-- Lists of the first items, the second items and so on. -/
def zip : Filter := fun _ v args =>
  run (do
    let lists ← (v :: (← rest)).mapM (·.items)
    return .list .stream (transposed ((lists.head?.map List.length).getD 0) lists)) args

/-! ### Numbers -/

/-- The number without its sign. -/
def absolute : Value → Except Fault Value
  | .int n =>
    if n < 0 && !Value.inRange (-n) then .error (.invalid "overflow on abs")
    else .ok (.int n.natAbs)
  | .float x => .ok (.float x.abs)
  | v => .error (.invalid ("cannot get absolute value of " ++ v.kind.name))

/-- `acc` times a power of `x`, by squaring; the order of the products decides how they are rounded. -/
def timesPower (x acc : Float) (n : Nat) : Float :=
  if n = 0 then acc
  else timesPower (x * x) (if n % 2 = 1 then acc * x else acc) (n / 2)

/-- A power of ten, which is one of its reciprocal for a negative exponent. -/
def powerOfTen (n : Int) : Float :=
  let power := timesPower 10.0 1.0 n.natAbs
  if n < 0 then 1.0 / power else power

/-- Rounds to a number of places; a half goes away from zero. -/
def roundTo (places : Int) (x : Float) : Float :=
  let scale := powerOfTen places
  (scale * x).round / scale

/-- Rounds to a number of decimal places. -/
def round : Filter := fun _ v args =>
  run (do
    let places := (← optional (asInt (.signed 32))).getD 0
    match v with
    | .int n => return .int n
    | .float x => return .float (roundTo places x)
    | v => throw (.invalid ("cannot round value of type " ++ v.kind.name))) args

/-- The whole part of a number, in the range of integers. -/
def truncated (x : Float) : Int :=
  match Decimal.Exact.ofFloat? x with
  | none => if x.isNaN then 0 else if x < 0.0 then Value.width.low else Value.width.high
  | some e =>
    let n : Nat :=
      if 0 ≤ e.exponent then e.mantissa * Nat.pow 2 e.exponent.toNat
      else e.mantissa / Nat.pow 2 (-e.exponent).toNat
    Value.width.clamp (if e.negative then -n else n)

/-- The number that a text is: with a sign, a point and an exponent if need be. -/
def readFloat? (s : String) : Option Float :=
  let (negative, digits) := match s.toList with
    | '-' :: d => (true, d)
    | '+' :: d => (false, d)
    | d => (false, d)
  let word := String.ofList (digits.map Text.asciiLower)
  let size? : Option Float :=
    -- Words for numbers are read in any case.
    if word = "inf" || word = "infinity" then some (1.0 / 0.0)
    else if word = "nan" then some (0.0 / 0.0)
    else (Yaml.Scalar.decimal? digits).map fun (digits, places, exponent) =>
      Decimal.toFloat false (Decimal.natOfDigits digits) (exponent - places)
  size?.map fun x => if negative then -x else x

/-- The integer that a text is. -/
def readInt? (s : String) : Option Int :=
  let n? := match s.toList with
    | '-' :: d => (Yaml.Scalar.natural? 10 d).map fun n => -Int.ofNat n
    | '+' :: d => (Yaml.Scalar.natural? 10 d).map Int.ofNat
    | d => (Yaml.Scalar.natural? 10 d).map Int.ofNat
  n?.filter Value.inRange

/-- A value as an integer: a text that reads as a number, too, and nothing as zero. -/
def toInt : Value → Except Fault Value
  | .undefined | .none => .ok (.int 0)
  | .bool b => .ok (.int (if b then 1 else 0))
  | .int n => .ok (.int n)
  | .float x => .ok (.int (truncated x))
  | .string _ s =>
    -- A text in the form of an integer is read exactly, any other one through a float.
    match readInt? s, readFloat? s with
    | some n, _ => .ok (.int n)
    | none, some x => .ok (.int (truncated x))
    | none, none => .error (.invalid "invalid float literal")
  | v => .error (.invalid ("cannot convert " ++ v.kind.name ++ " to integer"))

/-- A value as a floating-point number. -/
def toFloat : Value → Except Fault Value
  | .undefined | .none => .ok (.float 0.0)
  | .string _ s =>
    match readFloat? s with
    | some x => .ok (.float x)
    | none => .error (.invalid "invalid float literal")
  | v =>
    match v.float? with
    | some x => .ok (.float x)
    | none => .error (.invalid ("cannot convert " ++ v.kind.name ++ " to float"))

/-- The sum of numbers; what is undefined does not count. -/
def sum (v : Value) : Except Fault Value := do
  (← v.items).foldlM (fun total w =>
    match w with
    | .undefined => .ok total
    | w =>
      if w.kind = .number then total.add w
      else .error (.invalid ("can only sum numbers, got " ++ w.kind.name))) (.int 0)

/-! ### Missing values -/

/-- The value, or another one if it is undefined, or also if it counts as false. -/
def default : Filter := fun _ v args =>
  run (do
    let named ← namedArguments
    let other? ← next?
    let lax? ← next?
    onlyNamed named ["default_value", "boolean"]
    -- The positional arguments go before the named ones.
    let other := (other?.or (named.lookup "default_value")).getD (.text "")
    let lax := ((lax?.or (named.lookup "boolean")).map (·.isTrue)).getD false
    if v.isUndefined || (lax && !v.isTrue) then return other else return v) args

/-- One item or entry of the value. -/
def entry_ : Filter := fun _ v args => run (do v.item (← value)) args

/-! ### Filters that apply others -/

/-- Keeps the items that pass a test, or drops them. -/
def select (test? : String → Option ValueTest) (byAttribute keep : Bool) : Filter := fun _ v args =>
  run (do
    let path? ← if byAttribute then some <$> text else pure none
    let name? ← optionalText
    let more ← rest
    let test ← match name? with
      -- Without a test the value itself decides.
      | none => pure fun (w : Value) => .ok w.isTrue
      | some name =>
        match test? name with
        | some t => pure fun (w : Value) => t w (.ofList more)
        | none => throw (.ofProblem .unknownTest)
    let kept ← (← v.items).filterM fun w => do
      let subject ← match path? with
        | some p => path w p
        | none => pure w
      return (← test subject) == keep
    return .sequence kept) args

/-- The value at a path or a key. A default stands in for what is missing and for what fails. -/
def entryOr (default v key : Value) : Except Fault Value :=
  let found := match key with
    | .string _ p => path v p
    | key => v.item key
  match found with
  | .ok .undefined => .ok default
  | .ok w => .ok w
  | .error fault => if default.isUndefined then .error fault else .ok default

/-- The attribute of each item, or what a filter makes of it. -/
def mapItems (filter? : String → Option Filter) : Filter := fun mode v args =>
  run (do
    let named ← namedArguments
    let positional ← rest
    match named.lookup "attribute" with
    | some key =>
      if !positional.isEmpty then throw (.ofProblem .tooManyArguments)
      onlyNamed named ["attribute", "default"]
      let default := (named.lookup "default").getD .undefined
      return .sequence (← (← v.items).mapM fun w => entryOr default w key)
    | none =>
      let name :: more := positional | throw (.invalid "filter name is required")
      let name ← match name.text? with
        | some s => pure s
        | none => throw (.invalid "filter name must be a string")
      match filter? name with
      | none => throw (.ofProblem .unknownFilter)
      | some f => return .sequence (← (← v.items).mapM fun w => f mode w (.ofList more))) args

/-! ### All filters on lists and numbers -/

/-- The filters of this module by their names. -/
def all : List (String × Filter) := [
  ("length", plain length),
  ("count", plain length),
  ("dictsort", dictSort),
  ("items", plain pairs),
  ("reverse", plain reverse),
  ("join", join),
  ("default", default),
  ("d", default),
  ("round", round),
  ("abs", plain absolute),
  ("int", plain toInt),
  ("float", plain toFloat),
  ("attr", entry_),
  ("first", plain first),
  ("last", plain last),
  ("min", plain smallest),
  ("max", plain greatest),
  ("sort", sort),
  ("list", plain toList),
  ("string", plain fun v => .ok (match v with
    | .string safe s => .string safe s
    | v => .text v.display)),
  ("bool", plain fun v => .ok (.bool v.isTrue)),
  ("batch", batch),
  ("slice", slice),
  ("sum", plain sum),
  ("unique", unique),
  ("groupby", groupBy),
  ("chain", chain),
  ("zip", zip),
  ("pprint", plain fun v => .ok (.text v.pretty))]

end ListFilter

end Scaffold.Template
