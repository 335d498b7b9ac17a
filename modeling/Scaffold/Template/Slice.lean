import Scaffold.Template.Value

/-!
# Slices

Parts of lists and texts, given by a start, a stop and a step, each of which can be left out. Negative
positions count from the end. A negative step goes backwards, and then a stop at the first item does
not leave that item out.
-/

namespace Scaffold.Template

/-- A position counted from the start, moved into the range from zero to the length. -/
def clampPosition (length : Nat) (i : Int) : Nat :=
  min length (if i < 0 then i + length else i).toNat

/-- The items at positions from `start` on, `step` apart, as long as they are in front of `stop`. -/
def takeForwards {α : Type} (start stop step : Nat) (items : List α) : List α :=
  ((items.take stop).drop start).zipIdx.filterMap fun (x, i) => if i % step = 0 then some x else none

/-- Where a slice that goes backwards starts in a list of `length` items. -/
def backwardStart (length : Nat) (start? : Option Int) : Nat :=
  match start? with
  | some i => if i < 0 then (i + length).toNat else min i.toNat (length - 1)
  | none => length - 1

/-- How many items a slice that goes backwards from `start` has. -/
def backwardCount (length : Nat) (stop? : Option Int) (step start : Nat) : Nat :=
  let stop := match stop? with
    | some i => if i < 0 then (i + length).toNat else i.toNat
    | none => 0
  if stop = 0 then (start + step) / step
  else if start < stop then 0
  else (start - stop + step - 1) / step

/-- The part of a list that a slice asks for; `step` is not zero. -/
def sliceItems {α : Type} (start? stop? : Option Int) (step : Int) (items : List α) : List α :=
  let n := items.length
  if 0 < step then
    let start := (start?.map (clampPosition n)).getD 0
    let stop := (stop?.map (clampPosition n)).getD n
    takeForwards start stop step.toNat items
  else
    let step := (-step).toNat
    let start := backwardStart n start?
    (List.range (backwardCount n stop? step start)).filterMap fun i =>
      if i * step ≤ start then items[start - i * step]? else none

namespace Value

/-- A position of a slice; `none` if it is left out. -/
def position? (v : Value) : Except Fault (Option Int) :=
  match v with
  | .none => .ok Option.none
  | v =>
    match v.int? with
    | some n => .ok (some n)
    | Option.none => .error (.invalid ("cannot convert " ++ v.kind.name ++ " to i64"))

def slice (v start stop step : Value) : Except Fault Value := do
  let start? ← start.position?
  let stop? ← stop.position?
  let step := (← step.position?).getD 1
  if step = 0 then throw (.invalid "cannot slice by step size of 0")
  match v with
  | .undefined | .none => return .sequence []
  | .string _ s => return .text (.ofList (sliceItems start? stop? step s.toList))
  | .list kind items =>
    let part := sliceItems start? stop? step items
    let lazy := kind = .stream && 0 < step && !part.isEmpty
    return .list (if lazy then .stream else .iterable) part
  | v => throw (.invalid ("value of type " ++ v.kind.name ++ " cannot be sliced"))

end Value

end Scaffold.Template
