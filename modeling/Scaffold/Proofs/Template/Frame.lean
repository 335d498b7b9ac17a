import Mathlib.Tactic.SplitIfs
import Scaffold.Proofs.Runs
import Scaffold.Template.Session

namespace Scaffold.Template

/-!
# What running code leaves as it is

Whatever code runs: the templates, the current block and the scopes around the innermost one are the same behind it,
and code of an inserted template makes no cells among those of the template that it is inserted into.

* `Frame m n` — what holds between the machine in front of code and the machine behind it;
* `framed_runWithin` — running statements keeps the frame.
-/

/-- What does not change while code runs. -/
structure Frame (m n : Machine) : Prop where
  templates : n.templates = m.templates
  isInserted : n.isInserted = m.isInserted
  block? : n.block? = m.block?
  scopes : n.scopes.tail = m.scopes.tail
  cells : m.isInserted = true → m.cells = #[] → n.cells = #[]

namespace Frame

/-- A machine that does not change. -/
theorem refl (m : Machine) : Frame m m := ⟨rfl, rfl, rfl, rfl, fun _ h => h⟩

/-- One stretch of code behind the other. -/
theorem trans {m n k : Machine} (hmn : Frame m n) (hnk : Frame n k) : Frame m k where
  templates := hnk.templates.trans hmn.templates
  isInserted := hnk.isInserted.trans hmn.isInserted
  block? := hnk.block?.trans hmn.block?
  scopes := hnk.scopes.trans hmn.scopes
  cells hm hcells := hnk.cells (hmn.isInserted.trans hm) (hmn.cells hm hcells)

/-! ### Changes of machines -/

/-- A new cell; an inserted template makes its own among the inserted ones. -/
theorem keep (m : Machine) (c : Cell) : Frame m (m.keep c) := by
  unfold Machine.keep
  split
  · exact ⟨rfl, rfl, rfl, rfl, fun _ h => h⟩
  · rename_i hm
    exact ⟨rfl, rfl, rfl, rfl, fun h => absurd h hm⟩

/-- A cell that is changed in place; where there are no cells, none is made. -/
theorem changeCell (m : Machine) (r : Ref) (f : Cell → Cell) : Frame m (m.changeCell r f) := by
  unfold Machine.changeCell
  split
  · exact ⟨rfl, rfl, rfl, rfl, fun _ h => h⟩
  · exact ⟨rfl, rfl, rfl, rfl, fun _ h => by rw [h]; rfl⟩

/-- A name that is stored changes the innermost scope only. -/
theorem store (m : Machine) (name : String) (value : Value) : Frame m (m.store name value) := by
  unfold Machine.store
  split
  · exact refl m
  · rename_i s scopes hscopes
    dsimp only
    -- The name goes into the closure too, which is a cell.
    split
    · rename_i r _
      have h : Frame m (m.changeClosure r (·.put name value)) := changeCell m r _
      exact ⟨h.templates, h.isInserted, h.block?, by rw [hscopes]; rfl, h.cells⟩
    · exact ⟨rfl, rfl, rfl, by rw [hscopes]; rfl, fun _ h => h⟩

/-- The closure of the innermost scope, which is made if there is none. -/
theorem withClosure (m : Machine) : Frame m m.withClosure.1 := by
  unfold Machine.withClosure
  split
  · exact keep m _
  · rename_i s scopes hscopes
    -- The closure that is there is used, or a new cell is kept for it.
    split
    · exact refl m
    · have h := keep m (.closure [])
      exact ⟨h.templates, h.isInserted, h.block?, by rw [hscopes]; rfl, h.cells⟩

/-- Names that are put into the closure of the innermost scope. -/
theorem enclose (m : Machine) (names : List String) : Frame m (m.enclose names).1 :=
  (withClosure m).trans (changeCell _ _ _)

end Frame

namespace Eval

variable {α β : Type}

/-! ### Steps that change nothing -/

/-- The depth of the nesting is looked at, and nothing is changed. -/
theorem gives_checkDepth {m : Machine} : Gives checkDepth m fun _ n => n = m := by
  refine gives_get_bind ?_
  split
  · exact gives_throw
  · exact gives_pure.2 rfl

/-- A result that is known already. -/
theorem gives_ofResult {x : Except Fault α} {m : Machine} : Gives (ofResult x) m fun _ n => n = m := by
  cases x with
  | error fault => exact gives_throw
  | ok a => exact gives_pure.2 rfl

/-- The line that is given to a fault changes nothing. -/
theorem gives_atLine {line : Nat} {x : Eval α} {Q : α → Machine → Prop} {m : Machine} (h : Gives x m Q) :
    Gives (atLine line x) m Q := by
  intro a n ha
  unfold Eval.atLine at ha
  split at ha
  · rename_i r hr
    cases ha
    exact h a n hr
  · cases ha

/-! ### Steps that keep the frame -/

/-- The step keeps the frame of every machine. -/
def Framed (x : Eval α) : Prop := ∀ m, Gives x m fun _ n => Frame m n

/-- A value. -/
theorem framed_pure (a : α) : Framed (pure a) := fun m => gives_pure.2 (.refl m)

/-- A fault; behind it there is no machine that could differ. -/
theorem framed_fail {fault : Fault} : Framed (fail fault : Eval α) := fun _ => gives_throw

/-- One step behind the other. -/
theorem Framed.bind {x : Eval α} {f : α → Eval β} (hx : Framed x) (hf : ∀ a, Framed (f a)) : Framed (x >>= f) :=
  fun m => (hx m).bind fun a n hn => (hf a n).imp fun _ _ hk => hn.trans hk

/-- A look at the machine. -/
theorem framed_get : Framed (get : Eval Machine) := fun m => gives_get.2 (.refl m)

/-- A change of the machine that keeps the frame. -/
theorem framed_modify {f : Machine → Machine} (h : ∀ m, Frame m (f m)) : Framed (modify f : Eval PUnit) :=
  fun m => gives_modify.2 (h m)

/-- A result that is known already. -/
theorem framed_ofResult (x : Except Fault α) : Framed (ofResult x) :=
  fun m => gives_ofResult.imp fun _ _ h => h ▸ .refl m

/-- A result that is known already, whose fault gets a line. -/
theorem framed_ofExcept (line : Nat) (x : Except Fault α) : Framed (ofExcept line x) := by
  intro m a n h
  cases x with
  | error fault => cases h
  | ok a => cases h; exact .refl m

/-- A step whose fault gets a line. -/
theorem Framed.atLine {x : Eval α} (h : Framed x) (line : Nat) : Framed (atLine line x) := fun m => gives_atLine (h m)

/-- A step whose fault is put in place of another. -/
theorem Framed.summarized {x : Eval α} (h : Framed x) (fault : Fault) : Framed (summarized fault x) := by
  intro m a n ha
  unfold Eval.summarized at ha
  split at ha
  · rename_i r hr
    cases ha
    exact h m a n hr
  · cases ha

/-- A choice among values, made by steps. -/
theorem framed_filterM {f : α → Eval Bool} (h : ∀ a, Framed (f a)) (xs : List α) : Framed (xs.filterM f) := by
  have haux (xs acc : List α) : Framed (List.filterAuxM f xs acc) := by
    induction xs generalizing acc with
    | nil => exact framed_pure acc
    | cons a xs ih => exact (h a).bind fun b => ih _
  exact (haux xs []).bind fun _ => framed_pure _

/-- A loop over values. -/
theorem framed_forIn {f : α → PUnit → Eval (ForInStep PUnit)} (h : ∀ a u, Framed (f a u)) (xs : List α) (u : PUnit) :
    Framed (forIn xs u f) := by
  induction xs with
  | nil => exact framed_pure u
  | cons a xs ih =>
    rw [List.forIn_cons]
    refine (h a u).bind fun step => ?_
    split
    · exact framed_pure _
    · exact ih

/-- What a value refers to. -/
theorem framed_resolved (v : Value) : Framed (resolved v) := framed_get.bind fun _ => framed_pure _

/-- Whether a value counts as true. -/
theorem framed_truth (v : Value) : Framed (truth v) := (framed_resolved v).bind fun _ => framed_pure _

/-- Text that is written goes behind the output, which is no part of the frame. -/
theorem framed_write (s : String) : Framed (write s) := framed_modify fun _ => ⟨rfl, rfl, rfl, rfl, fun _ h => h⟩

/-- A text with the marks of its escaping. -/
theorem framed_outputValue (s : String) : Framed (outputValue s) := framed_get.bind fun _ => framed_pure _

/-- The depth of the nesting. -/
theorem framed_checkDepth : Framed checkDepth := fun m => gives_checkDepth.imp fun _ _ h => h ▸ .refl m

/-- A name that is stored. -/
theorem framed_store (name : String) (value : Value) : Framed (store name value) :=
  framed_modify fun m => Frame.store m name value

/-- A step with an output of its own, which is put back behind it. -/
theorem Framed.withOutput {x : Eval α} (h : Framed x) (discarding : Bool) : Framed (withOutput discarding x) := by
  refine framed_get.bind fun m => framed_get.bind fun n => Framed.bind ?_ fun _ => h.bind fun a =>
    framed_get.bind fun k =>
    Framed.bind ?_ fun _ => framed_pure _
  · exact framed_modify fun _ => ⟨rfl, rfl, rfl, rfl, fun _ h => h⟩
  · exact framed_modify fun _ => ⟨rfl, rfl, rfl, rfl, fun _ h => h⟩

/-- A step whose output is its value. -/
theorem Framed.captured {x : Eval α} (h : Framed x) : Framed (captured x) := h.withOutput false

/-- A step whose output is thrown away. -/
theorem Framed.discarded {x : Eval α} (h : Framed x) : Framed (discarded x) :=
  (h.withOutput true).bind fun _ => framed_pure _

/-- A step with another escaping, which is put back behind it. -/
theorem Framed.escapingAs {x : Eval α} (h : Framed x) (mode : Escaping) : Framed (escapingAs mode x) := by
  refine framed_get.bind fun m => Framed.bind ?_ fun _ => h.bind fun a => Framed.bind ?_ fun _ => framed_pure _
  · exact framed_modify fun _ => ⟨rfl, rfl, rfl, rfl, fun _ h => h⟩
  · exact framed_modify fun _ => ⟨rfl, rfl, rfl, rfl, fun _ h => h⟩

/-- A scope of its own is gone behind the code that runs in it. -/
theorem Framed.within {x : Eval α} (h : Framed x) (s : Scope) : Framed (within s x) := by
  refine fun m => gives_modify_bind ((framed_checkDepth _).bind fun _ n hn => (h n).bind fun a k hk =>
    gives_modify_bind (gives_pure.2 ?_))
  -- The scope that is put on top is taken off again, so the ones below are as before.
  have hframe := hn.trans hk
  refine ⟨hframe.templates, hframe.isInserted, hframe.block?, ?_, hframe.cells⟩
  show k.scopes.tail.tail = m.scopes.tail
  rw [hframe.scopes]
  rfl

/-! ### Calls -/

/-- One item of a value. -/
theorem framed_item (v key : Value) : Framed (item v key) := by
  refine framed_get.bind fun m => ?_
  split
  · exact framed_pure _
  · exact framed_fail

/-- The arguments of a call, with what they refer to. -/
theorem framed_resolvedArguments (args : Arguments) : Framed (resolvedArguments args) :=
  framed_get.bind fun _ => framed_pure _

/-- Functions that are there from the start. -/
theorem framed_callBuiltin (f : Builtin) (args : Arguments) : Framed (callBuiltin f args) := by
  refine (framed_resolvedArguments args).bind fun args => ?_
  split
  · exact framed_ofResult _
  · exact framed_ofResult _
  -- A namespace is a new cell.
  · refine (framed_ofResult _).bind fun entries => framed_get.bind fun m => Framed.bind ?_ fun _ =>
      framed_get.bind fun _ => framed_pure _
    exact framed_modify fun m => .keep m _
  · exact framed_get.bind fun m => framed_pure _

/-- Code that runs apart leaves the scopes and the block of its caller as they are. -/
theorem Framed.apart {x : Eval α} (h : Framed x) (scope : Scope) (template : String) :
    Framed (apart scope template x) := by
  refine fun m => gives_get_bind (gives_modify_bind ((framed_checkDepth _).bind fun _ n hn => (h n).bind fun a k hk =>
    gives_get_bind (gives_modify_bind (gives_pure.2 ?_))))
  have hframe := hn.trans hk
  exact ⟨hframe.templates, hframe.isInserted, rfl, rfl, hframe.cells⟩

section Runner

variable {run : Runner} (hrun : ∀ xs, Framed (run xs))

include hrun

/-- Parameters that are bound one after the other, and their defaults. -/
theorem framed_bindParams : ∀ ps : List (Param × Value), Framed (bindParams run ps)
  | [] => framed_pure _
  | (p, v) :: ps => by
    refine (framed_bindParams ps).bind fun _ => ?_
    split
    · exact (hrun _).bind fun _ => framed_pure _
    · exact framed_store _ _

/-- The call of a macro: it has scopes of its own, which are gone behind it. -/
theorem framed_callDefinition (d : Definition) (args : Arguments) : Framed (callDefinition run d args) := by
  refine (framed_ofResult _).bind fun values => ?_
  refine (((framed_bindParams hrun _).bind fun _ => hrun d.body).apart _ _).bind fun _ => framed_outputValue _

/-- Whatever is called. -/
theorem framed_call (v : Value) (args : Arguments) : Framed (call run v args) := by
  unfold call
  split
  · exact framed_callBuiltin _ _
  -- What a definition runs is framed, as every block is.
  · refine framed_get.bind fun m => ?_
    split
    · exact framed_callDefinition hrun _ _
    · exact framed_fail
  · exact framed_fail
  · exact framed_fail

omit hrun in
/-- The methods of a loop. -/
theorem framed_callLoopMethod (r : Ref) (name : String) (args : Arguments) : Framed (callLoopMethod r name args) := by
  refine framed_get.bind fun m => ?_
  split
  · split
    · refine Framed.bind ?_ fun _ => framed_pure _
      exact framed_modify fun m => .changeCell m _ _
    · exact framed_pure _
    · exact framed_fail
  · exact framed_fail

/-- Methods of values. -/
theorem framed_callMethod (v : Value) (name : String) (args : Arguments) : Framed (callMethod run v name args) := by
  refine framed_get.bind fun m => ?_
  split
  · exact framed_callLoopMethod _ _ _
  · split
    · exact framed_call hrun _ _
    · exact framed_fail

omit hrun in
/-- The rounds of a loop. Each of them starts and ends with the scopes around the loop. -/
theorem framed_forEach {r : Ref} {body : Value → Eval Flow} (hbody : ∀ v, Framed (body v)) :
    ∀ (i : Nat) (items : List Value), Framed (forEach r body i items)
  | i, [] => Framed.bind (framed_modify fun m => .changeCell m _ _) fun _ => framed_pure _
  | i, v :: items => by
    -- The loop's cell counts the rounds; everything else is left to the body.
    refine Framed.bind (framed_modify fun m => .changeCell m _ _) fun _ => (framed_ofResult _).bind fun w =>
      (hbody w).bind fun flow => ?_
    split
    · exact framed_pure _
    · exact framed_forEach hbody (i + 1) items

omit hrun in
/-- A loop, which has a scope of its own. -/
theorem framed_runLoop (recursion? : Option (Target × List Statement)) (v : Value) {body : Value → Eval Flow}
    (hbody : ∀ v, Framed (body v)) : Framed (runLoop recursion? v body) :=
  (framed_ofResult _).bind fun items => framed_get.bind fun _ =>
    Framed.bind (framed_modify fun m => .keep m _) fun _ => (framed_forEach hbody 0 items).within _

/-- A block that has run is no longer the current one. -/
theorem framed_runVersion (name : String) : Framed (runVersion run name) := by
  refine fun m => gives_get_bind ?_
  split
  · exact framed_fail m
  · rename_i template body _
    refine gives_modify_bind (((hrun body).within .empty _).bind fun _ n hn => gives_modify.2 ?_)
    exact ⟨hn.templates, hn.isInserted, rfl, hn.scopes, hn.cells⟩

/-- The body of the block that this one stands for. -/
theorem framed_callSuper : Framed (callSuper run) := by
  refine framed_get.bind fun m => ?_
  split
  · exact framed_fail
  · rename_i name _
    -- Only the version that is on its way changes.
    have hpass (f : Nat → Nat) : Framed (modify (passVersion name f) : Eval PUnit) :=
      framed_modify fun m => ⟨rfl, rfl, rfl, rfl, fun _ h => h⟩
    refine (hpass _).bind fun _ => framed_get.bind fun n => ?_
    extract_lets called
    have hcalled (u : PUnit) : Framed (called u) :=
      ((framed_runVersion hrun name).captured.summarized _).bind fun x => (hpass _).bind fun _ => framed_outputValue _
    split
    · exact Framed.bind framed_fail fun _ => hcalled ⟨⟩
    · exact hcalled ⟨⟩

end Runner

/-! ### Expressions -/

/-- The items of a value that is spread into a list. -/
theorem framed_spreadItems (v : Value) : Framed (spreadItems v) :=
  (framed_resolved v).bind fun _ => framed_ofResult _

/-- The entries of a value that is spread into a mapping. -/
theorem framed_spreadEntries (v : Value) : Framed (spreadEntries v) := by
  refine (framed_resolved v).bind fun w => ?_
  split
  · exact framed_pure _
  · exact framed_fail

/-- Operators of two values. -/
theorem framed_applyBinary (op : BinaryOp) (v w : Value) : Framed (applyBinary op v w) :=
  (framed_resolved v).bind fun _ => (framed_resolved w).bind fun _ => framed_ofResult _

/-- Filters, the ones that call others included. -/
theorem framed_applyFilter (name : String) (v : Value) (args : Arguments) : Framed (applyFilter name v args) := by
  unfold applyFilter
  split
  · exact framed_get.bind fun _ => (framed_resolved v).bind fun _ => (framed_resolvedArguments args).bind fun _ =>
      (framed_ofResult _).bind fun _ => framed_ofResult _
  · exact framed_fail

/-- Tests. -/
theorem framed_applyTest (name : String) (v : Value) (args : Arguments) : Framed (applyTest name v args) := by
  unfold applyTest
  split
  · exact (framed_resolved v).bind fun _ => (framed_resolvedArguments args).bind fun _ =>
      (framed_ofResult _).bind fun _ => framed_pure _
  · exact framed_fail

section Runner

variable {run : Runner} (hrun : ∀ xs, Framed (run xs))

include hrun

/-- The body of a block, with the scopes of the template. -/
theorem framed_callBlock (name : String) : Framed (callBlock run name) := by
  refine framed_get.bind fun m => ?_
  split
  · exact framed_outputValue _
  · exact (framed_runVersion hrun name).captured.bind fun _ => framed_outputValue _

variable {again : LoopCaller} (hagain : ∀ r? v, Framed (again r? v))

include hagain

/-- Something that is called by its name. -/
theorem framed_callNamed (name : String) (args : Arguments) : Framed (callNamed run again name args) := by
  -- Whether it is called as a function of the loop or by its name, a loop runs its body again.
  have hloop (r? : Option Ref) : Framed (callNamed.callLoop again args r?) := by
    unfold callNamed.callLoop
    split
    · exact hagain _ _
    · exact framed_fail
  unfold callNamed
  split
  · split
    · exact framed_callSuper hrun
    · exact framed_fail
  split
  · exact hloop none
  refine framed_get.bind fun m => ?_
  split
  · refine framed_get.bind fun m => ?_
    split
    · exact hloop _
    · exact framed_call hrun _ _
  · exact framed_call hrun _ _
  · exact framed_fail

omit hrun hagain

/-- What expressions come back to keeps the frame: blocks of statements, and loops that are run once more. -/
structure FramedRuns (run : Runner) (again : LoopCaller) : Prop where
  blocks : ∀ xs, Framed (run xs)
  loops : ∀ r? v, Framed (again r? v)

mutual

/-- **Expressions keep the frame.** The cases follow the expression; what it calls keeps the frame by assumption. -/
theorem framed_eval (hruns : FramedRuns run again) : ∀ e : Expr, Framed (e.eval run again)
  -- The cases follow the expressions; each of them evaluates its parts in their order.
  | .literal _ _ => framed_pure _
  | .name _ _ => framed_get.bind fun _ => framed_pure _
  | .list _ items => (framed_evalItems hruns items).bind fun _ => framed_pure _
  | .map _ entries => (framed_evalEntries hruns entries).bind fun _ => framed_pure _
  | .negative _ e => (framed_eval hruns e).bind fun _ => framed_ofExcept _ _
  | .opposite _ e => (framed_eval hruns e).bind fun _ => (framed_truth _).bind fun _ => framed_pure _
  | .binary _ _ l r => (framed_eval hruns l).bind fun _ => (framed_eval hruns r).bind fun _ =>
      (framed_applyBinary _ _ _).atLine _
  | .comparisons _ first rest => (framed_eval hruns first).bind fun _ => framed_evalComparisons hruns _ rest
  | .both _ l r => by
    refine (framed_eval hruns l).bind fun v => (framed_truth v).bind fun b => ?_
    split
    · exact framed_eval hruns r
    · exact framed_pure _
  | .either _ l r => by
    refine (framed_eval hruns l).bind fun v => (framed_truth v).bind fun b => ?_
    split
    · exact framed_pure _
    · exact framed_eval hruns r
  | .conditional _ test yes no => by
    refine (framed_eval hruns test).bind fun v => (framed_truth v).bind fun b => ?_
    split
    · exact framed_eval hruns yes
    · exact framed_eval hruns no
  | .member _ e _ => (framed_eval hruns e).bind fun _ => (framed_item _ _).atLine _
  | .item _ e key => (framed_eval hruns e).bind fun _ => (framed_eval hruns key).bind fun _ =>
      (framed_item _ _).atLine _
  | .slice _ e start stop step => (framed_eval hruns e).bind fun _ => (framed_eval hruns start).bind fun _ =>
      (framed_eval hruns stop).bind fun _ => (framed_eval hruns step).bind fun _ =>
        (framed_resolved _).bind fun _ => framed_ofExcept _ _
  | .filter _ e _ args => (framed_eval hruns e).bind fun _ => ((framed_evalPositional hruns args).bind fun _ =>
      framed_evalNamed hruns _ args).bind fun _ => (framed_applyFilter _ _ _).atLine _
  | .test _ e _ args => by
    refine (framed_eval hruns e).bind fun v =>
      ((framed_evalPositional hruns args).bind fun _ => framed_evalNamed hruns _ args).bind fun g =>
      ((framed_applyTest _ _ _).atLine _).bind fun passed => ?_
    split
    · exact framed_pure _
    · exact framed_pure _
  | .call _ c => (framed_evalCall hruns c none).atLine _

/-- A chain of comparisons, which ends at the first one that does not hold. -/
theorem framed_evalComparisons (hruns : FramedRuns run again) (v : Value) : ∀ rest : List (BinaryOp × Expr),
    Framed (Expr.evalComparisons run again v rest)
  | [] => framed_pure _
  | (op, e) :: rest => by
    refine (framed_eval hruns e).bind fun w => ((framed_applyBinary op v w).atLine _).bind fun u => ?_
    split
    · exact framed_evalComparisons hruns w rest
    · exact framed_pure _

/-- Expressions that are evaluated from the left. -/
theorem framed_evalItems (hruns : FramedRuns run again) : ∀ es : List Expr, Framed (Expr.evalItems run again es)
  | [] => framed_pure _
  | e :: es => (framed_eval hruns e).bind fun _ => (framed_evalItems hruns es).bind fun _ => framed_pure _

/-- Keys and values, which are evaluated from the left. -/
theorem framed_evalEntries (hruns : FramedRuns run again) :
    ∀ entries : List (Expr × Expr), Framed (Expr.evalEntries run again entries)
  | [] => framed_pure _
  | (k, e) :: entries => (framed_eval hruns k).bind fun _ => (framed_eval hruns e).bind fun _ =>
      (framed_evalEntries hruns entries).bind fun _ => framed_pure _

/-- A call with its arguments and the body that it may have. -/
theorem framed_evalCall (hruns : FramedRuns run again) :
    ∀ (c : Call) (caller? : Option Value), Framed (c.eval run again caller?)
  | .function _ args, _ => ((framed_evalPositional hruns args).bind fun _ =>
      framed_evalNamed hruns _ args).bind fun _ => framed_callNamed hruns.blocks hruns.loops _ _
  | .method e _ args, _ => (framed_eval hruns e).bind fun _ => ((framed_evalPositional hruns args).bind fun _ =>
      framed_evalNamed hruns _ args).bind fun _ => framed_callMethod hruns.blocks _ _ _
  | .value e args, _ => (framed_eval hruns e).bind fun _ => ((framed_evalPositional hruns args).bind fun _ =>
      framed_evalNamed hruns _ args).bind fun _ => framed_call hruns.blocks _ _
  | .block name, _ => framed_callBlock hruns.blocks name

/-- Arguments without a name. -/
theorem framed_evalPositional (hruns : FramedRuns run again) :
    ∀ args : List Argument, Framed (Argument.evalPositional run again args)
  | [] => framed_pure _
  | .positional e :: args => (framed_eval hruns e).bind fun _ =>
      (framed_evalPositional hruns args).bind fun _ => framed_pure _
  | .spread e :: args => (framed_eval hruns e).bind fun _ => (framed_spreadItems _).bind fun _ =>
      (framed_evalPositional hruns args).bind fun _ => framed_pure _
  | .named _ _ :: args => framed_evalPositional hruns args
  | .spreadNamed _ :: args => framed_evalPositional hruns args

/-- Arguments with a name, behind those without one. -/
theorem framed_evalNamed (hruns : FramedRuns run again) (g : Gathered) :
    ∀ args : List Argument, Framed (Argument.evalNamed run again g args)
  | [] => framed_pure _
  | .named _ e :: args => (framed_eval hruns e).bind fun _ => framed_evalNamed hruns _ args
  | .spreadNamed e :: args => (framed_eval hruns e).bind fun _ =>
      (framed_spreadEntries _).bind fun _ => framed_evalNamed hruns _ args
  | .positional _ :: args => framed_evalNamed hruns _ args
  | .spread _ :: args => framed_evalNamed hruns _ args

end

end Runner

/-! ### Statements -/

/-- A value that is written. -/
theorem framed_writeValue (v : Value) : Framed (writeValue v) :=
  framed_get.bind fun _ => (framed_resolved v).bind fun _ => (framed_ofResult _).bind fun _ => framed_write _

/-- Only the closure of the innermost scope is put aside. -/
theorem Framed.withoutClosure {x : Eval α} (h : Framed x) : Framed (withoutClosure x) := by
  refine framed_get.bind fun m => Framed.bind ?_ fun _ => h.bind fun a => Framed.bind ?_ fun _ => framed_pure _
  -- Taking the closure away and putting it back changes the scope on top only.
  all_goals
    refine framed_modify fun m => ?_
    dsimp only
    split
    · rename_i s scopes hscopes
      exact ⟨rfl, rfl, rfl, by rw [hscopes]; rfl, fun _ h => h⟩
    · exact .refl m

section Runner

variable {run : Runner} (hrun : ∀ xs, Framed (run xs))

include hrun

/-- A template that is run in this one's place; `n` is how many templates it may extend. -/
theorem framed_runTemplate : ∀ (n : Nat) (source : Source), Framed (runTemplate run n source)
  | 0, _ => framed_fail
  | n + 1, source => by
    -- A parent template is run after its child, one less at a time.
    refine (hrun source.body).bind fun _ => framed_get.bind fun m => ?_
    split
    · exact framed_pure _
    · refine Framed.bind ?_ fun _ => framed_runTemplate n _
      exact framed_modify fun _ => ⟨rfl, rfl, rfl, rfl, fun _ h => h⟩

/-- An inserted template runs as one that is inserted, and its end is that of the insertion. -/
theorem framed_insert (source : Source) : Framed (insert run source) := by
  refine fun m => gives_get_bind (gives_modify_bind ((framed_checkDepth _).bind fun _ n hn => gives_modify_bind
    (((framed_runTemplate hrun _ source).withoutClosure.summarized _ _).bind fun _ k hk => gives_modify.2 ?_)))
  refine ⟨hk.templates.trans hn.templates, rfl, hk.block?.trans hn.block?, hk.scopes.trans hn.scopes,
    fun hm hcells => ?_⟩
  exact hk.cells rfl (hn.cells hm hcells)

/-- A template that is inserted by its name. -/
theorem framed_insertNamed (v : Value) (ignoreMissing : Bool) : Framed (insertNamed run v ignoreMissing) := by
  refine framed_get.bind fun m => (framed_ofResult _).bind fun source? => ?_
  split
  · exact framed_insert hrun _
  · split
    · exact framed_pure _
    · exact framed_fail

omit hrun in
/-- A template that is extended. -/
theorem framed_extend (v : Value) : Framed (extend v) := by
  refine framed_get.bind fun m => ?_
  cases v.text? with
  | none =>
    dsimp only
    split
    · exact Framed.bind framed_fail fun _ => framed_fail
    · exact framed_fail
  | some name =>
    dsimp -zeta only
    extract_lets found named
    -- Another template is only noted as the parent, the rest of the machine stays.
    have hfound (u : Unit) : Framed (found u) := by
      -- A second parent is refused.
      simp only [found]
      split
      · exact framed_fail
      · exact framed_modify fun _ => ⟨rfl, rfl, rfl, rfl, fun _ h => h⟩
    have hnamed (u : Unit) : Framed (named u) := by
      simp only [named]
      split
      · exact Framed.bind framed_fail hfound
      · exact hfound ()
    split
    · exact Framed.bind framed_fail hnamed
    · exact hnamed ()

omit hrun

section Target

variable {again : LoopCaller}

mutual

/-- A value that is given to a target. -/
theorem framed_assign (hruns : FramedRuns run again) :
    ∀ (target : Target) (v : Value), Framed (target.assign run again v)
  | .name _, _ => framed_store _ _
  | .entry _ record _, _ => by
    refine (framed_eval hruns record).bind fun w => ?_
    -- A record is changed in its cell, which is one of those that are kept.
    split
    · exact framed_modify fun m => .changeCell m _ _
    · exact framed_fail.atLine _
  | .tuple _ targets, v => by
    refine (framed_resolved v).bind fun w => Framed.bind (Framed.atLine ?_ _) fun items =>
      framed_assignAll hruns targets items
    unfold Target.assign.unpack
    dsimp only
    split
    · exact framed_fail
    · split
      · exact framed_pure _
      · exact framed_fail

/-- The parts of a value that are given to the parts of a target. -/
theorem framed_assignAll (hruns : FramedRuns run again) : ∀ (targets : List Target) (values : List Value),
    Framed (Target.assignAll run again targets values)
  | [], _ => framed_pure _
  | _ :: _, [] => framed_pure _
  | t :: targets, v :: values => (framed_assign hruns t v).bind fun _ => framed_assignAll hruns targets values

end

end Target

include hrun

/-- A loop that calls itself for the values inside of its values. -/
theorem framed_again (r? : Option Ref) (v : Value) : Framed (Eval.again run r? v) := by
  refine framed_get.bind fun m => ?_
  dsimp only
  split
  · exact framed_fail
  · split
    · exact framed_fail
    -- The loop is run again, and what it writes is given back as a value.
    · rename_i target body _
      refine (framed_resolved v).bind fun w => Framed.bind (Framed.captured (framed_runLoop _ _ fun item => ?_))
        fun _ => framed_outputValue _
      exact (framed_assign ⟨hrun, fun _ _ => framed_fail⟩ target item).bind fun _ => hrun body

/-- Both ways of running code keep the frame. -/
theorem framed_runs : FramedRuns run (Eval.again run) := ⟨hrun, framed_again hrun⟩

/-- An expression, whatever it calls. -/
theorem framed_evalExpr (e : Expr) : Framed (eval run e) := framed_eval (framed_runs hrun) e

/-- A value that is given to a target, whatever this calls. -/
theorem framed_assignTo (target : Target) (v : Value) : Framed (assignTo run target v) :=
  framed_assign (framed_runs hrun) target v

omit hrun in
/-- A macro that is made but not called. -/
theorem framed_makeDefinition (name : String) (params : List Param) (body : List Statement) :
    Framed (makeDefinition name params body) := by
  refine fun m => gives_get_bind (gives_modify_bind (gives_pure.2 ?_))
  exact (Frame.enclose m _).trans (.keep _ _)

/-- The items of a loop that satisfy its condition. -/
theorem framed_filterItems (target : Target) (condition : Expr) (items : List Value) :
    Framed (filterItems run target condition items) := by
  refine framed_get.bind fun m => Framed.bind (framed_modify fun m => .keep m _) fun _ =>
    Framed.within (framed_filterM (fun item => ?_) items) _
  exact (framed_assignTo hrun target item).bind fun _ => (framed_evalExpr hrun condition).bind fun _ => framed_truth _

/-- Filters one behind the other. -/
theorem framed_applyFilters : ∀ (filters : List FilterCall) (v : Value), Framed (applyFilters run filters v)
  | [], _ => framed_pure _
  | f :: filters, _ => ((framed_evalPositional (framed_runs hrun) f.args).bind fun _ =>
      framed_evalNamed (framed_runs hrun) _ f.args).bind fun _ =>
        ((framed_applyFilter _ _ _).atLine _).bind fun _ => framed_applyFilters filters _

/-- What another template defines; it is run in a machine of its own. -/
theorem framed_imported (e : Expr) : Framed (imported run e) := by
  refine Framed.bind (Framed.captured (Framed.within ?_ _)) fun _ => framed_pure _
  exact (framed_evalExpr hrun e).bind fun _ => ((framed_insertNamed hrun _ _).atLine _).bind fun _ =>
    framed_get.bind fun _ => framed_pure _

/-- Names that another template defines. -/
theorem framed_importedNames (e : Expr) (names : List String) : Framed (importedNames run e names) :=
  Framed.within ((framed_evalExpr hrun e).bind fun _ => ((framed_insertNamed hrun _ _).atLine _).bind fun _ =>
    framed_get.bind fun _ => framed_pure _) _

omit hrun

mutual

/-- **Statements keep the frame.** The cases follow the statement. -/
theorem framed_exec (hrun : ∀ xs, Framed (run xs)) : ∀ x : Statement, Framed (x.exec run)
  -- The cases follow the statements.
  | .text s => (framed_write s).bind fun _ => framed_pure _
  | .emit e => (framed_evalExpr hrun e).bind fun _ => ((framed_writeValue _).atLine _).bind fun _ => framed_pure _
  | .loop target source condition? recursive body otherwise => by
    rw [Statement.exec]
    refine (framed_evalExpr hrun source).bind fun v => (framed_resolved v).bind fun v => ?_
    extract_lets recursion? looped
    -- With a condition or without one, the loop runs over a list of items.
    have hlooped (v : Value) : Framed (looped v) := by
      refine ((framed_runLoop recursion? v fun item =>
        (framed_assignTo hrun target item).bind fun _ => framed_execAll hrun body).atLine _).bind fun unused => ?_
      split
      · exact framed_execAll hrun otherwise
      · exact framed_pure _
    split
    · exact hlooped v
    · exact (framed_ofExcept _ _).bind fun items => (framed_filterItems hrun target _ items).bind fun _ => hlooped _
  | .branch test yes no => by
    refine (framed_evalExpr hrun test).bind fun v => (framed_truth v).bind fun b => ?_
    split
    · exact framed_execAll hrun yes
    · exact framed_execAll hrun no
  | .bindings line entries body => by
    refine (Framed.within ((framed_forIn (fun x _ => ?_) entries ⟨⟩).bind fun _ => framed_execAll hrun body) _).atLine _
    exact (framed_evalExpr hrun x.2).bind fun _ => (framed_assignTo hrun x.1 _).bind fun _ => framed_pure _
  | .assign target e => (framed_evalExpr hrun e).bind fun _ =>
      (framed_assignTo hrun target _).bind fun _ => framed_pure _
  | .capture target filters body => (framed_execAll hrun body).captured.bind fun _ =>
      (framed_outputValue _).bind fun _ => (framed_applyFilters hrun filters _).bind fun _ =>
        (framed_assignTo hrun target _).bind fun _ => framed_pure _
  | .escaping mode body => (framed_evalExpr hrun mode).bind fun _ => framed_get.bind fun _ =>
      (framed_ofExcept _ _).bind fun _ => (framed_execAll hrun body).escapingAs _
  | .filtered filters body => (framed_execAll hrun body).captured.bind fun _ => (framed_outputValue _).bind fun _ =>
      (framed_applyFilters hrun filters _).bind fun _ => (framed_writeValue _).bind fun _ => framed_pure _
  | .block line name => by
    refine framed_get.bind fun m => ?_
    dsimp only
    split
    · exact ((framed_runVersion hrun name).atLine _).bind fun _ => framed_pure _
    · exact framed_pure _
  | .required _ _ => framed_fail.atLine _
  | .parent e => (framed_evalExpr hrun e).bind fun _ => ((framed_extend _).atLine _).bind fun _ => framed_pure _
  | .insertion e _ => (framed_evalExpr hrun e).bind fun _ => ((framed_insertNamed hrun _ _).atLine _).bind fun _ =>
      framed_pure _
  | .importAll e _ => (framed_imported hrun e).bind fun _ => (framed_store _ _).bind fun _ => framed_pure _
  | .importNames e names => by
    refine (framed_importedNames hrun e _).discarded.bind fun values =>
      (framed_forIn (fun x _ => ?_) _ ⟨⟩).bind fun _ => framed_pure _
    exact (framed_store _ _).bind fun _ => framed_pure _
  | .define _ _ _ => (framed_makeDefinition _ _ _).bind fun _ => (framed_store _ _).bind fun _ => framed_pure _
  | .callWith _ c _ _ => (framed_makeDefinition _ _ _).bind fun _ =>
      ((framed_evalCall (framed_runs hrun) c _).atLine _).bind
      fun _ => (framed_writeValue _).bind fun _ => framed_pure _
  | .perform _ c => ((framed_evalCall (framed_runs hrun) c none).atLine _).bind fun _ => framed_pure _
  | .leave => framed_pure _
  | .next => framed_pure _

/-- Statements one behind the other. -/
theorem framed_execAll (hrun : ∀ xs, Framed (run xs)) : ∀ xs : List Statement, Framed (Statement.execAll run xs)
  | [] => framed_pure _
  | x :: xs => by
    refine (framed_exec hrun x).bind fun flow => ?_
    split
    · exact framed_execAll hrun xs
    · exact framed_pure _

end

end Runner

/-- **The frame.** Running statements keeps the frame. -/
theorem framed_runWithin : ∀ (n : Nat) (xs : List Statement), Framed (runWithin n xs)
  | 0, _ => fun _ _ _ h => by cases h
  | n + 1, xs => framed_execAll (framed_runWithin n) xs

end Eval

end Scaffold.Template
