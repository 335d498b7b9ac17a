import Scaffold.Proofs.Template.Following
import Scaffold.Template.Execution

namespace Scaffold.Template

/-!
# Code that runs alike in machines that look alike

Code that uses none but names that satisfy `p`, and no other templates, does the same in machines that look alike.

* `Gathered.Own` — arguments under way that are values of the template's own;
* `follows_eval` — expressions have the same value, which is one of the template's own;
* `follows_runWithin` — statements change both machines alike.
-/

variable {p : String → Prop}

namespace Eval

/-! ### Arguments -/

/-- Arguments under way that are values of the template's own. -/
structure Gathered.Own (g : Gathered) : Prop where
  positional : ∀ v ∈ g.positional, v.Own
  named : ∀ e ∈ g.named, e.2.Own

namespace Gathered

variable {g : Gathered}

/-- One more argument with a name. -/
theorem Own.name (h : g.Own) (name : String) {v : Value} (hv : v.Own) : (g.name name v).Own :=
  ⟨h.positional, own_names_put h.named hv⟩

/-- Some more arguments with a name. -/
theorem Own.nameAll (h : g.Own) {entries : Names} (hentries : ∀ e ∈ entries, e.2.Own) :
    (entries.foldl (fun (g : Gathered) (name, v) => g.name name v) { g with anyNamed := true }).Own :=
  List.foldlRecOn (motive := Own) entries _ ⟨h.positional, h.named⟩ fun _ hg e he => hg.name e.1 (hentries e he)

/-- The body of a call is one more argument. -/
theorem Own.withCaller (h : g.Own) {caller? : Option Value} (hcaller : ∀ v, caller? = some v → v.Own) :
    (Eval.withCaller g caller?).Own := by
  cases caller? with
  | none => exact h
  | some v => exact h.name "caller" (hcaller v rfl)

/-- What was gathered, as the arguments of the call. -/
theorem Own.arguments (h : g.Own) : g.arguments.Own := by
  refine ⟨h.positional, fun e he => ?_⟩
  unfold Gathered.arguments at he
  dsimp only at he
  split at he
  · exact h.named e he
  · cases he

end Gathered

/-- The arguments of a call: first those without a name, then those with one. -/
theorem follows_gather {positional : Eval (List Value)} {named : Gathered → Eval Gathered}
    (hpositional : Follows p positional fun vs => ∀ v ∈ vs, v.Own)
    (hnamed : ∀ g : Gathered, g.Own → Follows p (named g) Gathered.Own) :
      Follows p (gather positional named) Gathered.Own :=
  hpositional.bind fun _ hvs => hnamed _ ⟨hvs, by simp⟩

/-! ### Operators, filters and tests -/

/-- The items of a value that is spread into a list. -/
theorem follows_spreadItems {v : Value} (hv : v.Own) : Follows p (spreadItems v) fun items => ∀ w ∈ items, w.Own :=
  (follows_resolved hv).bind fun _ hw => follows_ofResult (Value.returns_items hw)

/-- The entries of a value that is spread into a mapping. -/
theorem follows_spreadEntries {v : Value} (hv : v.Own) :
    Follows p (spreadEntries v) fun entries => ∀ e ∈ entries, e.2.Own := by
  refine (follows_resolved hv).bind fun w hw => ?_
  split
  · rename_i entries hentries
    exact follows_pure (own_namedEntries hw hentries)
  · exact follows_fail

/-- Operators of two values. -/
theorem follows_applyBinary (op : BinaryOp) {v w : Value} (hv : v.Own) (hw : w.Own) :
    Follows p (applyBinary op v w) Value.Own :=
  (follows_resolved hv).bind fun _ hv =>
    (follows_resolved hw).bind fun _ hw => follows_ofResult (Value.returns_apply hv hw)

/-- Filters. -/
theorem follows_applyFilter (name : String) {v : Value} (hv : v.Own) {args : Arguments} (hargs : args.Own) :
    Follows p (applyFilter name v args) Value.Own := by
  unfold applyFilter
  split
  · rename_i f hf
    refine fun m m' h => tracks_get_bind ?_
    rw [h.escaping]
    exact ((follows_resolved hv).bind fun v hv => (follows_resolvedArguments hargs).bind fun args hargs =>
      (follows_ofResult (own_filter? hf _ v args hv hargs)).bind fun w hw =>
        follows_ofResult (Value.returns_valid hw)) m m' h
  · exact follows_fail

/-- Tests. -/
theorem follows_applyTest (name : String) {v : Value} (hv : v.Own) {args : Arguments} (hargs : args.Own) :
    Follows p (applyTest name v args) Value.Own := by
  unfold applyTest
  split
  · exact (follows_resolved hv).bind fun _ _ => (follows_resolvedArguments hargs).bind fun _ _ =>
      (follows_ofResult returns_any).bind fun _ _ => follows_pure (Value.own_bool _)
  · exact follows_fail

/-! ### Expressions -/

section Runner

variable {run : Runner} (hrun : ∀ xs, Statement.UsesAll p xs → Follows p (run xs) fun _ => True)

include hrun

/-- The body of a block. -/
theorem follows_callBlock (name : String) : Follows p (callBlock run name) Value.Own := by
  refine fun m m' h => tracks_get_bind ?_
  rw [h.parent?, h.plain.parent?]
  exact (Follows.bind (follows_runVersion hrun name).captured fun r _ => follows_outputValue r.2) m m' h

variable (hdebug : ¬ p "debug") {again : LoopCaller} (hagain : ∀ r? v, v.Own → Follows p (again r? v) Value.Own)

include hdebug hagain

/-- Something that is called by its name, which must satisfy `p`. -/
theorem follows_callNamed {name : String} (hname : p name) {args : Arguments} (hargs : args.Own) :
    Follows p (callNamed run again name args) Value.Own := by
  -- Whether it is called as a function of the loop or by its name, a loop runs its body again.
  have hloop (r? : Option Ref) : Follows p (callNamed.callLoop again args r?) Value.Own := by
    unfold callNamed.callLoop
    split
    · rename_i v hv
      exact hagain _ _ (hargs.values v (by rw [hv]; exact List.mem_singleton_self v))
    · exact follows_fail
  unfold callNamed
  -- `super` has a meaning of its own, and so has the name under which a loop is called.
  split
  · split
    · exact follows_callSuper hrun
    · exact follows_fail
  split
  · exact hloop none
  refine fun m m' h => tracks_get_bind ?_
  rw [h.lookup? hname]
  cases hv : m.lookup? name with
  | none => exact tracks_throw
  | some v =>
    have hown := h.plain.own_lookup? hdebug hname hv
    split
    · rename_i r progress entries heq
      refine tracks_get_bind ?_
      -- Whether a loop is on its way does not depend on what else is in its scope.
      have hany (m : Machine) : (m.scopes.any fun s => (s.loop?.map (·.at_)) == some r) =
          (m.scopes.map (·.loop?)).any fun l? => (l?.map (·.at_)) == some r := by
        rw [List.any_map]
        rfl
      rw [hany m, hany m', h.loops]
      cases heq
      split
      · exact hloop _ m m' h
      · exact follows_call hrun hown hargs m m' h
    · rename_i v _ heq
      cases heq
      exact follows_call hrun hown hargs m m' h
    · exact tracks_throw

omit hrun hdebug hagain

/-- What expressions come back to does the same in both machines: blocks of statements, and loops that are run once
    more. -/
structure FollowsRuns (p : String → Prop) (run : Runner) (again : LoopCaller) : Prop where
  no_debug : ¬ p "debug"
  blocks : ∀ xs, Statement.UsesAll p xs → Follows p (run xs) fun _ => True
  loops : ∀ r? v, v.Own → Follows p (again r? v) Value.Own

mutual

/-- **Expressions.** An expression has the same value in both machines. -/
theorem follows_eval (hruns : FollowsRuns p run again) : ∀ e : Expr, e.Uses p → Follows p (e.eval run again) Value.Own
  -- The cases follow the expressions; a name is the only one that looks into the scopes.
  | .literal _ _, h => follows_pure h
  | .name _ id, hid => by
    refine fun m m' h => tracks_get_bind ?_
    rw [h.lookup? hid]
    exact tracks_pure h (Value.own_getD (fun v hv => h.plain.own_lookup? hruns.no_debug hid hv) Value.own_undefined)
  | .list _ items, h => (follows_evalItems hruns items h).bind fun _ hvs => follows_pure (Value.own_sequence.2 hvs)
  | .map _ entries, h => (follows_evalEntries hruns entries h).bind fun _ hes => follows_pure (Value.own_ofEntries hes)
  | .negative _ e, h => (follows_eval hruns e h).bind fun _ _ => follows_ofExcept Value.returns_negate
  | .opposite _ e, h => (follows_eval hruns e h).bind fun _ hv =>
      (follows_truth hv).bind fun _ _ => follows_pure (Value.own_bool _)
  | .binary _ _ l r, h => (follows_eval hruns l h.1).bind fun _ hv => (follows_eval hruns r h.2).bind fun _ hw =>
      (follows_applyBinary _ hv hw).atLine _
  | .comparisons _ first rest, h => (follows_eval hruns first h.1).bind fun _ hv =>
      follows_evalComparisons hruns hv rest h.2
  | .both _ l r, h => by
    refine (follows_eval hruns l h.1).bind fun v hv => (follows_truth hv).bind fun b _ => ?_
    split
    · exact follows_eval hruns r h.2
    · exact follows_pure hv
  | .either _ l r, h => by
    refine (follows_eval hruns l h.1).bind fun v hv => (follows_truth hv).bind fun b _ => ?_
    split
    · exact follows_pure hv
    · exact follows_eval hruns r h.2
  | .conditional _ test yes no, h => by
    refine (follows_eval hruns test h.1).bind fun v hv => (follows_truth hv).bind fun b _ => ?_
    split
    · exact follows_eval hruns yes h.2.1
    · exact follows_eval hruns no h.2.2
  | .member _ e _, h => (follows_eval hruns e h).bind fun _ hv => (follows_item hv _).atLine _
  | .item _ e key, h => (follows_eval hruns e h.1).bind fun _ hv => (follows_eval hruns key h.2).bind fun _ _ =>
      (follows_item hv _).atLine _
  | .slice _ e start stop step, h => (follows_eval hruns e h.1).bind fun _ hv =>
      (follows_eval hruns start h.2.1).bind fun _ _ => (follows_eval hruns stop h.2.2.1).bind fun _ _ =>
        (follows_eval hruns step h.2.2.2).bind fun _ _ => (follows_resolved hv).bind fun _ hw =>
          follows_ofExcept (Value.returns_slice hw _ _ _)
  | .filter _ e _ args, h => by
    have hargs := follows_gather (follows_evalPositional hruns args h.2) fun _ hg => follows_evalNamed hruns hg args h.2
    exact (follows_eval hruns e h.1).bind fun _ hv => hargs.bind fun _ hg =>
      (follows_applyFilter _ hv hg.arguments).atLine _
  | .test _ e _ args, h => by
    have hargs := follows_gather (follows_evalPositional hruns args h.2) fun _ hg => follows_evalNamed hruns hg args h.2
    refine (follows_eval hruns e h.1).bind fun v hv => hargs.bind fun g hg =>
      ((follows_applyTest _ hv hg.arguments).atLine _).bind fun passed hpassed => ?_
    split
    · exact follows_pure (Value.own_bool _)
    · exact follows_pure hpassed
  | .call _ c, h => (follows_evalCall hruns c h (by simp)).atLine _

/-- A chain of comparisons. -/
theorem follows_evalComparisons (hruns : FollowsRuns p run again) {v : Value} (hv : v.Own) : ∀ rest :
    List (BinaryOp × Expr), Expr.UsesComparisons p rest →
    Follows p (Expr.evalComparisons run again v rest) Value.Own
  | [], _ => follows_pure (Value.own_bool _)
  | (op, e) :: rest, h => by
    refine (follows_eval hruns e h.1).bind fun w hw => ((follows_applyBinary op hv hw).atLine _).bind fun u _ => ?_
    split
    · exact follows_evalComparisons hruns hw rest h.2
    · exact follows_pure (Value.own_bool _)

/-- Expressions that are evaluated from the left. -/
theorem follows_evalItems (hruns : FollowsRuns p run again) : ∀ es : List Expr, Expr.UsesItems p es →
    Follows p (Expr.evalItems run again es) fun vs => ∀ v ∈ vs, v.Own
  | [], _ => follows_pure (by simp)
  | e :: es, h => (follows_eval hruns e h.1).bind fun _ hv => (follows_evalItems hruns es h.2).bind fun _ hvs =>
      follows_pure (List.forall_mem_cons.2 ⟨hv, hvs⟩)

/-- Keys and values, which are evaluated from the left. -/
theorem follows_evalEntries (hruns : FollowsRuns p run again) :
    ∀ entries : List (Expr × Expr), Expr.UsesEntries p entries →
    Follows p (Expr.evalEntries run again entries) fun es => ∀ e ∈ es, e.1.Own ∧ e.2.Own
  | [], _ => follows_pure (by simp)
  | (k, e) :: entries, h => (follows_eval hruns k h.1.1).bind fun _ hk => (follows_eval hruns e h.1.2).bind fun _ hv =>
      (follows_evalEntries hruns entries h.2).bind fun _ hes => follows_pure (List.forall_mem_cons.2 ⟨⟨hk, hv⟩, hes⟩)

/-- A call with its arguments and the body that it may have. -/
theorem follows_evalCall (hruns : FollowsRuns p run again) :
    ∀ c : Call, c.Uses p → ∀ {caller? : Option Value}, (∀ v, caller? = some v → v.Own) →
    -- The cases follow the calls. Where a caller is given, it is one of the arguments.
    Follows p (c.eval run again caller?) Value.Own
  | .function _ args, h, _, hcaller => by
    have hargs := follows_gather (follows_evalPositional hruns args h.2) fun _ hg => follows_evalNamed hruns hg args h.2
    exact hargs.bind fun _ hg =>
      follows_callNamed hruns.blocks hruns.no_debug hruns.loops h.1 (hg.withCaller hcaller).arguments
  | .method e _ args, h, _, hcaller => by
    have hargs := follows_gather (follows_evalPositional hruns args h.2) fun _ hg => follows_evalNamed hruns hg args h.2
    exact (follows_eval hruns e h.1).bind fun _ hv => hargs.bind fun _ hg =>
      follows_callMethod hruns.blocks hv _ (hg.withCaller hcaller).arguments
  | .value e args, h, _, hcaller => by
    have hargs := follows_gather (follows_evalPositional hruns args h.2) fun _ hg => follows_evalNamed hruns hg args h.2
    exact (follows_eval hruns e h.1).bind fun _ hv => hargs.bind fun _ hg =>
      follows_call hruns.blocks hv (hg.withCaller hcaller).arguments
  | .block name, _, _, _ => follows_callBlock hruns.blocks name

/-- Arguments without a name. -/
theorem follows_evalPositional (hruns : FollowsRuns p run again) : ∀ args : List Argument, Argument.UsesAll p args →
    Follows p (Argument.evalPositional run again args) fun vs => ∀ v ∈ vs, v.Own
  | [], _ => follows_pure (by simp)
  | .positional e :: args, h => (follows_eval hruns e h.1).bind fun _ hv =>
      (follows_evalPositional hruns args h.2).bind fun _ hvs =>
      follows_pure (List.forall_mem_cons.2 ⟨hv, hvs⟩)
  | .spread e :: args, h => (follows_eval hruns e h.1).bind fun _ hv => (follows_spreadItems hv).bind fun _ hvs =>
      (follows_evalPositional hruns args h.2).bind fun _ hws => follows_pure (List.forall_mem_append.2 ⟨hvs, hws⟩)
  | .named _ _ :: args, h => follows_evalPositional hruns args h.2
  | .spreadNamed _ :: args, h => follows_evalPositional hruns args h.2

/-- Arguments with a name. -/
theorem follows_evalNamed (hruns : FollowsRuns p run again) {g : Gathered} (hg : g.Own) :
    ∀ args : List Argument, Argument.UsesAll p args →
    Follows p (Argument.evalNamed run again g args) Gathered.Own
  | [], _ => follows_pure hg
  | .named name e :: args, h => (follows_eval hruns e h.1).bind fun _ hv =>
      follows_evalNamed hruns (hg.name name hv) args h.2
  | .spreadNamed e :: args, h => (follows_eval hruns e h.1).bind fun _ hv =>
      (follows_spreadEntries hv).bind fun _ hes => follows_evalNamed hruns (hg.nameAll hes) args h.2
  | .positional _ :: args, h => follows_evalNamed hruns hg args h.2
  | .spread _ :: args, h => follows_evalNamed hruns hg args h.2

end

end Runner

/-! ### Statements -/

/-- A value that is written. -/
theorem follows_writeValue {v : Value} (hv : v.Own) : Follows p (writeValue v) fun _ => True := by
  refine fun m m' h => tracks_get_bind ?_
  rw [h.escaping]
  exact ((follows_resolved hv).bind fun _ _ => (follows_ofResult returns_any).bind fun _ _ => follows_write _) m m' h

/-- There is no template to extend. -/
theorem follows_extend (v : Value) : Follows p (extend v) fun _ => True := by
  intro m m' h a n ha
  -- Code of this kind cannot extend anything, since no other template is known.
  have hfails : Gives (extend v) m fun _ _ => False := by
    refine gives_get_bind ?_
    cases hname : v.text? with
    | none =>
      dsimp only
      rw [h.plain.parent?]
      exact gives_throw
    | some name =>
      dsimp -zeta only
      extract_lets found named
      -- No template is known by any name.
      have hfound (u : Unit) : Gives (found u) m fun _ _ => False := by
        simp only [found, h.plain.templates, List.lookup_nil]
        exact gives_throw
      rw [h.plain.parent?]
      simp only [named, Option.isSome_none, Bool.false_eq_true, if_false]
      split
      · exact (gives_throw (Q := fun _ _ => False)).bind fun _ _ h => h.elim
      · exact hfound ()
  exact (hfails a n ha).elim

/-- A macro that is made: it captures names that it uses, which satisfy `p`. -/
theorem follows_makeDefinition (hdebug : ¬ p "debug") (name : String) {params : List Param} {body : List Statement}
    (hparams : ∀ x ∈ params, x.Uses p) (hbody : Statement.UsesAll p body) :
    Follows p (makeDefinition name params body) Value.Own := by
  -- Names that are free in a definition are used by it, apart from the caller that is handed in.
  have hfree : ∀ name ∈ (Param.free params body).filter (· != "caller"), p name := fun name hname =>
    Param.uses_free hparams hbody name (List.mem_filter.1 hname).1
  refine fun m m' h => tracks_get_bind ?_
  obtain ⟨henclosed, hclosure, hr⟩ := h.enclose hdebug hfree
  dsimp only
  rw [hclosure, henclosed.nextRef, henclosed.template]
  refine Tracks.bind (tracks_modify (henclosed.keep ?_)) fun _ n n' hn _ => tracks_pure hn ?_
  · exact ⟨hparams, hbody, hr⟩
  · exact Value.own_ofDefinition henclosed.inserted_nextRef

section Runner

variable {run : Runner} (hrun : ∀ xs, Statement.UsesAll p xs → Follows p (run xs) fun _ => True) (hdebug : ¬ p "debug")

section Target

variable {again : LoopCaller}

mutual

/-- A value that is given to a target. -/
theorem follows_assign (hruns : FollowsRuns p run again) : ∀ target : Target, target.Uses p → ∀ {v : Value}, v.Own →
    Follows p (target.assign run again v) fun _ => True
  | .name name, _, _, hv => follows_store name hv
  | .entry _ record _, h, _, hv => by
    -- Only a record has entries that can be assigned to.
    refine (follows_eval hruns record h).bind fun w hw => ?_
    split
    · exact follows_modify fun _ _ h => h.changeRecord (Value.own_object.1 hw).1 fun _ hnames => own_names_put hnames hv
    · exact follows_fail.atLine _
  | .tuple _ targets, h, v, hv => by
    refine (follows_resolved hv).bind fun w hw => Follows.bind (P := fun items => ∀ u ∈ items, u.Own)
      (Follows.atLine ?_ _) fun items hitems => follows_assignAll hruns targets h hitems
    -- What is unpacked are the items of a list, a mapping or an object.
    unfold Target.assign.unpack
    extract_lets items?
    have hitems : ∀ items, items? = some items → ∀ u ∈ items, u.Own := by
      intro items h
      dsimp only [items?] at h
      refine Value.own_items? hw ?_
      cases w with
      | list | map | object => exact h
      | _ => cases h
    clear_value items?
    split
    · exact follows_fail
    · rename_i items
      split
      · exact follows_pure (hitems items rfl)
      · exact follows_fail

/-- The parts of a value that are given to the parts of a target. -/
theorem follows_assignAll (hruns : FollowsRuns p run again) :
    ∀ targets : List Target, Target.UsesAll p targets → ∀ {values : List Value},
    (∀ v ∈ values, v.Own) → Follows p (Target.assignAll run again targets values) fun _ => True
  | [], _, _, _ => follows_pure trivial
  | _ :: _, _, [], _ => follows_pure trivial
  | t :: targets, h, v :: values, hvalues => by
    obtain ⟨hv, hvalues⟩ := List.forall_mem_cons.1 hvalues
    exact (follows_assign hruns t h.1 hv).bind fun _ _ => follows_assignAll hruns targets h.2 hvalues

end

end Target

include hrun hdebug

/-- A loop that calls itself for the values inside of its values. -/
theorem follows_again (r? : Option Ref) {v : Value} (hv : v.Own) : Follows p (Eval.again run r? v) Value.Own := by
  refine fun m m' h => tracks_get_bind ?_
  -- The loops of the scopes are the same on both sides, in the same order.
  have hloops (m : Machine) : m.scopes.filterMap (·.loop?) = (m.scopes.map (·.loop?)).filterMap id := by
    rw [List.filterMap_map]
    rfl
  dsimp only
  rw [hloops m', h.loops, ← hloops m]
  split
  · exact tracks_throw
  · rename_i l hl
    obtain ⟨s, hs, hsl⟩ := List.mem_filterMap.1 (List.mem_of_find?_eq_some hl)
    have hplain := (h.plain.scopes s hs).loop? l hsl
    split
    · exact tracks_throw
    · rename_i target body hrecursion
      -- The loop keeps its target and its body, which do not use the names either.
      obtain ⟨htarget, hbody⟩ := hplain.recursion? target body hrecursion
      refine ((follows_resolved hv).bind fun w hw =>
        Follows.bind (Follows.captured (follows_runLoop ?_ hw fun item hitem => ?_))
        fun r _ => follows_outputValue r.2) m m' h
      · rintro target body ⟨⟩
        exact ⟨htarget, hbody⟩
      · exact (follows_assign ⟨hdebug, hrun, fun _ _ _ => follows_fail⟩ target htarget hitem).bind fun _ _ =>
        hrun body hbody

/-- Both ways of running code run alike. -/
theorem follows_runs : FollowsRuns p run (Eval.again run) :=
  ⟨hdebug, hrun, fun r? _ hv => follows_again hrun hdebug r? hv⟩

/-- An expression, whatever it calls. -/
theorem follows_evalExpr {e : Expr} (h : e.Uses p) : Follows p (eval run e) Value.Own :=
  follows_eval (follows_runs hrun hdebug) e h

/-- A value that is given to a target, whatever this calls. -/
theorem follows_assignTo {target : Target} (h : target.Uses p) {v : Value} (hv : v.Own) :
    Follows p (assignTo run target v) fun _ => True :=
  follows_assign (follows_runs hrun hdebug) target h hv

/-- The items of a loop that satisfy its condition. -/
theorem follows_filterItems {target : Target} (htarget : target.Uses p) {condition : Expr}
    (hcondition : condition.Uses p)
    {items : List Value} (hitems : ∀ v ∈ items, v.Own) :
    Follows p (filterItems run target condition items) fun vs => ∀ v ∈ vs, v.Own := by
  refine fun m m' h => tracks_get_bind ?_
  rw [loopDepth_eq h, h.nextRef]
  have hstate : (Cell.loop ⟨items.toArray, some items.length, 0, loopDepth m, none⟩).Plain p := fun i w hw =>
    hitems w (List.mem_of_getElem? (by simpa using hw))
  -- The scope of the loop binds no names of its own; it is left again behind the last item.
  have hscope := Scope.plain_ofLoop (p := p) h.inserted_nextRef false none (by simp)
  refine ((follows_keep hstate).bind fun _ _ => Follows.within ((follows_filterM fun item hitem => ?_).imp
    fun vs hvs v hv => hitems v (hvs v hv)) hscope) m m' h
  exact (follows_assignTo hrun hdebug htarget (hitems item hitem)).bind fun _ _ =>
    (follows_evalExpr hrun hdebug hcondition).bind fun _ hv => follows_truth hv

/-- Filters one behind the other. -/
theorem follows_applyFilters : ∀ {filters : List FilterCall}, (∀ f ∈ filters, f.Uses p) → ∀ {v : Value}, v.Own →
    Follows p (applyFilters run filters v) Value.Own
  | [], _, _, hv => follows_pure hv
  | f :: filters, h, v, hv => by
    obtain ⟨hf, hfilters⟩ := List.forall_mem_cons.1 h
    have hruns := follows_runs hrun hdebug
    have hargs := follows_gather (follows_evalPositional hruns f.args hf)
      fun _ hg => follows_evalNamed hruns hg f.args hf
    exact hargs.bind fun _ hg => ((follows_applyFilter f.name hv hg.arguments).atLine _).bind fun _ hw =>
      follows_applyFilters hfilters hw

omit hrun hdebug

mutual

/-- **Statements run alike.** The cases follow the statement; those that name another template do not occur. -/
theorem follows_exec (hrun : ∀ xs, Statement.UsesAll p xs → Follows p (run xs) fun _ => True)
    (hdebug : ¬ p "debug") : ∀ x : Statement, x.Uses p → Follows p (x.exec run) fun _ => True
  -- The cases follow the statements.
  | .text s, _ => (follows_write s).bind fun _ _ => follows_pure trivial
  | .emit _, h => (follows_evalExpr hrun hdebug h).bind fun _ hv => ((follows_writeValue hv).atLine _).bind fun _ _ =>
      follows_pure trivial
  | .loop target source condition? recursive body otherwise, h => by
    obtain ⟨⟨htarget, hsource, hcondition⟩, hbody, hotherwise⟩ := h
    rw [Statement.exec]
    refine (follows_evalExpr hrun hdebug hsource).bind fun v hv => (follows_resolved hv).bind fun v hv => ?_
    -- A recursive loop keeps its target and its body for the calls in it.
    extract_lets recursion? looped
    have hrecursion : ∀ target body, recursion? = some (target, body) → target.Uses p ∧ Statement.UsesAll p body := by
      intro target body heq
      dsimp only [recursion?] at heq
      split at heq
      · cases heq
        exact ⟨htarget, hbody⟩
      · cases heq
    have hlooped {v : Value} (hv : v.Own) : Follows p (looped v) fun _ => True := by
      refine Follows.bind ((follows_runLoop hrecursion hv fun item hitem =>
        (follows_assignTo hrun hdebug htarget hitem).bind fun _ _ => follows_execAll hrun hdebug body hbody).atLine _)
          fun unused _ => ?_
      split
      · exact follows_execAll hrun hdebug otherwise hotherwise
      · exact follows_pure trivial
    -- With a condition, the items are filtered first.
    split
    · exact (follows_pure hv).bind fun _ hv => hlooped hv
    · rename_i condition
      exact (follows_ofExcept (Value.returns_items hv)).bind fun items hitems =>
        (follows_filterItems hrun hdebug htarget (hcondition condition rfl) hitems).bind fun _ hvs =>
          (follows_pure (Value.own_sequence.2 hvs)).bind fun _ hv => hlooped hv
  | .branch test yes no, h => by
    refine (follows_evalExpr hrun hdebug h.1).bind fun v hv => (follows_truth hv).bind fun b _ => ?_
    split
    · exact follows_execAll hrun hdebug yes h.2.1
    · exact follows_execAll hrun hdebug no h.2.2
  | .bindings line entries body, h => by
    refine (Follows.within (Follows.bind (follows_forIn fun x hx => ?_) fun _ _ => follows_execAll hrun hdebug body h.2)
      Scope.plain_empty).atLine _
    exact (follows_evalExpr hrun hdebug (h.1 x hx).2).bind fun _ hv =>
      (follows_assignTo hrun hdebug (h.1 x hx).1 hv).bind
      fun _ _ => follows_pure trivial
  | .assign _ _, h => (follows_evalExpr hrun hdebug h.2).bind fun _ hv =>
      (follows_assignTo hrun hdebug h.1 hv).bind fun _ _ =>
      follows_pure trivial
  | .capture _ _ body, h => Follows.bind (follows_execAll hrun hdebug body h.2).captured fun r _ =>
      (follows_outputValue r.2).bind fun _ hv =>
      (follows_applyFilters hrun hdebug h.1.2 hv).bind fun _ hv =>
        (follows_assignTo hrun hdebug h.1.1 hv).bind fun _ _ =>
        follows_pure trivial
  | .escaping _ body, h => by
    -- The mode that is given up is the same on both sides.
    refine (follows_evalExpr hrun hdebug h.1).bind fun v _ m m' hm => tracks_get_bind ?_
    rw [hm.firstEscaping]
    exact ((follows_ofExcept returns_any).bind fun mode _ =>
      (follows_execAll hrun hdebug body h.2).escapingAs mode) m m' hm
  | .filtered _ body, h => Follows.bind (follows_execAll hrun hdebug body h.2).captured fun r _ =>
      (follows_outputValue r.2).bind fun _ hv =>
      (follows_applyFilters hrun hdebug h.1 hv).bind fun _ hv =>
        (follows_writeValue hv).bind fun _ _ => follows_pure trivial
  | .block line name, _ => by
    -- There is no parent, so a block is written where it stands.
    refine fun m m' h => tracks_get_bind ?_
    rw [h.parent?, h.plain.parent?, h.discarding]
    refine (?_ : Follows p _ fun _ => True) m m' h
    dsimp only
    split
    · exact ((follows_runVersion hrun name).atLine _).bind fun _ _ => follows_pure trivial
    · exact follows_pure trivial
  | .required _ _, _ => follows_fail.atLine _
  | .parent _, h => (follows_evalExpr hrun hdebug h).bind fun _ _ => ((follows_extend _).atLine _).bind fun _ _ =>
      follows_pure trivial
  | .define name _ _, h => (follows_makeDefinition hdebug _ h.1 h.2).bind fun _ hv =>
      (follows_store name hv).bind fun _ _ =>
      follows_pure trivial
  | .callWith _ c _ _, h => (follows_makeDefinition hdebug _ h.2.1 h.2.2).bind fun _ hcaller =>
      ((follows_evalCall (follows_runs hrun hdebug) c h.1
        fun _ heq => by cases heq; exact hcaller).atLine _).bind fun _ hv => (follows_writeValue hv).bind fun _ _ =>
          follows_pure trivial
  | .perform _ c, h =>
      ((follows_evalCall (follows_runs hrun hdebug) c h (by simp)).atLine _).bind
      fun _ _ => follows_pure trivial
  | .leave, _ => follows_pure trivial
  | .next, _ => follows_pure trivial

/-- Statements one behind the other. -/
theorem follows_execAll (hrun : ∀ xs, Statement.UsesAll p xs → Follows p (run xs) fun _ => True)
    (hdebug : ¬ p "debug") : ∀ xs :
    List Statement, Statement.UsesAll p xs → Follows p (Statement.execAll run xs) fun _ => True
  | [], _ => follows_pure trivial
  | x :: xs, h => by
    refine (follows_exec hrun hdebug x h.1).bind fun flow _ => ?_
    split
    · exact follows_execAll hrun hdebug xs h.2
    · exact follows_pure trivial

end

end Runner

/-- **Code.** Statements that use none but names that satisfy `p` change both machines alike. -/
theorem follows_runWithin (hdebug : ¬ p "debug") : ∀ (n : Nat) (xs : List Statement), Statement.UsesAll p xs →
    Follows p (runWithin n xs) fun _ => True
  | 0, _, _ => fun _ _ _ _ _ h => by cases h
  | n + 1, xs, h => follows_execAll (follows_runWithin hdebug n) hdebug xs h

end Eval

end Scaffold.Template
