import Scaffold.Proofs.Template.Shadow
import Scaffold.Template.Calling

namespace Scaffold.Template

/-!
# Steps that run alike in machines that look alike

What code does that sees nothing of other templates: it succeeds in `m'` whenever it does in `m`, with the same
value, if `m'` is `m` but for what the code cannot see.

* `Eval.Follows p x P` — the step `x` does so, and its value satisfies `P`;
* `follows_call`, `follows_callMethod`, `follows_runLoop`, `follows_callSuper` — so do calls, loops and blocks.
-/

variable {p : String → Prop}

/-- What decides whether a machine is plain. -/
def Machine.plainParts (m : Machine) :=
  (m.templates, m.insertedCells, m.isInserted, m.parent?, m.scopes, m.cells, m.blocks)

namespace Shadow

variable {m m' : Machine}

/-- A change of what is written, how, and where code fails. -/
theorem settings (h : Shadow p m m') {f : Machine → Machine} (hf : ∀ m, (f m).plainParts = m.plainParts)
    (hover : ∀ templates insertedCells scopes, f (m.over templates insertedCells scopes) =
      (f m).over templates insertedCells scopes) : Shadow p (f m) (f m') := by
  -- Only the parts that a shadow speaks of matter, and `f` leaves all of them.
  have hparts := hf m
  simp only [Machine.plainParts, Prod.mk.injEq] at hparts
  obtain ⟨htemplates, hinsertedCells, hisInserted, hparent, hscopes, hcells, hblocks⟩ := hparts
  refine h.of_over (fun hm => ?_) hscopes hover
  exact ⟨htemplates ▸ hm.templates, hinsertedCells ▸ hm.insertedCells, hisInserted ▸ hm.isInserted,
    hparent ▸ hm.parent?,
    hscopes ▸ hm.scopes, hcells ▸ hm.cells, hblocks ▸ hm.blocks⟩

/-! ### Equal parts -/

/-- Both machines are equal in what does not depend on their templates, their own texts and their variables. -/
theorem eq_beside {γ : Type} {f : Machine → γ} (h : Shadow p m m')
    (hf : ∀ templates insertedCells scopes, f (m.over templates insertedCells scopes) = f m) : f m' = f m := by
  obtain ⟨_, _, _, _, _, rfl⟩ := h
  exact hf _ _ _

/-- Both machines have written the same. -/
theorem out (h : Shadow p m m') : m'.out = m.out := h.eq_beside fun _ _ _ => rfl

/-- Output is thrown away in both machines or in none. -/
theorem discarding (h : Shadow p m m') : m'.discarding = m.discarding := h.eq_beside fun _ _ _ => rfl

/-- Both machines escape alike. -/
theorem escaping (h : Shadow p m m') : m'.escaping = m.escaping := h.eq_beside fun _ _ _ => rfl

/-- Both templates started with the same escaping. -/
theorem firstEscaping (h : Shadow p m m') : m'.firstEscaping = m.firstEscaping := h.eq_beside fun _ _ _ => rfl

/-- Both machines run the same template. -/
theorem template (h : Shadow p m m') : m'.template = m.template := h.eq_beside fun _ _ _ => rfl

/-- Both machines know the same blocks. -/
theorem blocks (h : Shadow p m m') : m'.blocks = m.blocks := h.eq_beside fun _ _ _ => rfl

/-- Both machines run the same block. -/
theorem block? (h : Shadow p m m') : m'.block? = m.block? := h.eq_beside fun _ _ _ => rfl

/-- No template is extended in either machine. -/
theorem parent? (h : Shadow p m m') : m'.parent? = none := by
  obtain ⟨hm, _, _, _, _, rfl⟩ := h
  exact hm.parent?

end Shadow

namespace Eval

variable {α β : Type}

variable (p) in
/-- In machines that look alike, `x` succeeds in both if in the first, with the same value, which satisfies `P`. -/
def Follows (x : Eval α) (P : α → Prop) : Prop := ∀ m m', Shadow p m m' → Tracks (Shadow p) x m x m' P

variable {x : Eval α} {P : α → Prop} {Q : β → Prop}

/-- A value that satisfies `P`. -/
theorem follows_pure {a : α} (ha : P a) : Follows p (pure a) P := fun _ _ h => tracks_pure h ha

/-- A fault in the plain machine says nothing about the other one. -/
theorem follows_fail {fault : Fault} : Follows p (fail fault : Eval α) P := fun _ _ _ => tracks_throw

/-- One step behind the other. -/
theorem Follows.bind {f : α → Eval β} (h : Follows p x P) (hf : ∀ a, P a → Follows p (f a) Q) : Follows p (x >>= f) Q :=
  fun m m' hm => (h m m' hm).bind fun a n n' hn ha => hf a ha n n' hn

/-- What follows from the property of a value is one of its properties. -/
theorem Follows.imp {P' : α → Prop} (h : Follows p x P) (hP : ∀ a, P a → P' a) : Follows p x P' :=
  fun m m' hm => (h m m' hm).imp hP

/-- A change of both machines, behind which they look alike again. -/
theorem follows_modify {f : Machine → Machine} (h : ∀ m m', Shadow p m m' → Shadow p (f m) (f m')) :
    Follows p (modify f : Eval PUnit) fun _ => True :=
  fun m m' hm => tracks_modify (h m m' hm)

/-- A result that is known already. -/
theorem follows_ofResult {x : Except Fault α} (h : Returns x P) : Follows p (ofResult x) P := by
  cases x with
  | error fault => exact follows_fail
  | ok a => exact follows_pure (returns_ok.1 h)

/-- A result that is known already, whose fault gets a line. -/
theorem follows_ofExcept {line : Nat} {x : Except Fault α} (h : Returns x P) : Follows p (ofExcept line x) P := by
  intro m m' hm a n ha
  cases x with
  | error fault => cases ha
  | ok b =>
    cases ha
    exact ⟨m', rfl, hm, returns_ok.1 h⟩

/-- The line of a fault does not matter to a step that succeeds. -/
theorem tracks_atLine {R : Machine → Machine → Prop} {m n : Machine} {line : Nat} (h : Tracks R x m x n P) :
    Tracks R (atLine line x) m (atLine line x) n P := by
  intro a k ha
  unfold Eval.atLine at ha
  split at ha
  · rename_i r hr
    cases ha
    obtain ⟨l, hl, hR, hP⟩ := h a k hr
    exact ⟨l, by simp only [Eval.atLine, hl], hR, hP⟩
  · cases ha

/-- A step whose fault gets a line. -/
theorem Follows.atLine (h : Follows p x P) (line : Nat) : Follows p (atLine line x) P :=
  fun m m' hm => tracks_atLine (h m m' hm)

/-- A step whose fault is put in place of another. -/
theorem Follows.summarized (h : Follows p x P) (fault : Fault) : Follows p (summarized fault x) P := by
  intro m m' hm a n ha
  unfold Eval.summarized at ha
  split at ha
  · rename_i r hr
    cases ha
    obtain ⟨n', hn', hn, hP⟩ := h m m' hm a n hr
    exact ⟨n', by simp only [Eval.summarized, hn'], hn, hP⟩
  · cases ha

/-- What passes a condition is part of what there was. -/
theorem follows_filterM {f : α → Eval Bool} {xs : List α} (h : ∀ a ∈ xs, Follows p (f a) fun _ => True) :
    Follows p (xs.filterM f) fun ys => ∀ y ∈ ys, y ∈ xs := by
  -- The list is filtered by a loop that collects what it keeps in reverse.
  have haux (xs acc : List α) (h : ∀ a ∈ xs, Follows p (f a) fun _ => True) :
      Follows p (List.filterAuxM f xs acc) fun ys => ∀ y ∈ ys, y ∈ xs ∨ y ∈ acc := by
    induction xs generalizing acc with
    | nil => exact follows_pure fun y hy => .inr hy
    | cons a xs ih =>
      obtain ⟨ha, hxs⟩ := List.forall_mem_cons.1 h
      refine ha.bind fun b _ => (ih _ hxs).imp fun ys hys y hy => ?_
      rcases hys y hy with hy | hy
      · exact .inl (List.mem_cons_of_mem _ hy)
      · cases b with
        | false => exact .inr hy
        | true =>
          rcases List.mem_cons.1 hy with rfl | hy
          · exact .inl List.mem_cons_self
          · exact .inr hy
  refine (haux xs [] h).bind fun ys hys => follows_pure fun y hy => ?_
  exact (hys y (List.mem_reverse.1 hy)).resolve_right (by simp)

/-- A loop over values. -/
theorem follows_forIn {f : α → PUnit → Eval (ForInStep PUnit)} {xs : List α}
    (h : ∀ a ∈ xs, Follows p (f a ⟨⟩) fun _ => True) : Follows p (forIn xs PUnit.unit f) fun _ => True := by
  induction xs with
  | nil => exact follows_pure trivial
  | cons a xs ih =>
    obtain ⟨ha, hxs⟩ := List.forall_mem_cons.1 h
    rw [List.forIn_cons]
    refine ha.bind fun step _ => ?_
    split
    · exact follows_pure trivial
    · exact ih hxs

/-! ### Values and output -/

/-- What a value refers to. -/
theorem follows_resolved {v : Value} (hv : v.Own) : Follows p (resolved v) Value.Own := by
  refine fun m m' h => tracks_get_bind ?_
  rw [h.resolve hv]
  exact tracks_pure h (h.plain.own_resolve hv)

/-- Whether a value counts as true. -/
theorem follows_truth {v : Value} (hv : v.Own) : Follows p (truth v) fun _ => True :=
  (follows_resolved hv).bind fun _ _ => follows_pure trivial

/-- Text that is written. -/
theorem follows_write (s : String) : Follows p (write s) fun _ => True :=
  follows_modify fun _ _ h => h.settings (f := fun m => { m with out := m.out ++ s }) (fun _ => rfl) fun _ _ _ => rfl

/-- A text with the marks of its escaping. -/
theorem follows_outputValue (s : String) : Follows p (outputValue s) Value.Own := by
  refine fun m m' h => tracks_get_bind ?_
  rw [h.escaping]
  exact tracks_pure h (Value.own_string _ _)

/-- The depth of the nesting, which is the same in both machines. -/
theorem follows_checkDepth : Follows p checkDepth fun _ => True := by
  refine fun m m' h => tracks_get_bind ?_
  rw [h.depth]
  split
  · exact tracks_throw
  · exact tracks_pure h trivial

/-- A name that is stored. -/
theorem follows_store (name : String) {value : Value} (hvalue : value.Own) :
    Follows p (store name value) fun _ => True :=
  follows_modify fun _ _ h => h.store name hvalue

/-- A cell that is made. -/
theorem follows_keep {c : Cell} (hc : c.Plain p) : Follows p (modify (·.keep c) : Eval PUnit) fun _ => True :=
  follows_modify fun _ _ h => h.keep hc

/-- A loop whose round is counted. -/
theorem follows_changeLoop {r : Ref} (hr : r.inserted = false) {f : LoopState → LoopState}
    (hf : ∀ l, (f l).items = l.items) : Follows p (modify (·.changeLoop r f) : Eval PUnit) fun _ => True :=
  follows_modify fun _ _ h => h.changeLoop hr hf

/-- A step with an output of its own. -/
theorem Follows.withOutput (h : Follows p x P) (discarding : Bool) :
    Follows p (withOutput discarding x) fun r => P r.1 := by
  -- Changing the output is done to both machines alike.
  have hchange (out : String) (discarding : Bool) {m m' : Machine} (h : Shadow p m m') :
      Shadow p { m with out := out, discarding := discarding } { m' with out := out, discarding := discarding } :=
    h.settings (f := fun m => { m with out := out, discarding := discarding }) (fun _ => rfl) fun _ _ _ => rfl
  refine fun m m' hm => tracks_get_bind (tracks_get_bind ?_)
  rw [hm.out, hm.discarding]
  refine (tracks_modify (hchange "" discarding hm)).bind fun _ n n' hn _ => (h n n' hn).bind fun a k k' hk ha =>
    tracks_get_bind ?_
  rw [hk.out]
  exact (tracks_modify (hchange _ _ hk)).bind fun _ _ _ hl _ => tracks_pure hl ha

/-- A step whose output is its value. -/
theorem Follows.captured (h : Follows p x P) : Follows p (captured x) fun r => P r.1 := h.withOutput false

/-- A step with another escaping. -/
theorem Follows.escapingAs (h : Follows p x P) (mode : Escaping) : Follows p (escapingAs mode x) P := by
  -- Changing the escaping is done to both machines alike.
  have hchange (mode : Escaping) {m m' : Machine} (h : Shadow p m m') :
      Shadow p { m with escaping := mode } { m' with escaping := mode } :=
    h.settings (f := fun m => { m with escaping := mode }) (fun _ => rfl) fun _ _ _ => rfl
  refine fun m m' hm => tracks_get_bind ?_
  rw [hm.escaping]
  exact (tracks_modify (hchange mode hm)).bind fun _ n n' hn _ => (h n n' hn).bind fun a k k' hk ha =>
    (tracks_modify (hchange _ hk)).bind fun _ _ _ hl _ => tracks_pure hl ha

/-- A step in a scope of its own, which is gone behind it. -/
theorem Follows.within (h : Follows p x P) {s : Scope} (hs : s.Plain p) : Follows p (within s x) P := by
  -- The scope is put on both machines, and taken off again.
  have hpush {m m' : Machine} (h : Shadow p m m') :
      Shadow p { m with scopes := s :: m.scopes } { m' with scopes := s :: m'.scopes } :=
    h.withScopes (List.forall_mem_cons.2 ⟨hs, h.plain.scopes⟩) (.cons (.refl s) h.scopes)
  have hpop {m m' : Machine} (h : Shadow p m m') :
      Shadow p { m with scopes := m.scopes.tail } { m' with scopes := m'.scopes.tail } := by
    refine h.withScopes (fun s hs => h.plain.scopes s (List.mem_of_mem_tail hs)) ?_
    have hscopes := h.scopes
    revert hscopes
    generalize m.scopes = ss, m'.scopes = ss'
    rintro (_ | ⟨_, h⟩)
    · exact .nil
    · exact h
  exact (follows_modify fun _ _ h => hpush h).bind fun _ _ => follows_checkDepth.bind fun _ _ => h.bind fun a ha =>
    (follows_modify fun _ _ h => hpop h).bind fun _ _ => follows_pure ha

/-- Code that runs apart sees nothing of the scopes around its caller. -/
theorem Follows.apart (h : Follows p x P) {s : Scope} (hs : s.Plain p) (template : String) :
    Follows p (apart s template x) fun r => P r.1 := by
  intro m m' hm
  refine tracks_get_bind ?_
  have hdepth := hm.depth
  have hescaping := hm.escaping
  have hfirst := hm.firstEscaping
  obtain ⟨hm, templates, insertedCells, scopes, hss, rfl⟩ := hm
  refine (tracks_modify ?_).bind fun _ n n' hn _ => (follows_checkDepth n n' hn).bind fun _ k k' hk _ =>
    (h k k' hk).bind fun a l l' hl ha => tracks_get_bind ?_
  -- Both machines start with the one scope, and nothing else that they could differ in.
  · rw [hdepth]
    exact ⟨⟨hm.templates, hm.insertedCells, hm.isInserted, rfl, by simpa using hs, hm.cells, by simp⟩, templates,
      insertedCells, [s], .cons (.refl s) .nil, rfl⟩
  -- What was written is taken along; everything else is as it was before.
  · rw [hl.out]
    obtain ⟨hl, templates, insertedCells, _, _, rfl⟩ := hl
    refine (tracks_modify ?_).bind fun _ _ _ hu _ => tracks_pure hu ha
    exact ⟨⟨hl.templates, hl.insertedCells, hl.isInserted, hm.parent?, hm.scopes, hl.cells, hm.blocks⟩, templates,
      insertedCells, scopes, hss, rfl⟩

/-! ### Entries and functions -/

/-- One item of a value. -/
theorem follows_item {v : Value} (hv : v.Own) (key : Value) : Follows p (item v key) Value.Own := by
  refine fun m m' h => tracks_get_bind ?_
  rw [h.refreshed hv]
  have hitem := Value.returns_item (h.plain.own_refreshed hv) key
  -- The part that is found is of one's own, as the value is.
  split
  · rename_i w hw
    exact tracks_pure h (hitem w hw)
  · exact tracks_throw

/-- The arguments of a call, with what they refer to. -/
theorem follows_resolvedArguments {args : Arguments} (hargs : args.Own) :
    Follows p (resolvedArguments args) Arguments.Own := by
  refine fun m m' h => tracks_get_bind ?_
  -- A value of one's own stands for the same on both sides.
  have hpositional : args.positional.map m'.resolve = args.positional.map m.resolve :=
    List.map_congr_left fun v hv => h.resolve (hargs.positional v hv)
  have hnamed : args.named?.map (·.map fun e => (e.1, m'.resolve e.2)) =
      args.named?.map (·.map fun e => (e.1, m.resolve e.2)) := by
    cases hnamed : args.named? with
    | none => rfl
    | some named =>
      refine congrArg some (List.map_congr_left fun e he => ?_)
      exact congrArg (Prod.mk e.1) (h.resolve (hargs.named e (by rwa [hnamed])))
  rw [hpositional, hnamed]
  -- What is resolved is of one's own, since what was given was.
  refine tracks_pure h ⟨fun v hv => ?_, fun e he => ?_⟩
  · obtain ⟨w, hw, rfl⟩ := List.mem_map.1 hv
    exact h.plain.own_resolve (hargs.positional w hw)
  · cases hnamed : args.named? with
    | none =>
      rw [hnamed] at he
      cases he
    | some named =>
      rw [hnamed] at he
      obtain ⟨x, hx, rfl⟩ := List.mem_map.1 he
      exact h.plain.own_resolve (hargs.named x (by rwa [hnamed]))

/-- A range is a list of numbers. -/
theorem returns_range {args : Arguments} (hargs : args.Own) : Returns (range args) Value.Own := by
  refine Parameters.Takes.run ?_ hargs
  refine Parameters.takes_value.bind fun one _ => Parameters.takes_any.bind fun first _ =>
    Parameters.takes_optional_any.bind fun two? _ => Parameters.takes_optional_any.bind fun step? _ => ?_
  extract_lets step
  split
  rename_i first last _
  extract_lets count numbers counted
  -- A range is refused with a step of zero or when it is too long; otherwise it is a list of numbers.
  have hnumbers (u : Unit) : Parameters.Takes (numbers u) Value.Own := Parameters.takes_pure (by simp)
  have hcounted (u : Unit) : Parameters.Takes (counted u) Value.Own := by
    dsimp only [counted]
    split
    · exact (Parameters.takes_throw (P := fun _ => True)).bind fun u _ => hnumbers u
    · exact hnumbers ()
  split
  · exact (Parameters.takes_throw (P := fun _ => True)).bind fun u _ => hcounted u
  · exact hcounted ()

/-- The mapping that is made of arguments. -/
theorem returns_dict {args : Arguments} (hargs : args.Own) : Returns (dict args) Value.Own := by
  refine Parameters.Takes.run ?_ hargs
  refine Parameters.takes_namedArguments.bind fun named hnamed => Parameters.takes_next?.bind fun v? hv => ?_
  extract_lets built
  -- Named arguments are put behind the entries of the value.
  have hbuilt (entries : List (Value × Value)) (hentries : ∀ e ∈ entries, e.1.Own ∧ e.2.Own) :
      Parameters.Takes (built entries) Value.Own := by
    refine Parameters.takes_pure (Value.own_map.2 (Value.own_putAll hentries fun e he => ?_))
    obtain ⟨x, hx, rfl⟩ := List.mem_map.1 he
    exact ⟨Value.own_text _, hnamed x hx⟩
  split
  · exact (Parameters.takes_pure (by simp)).bind hbuilt
  · exact (Parameters.takes_pure (by simp)).bind hbuilt
  · exact (Parameters.takes_pure (by simp)).bind hbuilt
  · rename_i v _ _
    split
    · rename_i entries hentries
      exact (Parameters.takes_pure (Value.own_putAll (by simp) (Value.own_entries? (hv v rfl) hentries))).bind hbuilt
    · exact Parameters.takes_throw.bind hbuilt

/-- The entries of a map that have texts for keys. -/
theorem own_namedEntries {v : Value} (hv : v.Own) {entries : List (Value × Value)} (h : v.entries? = some entries) :
    ∀ e ∈ entries.filterMap fun (k, w) => k.text?.map fun name => (name, w), e.2.Own := by
  intro e he
  obtain ⟨x, hx, he⟩ := List.mem_filterMap.1 he
  obtain ⟨name, -, rfl⟩ := Option.map_eq_some_iff.1 he
  exact (Value.own_entries? hv h x hx).2

/-- The entries that a namespace starts with. -/
theorem returns_recordEntries {args : Arguments} (hargs : args.Own) :
    Returns (recordEntries args) fun entries => ∀ e ∈ entries, e.2.Own := by
  refine Parameters.Takes.run (Parameters.takes_next?.bind fun v? hv => ?_) hargs
  -- A namespace starts empty, or with the entries of a mapping.
  split
  · exact Parameters.takes_pure (by simp)
  · exact Parameters.takes_pure (by simp)
  · exact Parameters.takes_pure (by simp)
  · rename_i v _ _
    split
    · rename_i entries hentries
      exact Parameters.takes_pure (own_namedEntries (hv v rfl) hentries)
    · exact Parameters.takes_throw

/-- Functions that are there from the start. One of them shows the machine, other templates included. -/
theorem follows_callBuiltin {f : Builtin} (hf : f ≠ .debug) {args : Arguments} (hargs : args.Own) :
    Follows p (callBuiltin f args) Value.Own := by
  refine (follows_resolvedArguments hargs).bind fun args hargs => ?_
  -- `debug` would show everything that the machine has.
  cases f with
  | range => exact follows_ofResult (returns_range hargs)
  | dict => exact follows_ofResult (returns_dict hargs)
  | namespaces =>
    refine (follows_ofResult (returns_recordEntries hargs)).bind fun entries hentries m m' h => tracks_get_bind ?_
    rw [h.nextRef]
    refine (follows_keep (c := .record entries) hentries m m' h).bind fun _ n n' hn _ => tracks_get_bind ?_
    -- The new record has the same place in both machines.
    have hrecord : (Value.object (.record m.nextRef) []).Own := Value.own_object.2 ⟨h.inserted_nextRef, by simp⟩
    rw [hn.refreshed hrecord]
    exact tracks_pure hn (hn.plain.own_refreshed hrecord)
  | debug => exact absurd rfl hf

/-! ### Definitions -/

/-- The value for a parameter. -/
theorem returns_parameterValue {args : Arguments} (hargs : args.Own) (i : Nat) (name : String) :
    Returns (parameterValue args i name) Value.Own := by
  unfold parameterValue
  -- The value is given by position or by name, or it is undefined; both ways at once are refused.
  split
  · exact returns_error
  · rename_i v hv _
    exact returns_ok.2 (hargs.positional v (List.mem_of_getElem? hv))
  · rename_i v _ hv
    exact returns_ok.2 (Value.own_of_lookup hargs.named hv)
  · exact returns_ok.2 Value.own_undefined

/-- The values for all parameters; the induction is on the parameters. -/
theorem returns_parameterValues {s : Signature} {args : Arguments} (hargs : args.Own) :
    Returns (parameterValues s args) fun values => ∀ e ∈ values, e.2.Own := by
  unfold parameterValues
  extract_lets known found
  -- The values are looked for in the same way with any number of arguments.
  have hfound (u : Unit) : Returns (found u) fun values => ∀ e ∈ values, e.2.Own := by
    refine (returns_mapM (Q := fun e : String × Value => e.2.Own) fun x _ => ?_).bind fun values hvalues =>
      returns_any.bind fun _ _ => returns_pure.2 hvalues
    exact (returns_parameterValue hargs x.2 x.1).bind fun v hv => returns_pure.2 hv
  split
  · exact (returns_error (P := fun _ => True)).bind fun u _ => hfound u
  · exact hfound ()

section Runner

variable {run : Runner} (hrun : ∀ xs, Statement.UsesAll p xs → Follows p (run xs) fun _ => True)

include hrun

/-- Parameters that are bound one after the other, and their defaults. -/
theorem follows_bindParams : ∀ {ps : List (Param × Value)}, (∀ x ∈ ps, x.1.Uses p ∧ x.2.Own) →
    Follows p (bindParams run ps) fun _ => True
  | [], _ => follows_pure trivial
  | (x, v) :: ps, h => by
    obtain ⟨⟨hx, hv⟩, hps⟩ := List.forall_mem_cons.1 h
    refine (follows_bindParams hps).bind fun _ _ => ?_
    -- A default is evaluated where the argument is missing.
    split
    · rename_i e he
      have huses : Statement.UsesAll p [.assign (.name x.name) e] := ⟨⟨trivial, hx e he⟩, trivial⟩
      exact (hrun _ huses).bind fun _ _ => follows_pure trivial
    · exact follows_store _ hv

/-- The call of a macro. -/
theorem follows_callDefinition {d : Definition} (hd : (Cell.definition d).Plain p) {args : Arguments}
    (hargs : args.Own) :
    Follows p (callDefinition run d args) Value.Own := by
  refine (follows_ofResult (returns_parameterValues hargs)).bind fun values hvalues => ?_
  obtain ⟨hparams, hbody, hclosure⟩ := hd
  extract_lets caller empty scope
  -- A macro without a caller has none in its scope either.
  have hcaller : ∀ e ∈ caller, e.2.Own := by
    dsimp only [caller]
    split
    · simpa using Value.own_getD (fun v hv => Value.own_of_lookup hargs.named hv) Value.own_undefined
    · simp
  have hempty : empty.Plain p := Scope.plain_empty
  have hscope : scope.Plain p := ⟨hcaller, hclosure, hempty.closure?, hempty.loop?⟩
  refine Follows.bind (((follows_bindParams hrun fun x hx => ?_).bind fun _ _ => hrun _ hbody).apart hscope _)
    fun r _ =>
    follows_outputValue r.2
  -- Each parameter comes with its value.
  obtain ⟨hx, hv⟩ := List.of_mem_zip (a := x.1) (b := x.2) hx
  obtain ⟨e, he, heq⟩ := List.mem_map.1 hv
  exact ⟨hparams _ hx, heq ▸ hvalues e he⟩

/-- Whatever is called. -/
theorem follows_call {v : Value} (hv : v.Own) {args : Arguments} (hargs : args.Own) :
    Follows p (call run v args) Value.Own := by
  unfold call
  split
  · exact follows_callBuiltin hv hargs
  · rename_i r _
    refine fun m m' h => tracks_get_bind ?_
    -- The definition is one of the code's own, and so is its body.
    have hr : r.inserted = false := (Value.own_object.1 hv).1
    rw [h.definition? hr]
    split
    · rename_i d hd
      exact follows_callDefinition hrun (h.plain.definition? hr hd) hargs m m' h
    · exact tracks_throw
  · exact follows_fail
  · exact follows_fail

omit hrun in
/-- The methods of a loop. -/
theorem follows_callLoopMethod {r : Ref} (hr : r.inserted = false) (name : String) {args : Arguments}
    (hargs : args.Own) :
    Follows p (callLoopMethod r name args) Value.Own := by
  refine fun m m' h => tracks_get_bind ?_
  -- The loop is the same on both sides.
  rw [h.loop? hr]
  split
  · rename_i l _
    refine (?_ : Follows p _ Value.Own) m m' h
    split
    · exact Follows.bind (follows_changeLoop hr fun _ => rfl) fun _ _ => follows_pure (Value.own_bool _)
    · exact follows_pure (Value.own_getD (fun v hv => hargs.values v (List.mem_of_getElem? hv)) Value.own_undefined)
    · exact follows_fail
  · exact tracks_throw

/-- Methods of values. -/
theorem follows_callMethod {v : Value} (hv : v.Own) (name : String) {args : Arguments} (hargs : args.Own) :
    Follows p (callMethod run v name args) Value.Own := by
  refine fun m m' h => tracks_get_bind ?_
  rw [h.refreshed hv]
  have hrefreshed := h.plain.own_refreshed hv
  split
  -- A method of a loop, or a function that is found as an entry of the value.
  · rename_i r _ _ heq
    rw [heq] at hrefreshed
    exact follows_callLoopMethod (Value.own_object.1 hrefreshed).1 name hargs m m' h
  · split
    · rename_i w hw
      obtain ⟨entries, hentries, hw⟩ := Option.bind_eq_some_iff.1 hw
      exact follows_call hrun (Value.own_find? (Value.own_entries? hrefreshed hentries) hw) hargs m m' h
    · exact tracks_throw

end Runner

/-! ### Loops -/

/-- Both machines are in equally many loops. -/
theorem loopDepth_eq {m m' : Machine} (h : Shadow p m m') : loopDepth m' = loopDepth m := by
  have hfind : m'.scopes.findSome? (·.loop?) = m.scopes.findSome? (·.loop?) := by
    have hmap (ss : List Scope) : ss.findSome? (·.loop?) = (ss.map (·.loop?)).findSome? id := by
      rw [List.findSome?_map]
      rfl
    rw [hmap, h.loops, ← hmap]
  unfold loopDepth
  rw [hfind]
  -- The depth is that of the innermost loop.
  cases hl : m.scopes.findSome? (·.loop?) with
  | none => rfl
  | some l =>
    obtain ⟨s, hs, hsl⟩ := List.exists_of_findSome?_eq_some hl
    dsimp only
    rw [h.loop? ((h.plain.scopes s hs).loop? l hsl).at_]

/-- The rounds of a loop. -/
theorem follows_forEach {r : Ref} (hr : r.inserted = false) {body : Value → Eval Flow}
    (hbody : ∀ v, v.Own → Follows p (body v) fun _ => True) :
    ∀ (i : Nat) {items : List Value}, (∀ v ∈ items, v.Own) → Follows p (forEach r body i items) fun _ => True
  | i, [], _ => Follows.bind (follows_changeLoop hr fun _ => rfl) fun _ _ => follows_pure trivial
  | i, v :: items, h => by
    obtain ⟨hv, hitems⟩ := List.forall_mem_cons.1 h
    refine Follows.bind (follows_changeLoop hr fun _ => rfl) fun _ _ =>
      (follows_ofResult (Value.returns_valid hv)).bind fun w hw =>
      (hbody w hw).bind fun flow _ => ?_
    -- A loop may be left early; otherwise it goes on with the next item.
    split
    · exact follows_pure trivial
    · exact follows_forEach hr hbody (i + 1) hitems

/-- A loop. -/
theorem follows_runLoop {recursion? : Option (Target × List Statement)}
    (hrecursion : ∀ target body, recursion? = some (target, body) → target.Uses p ∧ Statement.UsesAll p body)
      {v : Value}
    (hv : v.Own) {body : Value → Eval Flow} (hbody : ∀ v, v.Own → Follows p (body v) fun _ => True) :
    Follows p (runLoop recursion? v body) fun _ => True := by
  refine (follows_ofResult (Value.returns_items hv)).bind fun items hitems m m' h => tracks_get_bind ?_
  extract_lets length?
  rw [loopDepth_eq h, h.nextRef]
  -- The state of the loop starts with all items and none of them taken.
  have hstate : (Cell.loop ⟨items.toArray, length?, 0, loopDepth m, none⟩).Plain p := fun i w hw =>
    hitems w (List.mem_of_getElem? (by simpa using hw))
  have hscope := Scope.plain_ofLoop h.inserted_nextRef true recursion? hrecursion
  exact ((follows_keep hstate).bind fun _ _ => (follows_forEach h.inserted_nextRef hbody 0 hitems).within hscope) m m' h

/-! ### Blocks -/

section Runner

variable {run : Runner} (hrun : ∀ xs, Statement.UsesAll p xs → Follows p (run xs) fun _ => True)

/-- The version of a block that comes next. -/
theorem follows_passVersion (name : String) (f : Nat → Nat) :
    Follows p (modify (passVersion name f) : Eval PUnit) fun _ => True := by
  refine follows_modify fun m m' h => h.of_over (f := passVersion name f) (fun hm => ?_) rfl fun _ _ _ => rfl
  -- The version that is run next is another one, but the versions are the same.
  refine ⟨hm.templates, hm.insertedCells, hm.isInserted, hm.parent?, hm.scopes, hm.cells, fun b hb v hv => ?_⟩
  obtain ⟨c, hc, rfl⟩ := List.mem_map.1 hb
  dsimp only at hv
  split at hv
  · exact hm.blocks c hc v hv
  · exact hm.blocks c hc v hv

/-- Both machines run the same version of a block. -/
theorem blockVersion?_eq {m m' : Machine} (h : Shadow p m m') (name : String) :
    blockVersion? m' name = blockVersion? m name := by
  simp only [blockVersion?, h.blocks]

/-- Its body uses names that satisfy `p`. -/
theorem uses_blockVersion? {m : Machine} (hm : m.Plain p) {name template : String} {body : List Statement}
    (h : blockVersion? m name = some (template, body)) : Statement.UsesAll p body := by
  obtain ⟨versions, hversions, h⟩ := Option.bind_eq_some_iff.1 h
  obtain ⟨_, _, heq, -⟩ := List.lookup_eq_some_iff.1 hversions
  exact hm.blocks (name, versions) (by simp [heq]) (template, body) (List.mem_of_getElem? h)

include hrun

/-- A version of a block, if there is one. -/
theorem follows_runVersion (name : String) : Follows p (runVersion run name) fun _ => True := by
  refine fun m m' h => tracks_get_bind ?_
  rw [blockVersion?_eq h]
  split
  · exact tracks_throw
  · rename_i template body hversion
    have hbody := hrun body (uses_blockVersion? h.plain hversion)
    -- The settings of the block are set, and afterwards those before them again.
    refine Tracks.bind (tracks_modify ?_) fun _ n n' hn _ => (hbody.within Scope.plain_empty n n' hn).bind
      fun _ k k' hk _ => tracks_modify ?_
    · exact h.settings (f := fun m => { m with block? := some name, template := template, firstEscaping := m.escaping })
        (fun _ => rfl) fun _ _ _ => rfl
    · rw [h.block?, h.template, h.firstEscaping]
      exact hk.settings
        (f := fun k => { k with block? := m.block?, template := m.template, firstEscaping := m.firstEscaping })
        (fun _ => rfl) fun _ _ _ => rfl

/-- The body of the block that this one stands for. -/
theorem follows_callSuper : Follows p (callSuper run) Value.Own := by
  refine fun m m' h => tracks_get_bind ?_
  -- Outside of a block there is nothing above it.
  rw [h.block?]
  split
  · exact tracks_throw
  · rename_i name _
    refine (follows_passVersion name _ m m' h).bind fun _ n n' hn _ => tracks_get_bind ?_
    rw [blockVersion?_eq hn]
    refine (?_ : Follows p _ Value.Own) n n' hn
    extract_lets called
    have hcalled (u : Unit) : Follows p (called u) Value.Own :=
      Follows.bind ((follows_runVersion hrun name).captured.summarized _) fun r _ =>
        (follows_passVersion name _).bind fun _ _ => follows_outputValue r.2
    split
    · exact (follows_fail (P := fun _ => True)).bind fun u _ => hcalled u
    · exact hcalled ()

end Runner

end Eval

end Scaffold.Template
