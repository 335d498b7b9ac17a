import Scaffold.Proofs.Coupling
import Scaffold.Substitution

namespace Scaffold

/-!
# Fillers that work alike

Two fillers whose engines answer alike fill a text by the same course, each with an engine and for a context
of its own. What the contexts may differ in are the values of plain tokens: these are put in last.

* `Context.SameButValues` — two contexts with the same code and the same names of plain tokens;
* `Filler.Simulates` — two fillers whose engines give the same answers, for a correspondence of states;
* `Filler.Simulates.fill` — then both fill a text, or both fail with the same error; in the same context,
  they fill it with the same;
* `Filler.run_fill_of_watched` — an engine that is only watched does the same as without.
-/

variable {σ σ' α : Type}

/-- Two contexts in which the same names stand for the same code, and the same names for texts. The
    texts may be any. -/
structure Context.SameButValues (ctx ctx' : Context) : Prop where
  code : ∀ name, ctx.code? name = ctx'.code? name
  names : ∀ name, (ctx.value? name).isSome = (ctx'.value? name).isSome

/-- A context is the same as itself. -/
theorem Context.SameButValues.refl (ctx : Context) : ctx.SameButValues ctx :=
  ⟨fun _ => rfl, fun _ => rfl⟩

/-- From states that correspond, two calls give the same and leave states that correspond. -/
def AlikeFrom (S : σ → σ' → Prop) (x : StateM σ α) (x' : StateM σ' α) : Prop :=
  ∀ s s', S s s' → (x s).1 = (x' s').1 ∧ S (x s).2 (x' s').2

/-- Two fillings of a text that have come equally far: a session is open in both or in none, and the
    states of the engines correspond. -/
structure Filling.Twins (S : σ → σ' → Prop) (p : Filling σ) (p' : Filling σ') : Prop where
  isOpen : p.isOpen = p'.isOpen
  engine : S p.engine p'.engine

namespace Filler

open Placeholder (Form Piece)

/-- Two fillers whose engines answer alike, in sessions for two contexts that have the same code. -/
structure Simulates (S : σ → σ' → Prop) (f : Filler σ) (ctx : Context) (f' : Filler σ')
    (ctx' : Context) : Prop where
  contexts : ctx.SameButValues ctx'
  openSession : AlikeFrom S (f.engine.openSession ctx f.preamble?)
    (f'.engine.openSession ctx' f'.preamble?)
  evaluate : ∀ code, AlikeFrom S (f.engine.evaluate code) (f'.engine.evaluate code)
  execute : ∀ code, AlikeFrom S (f.engine.execute code) (f'.engine.execute code)

/-- Calls that give the same are made by both. -/
theorem coupled_call {S : σ → σ' → Prop} {x : StateM σ (Except CodeFailure α)}
    {x' : StateM σ' (Except CodeFailure α)} (h : AlikeFrom S x x') :
    Coupled (Filling.Twins S) (liftM (call x) : Running (Filling σ) _)
      (liftM (call x') : Running (Filling σ') _) (· = ·) := by
  refine coupled_lift fun p p' hp => ?_
  obtain ⟨hr, hs⟩ := h _ _ hp.engine
  exact ⟨hr, hp.isOpen, hs⟩

namespace Simulates

variable {S : σ → σ' → Prop} {f : Filler σ} {ctx : Context} {f' : Filler σ'} {ctx' : Context}

/-! Calls to the engine -/

/-- Both fillers open a session, or none does. -/
theorem coupled_openSession (h : Simulates S f ctx f' ctx') :
    Coupled (Filling.Twins S) (f.openSession ctx) (f'.openSession ctx') fun _ _ => True := by
  unfold Filler.openSession
  -- Both fillings have asked for a session, or neither has.
  refine coupled_get.bind fun p p' hp => ?_
  rw [← hp.isOpen]
  split
  · exact coupled_pure trivial
  · refine (coupled_call h.openSession).bind fun r r' hr => ?_
    subst hr
    cases r with
    | error e => exact coupled_throw _
    | ok _ => exact coupled_modify fun q q' hq => ⟨rfl, hq.engine⟩

/-- Both fillers run the same code. -/
theorem coupled_execute (h : Simulates S f ctx f' ctx') (origin : String) (code : List Char) :
    Coupled (Filling.Twins S) (f.execute ctx origin code) (f'.execute ctx' origin code) (· = ·) := by
  unfold Filler.execute
  refine h.coupled_openSession.bind fun _ _ _ => (coupled_call (h.execute _)).bind fun r r' hr => ?_
  subst hr
  cases r with
  | error e => exact coupled_throw _
  | ok x => exact coupled_pure rfl

/-! Holes -/

/-- Both fillers run the same block. -/
theorem coupled_block (h : Simulates S f ctx f' ctx') (origin : String) (code : List Char) :
    Coupled (Filling.Twins S) (f.block ctx origin code) (f'.block ctx' origin code) (· = ·) :=
  (h.coupled_execute origin code).bind fun _ _ hx => coupled_pure (hx ▸ rfl)

/-- Both fillers evaluate the same expression. -/
theorem coupled_expression (h : Simulates S f ctx f' ctx') (code : List Char) :
    Coupled (Filling.Twins S) (f.expression ctx code) (f'.expression ctx' code) (· = ·) := by
  unfold expression
  refine h.coupled_openSession.bind fun _ _ _ => (coupled_call (h.evaluate _)).bind fun r r' hr => ?_
  subst hr
  cases r with
  | error e => exact coupled_throw _
  | ok x => exact coupled_pure rfl

/-- Both fillers run the code of a token. -/
theorem coupled_runToken (h : Simulates S f ctx f' ctx') (name code : String) :
    Coupled (Filling.Twins S) (f.runToken ctx name code) (f'.runToken ctx' name code) (· = ·) := by
  simp only [runToken]
  split
  -- A block runs as one; an expression is asked for first, and is run as a block when it is none.
  · exact h.coupled_block _ _
  · split
    · exact coupled_pure rfl
    · refine h.coupled_openSession.bind fun _ _ _ =>
        (coupled_call (h.evaluate _)).bind fun r r' hr => ?_
      subst hr
      rcases r with (_ | _) | _
      · exact h.coupled_block _ _
      · exact coupled_throw _
      · exact coupled_pure rfl

/-- A name that stands for a text makes no call in either context, whatever the texts. -/
theorem coupled_token (h : Simulates S f ctx f' ctx') (name : String) :
    Coupled (Filling.Twins S) (f.token ctx name) (f'.token ctx' name)
      fun v v' => ctx = ctx' → v = v' := by
  have hnames := h.contexts.names name
  unfold token
  rw [← h.contexts.code name]
  cases ctx.code? name with
  | some code =>
    exact ((h.coupled_runToken name code).mapError (ofToken name)).imp fun _ _ hv _ => hv
  | none =>
    -- The names of texts are the same, so both contexts have a value or none has.
    rcases hv : ctx.value? name with _ | v <;> rcases hv' : ctx'.value? name with _ | v'
    · exact coupled_throw _
    · rw [hv, hv'] at hnames; cases hnames
    · rw [hv, hv'] at hnames; cases hnames
    · refine coupled_pure fun hctx => ?_
      rw [hctx, hv'] at hv
      exact (Option.some.inj hv).symm

/-- What a hole is filled with is the same in both, unless it is a token with a value of its own in
    each context. -/
theorem coupled_hole (h : Simulates S f ctx f' ctx') (form : Form) (code : List Char) :
    Coupled (Filling.Twins S) (f.hole ctx form code) (f'.hole ctx' form code)
      fun v v' => form ≠ .name ∨ ctx = ctx' → v = v' := by
  cases form with
  | block => exact (h.coupled_block _ code).imp fun _ _ hv _ => hv
  | expression => exact (h.coupled_expression code).imp fun _ _ hv _ => hv
  | name => exact (h.coupled_token _).imp fun _ _ hv hform => hv (by simpa using hform)

/-! Passes -/

/-- Both fillers fill in the placeholders of a text. -/
theorem coupled_fillHoles {same : Prop} {g : List Char → Running (Filling σ) String}
    {g' : List Char → Running (Filling σ') String}
    (hg : ∀ code, Coupled (Filling.Twins S) (g code) (g' code) fun v v' => same → v = v')
    (pieces : List Piece) :
    Coupled (Filling.Twins S) (fillHoles g pieces) (fillHoles g' pieces)
      fun t t' => same → t = t' := by
  induction pieces with
  | nil => exact coupled_pure fun _ => rfl
  -- Each evaluated hole is related to its twin, and the texts around it are copied on both sides.
  | cons piece pieces ih =>
    cases piece with
    | plain text => exact ih.bind fun t t' ht => coupled_pure fun hs => by rw [ht hs]
    | hole code =>
      refine (hg code).bind fun v v' hv => ih.bind fun t t' ht => coupled_pure fun hs => ?_
      rw [hv hs, ht hs]

/-- Both fillers go over a text once; the texts are the same, unless names are filled in with other values. -/
theorem coupled_pass (h : Simulates S f ctx f' ctx') (form : Form) (text : List Char) :
    Coupled (Filling.Twins S) (f.pass ctx form text) (f'.pass ctx' form text)
      fun t t' => form ≠ .name ∨ ctx = ctx' → t = t' :=
  coupled_fillHoles (h.coupled_hole form) _

/-- All passes together. The values of tokens differ only behind the last one, so every pass starts from
    the same text in both contexts. -/
theorem coupled_passes (h : Simulates S f ctx f' ctx') (text : List Char) :
    Coupled (Filling.Twins S)
      (do return String.ofList (← passes.foldlM (fun text form => f.pass ctx form text) text))
      (do return String.ofList (← passes.foldlM (fun text form => f'.pass ctx' form text) text))
      fun t t' => ctx = ctx' → t = t' := by
  simp only [passes, List.foldlM_cons, List.foldlM_nil]
  refine Coupled.bind (V := fun t t' => ctx = ctx' → t = t') ?_
    fun t t' ht => coupled_pure fun hctx => by rw [ht hctx]
  -- Only the last pass may give two texts, and nothing is read from them.
  refine (h.coupled_pass .block text).bind fun t t' ht => ?_
  obtain rfl := ht (.inl (by decide))
  refine (h.coupled_pass .expression t).bind fun u u' hu => ?_
  obtain rfl := hu (.inl (by decide))
  exact (h.coupled_pass .name u).bind fun _ _ hv => coupled_pure fun hctx => hv (.inr hctx)

/-- **Filling alike.** From states that correspond, both fillers fill a text, or both fail with the same
    error; and the states correspond again. -/
theorem fill (h : Simulates S f ctx f' ctx') (text : String) :
    Coupled S (f.fill ctx text) (f'.fill ctx' text) fun t t' => ctx = ctx' → t = t' := by
  unfold Filler.fill
  split
  · intro s s' hs
    obtain ⟨hr, hp⟩ := h.coupled_passes text.toList ⟨s, false⟩ ⟨s', false⟩ ⟨rfl, hs⟩
    exact ⟨hr, hp.engine⟩
  · exact coupled_pure fun _ => rfl

end Simulates

/-- An engine that is watched, by something that is kept beside its state, fills texts as it does when it
    is not. -/
theorem run_fill_of_watched {ω : Type} {f : Filler σ} {ctx : Context} {f' : Filler (σ × ω)}
    (h : Simulates (fun s p => s = p.1) f ctx f' ctx) (text : String) (s : σ) (w : ω) :
    (f.fill ctx text).run s =
      (((f'.fill ctx text).run (s, w)).1, ((f'.fill ctx text).run (s, w)).2.1) := by
  obtain ⟨hr, hs⟩ := h.fill text s (s, w) rfl
  refine Prod.ext ?_ hs
  -- The watched run answers the same, so that its result differs in nothing but its name.
  dsimp only
  generalize ((f'.fill ctx text).run (s, w)).1 = r' at hr
  generalize ((f.fill ctx text).run s).1 = r at hr
  cases hr with
  | ok ht => rw [ht rfl]
  | error e => rfl

end Filler

end Scaffold
