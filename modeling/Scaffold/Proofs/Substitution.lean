import Scaffold.Substitution
import Scaffold.Proofs.Steps

namespace Scaffold

/-!
# What filling fails with

Filling the placeholders of a text fails for two reasons only: a name that stands for nothing, and code
that fails. No engine, context or text makes it fail with anything else, and in particular nothing
that filling does is about templates.

* `Filler.fill_yields`, `Filler.runCode_yields` — the errors of a substitution.
-/

variable {σ α : Type}

/-- The errors that filling a text, or running its code, may end with. -/
def Error.ArisesInFilling : Error → Prop
  | .unknownToken _ => True
  | .codeExecution _ _ _ => True
  | _ => False

namespace Filler

/-! ### Calls to the engine -/

/-- Opening a session fails as filling in does. -/
theorem openSession_yields (f : Filler σ) (ctx : Context) :
    Yields (f.openSession ctx) (fun _ => True) Error.ArisesInFilling := by
  unfold openSession
  refine yields_get.bind fun p _ => ?_
  split
  · exact yields_pure trivial
  · refine (yields_lift _).bind_any fun r => ?_
    cases r with
    | error e => exact yields_throw trivial
    | ok _ => exact yields_modify _

/-- Running code fails as filling in does. -/
theorem execute_yields (f : Filler σ) (ctx : Context) (origin : String) (code : List Char) :
    Yields (f.execute ctx origin code) (fun _ => True) Error.ArisesInFilling := by
  unfold execute
  refine (f.openSession_yields ctx).bind_any fun _ => ?_
  refine (yields_lift _).bind_any fun r => ?_
  cases r with
  | error e => exact yields_throw trivial
  | ok x => exact yields_pure trivial

/-- A block fails as filling in does. -/
theorem block_yields (f : Filler σ) (ctx : Context) (origin : String) (code : List Char) :
    Yields (f.block ctx origin code) (fun _ => True) Error.ArisesInFilling :=
  (f.execute_yields ctx origin code).bind_any fun _ => yields_pure trivial

/-- An expression fails as filling in does. -/
theorem expression_yields (f : Filler σ) (ctx : Context) (code : List Char) :
    Yields (f.expression ctx code) (fun _ => True) Error.ArisesInFilling := by
  unfold expression
  refine (f.openSession_yields ctx).bind_any fun _ => ?_
  refine (yields_lift _).bind_any fun r => ?_
  cases r with
  | error e => exact yields_throw trivial
  | ok x => exact yields_pure trivial

/-! ### Tokens -/

/-- The code of a token fails as filling in does. -/
theorem runToken_yields (f : Filler σ) (ctx : Context) (name code : String) :
    Yields (f.runToken ctx name code) (fun _ => True) Error.ArisesInFilling := by
  simp only [runToken]
  split
  · exact f.block_yields ctx _ _
  · split
    · exact yields_pure trivial
    · refine (f.openSession_yields ctx).bind_any fun _ => ?_
      refine (yields_lift _).bind_any fun r => ?_
      -- Unreadable code gets a second chance as a block.
      match r with
      | .ok x => exact yields_pure trivial
      | .error (.unreadable _) => exact f.block_yields ctx _ _
      | .error (.failed _) => exact yields_throw trivial

/-- Naming the token of failed code keeps the kind of the error. -/
theorem arisesInFilling_ofToken (name : String) (e : Error) (h : e.ArisesInFilling) :
    (ofToken name e).ArisesInFilling := by
  unfold ofToken
  split
  · trivial
  · exact h

/-- A token fails as filling in does. -/
theorem token_yields (f : Filler σ) (ctx : Context) (name : String) :
    Yields (f.token ctx name) (fun _ => True) Error.ArisesInFilling := by
  unfold token
  split
  · exact (f.runToken_yields ctx name _).mapError (arisesInFilling_ofToken name)
  · split
    · exact yields_pure trivial
    · exact yields_throw trivial

/-! ### Texts -/

/-- A placeholder fails as filling in does. -/
theorem hole_yields (f : Filler σ) (ctx : Context) (form : Placeholder.Form) (code : List Char) :
    Yields (f.hole ctx form code) (fun _ => True) Error.ArisesInFilling := by
  cases form with
  | block => exact f.block_yields ctx _ _
  | expression => exact f.expression_yields ctx _
  | name => exact f.token_yields ctx _

/-- The placeholders of a text fail as filling in does. -/
theorem fillHoles_yields {g : List Char → Running (Filling σ) String}
    (hg : ∀ code, Yields (g code) (fun _ => True) Error.ArisesInFilling)
    (pieces : List Placeholder.Piece) :
    Yields (fillHoles g pieces) (fun _ => True) Error.ArisesInFilling := by
  induction pieces with
  | nil => exact yields_pure trivial
  | cons piece pieces ih =>
    cases piece with
    | plain text => exact ih.bind_any fun _ => yields_pure trivial
    | hole code => exact (hg code).bind_any fun _ => ih.bind_any fun _ => yields_pure trivial

/-- The passes run one after the other, whatever their order. -/
theorem foldlM_pass_yields (f : Filler σ) (ctx : Context) (forms : List Placeholder.Form)
    (text : List Char) :
    Yields (forms.foldlM (fun text form => f.pass ctx form text) text) (fun _ => True)
      Error.ArisesInFilling := by
  induction forms generalizing text with
  | nil => exact yields_pure trivial
  | cons form forms ih =>
    rw [List.foldlM_cons]
    exact (fillHoles_yields (f.hole_yields ctx form) _).bind_any fun text => ih text

/-- Running in a session of its own hides the session, and nothing else. -/
theorem inOneSession_yields {x : Running (Filling σ) α} {G : α → Prop} {B : Error → Prop}
    (h : Yields x G B) : Yields (inOneSession x) G B :=
  fun s => ends_iff.2 (ends_iff.1 (h ⟨s, false⟩))

/-- **Errors of filling.** A text that cannot be filled names an unknown token or holds code that
    fails. -/
theorem fill_yields (f : Filler σ) (ctx : Context) (text : String) :
    Yields (f.fill ctx text) (fun _ => True) Error.ArisesInFilling := by
  unfold fill
  split
  · exact inOneSession_yields
      ((f.foldlM_pass_yields ctx passes _).bind_any fun _ => yields_pure trivial)
  · exact yields_pure trivial

/-- The code of a script fails as filling in does. -/
theorem runCode_yields (f : Filler σ) (ctx : Context) (origin code : String) :
    Yields (f.runCode ctx origin code) (fun _ => True) Error.ArisesInFilling :=
  inOneSession_yields (f.execute_yields ctx origin _)

end Filler

end Scaffold
