import Scaffold.Proofs.Runs
import Scaffold.Proofs.Steps
import Scaffold.Substitution
import Scaffold.Template.Session

namespace Scaffold.Template

/-!
# What a session runs

The steps of running code, from a block of a template down to its statements.

* `runSource_eq_ok_iff`, `runWithin_cons` — a template runs its statements, one after the other;
* `execute_eq_ok_iff` — code gives what its template writes and the value of `result` behind it;
* `exportsOf`, `openWith_eq_ok` — a session knows the names that its preamble gives a value;
* `runCode_eq` — a block runs in a session of its own.
-/

open Session

variable {templates : List (String × Source)} {bindings : Names} {source : Source}

/-! ### Templates -/

theorem runWithin_succ (n : Nat) :
    Eval.runWithin (n + 1) = fun statements m => Statement.execAll (Eval.runWithin n) statements m := rfl

/-- A template that extends no other one ends with its body. -/
theorem runSource_eq_ok_iff {m : Machine}
    (hparent : ∀ flow n,
      Eval.runWithin (Machine.maxDepth + 1) source.body (Machine.start templates bindings false source) =
      .ok (flow, n) → n.parent? = none) :
    runSource templates bindings false source = .ok m ↔ ∃ flow, Eval.runWithin (Machine.maxDepth + 1) source.body
      (Machine.start templates bindings false source) = .ok (flow, m) := by
  rw [runSource, Eval.runTemplate, apply_bind]
  cases hrun : Eval.runWithin (Machine.maxDepth + 1) source.body (Machine.start templates bindings false source) with
  | error fault => simp [Except.map]
  | ok r =>
    obtain ⟨flow, n⟩ := r
    dsimp only
    rw [apply_bind, apply_get]
    dsimp only
    -- Without a parent template the run ends with the body.
    rw [hparent flow n hrun]
    simp [Except.map]

theorem exists_of_runSource {m : Machine} (h : runSource templates bindings false source = .ok m) :
    ∃ r, Eval.runWithin (Machine.maxDepth + 1) source.body (Machine.start templates bindings false source) = .ok r := by
  rw [runSource, Eval.runTemplate, apply_bind] at h
  cases hrun : Eval.runWithin (Machine.maxDepth + 1) source.body (Machine.start templates bindings false source) with
  | error fault =>
    rw [hrun] at h
    cases h
  | ok r => exact ⟨r, rfl⟩

/-- The statement in front runs first. -/
theorem runWithin_cons {n : Nat} {x : Statement} {xs : List Statement} {m k : Machine}
    (h : x.exec (Eval.runWithin n) m = .ok (.done, k)) :
    Eval.runWithin (n + 1) (x :: xs) m = Eval.runWithin (n + 1) xs k := by
  rw [runWithin_succ]
  exact apply_bind_of_eq_ok h

theorem exists_of_runWithin_cons {n : Nat} {x : Statement} {xs : List Statement} {m : Machine} {r : Flow × Machine}
    (h : Eval.runWithin (n + 1) (x :: xs) m = .ok r) : ∃ flow k, x.exec (Eval.runWithin n) m = .ok (flow, k) := by
  rw [runWithin_succ] at h
  dsimp only at h
  rw [Statement.execAll, apply_bind] at h
  cases hx : x.exec (Eval.runWithin n) m with
  | error fault =>
    rw [hx] at h
    cases h
  | ok r => exact ⟨r.1, r.2, rfl⟩

/-! ### Code in a session -/

theorem execute_eq_ok_iff {session : Session} {code : String} {r : CodeResult} : session.execute code = .ok r ↔
    ∃ source m, Source.read codeName (session.header ++ code) = .ok source ∧
      runSource session.templates session.bindings false source = .ok m ∧
      (m.lookup? resultName).mapM (fun v => toYaml (m.resolve v)) = .ok r.result? ∧ m.out = r.output := by
  rw [execute]
  cases Source.read codeName (session.header ++ code) with
  | error fault => simp [bind, Except.bind]
  | ok source =>
    cases hrun : runSource session.templates session.bindings false source with
    | error fault => simp [bind, Except.bind, hrun]
    | ok m =>
      cases hresult : (m.lookup? resultName).mapM (fun v => toYaml (m.resolve v)) with
      | error fault => simp [bind, Except.bind, hrun, hresult]
      | ok result? =>
        obtain ⟨_, _⟩ := r
        simp [bind, Except.bind, pure, Except.pure, hrun, hresult]

/-- The names that a preamble gives a value. -/
def exportsOf (ctx : Context) (preamble : String) : Except Fault (List String) := do
  let source ← Source.read preambleName preamble
  let m ← runSource [(preambleName, source)] (bindingsOf ctx) true source
  return m.exports.map Prod.fst

theorem exportsOf_eq_ok_iff {ctx : Context} {preamble : String} {names : List String} :
    exportsOf ctx preamble = .ok names ↔ ∃ source m, Source.read preambleName preamble = .ok source ∧
      runSource [(preambleName, source)] (bindingsOf ctx) true source = .ok m ∧ m.exports.map Prod.fst = names := by
  rw [exportsOf]
  cases Source.read preambleName preamble with
  | error fault => simp [bind, Except.bind]
  | ok source =>
    cases hrun : runSource [(preambleName, source)] (bindingsOf ctx) true source <;>
      simp [bind, Except.bind, pure, Except.pure, hrun]

/-- Opening a session with a preamble that is not blank. -/
theorem openWith_eq_ok {ctx : Context} {preamble : String} (hblank : Text.allBlank preamble = false) {m : Machine}
    (hread : Source.read preambleName preamble = .ok source)
    (hrun : runSource [(preambleName, source)] (bindingsOf ctx) true source = .ok m) :
    openWith ctx (some preamble) =
      .ok ⟨[(preambleName, source)], bindingsOf ctx, headerOf (m.exports.map Prod.fst)⟩ := by
  rw [openWith]
  simp only [Option.filter, hblank, Bool.not_false, if_true, hread]
  simp [hrun, bind, Except.bind, pure, Except.pure]

/-- A blank preamble is none. -/
theorem openWith_of_allBlank {ctx : Context} {preamble : String} (hblank : Text.allBlank preamble = true) :
    openWith ctx (some preamble) = .ok ⟨[], bindingsOf ctx, ""⟩ := by
  rw [openWith]
  simp only [Option.filter, hblank, Bool.not_true, Bool.false_eq_true, if_false]
  rfl

/-! ### Blocks in sessions of their own -/

/-- Running a block opens a session and runs the block in it, without the indentation that its lines share. -/
theorem runCode_eq (preamble? : Option String) (ctx : Context) (origin code : String) (s : Option Session) :
    (((⟨engine, preamble?⟩ : Filler (Option Session)).runCode ctx origin code).run s).1 =
      match openWith ctx preamble? with
      | .error fault => .error (Filler.failure "preamble" (codeFailure fault))
      | .ok session =>
        match session.execute (.ofList (dedentBlock code.toList)) with
        | .error fault => .error (Filler.failure origin (codeFailure fault))
        | .ok result => .ok result := by
  have h : Ends ((⟨engine, preamble?⟩ : Filler (Option Session)).execute ctx origin code.toList) ⟨s, false⟩ fun r _ =>
      r = match openWith ctx preamble? with
        | .error fault => .error (Filler.failure "preamble" (codeFailure fault))
        | .ok session =>
          match session.execute (.ofList (dedentBlock code.toList)) with
          | .error fault => .error (Filler.failure origin (codeFailure fault))
          | .ok result => .ok result := by
    simp only [Filler.execute, Filler.openSession, Filler.call, engine, ends_bind, ends_get, Bool.false_eq_true,
      if_false, ends_lift]
    -- The engine is called twice, and a refused session ends the run before the code is read.
    cases openWith ctx preamble? with
    | error fault => simp only [ends_throw]
    | ok session =>
      simp only [ends_modify, Option.getD_some]
      cases session.execute (.ofList (dedentBlock code.toList)) with
      | error fault => exact ends_throw.2 rfl
      | ok result => exact ends_pure.2 rfl
  exact ends_iff.1 h

theorem runCode_eq_ok_iff {preamble? : Option String} {ctx : Context} {origin code : String} {s : Option Session}
    {r : CodeResult} :
    (((⟨engine, preamble?⟩ : Filler (Option Session)).runCode ctx origin code).run s).1 = .ok r ↔
      ∃ session, openWith ctx preamble? = .ok session ∧ session.execute (.ofList (dedentBlock code.toList)) =
        .ok r := by
  rw [runCode_eq]
  cases openWith ctx preamble? with
  | error fault => simp
  | ok session => cases hrun : session.execute (.ofList (dedentBlock code.toList)) <;> simp [hrun]

end Scaffold.Template
