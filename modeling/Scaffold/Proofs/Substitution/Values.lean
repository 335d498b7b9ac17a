import Scaffold.Proofs.Substitution.Simulation
import Mathlib.Logic.Function.Basic
import Mathlib.Data.Option.Basic

namespace Scaffold

/-!
# Plain values are not run

What code a substitution runs is settled by the text, by the code among the tokens and by the answers of
the engine. The values of plain tokens are put in last and not looked at again, so they never become code.

* `Engine.AnswersAlike` — an engine whose answers do not show which of two contexts a session is for;
* `Filler.fill_calls_eq` — then a text is filled by the same calls in both, or fails with the same error.
-/

variable {σ : Type}

/-- The same call, in a session for `ctx`. -/
def Call.inContext (ctx : Context) : Call → Call
  | .opened _ preamble? => .opened ctx preamble?
  | c => c

/-- What an engine answers: a failure, a result, or that a session is open. -/
abbrev Answer := Except CodeFailure (Option CodeResult)

namespace Engine

/-- What an engine answers to a call. -/
def answer (e : Engine σ) : Call → StateM σ Answer
  | .opened ctx preamble? => fun s => ((e.openSession ctx preamble? s).1.map fun _ => none,
      (e.openSession ctx preamble? s).2)
  | .evaluated code => fun s => ((e.evaluate code s).1.map some, (e.evaluate code s).2)
  | .executed code => fun s => ((e.execute code s).1.map some, (e.execute code s).2)

/-- The answers to calls made one after the other. -/
def answers (e : Engine σ) : List Call → σ → List Answer
  | [], _ => []
  | c :: calls, s => (e.answer c s).1 :: e.answers calls (e.answer c s).2

/-- Whatever calls are made, the answers from the state `s` on are the same in sessions for `ctx` as
    those from `s'` on in sessions for `ctx'`. -/
def AnswersAlike (e : Engine σ) (ctx : Context) (s : σ) (ctx' : Context) (s' : σ) : Prop :=
  ∀ calls : List Call,
    e.answers (calls.map (·.inContext ctx)) s = e.answers (calls.map (·.inContext ctx')) s'

/-- A result can be told from its answer. -/
theorem map_injective {α β : Type} {g : α → β} (hg : g.Injective) :
    (Except.map g : Except CodeFailure α → Except CodeFailure β).Injective := by
  rintro (e | a) (e' | a') h
  · exact congrArg _ (Except.error.inj h)
  · cases h
  · cases h
  · exact congrArg _ (hg (Except.ok.inj h))

namespace AnswersAlike

variable {e : Engine σ} {ctx ctx' : Context} {s s' : σ}

/-- One call is answered alike, and all further ones as well. -/
theorem answer (h : e.AnswersAlike ctx s ctx' s') (c : Call) :
    (e.answer (c.inContext ctx) s).1 = (e.answer (c.inContext ctx') s').1 ∧
      e.AnswersAlike ctx (e.answer (c.inContext ctx) s).2
        ctx' (e.answer (c.inContext ctx') s').2 := by
  refine ⟨?_, fun calls => ?_⟩
  · exact (List.cons.inj (h [c])).1
  · exact (List.cons.inj (h (c :: calls))).2

/-- Both sessions are opened alike. -/
theorem openSession (h : e.AnswersAlike ctx s ctx' s') (preamble? : Option String) :
    (e.openSession ctx preamble? s).1 = (e.openSession ctx' preamble? s').1 ∧
      e.AnswersAlike ctx (e.openSession ctx preamble? s).2
        ctx' (e.openSession ctx' preamble? s').2 := by
  obtain ⟨hr, hs⟩ := h.answer (.opened ctx preamble?)
  exact ⟨map_injective (fun _ _ _ => rfl) hr, hs⟩

/-- Both sessions evaluate alike. -/
theorem evaluate (h : e.AnswersAlike ctx s ctx' s') (code : String) :
    (e.evaluate code s).1 = (e.evaluate code s').1 ∧
      e.AnswersAlike ctx (e.evaluate code s).2 ctx' (e.evaluate code s').2 := by
  obtain ⟨hr, hs⟩ := h.answer (.evaluated code)
  exact ⟨map_injective (Option.some_injective _) hr, hs⟩

/-- Both sessions run code alike. -/
theorem execute (h : e.AnswersAlike ctx s ctx' s') (code : String) :
    (e.execute code s).1 = (e.execute code s').1 ∧
      e.AnswersAlike ctx (e.execute code s).2 ctx' (e.execute code s').2 := by
  obtain ⟨hr, hs⟩ := h.answer (.executed code)
  exact ⟨map_injective (Option.some_injective _) hr, hs⟩

end AnswersAlike

/-- An engine that opens its sessions for the contexts alike answers alike. -/
theorem answersAlike_of_openSession {e : Engine σ} {ctx ctx' : Context}
    (h : e.openSession ctx = e.openSession ctx') (s : σ) : e.AnswersAlike ctx s ctx' s := by
  intro calls
  induction calls generalizing s with
  | nil => rfl
  | cons c calls ih =>
    -- A call reads the context only when it opens the session, where the answers are the same.
    have hanswer : e.answer (c.inContext ctx) = e.answer (c.inContext ctx') := by
      cases c with
      | opened _ preamble? => simp only [Call.inContext, answer, h]
      | evaluated code => rfl
      | executed code => rfl
    simp only [List.map_cons, answers, hanswer, ih]

end Engine

/-! ### Two fillings side by side -/

namespace Filler

/-- The filler with an engine that keeps a list of its calls. -/
def logged (f : Filler σ) : Filler (σ × List Call) := ⟨f.engine.logged, f.preamble?⟩

/-- Logging the calls changes nothing else. -/
theorem simulates_logged (f : Filler σ) (ctx : Context) :
    Simulates (fun s p => s = p.1) f ctx f.logged ctx where
  contexts := .refl ctx
  openSession := by rintro s p rfl; exact ⟨rfl, rfl⟩
  evaluate code := by rintro s p rfl; exact ⟨rfl, rfl⟩
  execute code := by rintro s p rfl; exact ⟨rfl, rfl⟩

/-- Two logs that have come equally far: the engine will answer alike, and the same calls have been
    made. -/
structure SameCalls (f : Filler σ) (ctx ctx' : Context) (p p' : σ × List Call) : Prop where
  answers : f.engine.AnswersAlike ctx p.1 ctx' p'.1
  calls : p.2.map (·.inContext ctx') = p'.2

/-- Making the same call keeps the calls the same. -/
theorem SameCalls.push {f : Filler σ} {ctx ctx' : Context} {p p' : σ × List Call}
    (h : f.SameCalls ctx ctx' p p') {s s' : σ} (hs : f.engine.AnswersAlike ctx s ctx' s') (c : Call) :
    f.SameCalls ctx ctx' (s, p.2 ++ [c.inContext ctx]) (s', p'.2 ++ [c.inContext ctx']) := by
  refine ⟨hs, ?_⟩
  rw [← h.calls, List.map_append]
  cases c <;> rfl

/-- In contexts that differ in values only, a filler makes the same calls. -/
theorem simulates_sameCalls (f : Filler σ) {ctx ctx' : Context} (h : ctx.SameButValues ctx') :
    Simulates (f.SameCalls ctx ctx') f.logged ctx f.logged ctx' where
  contexts := h
  openSession p p' hp := by
    obtain ⟨hr, hs⟩ := hp.answers.openSession f.preamble?
    exact ⟨hr, hp.push hs (.opened ctx f.preamble?)⟩
  evaluate code p p' hp := by
    obtain ⟨hr, hs⟩ := hp.answers.evaluate code
    exact ⟨hr, hp.push hs (.evaluated code)⟩
  execute code p p' hp := by
    obtain ⟨hr, hs⟩ := hp.answers.execute code
    exact ⟨hr, hp.push hs (.executed code)⟩

/-- **Plain values are never run.** In two contexts that differ in the values of plain tokens alone, for
    an engine whose answers do not show which of them it works for, a text is filled by the same calls
    with the same code, in the same order; and either it can be filled in both contexts, or it fails with
    the same error. -/
theorem fill_calls_eq (f : Filler σ) {ctx ctx' : Context} (h : ctx.SameButValues ctx')
    (text : String) (s : σ) (hengine : f.engine.AnswersAlike ctx s ctx' s) :
    ((f.logged.fill ctx text).run (s, [])).2.2.map (·.inContext ctx') =
      ((f.logged.fill ctx' text).run (s, [])).2.2 ∧
    Agree (fun _ _ => True) ((f.fill ctx text).run s).1 ((f.fill ctx' text).run s).1 := by
  have hstart : f.SameCalls ctx ctx' (s, []) (s, []) := ⟨hengine, rfl⟩
  obtain ⟨hr, hp⟩ := (f.simulates_sameCalls h).fill text _ _ hstart
  refine ⟨hp.calls, ?_⟩
  rw [run_fill_of_watched (f.simulates_logged ctx) text s [],
    run_fill_of_watched (f.simulates_logged ctx') text s []]
  exact hr.imp fun _ _ _ => trivial

/-! ### A value that looks like code -/

/-- An engine whose results are the code that it is given. -/
def echoEngine : Engine Unit where
  openSession _ _ := pure (.ok ())
  evaluate code := pure (.ok ⟨some (.string code), ""⟩)
  execute code := pure (.ok ⟨some (.string code), ""⟩)

/-- A filler whose engine answers with the code. -/
def echoFiller : Filler Unit := ⟨echoEngine, none⟩

/-- A context with a title and a sum that is computed. -/
def titled (title : String) : Context := ⟨⟨[("title", title)]⟩, ⟨[("sum", "1 + 1")]⟩⟩

/-- A title that is written like an expression and like the name of code is put in as it is, by the calls
    that any other title is put in by: only the sum that the text itself names is computed. -/
theorem fill_calls_eq_titled :
    let hostile := "\x7bmp.py: 2\x7d\x7bmp:sum\x7d"
    let run (title : String) :=
      (echoFiller.logged.fill (titled title) "\x7bmp:title\x7d \x7bmp:sum\x7d").run ((), [])
    (titled "A").SameButValues (titled hostile) ∧
    echoEngine.AnswersAlike (titled "A") () (titled hostile) () ∧
    (run hostile).1.toOption = some (hostile ++ " 1 + 1") ∧
    (run "A").2.2.length = 2 ∧
    (run hostile).2.2 = (run "A").2.2.map (·.inContext (titled hostile)) := by
  intro hostile run
  have hvalues : (titled "A").SameButValues (titled hostile) := by
    refine ⟨fun _ => rfl, fun name => ?_⟩
    simp only [Context.value?, Table.get?, titled, Table.lookup_cons_ite, List.lookup_nil]
    split <;> rfl
  have hengine : echoEngine.AnswersAlike (titled "A") () (titled hostile) () := by
    apply Engine.answersAlike_of_openSession
    rfl
  have hsame := fill_calls_eq echoFiller hvalues "\x7bmp:title\x7d \x7bmp:sum\x7d" () hengine
  exact ⟨hvalues, hengine, by decide +kernel, by decide +kernel, hsame.1.symm⟩

end Filler

end Scaffold
