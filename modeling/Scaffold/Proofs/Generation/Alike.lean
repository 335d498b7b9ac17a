import Scaffold.Proofs.Coupling
import Scaffold.Proofs.Generation.Script

namespace Scaffold.Generation

/-!
# Callbacks that answer alike

A callback has a part in a run by its answers alone. Two callbacks that answer alike lead to the same
run, whatever they keep in their states.

* `AnswerAlike S` — two callbacks give the same answers, for the correspondence `S` of their states;
* `generate_alike` — the outcomes of two generations with such callbacks are the same, but for the states.
-/

open Files (Path FileSystem)
open Conflict (Callback)

variable {σ σ' : Type}

/-- From states that correspond, the callbacks give the same answer to a question, and their states
    correspond again. -/
def AnswerAlike (S : σ → σ' → Prop) (callback : Callback σ) (callback' : Callback σ') : Prop :=
  ∀ files question s s', S s s' →
    (callback files question s).1 = (callback' files question s').1 ∧
      S (callback files question s).2 (callback' files question s').2

/-- The plans differ in their callbacks at most, and these answer alike. -/
structure Plan.Alike (S : σ → σ' → Prop) (plan : Plan σ) (plan' : Plan σ') : Prop where
  destination : plan.destination = plan'.destination
  total : plan.total = plan'.total
  callback? : Option.Rel (AnswerAlike S) plan.callback? plan'.callback?

/-- The runs differ in the states of their callbacks at most, and these correspond. -/
structure Run.Alike (S : σ → σ' → Prop) (run : Run σ) (run' : Run σ') : Prop where
  files : run.files = run'.files
  written : run.written = run'.written
  events : run.events = run'.events
  callback : S run.callback run'.callback

section Steps

variable {S : σ → σ' → Prop} {plan : Plan σ} {plan' : Plan σ'}

/-- A change to the file system is the same in both runs. -/
theorem change_alike (f : FileSystem → Option Files.Fault × FileSystem) :
    Coupled (Run.Alike S) (change f) (change f) Eq := by
  refine coupled_get.bind fun run run' h => ?_
  rw [h.files]
  rcases f run'.files with ⟨fault?, files⟩
  have hset : Run.Alike S { run with files := files } { run' with files := files } :=
    ⟨rfl, h.written, h.events, h.callback⟩
  refine (coupled_set hset).bind fun _ _ _ => ?_
  cases fault? with
  | none => exact coupled_pure rfl
  | some fault => exact coupled_throw _

theorem decide_alike (hplan : plan.Alike S plan') (path : Path) (isFolder : Bool) :
    Coupled (Run.Alike S) (decide plan path isFolder) (decide plan' path isFolder) Eq := by
  have hcallback := hplan.callback?
  rw [decide, decide, ← hplan.destination]
  -- Either there is no callback in both runs, or there are two that answer alike.
  generalize plan.callback? = callback?, plan'.callback? = callback?' at hcallback
  cases hcallback with
  | none => exact coupled_pure rfl
  | some hanswer =>
    refine coupled_get.bind fun run run' h => ?_
    obtain ⟨hanswers, hstates⟩ :=
      hanswer run'.files ⟨path, plan.destination, isFolder⟩ _ _ h.callback
    rw [h.files]
    refine (coupled_set ⟨rfl, h.written, ?_, hstates⟩).bind fun _ _ _ => coupled_pure hanswers
    rw [h.events, hanswers]

/-- Steps that follow the same script take the same course. -/
theorem Script.alike (hplan : plan.Alike S plan') {α : Type} {x : Writing σ α} {x' : Writing σ' α}
    (h : Script plan plan' x x') : Coupled (Run.Alike S) x x' Eq := by
  -- Both runs take the same steps, since what a step looks at is related or equal.
  induction h with
  | pure a => exact coupled_pure rfl
  | change f => exact change_alike f
  | record =>
    refine (coupled_modify fun run run' hrun => ?_).imp fun _ _ _ => rfl
    rw [recorded, recorded, hrun.written, hrun.events, hplan.total]
    exact ⟨hrun.files, rfl, rfl, hrun.callback⟩
  | look _ ih => exact coupled_get.bind fun run run' hrun => ih run run' hrun.files
  | bind _ _ ihx ihf =>
    refine ihx.bind ?_
    rintro a _ rfl
    exact ihf a
  | decide path isFolder hcancel hcancel' _ ih =>
    refine (decide_alike hplan path isFolder).bind ?_
    rintro answer _ rfl
    by_cases hanswer : answer = .cancel
    · rw [hanswer, hcancel, hcancel']
      exact coupled_throw _
    · exact ih answer hanswer

end Steps

theorem stopped?_eq_of_agree {r r' : Except Halt Unit} (h : Agree Eq r r') : stopped? r = stopped? r' := by
  cases h with
  | ok => rfl
  | error => rfl

/-- **Callbacks that answer alike** lead to the same outcome: the run stops for the same reason, with the
    same files and the same history. -/
theorem generate_alike {S : σ → σ' → Prop} {callback? : Option (Callback σ)}
    {callback?' : Option (Callback σ')} (hcallback : Option.Rel (AnswerAlike S) callback? callback?')
    {s : σ} {s' : σ'} (hs : S s s') (root : Tree) (destination : Path) (files : FileSystem) :
    (generate root destination callback? files s).interrupt? =
        (generate root destination callback?' files s').interrupt? ∧
      (generate root destination callback? files s).run.Alike S
        (generate root destination callback?' files s').run := by
  -- The plans differ in their callbacks only.
  have hplan : (planOf root destination callback?).Alike S (planOf root destination callback?') :=
    ⟨rfl, rfl, hcallback⟩
  have hwriting := (writing_script root destination callback? callback?').alike hplan
  have hruns := hwriting ⟨files, 0, [], s⟩ ⟨files, 0, [], s'⟩ ⟨rfl, rfl, rfl, hs⟩
  obtain ⟨hstop, hrun⟩ := generate_eq root destination callback? files s
  obtain ⟨hstop', hrun'⟩ := generate_eq root destination callback?' files s'
  rw [hstop, hstop', hrun, hrun']
  exact ⟨stopped?_eq_of_agree hruns.1, hruns.2⟩

end Scaffold.Generation
