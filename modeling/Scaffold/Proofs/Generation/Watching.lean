import Scaffold.Proofs.Generation.Alike

namespace Scaffold.Generation

/-!
# Watching a callback

The history of a run tells the questions and answers, but not what the file system was at a question. For that
the callback is watched: each time it is asked, what it sees and what it answers is written down.

* `watched` — a callback that answers as before and writes down its `Sighting`s;
* `generate_watched` — watching changes nothing in the outcome;
* `Acts.watched` — the sightings of a run are the questions of its history, and what was seen stays written
  down.
-/

open Files (Path FileSystem)
open Conflict (Decision Question Callback)

variable {σ : Type}

/-- What a callback sees and says when it is asked. -/
structure Sighting where
  files : FileSystem
  question : Question
  answer : Decision

/-- The sighting in the history, where the file system is left out. -/
def Sighting.event (sighting : Sighting) : Event := .asked sighting.question sighting.answer

def Event.isQuestion : Event → Bool
  | .asked _ _ => true
  | .wrote _ _ => false

/-- The callback, with a record of all that it sees and says. -/
def watched (callback : Callback σ) : Callback (σ × List Sighting) := fun files question (s, seen) =>
  let (answer, s) := callback files question s
  (answer, s, seen ++ [⟨files, question, answer⟩])

/-- What the callback of a generation sees and says, in order. -/
def sightings (root : Tree) (destination : Path) (callback? : Option (Callback σ)) (files : FileSystem)
    (s : σ) : List Sighting :=
  (generate root destination (callback?.map watched) files (s, [])).run.callback.2

theorem watched_answerAlike (callback : Callback σ) :
    AnswerAlike (fun s t => s = t.1) callback (watched callback) := by
  rintro files question s ⟨_, seen⟩ rfl
  exact ⟨rfl, rfl⟩

/-- **Watching a callback** changes nothing in the outcome. -/
theorem generate_watched (root : Tree) (destination : Path) (callback? : Option (Callback σ))
    (files : FileSystem) (s : σ) :
    (generate root destination (callback?.map watched) files (s, [])).interrupt? =
        (generate root destination callback? files s).interrupt? ∧
      (generate root destination callback? files s).run.Alike (fun s t => s = t.1)
        (generate root destination (callback?.map watched) files (s, [])).run := by
  have hcallback : Option.Rel (AnswerAlike fun s t => s = t.1) callback? (callback?.map watched) := by
    cases callback? with
    | none => exact .none
    | some callback => exact .some (watched_answerAlike callback)
  have hstart : s = (s, ([] : List Sighting)).1 := rfl
  obtain ⟨hstop, hrun⟩ := generate_alike hcallback hstart root destination files
  exact ⟨hstop.symm, hrun⟩

/-! ### What is written down -/

section Asking

variable (run : Run (σ × List Sighting)) (callback : Callback σ) (question : Question)

theorem events_ask : (run.ask (watched callback) question).2.events =
    run.events ++ [.asked question (run.ask (watched callback) question).1] := rfl

/-- The callback sees the files as they stay after the question. -/
theorem sightings_ask : (run.ask (watched callback) question).2.callback.2 =
    run.callback.2 ++ [⟨(run.ask (watched callback) question).2.files, question,
      (run.ask (watched callback) question).1⟩] := rfl

end Asking

/-- The sightings of a watched run are the questions of its history. -/
def Tallies (run : Run (σ × List Sighting)) : Prop :=
  run.callback.2.map Sighting.event = run.events.filter Event.isQuestion

section Acts

variable {plan : Plan (σ × List Sighting)} {callback? : Option (Callback σ)}
  (hplan : plan.callback? = callback?.map watched) {run run' : Run (σ × List Sighting)}
include hplan

/-- **One act.** A question is seen and told; whatever was seen before stays written down. -/
theorem Act.watched (h : Act plan run run') :
    (Tallies run → Tallies run') ∧ run.callback.2 <+: run'.callback.2 := by
  cases h with
  | change files => exact ⟨id, List.prefix_refl _⟩
  -- A record is no question, and a change makes no event; only a question adds to both lists.
  | record =>
    refine ⟨fun htallies => ?_, List.prefix_refl _⟩
    rw [Tallies] at htallies ⊢
    rw [recorded, List.filter_append, htallies]
    simp [Event.isQuestion]
  | ask hcallback path isFolder =>
    obtain ⟨inner, -, rfl⟩ := Option.map_eq_some_iff.1 (hplan.symm.trans hcallback)
    refine ⟨fun htallies => ?_, ?_⟩
    · rw [Tallies, sightings_ask, events_ask, List.map_append, List.filter_append, htallies]
      rfl
    · rw [sightings_ask]
      exact List.prefix_append _ _

theorem Acts.watched (h : Acts plan run run') :
    (Tallies run → Tallies run') ∧ run.callback.2 <+: run'.callback.2 := by
  induction h with
  | refl => exact ⟨id, List.prefix_refl _⟩
  | tail _ hact ih =>
    obtain ⟨htallies, hseen⟩ := hact.watched hplan
    exact ⟨htallies ∘ ih.1, ih.2.trans hseen⟩

end Acts

end Scaffold.Generation
