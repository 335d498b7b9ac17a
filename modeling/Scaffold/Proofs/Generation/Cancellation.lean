import Scaffold.Proofs.Generation.Watching

namespace Scaffold.Generation

/-!
# Cancellation

When a callback cancels, the run ends at that very question.

* `Heeds` — what every step does on a cancellation: it passes it on, and does nothing after it;
* `Script.heeds` — the steps of a run heed a cancellation;
* `generate_cancellation` — a generation counts as cancelled just if an answer was to cancel. That is the
  last event, and the files stay as the callback saw them.
-/

open Files (Path FileSystem)
open Conflict (Decision Question Callback)

variable {σ α β : Type}

/-- A question in the history was answered with cancel. -/
def Cancels (events : List Event) : Prop := ∃ question, Event.asked question .cancel ∈ events

/-- Whether the run was cancelled by its last question or before. -/
theorem cancels_append {events : List Event} {question : Question} {answer : Decision} :
    Cancels (events ++ [.asked question answer]) ↔ Cancels events ∨ answer = .cancel := by
  simp only [Cancels, List.mem_append, List.mem_singleton, exists_or, Event.asked.injEq,
    exists_eq_left', eq_comm]

/-! ### Steps that heed a cancellation -/

/-- The last thing that happened was a cancellation, the first one, and the files are those that the
    callback saw. -/
def Halted (run : Run (σ × List Sighting)) : Prop :=
  ∃ before seen question, ¬ Cancels before ∧ run.events = before ++ [.asked question .cancel] ∧
    run.callback.2 = seen ++ [⟨run.files, question, .cancel⟩]

/-- A run that was halted was cancelled. -/
theorem Halted.cancels {run : Run (σ × List Sighting)} (h : Halted run) : Cancels run.events := by
  obtain ⟨before, _, question, _, hevents, _⟩ := h
  exact ⟨question, by rw [hevents]; simp⟩

/-- There is no cancellation but the last event. -/
theorem Halted.last {run : Run (σ × List Sighting)} (h : Halted run) {before after : List Event}
    {question : Question} (hevents : run.events = before ++ .asked question .cancel :: after) :
    after = [] ∧ ∃ earlier, run.callback.2 = earlier ++ [⟨run.files, question, .cancel⟩] := by
  obtain ⟨before', seen, question', hclear, hevents', hseen⟩ := h
  rw [hevents'] at hevents
  rcases List.eq_nil_or_concat after with rfl | ⟨init, event, rfl⟩
  · obtain ⟨_, hlast⟩ := List.append_inj' hevents rfl
    cases hlast
    exact ⟨rfl, seen, hseen⟩
  · -- With an event after it, the cancellation would be among those before the last one.
    rw [List.concat_eq_append, ← List.cons_append, ← List.append_assoc] at hevents
    obtain ⟨hbefore, _⟩ := List.append_inj' hevents rfl
    exact absurd ⟨question, by rw [hbefore]; simp⟩ hclear

/-- How a step ends where cancellations are heeded: it fails with one just if the last thing was one. -/
def Heeded (r : Except Halt α) (run : Run (σ × List Sighting)) : Prop :=
  match r with
  | .error .cancelled => Halted run
  | .error (.failed _) | .ok _ => ¬ Cancels run.events

/-- Where nothing was cancelled yet, the step `x` heeds cancellations. -/
def Heeds (x : Writing (σ × List Sighting) α) : Prop :=
  ∀ run, ¬ Cancels run.events → Ends x run Heeded

/-- One step behind the other. -/
theorem Heeds.bind {x : Writing (σ × List Sighting) α} {f : α → Writing (σ × List Sighting) β}
    (hx : Heeds x) (hf : ∀ a, Heeds (f a)) : Heeds (x >>= f) := by
  intro run hclear
  refine (hx run hclear).bind (fun a run' hclear' => hf a run' hclear') ?_
  rintro (_ | e) run' h
  · exact h
  · exact h

section Scripts

variable {plan plan' : Plan (σ × List Sighting)} {callback? : Option (Callback σ)}
  (hplan : plan.callback? = callback?.map watched)
include hplan

/-- To heed a cancellation is to go on with it, right after the question. -/
theorem heeds_decide_bind {path : Path} {isFolder : Bool} {f : Decision → Writing (σ × List Sighting) α}
    (hcancel : f .cancel = throw .cancelled) (hf : ∀ answer, answer ≠ .cancel → Heeds (f answer)) :
    Heeds (decide plan path isFolder >>= f) := by
  intro run hclear
  rw [ends_bind, ends_decide, hplan]
  -- Without a callback nothing is asked, and the default is never to cancel.
  cases callback? with
  | none =>
    refine hf _ ?_ run hclear
    cases isFolder <;> simp
  | some callback =>
    dsimp only [Option.map_some]
    generalize (⟨path, plan.destination, isFolder⟩ : Question) = question
    -- The cancellation ends the run, and its question is the last event.
    by_cases hanswer : (run.ask (watched callback) question).1 = .cancel
    · rw [hanswer, hcancel]
      refine ends_throw.2 ⟨run.events, run.callback.2, question, hclear, ?_, ?_⟩
      · rw [events_ask, hanswer]
      · rw [sightings_ask, hanswer]
    -- Any other answer goes on, with an event that is no cancellation.
    · refine hf _ hanswer _ ?_
      rw [events_ask, cancels_append]
      rintro (hcancels | hcancels)
      · exact hclear hcancels
      · exact hanswer hcancels

/-- **Scripted steps** heed a cancellation. -/
theorem Script.heeds {x x' : Writing (σ × List Sighting) α} (h : Script plan plan' x x') : Heeds x := by
  -- The induction is on the script; only a question can cancel.
  induction h with
  | pure a => exact fun run hclear => ends_pure.2 hclear
  | change f =>
    intro run hclear
    rw [ends_change]
    split <;> exact hclear
  | record =>
    intro run hclear
    refine ends_modify.2 ?_
    rintro ⟨question, hmem⟩
    exact hclear ⟨question, by simpa [recorded] using hmem⟩
  | look _ ih => exact fun run hclear => ends_bind.2 (ends_get.2 (ih run run rfl run hclear))
  | bind _ _ ihx ihf => exact ihx.bind ihf
  | decide path isFolder hcancel _ _ ih => exact heeds_decide_bind hplan hcancel ih

end Scripts

/-! ### Whole generations -/

/-- A watched generation heeds a cancellation. -/
theorem generate_heeded (root : Tree) (destination : Path) (callback? : Option (Callback σ))
    (files : FileSystem) (s : σ) :
    if (generate root destination (callback?.map watched) files (s, [])).wasCancelled then
      Halted (generate root destination (callback?.map watched) files (s, [])).run
    else
      ¬ Cancels (generate root destination (callback?.map watched) files (s, [])).run.events := by
  have hheeds : Heeds (writing root destination (callback?.map watched)) :=
    (writing_script root destination _ (callback?.map watched)).heeds rfl
  have hend := ends_iff.1 (hheeds ⟨files, 0, [], s, []⟩ (by rintro ⟨_, h⟩; cases h))
  obtain ⟨hstop, hrun⟩ := generate_eq root destination (callback?.map watched) files (s, [])
  rw [Outcome.wasCancelled, hstop, hrun]
  -- The run has succeeded, has failed or was cancelled.
  generalize ((writing root destination (callback?.map watched)).run ⟨files, 0, [], s, []⟩).1 = r
    at hend ⊢
  rcases r with (_ | e) | _
  · exact hend
  · exact hend
  · exact hend

/-- An outcome is cancelled if an answer was, since answers are heeded. -/
theorem cancelled_iff_of_heeded {o : Outcome (σ × List Sighting)}
    (h : if o.wasCancelled then Halted o.run else ¬ Cancels o.run.events) :
    o.wasCancelled = true ↔ Cancels o.run.events := by
  by_cases hcancelled : o.wasCancelled = true
  · rw [if_pos hcancelled] at h
    exact iff_of_true hcancelled h.cancels
  · rw [if_neg hcancelled] at h
    exact iff_of_false hcancelled h

/-- An outcome is a cancellation just if it is a failure with the notice of one. -/
theorem Outcome.wasCancelled_iff (o : Outcome σ) :
    o.wasCancelled = true ↔ o.success = false ∧ o.message = cancelNotice := by
  rw [Outcome.wasCancelled, Outcome.success, Outcome.message]
  rcases o.interrupt? with _ | _ | e
  · simp
  · simp
  · simp [cancelNotice, String.ext_iff]

/-- **Cancellation is exact.** Whatever the tree, the file system and the callback: a generation counts as
    cancelled just if an answer was to cancel, and no fault is taken for that. A cancellation is the last
    event of the run, and the files stay as the callback saw them then. -/
theorem generate_cancellation (root : Tree) (destination : Path) (callback? : Option (Callback σ))
    (files : FileSystem) (s : σ) :
    let o := generate root destination callback? files s
    let w := generate root destination (callback?.map watched) files (s, [])
    let seen := sightings root destination callback? files s
    (w.interrupt? = o.interrupt? ∧ w.run.files = o.run.files ∧ w.run.written = o.run.written ∧
      w.run.events = o.run.events ∧ w.run.callback.1 = o.run.callback) ∧
    seen.map Sighting.event = o.run.events.filter Event.isQuestion ∧
    (o.wasCancelled = true ↔ Cancels o.run.events) ∧
    (o.wasCancelled = true ↔ o.success = false ∧ o.message = cancelNotice) ∧
    ∀ before question after, o.run.events = before ++ .asked question .cancel :: after →
      after = [] ∧ ∃ earlier, seen = earlier ++ [⟨o.run.files, question, .cancel⟩] := by
  intro o w seen
  obtain ⟨hstop, hrun⟩ := generate_watched root destination callback? files s
  have hend := generate_heeded root destination callback? files s
  -- The observer sees each question as it is asked.
  have htallies : Tallies w.run :=
    ((generate_acts root destination (callback?.map watched) files (s, [])).watched rfl).1 rfl
  -- The observed run ends like the run itself.
  have hsame : w.wasCancelled = o.wasCancelled := by
    rw [Outcome.wasCancelled, Outcome.wasCancelled, hstop]
  have hiff : o.wasCancelled = true ↔ Cancels o.run.events := by
    rw [← hsame, hrun.events]
    exact cancelled_iff_of_heeded hend
  refine ⟨⟨hstop, hrun.files.symm, hrun.written.symm, hrun.events.symm, hrun.callback.symm⟩, ?_, hiff,
    o.wasCancelled_iff, ?_⟩
  · rw [hrun.events]
    exact htallies
  -- The last event is the cancelling one, and the observer saw the files of that moment.
  · intro before question after hevents
    have hcancels : o.wasCancelled = true := hiff.2 ⟨question, by rw [hevents]; simp⟩
    rw [if_pos (hsame.trans hcancels)] at hend
    rw [hrun.events] at hevents
    rw [hrun.files]
    exact hend.last hevents

/-! ### A run that is cancelled midway -/

/-- A callback that always answers with Cancel. -/
def refusing : Callback Unit := fun _ _ s => (.cancel, s)

/-- A folder in which the second file of the tree is there already. -/
def secondFile : FileSystem where
  entries := [(["out"], .folder), (["out", "b"], .file (.text "old"))]
  workingFolder := []

/-- A tree with three files. -/
def threeFilesTree : Tree :=
  .folder "root" [.file "a" "new" none, .file "b" "new" none, .file "c" "new" none] none

/-- The first file is written, the second one is in the way, and the third one is never reached. -/
theorem generate_cancellation_midway :
    (generate threeFilesTree ⟨true, ["out"]⟩ (some refusing) secondFile ()).run.events =
      [.wrote 1 3, .asked ⟨⟨true, ["out", "b"]⟩, ⟨true, ["out"]⟩, false⟩ .cancel] ∧
    (generate threeFilesTree ⟨true, ["out"]⟩ (some refusing) secondFile ()).run.files.entries =
      [(["out", "a"], .file (.text "new")), (["out"], .folder), (["out", "b"], .file (.text "old"))] ∧
    (generate threeFilesTree ⟨true, ["out"]⟩ (some refusing) secondFile ()).wasCancelled = true ∧
    ∃ earlier, sightings threeFilesTree ⟨true, ["out"]⟩ (some refusing) secondFile () =
      earlier ++ [⟨(generate threeFilesTree ⟨true, ["out"]⟩ (some refusing) secondFile ()).run.files,
        ⟨⟨true, ["out", "b"]⟩, ⟨true, ["out"]⟩, false⟩, .cancel⟩] := by
  have hevents : (generate threeFilesTree ⟨true, ["out"]⟩ (some refusing) secondFile ()).run.events =
      [.wrote 1 3, .asked ⟨⟨true, ["out", "b"]⟩, ⟨true, ["out"]⟩, false⟩ .cancel] := by
    decide +kernel
  obtain ⟨_, _, hcancelled, _, hlast⟩ :=
    -- The question about the second file was cancelled, so it is the last event.
    generate_cancellation threeFilesTree ⟨true, ["out"]⟩ (some refusing) secondFile ()
  refine ⟨hevents, by decide +kernel, hcancelled.2 ?_, (hlast [.wrote 1 3] _ [] hevents).2⟩
  rw [hevents]
  exact ⟨_, List.mem_of_getLast? rfl⟩

end Scaffold.Generation
