import Scaffold.Proofs.Generation.Moves

namespace Scaffold.Generation

/-!
# Scripts of a run

How the steps of a run are put together, whatever the names in the tree and the links in the file system.
What holds of each part, and of parts one after the other, holds of every run. Two runs whose plans differ
follow the same script, so that they can be compared part by part.

* `Script` — the steps that look at the files, change them, ask the callback and record a file; a
  cancellation is passed on right after the question;
* `writing_script` — two generations of one tree, with whatever callbacks, follow the same script;
* `Act`, `generate_acts` — the things that are done to a run, one after the other.
-/

open Files (Path FileSystem)
open Conflict (Decision Callback)

variable {σ σ' α : Type}

/-- Notes that a file was written. -/
def recorded (plan : Plan σ) (run : Run σ) : Run σ :=
  { run with
    written := run.written + 1
    events := run.events ++ [.wrote (run.written + 1) plan.total] }

/-- The steps that runs with these plans are put together from, side by side. -/
inductive Script (plan : Plan σ) (plan' : Plan σ') :
    {α : Type} → Writing σ α → Writing σ' α → Prop
  | pure {α : Type} (a : α) : Script plan plan' (pure a) (pure a)
  | change (f : FileSystem → Option Files.Fault × FileSystem) : Script plan plan' (change f) (change f)
  | record : Script plan plan' (modify (recorded plan)) (modify (recorded plan'))
  /-- What is done next depends on the files alone. -/
  | look {α : Type} {f : Run σ → Writing σ α} {f' : Run σ' → Writing σ' α}
      (hf : ∀ run run', run.files = run'.files → Script plan plan' (f run) (f' run')) :
      Script plan plan' (get >>= f) (get >>= f')
  | bind {α β : Type} {x : Writing σ α} {x' : Writing σ' α} {f : α → Writing σ β}
      {f' : α → Writing σ' β} (hx : Script plan plan' x x')
      (hf : ∀ a, Script plan plan' (f a) (f' a)) : Script plan plan' (x >>= f) (x' >>= f')
  /-- To cancel is to stop right after the question. -/
  | decide {α : Type} {f : Decision → Writing σ α} {f' : Decision → Writing σ' α} (path : Path)
      (isFolder : Bool) (hcancel : f .cancel = throw .cancelled) (hcancel' : f' .cancel = throw .cancelled)
      (hf : ∀ answer, answer ≠ .cancel → Script plan plan' (f answer) (f' answer)) :
      Script plan plan' (decide plan path isFolder >>= f) (decide plan' path isFolder >>= f')

section Writing

variable {plan : Plan σ} {plan' : Plan σ'}

theorem clearForFolder_script (target : Path) :
    Script plan plan' (clearForFolder plan target) (clearForFolder plan' target) := by
  refine .look fun run run' hfiles => ?_
  rw [hfiles]
  by_cases hocc : run'.files.occupied target = true
  · simp only [hocc, Bool.not_true, Bool.false_eq_true, if_false]
    refine .decide target true rfl rfl fun answer hanswer => ?_
    cases answer with
    | overwrite => exact (Script.change _).bind fun _ => .pure true
    -- A merge and a copy look at what stands there first, and clear it only when it is no folder.
    | merge | keep =>
      refine .look fun r r' h => ?_
      rw [h]
      split
      · exact (Script.change _).bind fun _ => .pure true
      · exact .pure true
    | skip => exact .pure false
    | cancel => exact absurd rfl hanswer
  · simp only [hocc, Bool.not_false, if_true]
    exact .pure true

theorem clearForFile_script (target : Path) :
    Script plan plan' (clearForFile plan target) (clearForFile plan' target) := by
  refine .look fun run run' hfiles => ?_
  rw [hfiles]
  by_cases hocc : run'.files.occupied target = true
  · simp only [hocc, Bool.not_true, Bool.false_eq_true, if_false]
    refine .decide target false rfl rfl fun answer hanswer => ?_
    cases answer with
    -- An overwrite and a merge clear a folder only; a file is written over.
    | overwrite | merge =>
      refine .look fun r r' h => ?_
      rw [h]
      split
      · exact (Script.change _).bind fun _ => .pure _
      · exact .pure _
    | keep =>
      refine .look fun r r' h => ?_
      rw [h]
      exact .pure _
    | skip => exact .pure none
    | cancel => exact absurd rfl hanswer
  · simp only [hocc, Bool.not_false, if_true]
    exact .pure _

theorem writeFile_script (target : Path) (content : String) :
    Script plan plan' (writeFile plan target content) (writeFile plan' target content) := by
  have hwrite : Script plan plan' (do attempt (·.writeText target content); modify (recorded plan))
      (do attempt (·.writeText target content); modify (recorded plan')) :=
    (Script.change _).bind fun _ => .record
  rw [writeFile, writeFile]
  cases target.parent? with
  | none => exact hwrite
  | some parent => exact (Script.change _).bind fun _ => hwrite

mutual

theorem writeTree_script : ∀ (t : Tree) (parent : Path),
    Script plan plan' (writeTree plan parent t) (writeTree plan' parent t)
  | .file name content _, parent => by
    rw [writeTree, writeTree]
    refine (clearForFile_script _).bind fun target? => ?_
    cases target? with
    | none => exact .pure ()
    | some target => exact writeFile_script target content
  | .folder name children _, parent => by
    rw [writeTree, writeTree]
    refine (clearForFolder_script _).bind fun clear => ?_
    cases clear with
    | false => exact .pure ()
    | true => exact (Script.change _).bind fun _ => writeTrees_script children _

theorem writeTrees_script : ∀ (ts : List Tree) (parent : Path),
    Script plan plan' (writeTrees plan parent ts) (writeTrees plan' parent ts)
  | [], parent => by
    rw [writeTrees, writeTrees]
    exact .pure ()
  | t :: ts, parent => by
    rw [writeTrees, writeTrees]
    exact (writeTree_script t parent).bind fun _ => writeTrees_script ts parent

end

end Writing

/-- **Scripts of a generation.** -/
theorem writing_script (root : Tree) (destination : Path) (callback? : Option (Callback σ))
    (callback?' : Option (Callback σ')) :
    Script (planOf root destination callback?) (planOf root destination callback?')
      (writing root destination callback?) (writing root destination callback?') :=
  (Script.change _).bind fun _ => writeTrees_script root.children destination

/-! ### Acts -/

/-- One thing that is done to a run. -/
inductive Act (plan : Plan σ) : Run σ → Run σ → Prop
  | change {run : Run σ} (files : FileSystem) : Act plan run { run with files := files }
  | record {run : Run σ} : Act plan run (recorded plan run)
  | ask {run : Run σ} {callback : Callback σ} (hcallback : plan.callback? = some callback) (path : Path)
      (isFolder : Bool) : Act plan run (run.ask callback ⟨path, plan.destination, isFolder⟩).2

/-- The run comes from the other one by acts. -/
abbrev Acts (plan : Plan σ) : Run σ → Run σ → Prop := Relation.ReflTransGen (Act plan)

/-- A scripted step acts only, whether or not it fails. -/
theorem Script.acts {plan plan' : Plan σ} {x x' : Writing σ α} (h : Script plan plan' x x')
    -- A step is one act or none, and the rest of the script follows on the run it leaves.
    (run : Run σ) : Ends x run fun _ run' => Acts plan run run' := by
  induction h generalizing run with
  | pure a => exact ends_pure.2 .refl
  | change f =>
    rw [ends_change]
    split <;> exact .single (.change _)
  | record => exact ends_modify.2 (.single .record)
  | look _ ih => exact ends_bind.2 (ends_get.2 (ih run run rfl run))
  | bind _ _ ihx ihf =>
    exact (ihx run).bind (fun a run' h => (ihf a run').imp fun _ _ h' => h.trans h') fun _ _ h => h
  | decide path isFolder hcancel _ _ ih =>
    have hasked : Ends (Generation.decide plan path isFolder) run fun _ run' => Acts plan run run' := by
      rw [ends_decide]
      cases hcallback : plan.callback? with
      | none => exact .refl
      | some callback => exact .single (.ask hcallback path isFolder)
    refine hasked.bind (fun answer run' h => ?_) fun _ _ h => h
    -- A cancellation ends the script before its rest is reached.
    by_cases hanswer : answer = .cancel
    · rw [hanswer, hcancel]
      exact ends_throw.2 h
    · exact (ih answer hanswer run').imp fun _ _ h' => h.trans h'

/-- **Acts of a generation.** Whatever the outcome, the run is made of acts. -/
theorem generate_acts (root : Tree) (destination : Path) (callback? : Option (Callback σ))
    (files : FileSystem) (s : σ) :
    Acts (planOf root destination callback?) ⟨files, 0, [], s⟩
      (generate root destination callback? files s).run :=
  (generate_iff (Q := fun _ => Acts (planOf root destination callback?) ⟨files, 0, [], s⟩)).2
    ((writing_script root destination callback? callback?).acts _)

end Scaffold.Generation
