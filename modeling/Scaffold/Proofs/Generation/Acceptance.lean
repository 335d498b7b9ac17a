import Scaffold.Proofs.Generation.Room

namespace Scaffold.Generation

/-!
# Accepted paths

Where files are replaced and folders merged into, no node of the tree is passed over: a run that gets to its
end has handed the paths of all nodes to the system, which took them.

* `writeTree_fits` — the paths of the nodes of a tree that is written without a fault;
* `generate_fits` — the paths of all nodes, after a run that got to its end.
-/

open Files (Path FileSystem)
open Files.Path (IsNormal)
open Conflict (Decision Callback)

variable {σ : Type}

section MakingRoom

variable {plan : Plan σ} {run : Run σ} {path : Path}

/-- No folder is passed over. -/
theorem value_of_clearForFolder (hmerge : Answers plan true .merge) :
    Ends (clearForFolder plan path) run fun r _ => ∀ b, r = .ok b → b = true := by
  simp only [clearForFolder, ends_bind, ends_get]
  by_cases hocc : run.files.occupied path = true
  -- Something is there, and it is answered with Merge.
  · simp only [hocc, Bool.not_true, Bool.false_eq_true, if_false]
    refine (hmerge path run).bind ?_ (fun i run' h => by cases h.1)
    rintro answer run' ⟨hanswer, _⟩
    cases hanswer
    simp only [ends_bind, ends_get]
    exact value_of_remove_if
  · simp only [hocc, Bool.not_false, if_true]
    exact ends_pure.2 fun b hb => (Except.ok.inj hb).symm

/-- No file is passed over, or written under another name. -/
theorem value_of_clearForFile {answer : Decision} (hanswer : Answers plan false answer)
    (hreplaces : Replaces answer) :
    Ends (clearForFile plan path) run fun r _ => ∀ target?, r = .ok target? → target? = some path := by
  simp only [clearForFile, ends_bind, ends_get]
  by_cases hocc : run.files.occupied path = true
  -- Something is there, and the answer replaces it.
  · simp only [hocc, Bool.not_true, Bool.false_eq_true, if_false]
    refine (hanswer path run).bind ?_ (fun i run' h => by cases h.1)
    rintro _ run' ⟨heq, _⟩
    cases heq
    rcases hreplaces with rfl | rfl
    · simp only [ends_bind, ends_get]
      exact value_of_remove_if
    · simp only [ends_bind, ends_get]
      exact value_of_remove_if
  · simp only [hocc, Bool.not_false, if_true]
    exact ends_pure.2 fun b hb => (Except.ok.inj hb).symm

end MakingRoom

/-- A folder that is made without a fault is made by a path that the system takes. -/
theorem fits_of_makeFolders {run : Run σ} {folder : Path} {name : String} (hfs : run.files.LinkFree)
    (hname : IsNormal name) :
    Ends (change (·.makeFolders (folder.join name))) run fun r _ =>
      ∀ a, r = .ok a → (folder.join name).Fits := by
  rw [ends_change]
  split
  · exact fun a ha => by cases ha
  · rename_i hmake
    exact fun _ _ => FileSystem.makeFolders_join_fits hfs hname hmake

/-- The system takes the paths of all nodes of the tree, if it is written into the folder. -/
def AllFit (folder : Path) (t : Tree) : Prop :=
  ∀ way node, t.at? way = some node → ((folder.join t.name).below way).Fits

mutual

/-- **Accepted paths.** Where nothing is passed over, a tree that is written without a fault is one all of
    whose paths the system takes. -/
theorem writeTree_fits {plan : Plan σ} {answer : Decision} (h : Overlays plan answer) :
    ∀ (t : Tree) {run : Run σ} {folder : Path} {way : List String}, Inside plan folder way →
      run.files.LinkFree → (∀ n ∈ t.names, IsNormal n) →
      Proceeds plan run (writeTree plan folder t) fun _ _ => AllFit folder t
  | .file name content t?, run, folder, way, hinside, hfs, hnames => by
    have hname : IsNormal name := hnames name (by simp [Tree.names])
    rw [writeTree]
    refine ((clearForFile_proceeds hinside hname hfs).and_ends
      (value_of_clearForFile h.files h.replaces)).bind ?_
    rintro target? run' hmoves ⟨htarget?, rfl⟩
    obtain ⟨folder', name', hinside', hname', heq, hmay⟩ := htarget? _ rfl
    rw [heq] at hmay ⊢
    refine (writeFile_proceeds hinside' hname' (hmoves.keeps.2.1 hfs) hmay).imp ?_
    intro _ _ hfits nodeWay node hnode
    rw [← heq] at hfits
    -- A file has no nodes below it.
    cases nodeWay with
    | nil => exact hfits
    | cons n nodeWay =>
      obtain ⟨child, hchild, _⟩ := Tree.exists_child_of_at? hnode
      cases hchild
  | .folder name children t?, run, folder, way, hinside, hfs, hnames => by
    have hname : IsNormal name := hnames name (by simp [Tree.names])
    have hchildren : ∀ n ∈ Tree.namesOf children, IsNormal n := fun n hn =>
      hnames n (by simp [Tree.names, hn])
    rw [writeTree]
    refine ((clearForFolder_proceeds hinside hname hfs).and_ends
      (value_of_clearForFolder h.folders)).bind ?_
    rintro goOn run' hmoves ⟨_, rfl⟩
    have hfs' := hmoves.keeps.2.1 hfs
    refine ((makeFolders_proceeds (hinside.join hname) hfs').and_ends
      (R := fun _ => (folder.join name).Fits) (fits_of_makeFolders hfs' hname)).bind ?_
    rintro _ run'' hmade ⟨_, hfits⟩
    refine (writeTrees_fits h children (hinside.join hname) (hmade.keeps.2.1 hfs') hchildren).imp ?_
    intro _ _ hrest nodeWay node hnode
    -- A node is the folder itself, or below one of its children.
    cases nodeWay with
    | nil => exact hfits
    | cons n nodeWay =>
      obtain ⟨child, hchild, rfl, hat⟩ := Tree.exists_child_of_at? hnode
      exact hrest child hchild nodeWay node hat

theorem writeTrees_fits {plan : Plan σ} {answer : Decision} (h : Overlays plan answer) :
    ∀ (ts : List Tree) {run : Run σ} {folder : Path} {way : List String}, Inside plan folder way →
      run.files.LinkFree → (∀ n ∈ Tree.namesOf ts, IsNormal n) →
      Proceeds plan run (writeTrees plan folder ts) fun _ _ => ∀ t ∈ ts, AllFit folder t
  | [], run, folder, way, hinside, hfs, hnames => by
    rw [writeTrees]
    exact proceeds_pure (by simp)
  | t :: ts, run, folder, way, hinside, hfs, hnames => by
    have ht : ∀ n ∈ t.names, IsNormal n := fun n hn => hnames n (by simp [Tree.namesOf, hn])
    have hts : ∀ n ∈ Tree.namesOf ts, IsNormal n := fun n hn =>
      hnames n (by simp [Tree.namesOf, hn])
    rw [writeTrees]
    refine (writeTree_fits h t hinside hfs ht).bind ?_
    intro _ run' hmoves hfirst
    refine (writeTrees_fits h ts hinside (hmoves.keeps.2.1 hfs) hts).imp ?_
    intro _ _ hrest t' ht'
    rcases List.mem_cons.1 ht' with rfl | ht'
    · exact hfirst
    · exact hrest t' ht'

end

end Scaffold.Generation
