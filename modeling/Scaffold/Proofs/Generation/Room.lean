import Scaffold.Proofs.Generation.Moves

namespace Scaffold.Generation

/-!
# Writing into a ready folder

What the steps of a run do in a folder that stands, if the system takes the path of what is written and every
question gets the same answer: they do what they are for, without a fault.

* `Answers` — every question of a kind gets the same answer; `always`, a callback that gives it; `Overlays`, that
  folders are merged into and files replaced;
* `Ready` — a folder that stands and may be written into; `RoomForFile`, `RoomForFolder`, what making room in
  it leaves;
* `Ready.clearForFolder`, `Ready.clearForFile` — making room leaves what is elsewhere;
* `Ready.makeFolders`, `Ready.writeFile` — what is made and written where there is room.
-/

open Files (Path FileSystem Location Entry)
open Files.Path (IsNormal)
open Conflict (Decision Callback)

variable {σ : Type}

/-! ### Steady decisions -/

/-- Every question about a folder, or about a file, gets this answer, and the file system stays as it is. -/
def Answers (plan : Plan σ) (isFolder : Bool) (answer : Decision) : Prop :=
  ∀ path run, Ends (decide plan path isFolder) run fun r run' =>
    r = .ok answer ∧ run'.files = run.files

/-- So it is with a callback that always answers the same. -/
theorem answers_of_constant {plan : Plan σ} {callback : Callback σ} {answer : Decision}
    (hcallback : plan.callback? = some callback)
    (h : ∀ files question s, (callback files question s).1 = answer) (isFolder : Bool) :
    Answers plan isFolder answer := by
  intro path run
  rw [ends_decide, hcallback]
  exact ⟨congrArg Except.ok (h _ _ _), rfl⟩

/-- Gives the same answer to every question. -/
def always (answer : Decision) : Callback Unit := fun _ _ _ => (answer, ())

/-- Folders are always merged into, and files replaced. -/
structure Overlays (plan : Plan σ) (answer : Decision) : Prop where
  folders : Answers plan true .merge
  files : Answers plan false answer
  replaces : Replaces answer

/-- So it is without a callback. -/
theorem overlays_of_none {plan : Plan σ} (h : plan.callback? = none) : Overlays plan .overwrite := by
  have hdefault : ∀ isFolder : Bool,
      Answers plan isFolder (if isFolder then .merge else .overwrite) := by
    intro isFolder path run
    rw [ends_decide, h]
    exact ⟨rfl, rfl⟩
  exact ⟨hdefault true, hdefault false, .inl rfl⟩

/-! ### Making room -/

/-- The folder stands and may be written into: its path comes past folders only, and nothing that changes in
    the folder is on the way to it. -/
structure Ready (files : FileSystem) (folder : Path) : Prop where
  linkFree : files.LinkFree
  rooted : files.Rooted
  isOpen : files.IsOpen folder
  isDirect : files.IsDirect folder

section Cutting

variable {files : FileSystem} {folder : Path} {name : String} (hready : Ready files folder)
  (hname : IsNormal name)
include hready hname

/-- A folder stays ready when what is in it changes. -/
theorem Ready.of_outside {after : FileSystem} (hworking : after.workingFolder = files.workingFolder)
    (hfs : after.LinkFree) (hrooted : after.Rooted)
    (houtside : ∀ other, ¬ files.placeOf (folder.join name) <+: other →
      after.entryAt? other = files.entryAt? other) : Ready after folder where
  linkFree := hfs
  rooted := hrooted
  isOpen := by
    intro place hpasses
    rw [FileSystem.passes_congr hworking] at hpasses
    -- A place on the way to the folder is not below the place of the child.
    rw [houtside place (hready.isDirect.not_isPrefix hname hpasses)]
    exact hready.isOpen place hpasses
  isDirect := (FileSystem.isDirect_congr hworking).2 hready.isDirect

/-- A folder from which something was removed is there still. -/
theorem Ready.cut : Ready (files.cut (files.placeOf (folder.join name))) folder := by
  refine hready.of_outside hname rfl (hready.linkFree.cut (placeOf_join_ne_nil hname))
    (hready.rooted.cut (placeOf_join_ne_nil hname)) ?_
  intro other hother
  rw [FileSystem.entryAt?_cut _ _ _ (placeOf_join_ne_nil hname), if_neg]
  rwa [List.isPrefixOf_iff_prefix]

/-- Below a place at which no folder stands, removing it makes no difference. -/
theorem Ready.entryAt?_cut (hnot : files.entryAt? (files.placeOf (folder.join name)) ≠ some .folder)
    {other : Location} (hother : other ≠ files.placeOf (folder.join name)) :
    (files.cut (files.placeOf (folder.join name))).entryAt? other = files.entryAt? other := by
  rw [FileSystem.entryAt?_cut _ _ _ (placeOf_join_ne_nil hname)]
  split
  · rename_i hcut
    obtain ⟨rest, rfl⟩ := List.isPrefixOf_iff_prefix.1 hcut
    exact (hready.rooted.entryAt?_eq_none hnot (by simpa using hother)).symm
  · rfl

end Cutting

/-- Room was made for a file at `place`, and what is elsewhere is as it was. -/
structure RoomForFile (folder : Path) (place : Location) (before after : FileSystem) : Prop where
  workingFolder : after.workingFolder = before.workingFolder
  ready : Ready after folder
  free : after.entryAt? place ≠ some .folder
  outside : ∀ other, ¬ place <+: other → after.entryAt? other = before.entryAt? other

/-- Room was made for a folder at `place`, and what is elsewhere is as it was. -/
structure RoomForFolder (folder : Path) (place : Location) (before after : FileSystem) : Prop where
  workingFolder : after.workingFolder = before.workingFolder
  ready : Ready after folder
  free : after.entryAt? place = none ∨ after.entryAt? place = some .folder
  outside : ∀ other, other ≠ place → after.entryAt? other = before.entryAt? other

/-- What the system gets to is removed without a fault, if that is wanted. -/
theorem ends_remove_if {run : Run σ} {folder : Path} {name : String} (hfs : run.files.LinkFree)
    (hname : IsNormal name) (hreach : run.files.Reachable (folder.join name))
    (hsome : run.files.entryAt? (run.files.placeOf (folder.join name)) ≠ none) {α : Type} {c : Prop}
    [Decidable c] {a : α} :
    Ends (if c then do
        change (·.remove (folder.join name))
        return a
      else return a) run fun r run' =>
      r = .ok a ∧ (¬ c ∧ run'.files = run.files ∨
        c ∧ run'.files = run.files.cut (run.files.placeOf (folder.join name))) := by
  by_cases hc : c
  · rw [if_pos hc, ends_bind, ends_change, FileSystem.remove_of_occupied hfs hname hreach hsome]
    exact ends_pure.2 ⟨rfl, .inr ⟨hc, rfl⟩⟩
  · rw [if_neg hc]
    exact ends_pure.2 ⟨rfl, .inl ⟨hc, rfl⟩⟩

section MakingRoom

variable {plan : Plan σ} {run : Run σ} {folder : Path} {name : String}
  (hready : Ready run.files folder) (hname : IsNormal name) (hfits : (folder.join name).Fits)
include hready hname hfits

theorem Ready.occupied_iff : run.files.occupied (folder.join name) = true ↔
    run.files.entryAt? (run.files.placeOf (folder.join name)) ≠ none := by
  rw [FileSystem.occupied_iff hready.linkFree]
  exact and_iff_right (hready.isOpen.reachable_join hname hfits)

theorem Ready.isFolder_iff : run.files.isFolder (folder.join name) = true ↔
    run.files.entryAt? (run.files.placeOf (folder.join name)) = some .folder := by
  rw [FileSystem.isFolder_iff hready.linkFree]
  exact and_iff_right (hready.isOpen.reachable_join hname hfits)

theorem Ready.not_occupied (hnone : run.files.entryAt? (run.files.placeOf (folder.join name)) = none) :
    run.files.occupied (folder.join name) = false := by
  rw [← Bool.not_eq_true, hready.occupied_iff hname hfits, not_ne_iff]
  exact hnone

/-- What is no folder is removed where one is to be merged into. -/
theorem Ready.replaceFile (hsome : run.files.entryAt? (run.files.placeOf (folder.join name)) ≠ none) :
    Ends (if (!run.files.isFolder (folder.join name)) = true then do
        change (·.remove (folder.join name))
        return true
      else return true) run fun r run' => r = .ok true ∧
      RoomForFolder folder (run.files.placeOf (folder.join name)) run.files run'.files := by
  refine (ends_remove_if hready.linkFree hname (hready.isOpen.reachable_join hname hfits) hsome).imp ?_
  rintro r run' ⟨rfl, hr⟩
  rw [Bool.not_eq_true', ← Bool.not_eq_true, hready.isFolder_iff hname hfits, not_not] at hr
  -- A folder is left as it is; a file is cut, and its place is free.
  rcases hr with ⟨hfolder, hsame⟩ | ⟨hnot, hcut⟩
  · rw [hsame]
    exact ⟨rfl, rfl, hready, .inr hfolder, fun _ _ => rfl⟩
  · rw [hcut]
    refine ⟨rfl, rfl, hready.cut hname, .inl ?_, fun other => hready.entryAt?_cut hname hnot⟩
    rw [FileSystem.entryAt?_cut _ _ _ (placeOf_join_ne_nil hname), if_pos (by simp)]

/-- A folder is removed where a file is to be written. -/
theorem Ready.replaceFolder (hsome : run.files.entryAt? (run.files.placeOf (folder.join name)) ≠ none) :
    Ends (if run.files.isFolder (folder.join name) = true then do
        change (·.remove (folder.join name))
        return some (folder.join name)
      else return some (folder.join name)) run fun r run' => r = .ok (some (folder.join name)) ∧
      RoomForFile folder (run.files.placeOf (folder.join name)) run.files run'.files := by
  refine (ends_remove_if hready.linkFree hname (hready.isOpen.reachable_join hname hfits) hsome).imp ?_
  -- Anything but a folder is left for the writing to replace; a folder is cut.
  rintro r run' ⟨rfl, ⟨hnot, hsame⟩ | ⟨_, hcut⟩⟩
  · rw [hready.isFolder_iff hname hfits] at hnot
    rw [hsame]
    exact ⟨rfl, rfl, hready, hnot, fun _ _ => rfl⟩
  · rw [hcut]
    refine ⟨rfl, rfl, hready.cut hname, ?_, fun other hother => ?_⟩
    · rw [FileSystem.entryAt?_cut _ _ _ (placeOf_join_ne_nil hname), if_pos (by simp)]
      simp
    · rw [FileSystem.entryAt?_cut _ _ _ (placeOf_join_ne_nil hname), if_neg]
      rwa [List.isPrefixOf_iff_prefix]

/-- Where folders are merged into, nothing or a folder is left in the place of one. -/
theorem Ready.clearForFolder (hmerge : Answers plan true .merge) :
    Ends (clearForFolder plan (folder.join name)) run fun r run' => r = .ok true ∧
      RoomForFolder folder (run.files.placeOf (folder.join name)) run.files run'.files := by
  simp only [Generation.clearForFolder, ends_bind, ends_get]
  by_cases hsome : run.files.entryAt? (run.files.placeOf (folder.join name)) = none
  · simp only [hready.not_occupied hname hfits hsome, Bool.not_false, if_true]
    exact ends_pure.2 ⟨rfl, rfl, hready, .inl hsome, fun _ _ => rfl⟩
  · have hocc := (hready.occupied_iff hname hfits).2 hsome
    simp only [hocc, Bool.not_true, Bool.false_eq_true, if_false]
    refine (hmerge _ run).bind ?_ (fun i run' h => by cases h.1)
    rintro answer run' ⟨hanswer, hfiles⟩
    cases hanswer
    -- The question leaves the files as they are.
    rw [← hfiles] at hready hsome ⊢
    simp only [ends_bind, ends_get]
    exact hready.replaceFile hname hfits hsome

/-- Where files are replaced, no folder is left in the place of one. -/
theorem Ready.clearForFile {answer : Decision} (hanswer : Answers plan false answer)
    (hreplaces : Replaces answer) :
    Ends (clearForFile plan (folder.join name)) run fun r run' =>
      r = .ok (some (folder.join name)) ∧
      RoomForFile folder (run.files.placeOf (folder.join name)) run.files run'.files := by
  simp only [Generation.clearForFile, ends_bind, ends_get]
  -- Nothing is at the place, or what is there is answered with the given answer.
  by_cases hsome : run.files.entryAt? (run.files.placeOf (folder.join name)) = none
  · simp only [hready.not_occupied hname hfits hsome, Bool.not_false, if_true]
    exact ends_pure.2 ⟨rfl, rfl, hready, by rw [hsome]; simp, fun _ _ => rfl⟩
  · have hocc := (hready.occupied_iff hname hfits).2 hsome
    simp only [hocc, Bool.not_true, Bool.false_eq_true, if_false]
    refine (hanswer _ run).bind ?_ (fun i run' h => by cases h.1)
    rintro _ run' ⟨heq, hfiles⟩
    cases heq
    rw [← hfiles] at hready hsome ⊢
    rcases hreplaces with rfl | rfl
    · simp only [ends_bind, ends_get]
      exact hready.replaceFolder hname hfits hsome
    · simp only [ends_bind, ends_get]
      exact hready.replaceFolder hname hfits hsome

end MakingRoom

/-! ### Making folders and writing files -/

section Writing

variable {files : FileSystem} {folder : Path} {name : String} (hready : Ready files folder)
  (hname : IsNormal name) (hfits : (folder.join name).Fits)
include hready hname hfits

/-- Where nothing stands, or a folder, a folder is made or found, and the rest stays as it is. -/
theorem Ready.makeFolders (hfree : files.entryAt? (files.placeOf (folder.join name)) = none ∨
      files.entryAt? (files.placeOf (folder.join name)) = some .folder) :
    ∃ made, files.makeFolders (folder.join name) = (none, made) ∧
      made.workingFolder = files.workingFolder ∧ Ready made (folder.join name) ∧
      ∀ other, made.entryAt? other =
        if other = files.placeOf (folder.join name) then some .folder else files.entryAt? other := by
  have hreach := hready.isOpen.reachable_join hname hfits
  have hslash := FileSystem.withoutSlashes_join folder hname
  have hgrows := FileSystem.makeFolders_grows hready.linkFree (folder.join name)
  have hmade : ∃ made, files.makeFolders (folder.join name) = (none, made) ∧
      ∀ other, made.entryAt? other =
        if other = files.placeOf (folder.join name) then some .folder else files.entryAt? other := by
    -- The folder is made in its parent, or it is there already.
    rcases hfree with hnone | hfolder
    · refine ⟨_, FileSystem.makeFolders_of_none hready.linkFree hslash hreach hnone, ?_⟩
      exact fun other => FileSystem.entryAt?_put _ _ _ _ (placeOf_join_ne_nil hname)
    · refine ⟨files, FileSystem.makeFolders_of_folder hready.linkFree hslash hreach hfolder,
        fun other => ?_⟩
      split
      · rename_i heq
        rw [heq, hfolder]
      · rfl
  obtain ⟨made, hmake, hentries⟩ := hmade
  rw [hmake] at hgrows
  have hworking := hgrows.workingFolder
  have hopen : made.IsOpen folder := by
    intro place hpasses
    rw [FileSystem.passes_congr hworking] at hpasses
    exact hgrows.entryAt?_of_some (hready.isOpen place hpasses)
  refine ⟨made, hmake, hworking, ?_, hentries⟩
  exact {
    linkFree := hgrows.linkFree hready.linkFree
    rooted := hgrows.rooted hready.rooted
    isOpen := hopen.join hname (by rw [FileSystem.placeOf_congr hworking, hentries, if_pos rfl])
    isDirect := (FileSystem.isDirect_congr hworking).2 (hready.isDirect.join hname) }

/-- Where no folder stands, a file is written, and the rest stays as it is. -/
theorem Ready.writeFile {plan : Plan σ} {run : Run σ} {content : String} (hfiles : run.files = files)
    (hfree : files.entryAt? (files.placeOf (folder.join name)) ≠ some .folder) :
    Ends (writeFile plan (folder.join name) content) run fun r run' => r = .ok () ∧
      run'.files = files.put (files.placeOf (folder.join name)) (.file (.text content)) := by
  have hreach := hready.isOpen.reachable_join hname hfits
  have hmake := FileSystem.makeFolders_trimmed hready.linkFree hready.isOpen hname hfits
  have hwrite := (FileSystem.writeText_eq_ok_iff hready.linkFree hname (s := content)).2
    ⟨hreach, hfree, rfl⟩
  rw [Generation.writeFile, Path.parent?_join folder hname]
  simp only [ends_bind, ends_change, ends_attempt, ends_modify, hfiles, hmake, hwrite]
  exact ⟨trivial, trivial⟩

end Writing

end Scaffold.Generation
