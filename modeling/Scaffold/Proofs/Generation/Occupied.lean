import Scaffold.Proofs.Generation.Room
import Scaffold.Proofs.Generation.Script

namespace Scaffold.Generation

/-!
# Files where something stands

What becomes of a file whose path is occupied, whatever links there are. Whether something stands at a path is
told without following a last link, but a text is written through it.

* `decision_ends`, `clearForFile_overwrite`, `clearForFile_keep` — what a decision on a file leads to;
* `writeFile_put`, `Located.writeFile` — where a file goes that is written without a fault;
* `writeTree_overwrite` — a file that is overwritten is replaced, unless it is a link that does not lead to a
  folder: then the text goes where that leads;
* `writeTree_keep` — a file that is written beside one that is kept;
* `freeVariant_beside` — the variant beside a file that is kept is the first one that leads to nothing, and a link
  is one of these.
-/

open Files (Path FileSystem Location Entry)
open Files.Path (IsNormal)
open Conflict (Decision Callback)

variable {σ : Type}

/-! ### Decisions on a file -/

section Deciding

variable {plan : Plan σ} {run : Run σ} {target : Path}

/-- A decision leaves the file system as it is. -/
theorem decision_ends {isFolder : Bool} {answer : Decision}
    (h : ((decide plan target isFolder).run run).1 = .ok answer) :
    Ends (decide plan target isFolder) run fun r run' => r = .ok answer ∧ run'.files = run.files := by
  have hfiles : Ends (decide plan target isFolder) run fun _ run' => run'.files = run.files := by
    rw [ends_decide]
    cases plan.callback? with
    | none => rfl
    | some callback => rfl
  rw [ends_iff] at hfiles ⊢
  exact ⟨h, hfiles⟩

variable (hocc : run.files.occupied target = true)
include hocc

/-- What is overwritten is removed only if the path leads to a folder. -/
theorem clearForFile_overwrite (hdecide : ((decide plan target false).run run).1 = .ok .overwrite) :
    Ends (clearForFile plan target) run fun r run' => ∀ target?, r = .ok target? → target? = some target ∧
      (run.files.isFolder target = false ∧ run'.files = run.files ∨
        run.files.isFolder target = true ∧ run.files.remove target = (none, run'.files)) := by
  simp only [clearForFile, ends_bind, ends_get, hocc, Bool.not_true, Bool.false_eq_true, if_false]
  refine (decision_ends hdecide).imp ?_
  rintro _ asked ⟨rfl, hfiles⟩
  simp only [ends_bind, ends_get, hfiles]
  -- A folder is removed before the file is written; anything else is left for the writing to replace.
  by_cases hfolder : run.files.isFolder target = true
  · rw [if_pos hfolder, ends_bind, ends_change, hfiles]
    cases hremove : run.files.remove target with
    | mk fault? files =>
      cases fault? with
      | some fault => exact fun _ h => by cases h
      | none =>
        refine ends_pure.2 fun target? h => ?_
        cases h
        exact ⟨rfl, .inr ⟨hfolder, rfl⟩⟩
  · rw [if_neg hfolder]
    refine ends_pure.2 fun target? h => ?_
    cases h
    exact ⟨rfl, .inl ⟨by simpa using hfolder, hfiles⟩⟩

/-- What is kept stays, and the file goes to the free variant. -/
theorem clearForFile_keep (hdecide : ((decide plan target false).run run).1 = .ok .keep) :
    Ends (clearForFile plan target) run fun r run' =>
      r = .ok (some (freeVariant run.files target)) ∧ run'.files = run.files := by
  simp only [clearForFile, ends_bind, ends_get, hocc, Bool.not_true, Bool.false_eq_true, if_false]
  refine (decision_ends hdecide).imp ?_
  rintro _ asked ⟨rfl, hfiles⟩
  simp only [ends_bind, ends_get, hfiles]
  exact ends_pure.2 ⟨rfl, hfiles⟩

end Deciding

/-! ### Where a file goes -/

section Writing

variable {plan : Plan σ} {run : Run σ} {target : Path} {content : String}

/-- Where no folder has to be made around it, a file goes to what its path leads to. -/
theorem writeFile_put
    (hparent : ∀ parent, target.parent? = some parent → run.files.makeFolders parent = (none, run.files)) :
    Ends (writeFile plan target content) run fun r run' => r = .ok () →
      ∃ goal, run.files.locate true target = .ok goal ∧ run.files.entryAt? goal ≠ some .folder ∧
        run'.files = run.files.put goal (.file (.text content)) := by
  have hwrite : Ends (do attempt (·.writeText target content); modify (recorded plan)) run fun r run' =>
      r = .ok () → ∃ goal, run.files.locate true target = .ok goal ∧
        run.files.entryAt? goal ≠ some .folder ∧ run'.files = run.files.put goal (.file (.text content)) := by
    -- Writing goes to the place that the path leads to, links and all.
    rw [ends_bind, ends_attempt]
    split
    · rename_i files hfiles
      obtain ⟨_, goal, hgoal, hentry, rfl⟩ := FileSystem.writeText_eq_ok_iff_locate.1 hfiles
      exact ends_modify.2 fun _ => ⟨goal, hgoal, hentry, rfl⟩
    · exact fun h => by cases h
  rw [writeFile]
  -- The folder of the target is there, so nothing is made for it.
  cases hp : target.parent? with
  | none => exact hwrite
  | some parent =>
    rw [ends_bind, ends_change, hparent parent hp]
    exact hwrite

/-- By a path with a slash at its end no file is written. -/
theorem writeFile_slash (hslash : target.pieces.getLast? = some "") :
    Ends (writeFile plan target content) run fun r _ => r ≠ .ok () := by
  -- A path that ends with a slash leads to no file that could be written.
  have hwrite : ∀ made : Run σ,
      Ends (do attempt (·.writeText target content); modify (recorded plan)) made fun r _ => r ≠ .ok () := by
    intro made
    rw [ends_bind, ends_attempt]
    split
    · rename_i files hfiles
      exact absurd hslash (FileSystem.writeText_eq_ok_iff_locate.1 hfiles).1
    · simp
  rw [writeFile]
  cases target.parent? with
  | none => exact hwrite run
  | some parent =>
    rw [ends_bind, ends_change]
    split
    · simp
    · exact hwrite _

/-- The path has a last piece that leads one step down, and locates a place where no link stands. -/
structure Located (files : FileSystem) (target : Path) (place : Location) : Prop where
  locate : files.locate false target = .ok place
  last : ∃ init piece, target.pieces = init ++ [piece] ∧ Path.isIdle piece = false ∧ piece ≠ ".."
  ne_link : ∀ link, files.entryAt? place ≠ some (.link link)

/-- The folders around a located path are there. -/
theorem makeFolders_parent {files : FileSystem} {parent : Path} {followLast : Bool} {place : Location}
    {init : List String} {piece : String} (hlocate : files.locate followLast target = .ok place)
    (hpieces : target.pieces = init ++ [piece]) (hpiece : Path.isIdle piece = false)
    (hparent : target.parent? = some parent) : files.makeFolders parent = (none, files) := by
  rw [Path.parent?_eq hpieces hpiece (by simp)] at hparent
  cases hparent
  exact FileSystem.makeFolders_around hlocate hpieces rfl (Path.trims_trimPieces _) (Path.getLast?_trimPieces _)

/-- The file with the text stands at `place`, to which its path leads. Nothing is below it, and what is elsewhere is
    as it was. -/
structure Replaced (target : Path) (place : Location) (content : String) (before after : FileSystem) : Prop where
  entry : after.entry target = .ok (.file (.text content))
  standing : after.entryAt? place = some (.file (.text content))
  below : ∀ way, way ≠ [] → after.entryAt? (place ++ way) = none
  outside : ∀ other, ¬ place <+: other → after.entryAt? other = before.entryAt? other

/-- A file goes to its own place, if no link stands there. -/
theorem Located.writeFile {place : Location} (h : Located run.files target place) (hrooted : run.files.Rooted) :
    Ends (writeFile plan target content) run fun r run' => r = .ok () →
      Replaced target place content run.files run'.files := by
  obtain ⟨init, piece, hpieces, hpiece, _⟩ := h.last
  refine (writeFile_put fun parent => makeFolders_parent h.locate hpieces hpiece).imp fun r run' hr hok => ?_
  obtain ⟨goal, hgoal, hentry, hfiles⟩ := hr hok
  -- The path ends in no link, so it leads to its own place.
  rw [FileSystem.locate_followed h.locate h.ne_link] at hgoal
  cases hgoal
  have hne := FileSystem.ne_nil_of_ne_folder hentry
  have hput : ∀ other, run'.files.entryAt? other =
      if other = place then some (.file (.text content)) else run.files.entryAt? other := by
    intro other
    rw [hfiles, FileSystem.entryAt?_put _ _ _ _ hne]
  refine ⟨?_, by rw [hput, if_pos rfl], fun way hway => ?_, fun other hother => ?_⟩
  · refine FileSystem.entry_eq_ok_iff_locate.2 ⟨place, ?_, by rw [hput, if_pos rfl]⟩
    rw [hfiles]
    exact FileSystem.locate_put h.locate hentry h.ne_link _
  -- A file has nothing below its place.
  · rw [hput, if_neg (by simpa using hway)]
    exact hrooted.entryAt?_eq_none hentry hway
  · rw [hput, if_neg]
    rintro rfl
    exact hother (List.prefix_refl _)

end Writing

/-! ### Overwriting -/

section Removing

variable {files : FileSystem} {target : Path} {place : Location}

/-- What is no folder stands at the end of a last step. -/
theorem exists_last_of_locate (hrooted : files.Rooted) (hlocate : files.locate false target = .ok place)
    (hplace : files.entryAt? place ≠ some .folder) :
    ∃ init piece, target.pieces = init ++ [piece] ∧ Path.isIdle piece = false ∧ piece ≠ ".." := by
  obtain ⟨init, piece, hpieces, hstep⟩ := FileSystem.exists_step_of_locate hrooted hlocate hplace
  exact ⟨init, piece, hpieces, hstep.not_idle, hstep.ne_up⟩

/-- What is removed by a path without a slash at its end stands at the end of a last step. -/
theorem exists_last_of_remove (hrooted : files.Rooted) (hlocate : files.locate false target = .ok place)
    (hslash : target.pieces.getLast? ≠ some "") {after : FileSystem} (hremove : files.remove target = (none, after)) :
    after = files.cut place ∧
      ∃ init piece, target.pieces = init ++ [piece] ∧ Path.isIdle piece = false ∧ piece ≠ ".." := by
  obtain ⟨place', e, hlocate', hentry, hafter, hfolder⟩ := FileSystem.remove_eq_none hremove
  rw [hlocate] at hlocate'
  -- What is removed has the place of the target itself, since a link at its end is not followed.
  cases hlocate'
  refine ⟨hafter, ?_⟩
  by_cases he : e = .folder
  · -- A folder is removed only by a path that ends with a name.
    obtain ⟨piece, hlast, hdot, hdots⟩ := hfolder he
    rw [FileSystem.withoutSlashes_eq hslash] at hlast
    obtain ⟨init, hpieces⟩ := List.getLast?_eq_some_iff.1 hlast
    refine ⟨init, piece, hpieces, ?_, hdots⟩
    have hne : piece ≠ "" := by
      rintro rfl
      exact hslash hlast
    simp [Path.isIdle, hne, hdot]
  · refine exists_last_of_locate hrooted hlocate ?_
    rw [hentry]
    simpa using he

end Removing

/-- The text stands where a link at `place` leads. The link and all else is as it was. -/
def WrittenThrough (target : Path) (place : Location) (content : String) (before after : FileSystem) : Prop :=
  ∃ goal, before.locate true target = .ok goal ∧ goal ≠ place ∧
    after.entryAt? goal = some (.file (.text content)) ∧
    ∀ other, other ≠ goal → after.entryAt? other = before.entryAt? other

section Overwriting

variable {plan : Plan σ} {run run' : Run σ} {target : Path} {place : Location} {e : Entry} {content : String}
  (hrooted : run.files.Rooted) (hlocate : run.files.locate false target = .ok place)
include hrooted hlocate

/-- What is no folder is not removed. A file is replaced, and a link is written through. -/
theorem writeFile_standing (hentry : run.files.entryAt? place = some e)
    (hnot : run.files.isFolder target = false) :
    Ends (writeFile plan target content) run fun r run' => r = .ok () →
      ((∀ link, e ≠ .link link) → Replaced target place content run.files run'.files) ∧
        (∀ link, e = .link link → WrittenThrough target place content run.files run'.files) := by
  have hplace : run.files.entryAt? place ≠ some .folder := by
    -- Otherwise the path would lead to a folder.
    intro hfolder
    have hleads := FileSystem.locate_followed hlocate (fun link => by rw [hfolder]; simp)
    rw [FileSystem.isFolder_iff_locate.2 ⟨place, hleads, hfolder⟩] at hnot
    cases hnot
  have hlast := exists_last_of_locate hrooted hlocate hplace
  -- A link is written through; anything else is replaced.
  by_cases hlink : ∃ link, e = .link link
  · obtain ⟨link, rfl⟩ := hlink
    obtain ⟨init, piece, hpieces, hpiece, _⟩ := hlast
    refine (writeFile_put fun parent => makeFolders_parent hlocate hpieces hpiece).imp fun r run' hr hok => ?_
    obtain ⟨goal, hgoal, hnotFolder, hfiles⟩ := hr hok
    have hne := FileSystem.ne_nil_of_ne_folder hnotFolder
    refine ⟨fun hnolink => absurd rfl (hnolink link), fun _ _ => ⟨goal, hgoal, ?_, ?_, fun other hother => ?_⟩⟩
    · -- No path leads to a link.
      rintro rfl
      exact FileSystem.ne_link_of_locate hrooted hgoal link hentry
    · rw [hfiles, FileSystem.entryAt?_put _ _ _ _ hne, if_pos rfl]
    · rw [hfiles, FileSystem.entryAt?_put _ _ _ _ hne, if_neg hother]
  · have hlocated : Located run.files target place := by
      refine ⟨hlocate, hlast, fun link hentry' => hlink ⟨link, ?_⟩⟩
      exact Option.some.inj (hentry.symm.trans hentry')
    refine (hlocated.writeFile hrooted).imp fun r run' hr hok => ?_
    exact ⟨fun _ => hr hok, fun link he => absurd ⟨link, he⟩ hlink⟩

/-- What leads to a folder is removed, and the file takes its place. -/
theorem writeFile_removed (hremove : run.files.remove target = (none, run'.files))
    (hclear : (run.files.cut place).locate false target = .ok place) :
    Ends (writeFile plan target content) run' fun r run'' => r = .ok () →
      Replaced target place content run.files run''.files := by
  -- With a slash at its end, the path leads to a folder only, and nothing is written.
  by_cases hslash : target.pieces.getLast? = some ""
  · exact (writeFile_slash hslash).imp fun r run'' hr hok => absurd hok hr
  · obtain ⟨hcut, hlast⟩ := exists_last_of_remove hrooted hlocate hslash hremove
    -- The path has a last name, so its place is not the root.
    have hne : place ≠ [] := by
      obtain ⟨init, piece, hpieces, hpiece, hup⟩ := hlast
      have hwalk := (FileSystem.locate_eq_ok_iff_walks.1 hlocate).2
      rw [hpieces] at hwalk
      obtain ⟨mid, rfl, _⟩ := hwalk.exists_eq_concat hpiece hup
      simp
    have hlocated : Located run'.files target place := by
      refine ⟨hcut ▸ hclear, hlast, fun link => ?_⟩
      rw [hcut, FileSystem.entryAt?_cut _ _ _ hne, if_pos (by simp)]
      simp
    have hrooted' : run'.files.Rooted := hcut ▸ hrooted.cut hne
    refine (hlocated.writeFile hrooted').imp fun r run'' hr hok => ?_
    -- What lies outside the place was not touched by the removal either.
    obtain ⟨hfound, hstanding, hbelow, houtside⟩ := hr hok
    refine ⟨hfound, hstanding, hbelow, fun other hother => ?_⟩
    rw [houtside other hother, hcut, FileSystem.entryAt?_cut _ _ _ hne, if_neg]
    rwa [List.isPrefixOf_iff_prefix]

end Overwriting

/-- **Overwriting a file.** Let something stand at the path of a file that is to be written, let the decision be to
    overwrite it, and let it be written without a fault. Where a folder is removed, it may not be on the way to the
    path itself.

    If the path leads to a folder, or no link stands there, then the file takes the place of what stood there, and
    all that is not at or below it is as it was. If a link stands there that does not lead to a folder, then the
    link stays, and the text goes where it leads. -/
theorem writeTree_overwrite {plan : Plan σ} {run run' : Run σ} {folder : Path} {name content : String}
    {t? : Option String} {place : Location} {e : Entry} (hrooted : run.files.Rooted)
    (hlocate : run.files.locate false (folder.join name) = .ok place)
    (hentry : run.files.entryAt? place = some e)
    (hclear : run.files.isFolder (folder.join name) = true →
      (run.files.cut place).locate false (folder.join name) = .ok place)
    (hdecide : ((decide plan (folder.join name) false).run run).1 = .ok .overwrite)
    (hwrite : (writeTree plan folder (.file name content t?)).run run = (.ok (), run')) :
    (run.files.isFolder (folder.join name) = true ∨ (∀ link, e ≠ .link link) →
      Replaced (folder.join name) place content run.files run'.files) ∧
    (∀ link, e = .link link → run.files.isFolder (folder.join name) = false →
      WrittenThrough (folder.join name) place content run.files run'.files) := by
  have hocc : run.files.occupied (folder.join name) = true :=
    FileSystem.occupied_iff_locate.2 ⟨place, hlocate, by rw [hentry]; simp⟩
  -- Both halves come from one run: a folder was removed, or what stands there is written over.
  have hends : Ends (writeTree plan folder (.file name content t?)) run fun r run' => r = .ok () →
      (run.files.isFolder (folder.join name) = true ∧
          Replaced (folder.join name) place content run.files run'.files) ∨
        run.files.isFolder (folder.join name) = false ∧
          ((∀ link, e ≠ .link link) → Replaced (folder.join name) place content run.files run'.files) ∧
          (∀ link, e = .link link → WrittenThrough (folder.join name) place content run.files run'.files) := by
    rw [writeTree]
    refine (clearForFile_overwrite hocc hdecide).bind ?_ (fun i cleared _ hok => by cases hok)
    intro target? cleared hcleared
    -- Only what leads to a folder was removed.
    obtain ⟨rfl, ⟨hnot, hsame⟩ | ⟨hfolder, hremove⟩⟩ := hcleared target? rfl
    · rw [← hsame] at hrooted hlocate hentry hnot ⊢
      exact (writeFile_standing hrooted hlocate hentry hnot).imp fun r run' hr hok => .inr ⟨hnot, hr hok⟩
    · exact (writeFile_removed hrooted hlocate hremove (hclear hfolder)).imp
        fun r run' hr hok => .inl ⟨hfolder, hr hok⟩
  rw [ends_iff, hwrite] at hends
  rcases hends rfl with ⟨hfolder, hreplaced⟩ | ⟨hnot, hfile, hlink⟩
  · refine ⟨fun _ => hreplaced, fun _ _ hnot => ?_⟩
    rw [hfolder] at hnot
    cases hnot
  · refine ⟨fun h => hfile (h.resolve_left ?_), fun link he _ => hlink link he⟩
    rw [hnot]
    simp

/-- A link to a folder, and the folder with a file in it. -/
def linkedFolder : FileSystem where
  entries := [(["home"], .folder), (["home", "x"], .file (.text "mine")), (["out"], .folder),
    (["out", "a"], .link "../home")]
  workingFolder := []

/-- Files are overwritten in `out`. -/
def overwriting : Plan Unit := ⟨⟨true, ["out"]⟩, 1, some (always .overwrite)⟩

/-- The link makes way for the file, and what it leads to is left alone. -/
theorem writeTree_overwrite_linkedFolder :
    linkedFolder.Rooted ∧ linkedFolder.locate false ⟨true, ["out", "a"]⟩ = .ok ["out", "a"] ∧
    linkedFolder.entryAt? ["out", "a"] = some (.link "../home") ∧
    linkedFolder.isFolder ⟨true, ["out", "a"]⟩ = true ∧
    (linkedFolder.cut ["out", "a"]).locate false ⟨true, ["out", "a"]⟩ = .ok ["out", "a"] ∧
    ∃ run', (writeTree overwriting ⟨true, ["out"]⟩ (.file "a" "new" none)).run ⟨linkedFolder, 0, [], ()⟩ =
        (.ok (), run') ∧
      run'.files.entryAt? ["out", "a"] = some (.file (.text "new")) ∧
      run'.files.entryAt? ["home", "x"] = some (.file (.text "mine")) := by
  have hrooted : linkedFolder.Rooted := FileSystem.rooted_of_entries (by decide)
  have htarget : (⟨true, ["out"]⟩ : Path).join "a" = ⟨true, ["out", "a"]⟩ := by decide +kernel
  have hlocate : linkedFolder.locate false ⟨true, ["out", "a"]⟩ = .ok ["out", "a"] := by decide +kernel
  have hentry : linkedFolder.entryAt? ["out", "a"] = some (.link "../home") := by decide
  have hfolder : linkedFolder.isFolder ⟨true, ["out", "a"]⟩ = true := by decide +kernel
  have hclear : (linkedFolder.cut ["out", "a"]).locate false ⟨true, ["out", "a"]⟩ = .ok ["out", "a"] := by
    decide +kernel
  have hends : ((writeTree overwriting ⟨true, ["out"]⟩ (.file "a" "new" none)).run
      ⟨linkedFolder, 0, [], ()⟩).1.toBool = true := by decide +kernel
  obtain ⟨_, hok⟩ := FileSystem.toBool_eq_true_iff.1 hends
  have hwrite := Prod.ext_iff.2 ⟨hok, rfl⟩
  -- The theorem is applied to the run that was computed.
  obtain ⟨hreplaced, _⟩ := writeTree_overwrite hrooted (htarget ▸ hlocate) hentry (fun _ => htarget ▸ hclear) rfl
    hwrite
  have hplaced := hreplaced (.inl (htarget ▸ hfolder))
  refine ⟨hrooted, hlocate, hentry, hfolder, hclear, _, hwrite, hplaced.standing, ?_⟩
  exact (hplaced.outside ["home", "x"] (by decide)).trans (by decide)

/-- A link to a file beside it. -/
def linkedFile : FileSystem where
  entries := [(["out"], .folder), (["out", "a"], .link "keep"), (["out", "keep"], .file (.text "old"))]
  workingFolder := []

/-- A folder with a link that leads out of it again. -/
def linkedUp : FileSystem where
  entries := [(["out"], .folder), (["out", "c"], .folder), (["out", "c", "l"], .link "..")]
  workingFolder := []

/-- A link to a file is written through: it stays, and the file that it leads to is replaced. And where the path
    leads through the folder that is to be replaced, that is made again, and the file goes elsewhere. -/
theorem generate_overwrites_elsewhere :
    let through := generate (.folder "root" [.file "a" "new" none] none) ⟨true, ["out"]⟩ (some (always .overwrite))
      linkedFile ()
    let around := generate (.folder "root" [.file "c" "new" none] none) ⟨true, ["out", "c", "l"]⟩
      (some (always .overwrite)) linkedUp ()
    linkedFile.Rooted ∧ linkedUp.Rooted ∧
    (through.success = true ∧
      through.run.events =
        [.asked ⟨⟨true, ["out", "a"]⟩, ⟨true, ["out"]⟩, false⟩ .overwrite, .wrote 1 1] ∧
      through.run.files.entryAt? ["out", "a"] = some (.link "keep") ∧
      through.run.files.entryAt? ["out", "keep"] = some (.file (.text "new"))) ∧
    (around.success = true ∧
      around.run.events =
        [.asked ⟨⟨true, ["out", "c", "l", "c"]⟩, ⟨true, ["out", "c", "l"]⟩, false⟩ .overwrite, .wrote 1 1] ∧
      linkedUp.locate false ⟨true, ["out", "c", "l", "c"]⟩ = .ok ["out", "c"] ∧
      around.run.files.entryAt? ["out", "c"] = some .folder) := by
  have hrooted : linkedFile.Rooted := FileSystem.rooted_of_entries (by decide)
  have hrooted' : linkedUp.Rooted := FileSystem.rooted_of_entries (by decide)
  refine ⟨hrooted, hrooted', ⟨?_, ?_, ?_, ?_⟩, ?_, ?_, ?_, ?_⟩ <;> decide +kernel

/-! ### Keeping -/

/-- A file that is written beside one that is kept goes where the free variant leads. -/
theorem writeTree_keep {plan : Plan σ} {run : Run σ} {folder : Path} {node content name : String}
    {t? : Option String} (hfile : (folder.join node).fileName? = some name) (hname : IsNormal name)
    (hocc : run.files.occupied (folder.join node) = true)
    (hdecide : ((decide plan (folder.join node) false).run run).1 = .ok .keep) :
    Ends (writeTree plan folder (.file node content t?)) run fun r run' => r = .ok () →
      ∃ goal, run.files.locate true (freeVariant run.files (folder.join node)) = .ok goal ∧
        run.files.entryAt? goal ≠ some .folder ∧ run'.files = run.files.put goal (.file (.text content)) := by
  obtain ⟨init, idle, hpieces, hidle⟩ := Path.exists_of_fileName? hfile
  have hparent := Path.parent?_eq hpieces hname.not_isIdle hidle
  obtain ⟨m, _, heq, _⟩ := freeVariant_first run.files hfile hparent hname
  obtain ⟨place, hlocate, _⟩ := FileSystem.occupied_iff_locate.1 hocc
  rw [writeTree]
  refine (clearForFile_keep hocc hdecide).bind ?_ (fun i kept hr => by cases hr.1)
  rintro _ kept ⟨hkept, hfiles⟩
  cases hkept
  rw [← hfiles] at heq hlocate ⊢
  refine writeFile_put fun parent hp => ?_
  -- The folder around the path is there, since something stands at the path.
  rw [heq, Path.parent?_join _ (isNormal_variantName hname m)] at hp
  cases hp
  refine FileSystem.makeFolders_around hlocate hpieces rfl ?_ (Path.getLast?_trimPieces _)
  exact (Path.trims_trimPieces _).trans (Path.trims_trimPieces _)

/-- **Keeping a file.** The free variant of a path that ends with a normal name is its first numbered variant that
    leads to nothing, whatever links there are. All before it are occupied. It may be so itself, but only by a link.

    Where a file is kept and another one is written beside it without a fault, the text goes where the free variant
    leads, nothing stood there, and all else is as it was. If the variant is not occupied, then that is its own
    place. -/
theorem freeVariant_beside {files : FileSystem} {p : Path} {name : String} (hfile : p.fileName? = some name)
    (hname : IsNormal name) :
    ∃ parent m, p.parent? = some parent ∧ 1 ≤ m ∧ freeVariant files p = parent.join (variantName name m) ∧
      (∀ n, 1 ≤ n → n < m → files.occupied (parent.join (variantName name n)) = true) ∧
      files.leads (freeVariant files p) = false ∧
      (files.occupied (freeVariant files p) = true →
        ∃ link, files.entry (freeVariant files p) = .ok (.link link)) ∧
      ∀ (plan : Plan σ) (run run' : Run σ) (folder : Path) (node content : String) (t? : Option String),
        run.files = files → folder.join node = p → files.occupied p = true →
        ((decide plan p false).run run).1 = .ok .keep →
        (writeTree plan folder (.file node content t?)).run run = (.ok (), run') →
        ∃ goal, files.locate true (freeVariant files p) = .ok goal ∧ files.entryAt? goal = none ∧
          run'.files.entryAt? goal = some (.file (.text content)) ∧
          (∀ other, other ≠ goal → run'.files.entryAt? other = files.entryAt? other) ∧
          (files.occupied (freeVariant files p) = false → files.locate false (freeVariant files p) = .ok goal) := by
  obtain ⟨init, idle, hpieces, hidle⟩ := Path.exists_of_fileName? hfile
  have hparent := Path.parent?_eq hpieces hname.not_isIdle hidle
  obtain ⟨m, hle, heq, hfree, hbefore⟩ := freeVariant_first files hfile hparent hname
  rw [← heq] at hfree
  refine ⟨_, m, hparent, hle, heq, fun n hn hlt => FileSystem.occupied_of_leads (hbefore n hn hlt), hfree,
    fun hocc => FileSystem.entry_eq_link hocc hfree, ?_⟩
  rintro plan run run' folder node content t? rfl rfl hocc hdecide hwrite
  have hends : Ends (writeTree plan folder (.file node content t?)) run _ :=
    writeTree_keep hfile hname hocc hdecide
  rw [ends_iff, hwrite] at hends
  obtain ⟨goal, hgoal, hnotFolder, hfiles⟩ := hends rfl
  have hne := FileSystem.ne_nil_of_ne_folder hnotFolder
  -- The free variant leads to nothing, even if it is a link itself.
  have hnone : run.files.entryAt? goal = none := by
    by_contra hsome
    rw [FileSystem.leads_iff_locate.2 ⟨goal, hgoal, hsome⟩] at hfree
    cases hfree
  refine ⟨goal, hgoal, hnone, ?_, fun other hother => ?_, fun hvacant => ?_⟩
  · show run'.files.entryAt? goal = _
    rw [hfiles, FileSystem.entryAt?_put _ _ _ _ hne, if_pos rfl]
  · show run'.files.entryAt? other = _
    rw [hfiles, FileSystem.entryAt?_put _ _ _ _ hne, if_neg hother]
  · obtain ⟨last, hlast, rfl | ⟨link, hlink⟩⟩ := FileSystem.locate_unfollowed hgoal
    · exact hlast
    · rw [FileSystem.occupied_iff_locate.2 ⟨last, hlast, by rw [hlink]; simp⟩] at hvacant
      cases hvacant

/-- A file and its first variant. -/
def numbered : FileSystem where
  entries := [(["out"], .folder), (["out", "a.txt"], .file (.text "old")),
    (["out", "a (1).txt"], .file (.text "older"))]
  workingFolder := []

/-- Files are kept in `out`. -/
def sparing : Plan Unit := ⟨⟨true, ["out"]⟩, 1, some (always .keep)⟩

/-- The second variant is free, and the file goes there. -/
theorem freeVariant_beside_numbered :
    (⟨true, ["out", "a.txt"]⟩ : Path).fileName? = some "a.txt" ∧ IsNormal "a.txt" ∧
    freeVariant numbered ⟨true, ["out", "a.txt"]⟩ = ⟨true, ["out", "a (2).txt"]⟩ ∧
    numbered.leads (freeVariant numbered ⟨true, ["out", "a.txt"]⟩) = false ∧
    ∃ run', (writeTree sparing ⟨true, ["out"]⟩ (.file "a.txt" "new" none)).run ⟨numbered, 0, [], ()⟩ =
        (.ok (), run') ∧
      run'.files.entryAt? ["out", "a (2).txt"] = some (.file (.text "new")) := by
  have hfile : (⟨true, ["out", "a.txt"]⟩ : Path).fileName? = some "a.txt" := by decide +kernel
  have hname : IsNormal "a.txt" := by decide +kernel
  have htarget : (⟨true, ["out"]⟩ : Path).join "a.txt" = ⟨true, ["out", "a.txt"]⟩ := by decide +kernel
  have hvariant : freeVariant numbered ⟨true, ["out", "a.txt"]⟩ = ⟨true, ["out", "a (2).txt"]⟩ := by
    decide +kernel
  have hends : ((writeTree sparing ⟨true, ["out"]⟩ (.file "a.txt" "new" none)).run
      ⟨numbered, 0, [], ()⟩).1.toBool = true := by decide +kernel
  obtain ⟨_, hok⟩ := FileSystem.toBool_eq_true_iff.1 hends
  have hwrite := Prod.ext_iff.2 ⟨hok, rfl⟩
  -- The variant that was found is the one that the run has written to.
  obtain ⟨_, _, _, _, _, _, hfree, _, hkept⟩ := @freeVariant_beside Unit numbered _ _ hfile hname
  obtain ⟨goal, hgoal, _, hstanding, _⟩ :=
    hkept sparing ⟨numbered, 0, [], ()⟩ _ _ _ _ none rfl htarget (by decide +kernel) rfl hwrite
  have hplace : numbered.locate true ⟨true, ["out", "a (2).txt"]⟩ = .ok ["out", "a (2).txt"] := by decide +kernel
  rw [hvariant, hplace] at hgoal
  cases hgoal
  exact ⟨hfile, hname, hvariant, hfree, _, hwrite, hstanding⟩

/-- A file, and a link that leads nowhere in the place of its first variant. -/
def dangling : FileSystem where
  entries := [(["out"], .folder), (["out", "a.txt"], .file (.text "old")), (["out", "a (1).txt"], .link "gone")]
  workingFolder := []

/-- A link that leads nowhere is taken for free. The file that is written beside the one that is kept goes along
    it, and the next variant stays free. -/
theorem freeVariant_occupied :
    let o := generate (.folder "root" [.file "a.txt" "new" none] none) ⟨true, ["out"]⟩ (some (always .keep)) dangling ()
    freeVariant dangling ⟨true, ["out", "a.txt"]⟩ = ⟨true, ["out", "a (1).txt"]⟩ ∧
    dangling.occupied ⟨true, ["out", "a (1).txt"]⟩ = true ∧
    dangling.occupied ⟨true, ["out", "a (2).txt"]⟩ = false ∧
    o.success = true ∧ o.run.files.entryAt? ["out", "gone"] = some (.file (.text "new")) ∧
    o.run.files.entryAt? ["out", "a (2).txt"] = none := by
  refine ⟨?_, ?_, ?_, ?_, ?_, ?_⟩ <;> decide +kernel

end Scaffold.Generation
