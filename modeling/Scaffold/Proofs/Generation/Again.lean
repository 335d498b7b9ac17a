import Scaffold.Proofs.Files.Repeating
import Scaffold.Proofs.Generation.Mirroring

namespace Scaffold.Generation

/-!
# Writing again

A tree that was written without a fault may be written again to the same folder by the same answers: that goes
well, and leaves what stands in its place as it is.

* `Again` — what writing the tree again does; `Settled`, `SettledEach`, what has been written so far;
* `writeTrees_settled`, `writeTrees_again` — trees with different names, one after the other;
* `writeFile_settled`, `writeFolder_settled` — a file that replaces others, and a folder, given what making room for
  it does;
* `writeTree_settled_of_overlays`, `writeTree_settled_of_overwrite`, `writeTree_settled_of_skip` — a tree that is laid
  over what stands there, takes its place or is left out;
* `Repeatable` — what a run leaves behind that may be repeated: `repeatable_of_run`, `Repeatable.run`;
* `generate_again` — a second run leaves all as it found it.
-/

open Files (Path FileSystem Location Entry)
open Files.Path (IsNormal)
open Conflict (Decision Callback)

variable {σ : Type}

/-- Writing the tree into the folder again goes well and leaves in its place what stands there in `left`. If
    `anew` holds, it does not matter what stood there in between. -/
def Again (anew : Prop) (plan : Plan σ) (folder : Path) (t : Tree) (left : FileSystem) : Prop :=
  ∀ run : Run σ, run.files.workingFolder = left.workingFolder → Standing run.files folder →
    (anew ∨ ∀ way, run.files.entryAt? (left.placeOf folder ++ t.name :: way) =
      left.entryAt? (left.placeOf folder ++ t.name :: way)) →
    Ends (writeTree plan folder t) run fun r run' => r = .ok () ∧
      Placed folder (left.placeOf folder ++ [t.name])
        (fun _ way => left.entryAt? (left.placeOf folder ++ t.name :: way)) run.files run'.files

/-- The tree was written: the folder stands, nothing else has changed, and it may be written again. -/
structure Settled (anew : Prop) (plan : Plan σ) (folder : Path) (t : Tree) (before after : FileSystem) :
    Prop where
  workingFolder : after.workingFolder = before.workingFolder
  standing : Standing after folder
  outside : ∀ other, ¬ before.placeOf folder ++ [t.name] <+: other → after.entryAt? other = before.entryAt? other
  again : Again anew plan folder t after

/-- The trees were written: the folder stands, nothing else has changed, and each of them may be written again. -/
structure SettledEach (anew : Prop) (plan : Plan σ) (folder : Path) (ts : List Tree)
    (before after : FileSystem) : Prop where
  workingFolder : after.workingFolder = before.workingFolder
  standing : Standing after folder
  rest : ∀ place, (∀ t ∈ ts, ¬ before.placeOf folder ++ [t.name] <+: place) →
    after.entryAt? place = before.entryAt? place
  again : ∀ t ∈ ts, Again anew plan folder t after

section Trees

variable {anew : Prop} {plan : Plan σ} {folder : Path}

/-- What writing a tree again does depends on its place alone. -/
theorem Again.congr {t : Tree} {left left' : FileSystem} (hworking : left'.workingFolder = left.workingFolder)
    (hsame : ∀ way, left'.entryAt? (left.placeOf folder ++ t.name :: way) =
      left.entryAt? (left.placeOf folder ++ t.name :: way))
    (h : Again anew plan folder t left) : Again anew plan folder t left' := by
  intro run hrun hstanding hbefore
  rw [FileSystem.placeOf_congr hworking] at hbefore ⊢
  simp only [hsame] at hbefore ⊢
  exact h run (hrun.trans hworking) hstanding hbefore

variable {ts : List Tree} (hnodup : (ts.map Tree.name).Nodup)
include hnodup

/-- Trees that are written one after the other may be written again, since none of them touches the place of
    another one. -/
theorem writeTrees_settled
    (htree : ∀ t ∈ ts, ∀ run : Run σ, Standing run.files folder →
      Ends (writeTree plan folder t) run fun r run' => r = .ok () →
        Settled anew plan folder t run.files run'.files)
    {run : Run σ} (h : Standing run.files folder) :
    Ends (writeTrees plan folder ts) run fun r run' => r = .ok () →
      SettledEach anew plan folder ts run.files run'.files := by
  -- The induction is on the trees; what the later ones change is not below the place of the first one.
  induction ts generalizing run with
  | nil =>
    rw [writeTrees]
    refine ends_pure.2 fun _ => ⟨rfl, h, fun _ _ => rfl, fun t ht => ?_⟩
    cases ht
  | cons t ts ih =>
    rw [List.map_cons, List.nodup_cons] at hnodup
    have hne : ∀ other ∈ ts, other.name ≠ t.name := by
      intro other hother heq
      exact hnodup.1 (heq ▸ List.mem_map_of_mem hother)
    rw [writeTrees]
    refine (htree t List.mem_cons_self run h).bind ?_ (fun i run' _ hok => by cases hok)
    intro _ run' hfirst
    obtain ⟨hworking, hstanding, houtside, hagain⟩ := hfirst rfl
    have hplace := FileSystem.placeOf_congr hworking folder
    refine (ih hnodup.2 (fun other hother => htree other (List.mem_cons_of_mem _ hother)) hstanding).imp ?_
    intro r run'' hlast hok
    obtain ⟨hworking', hstanding', hrest, hagain'⟩ := hlast hok
    refine ⟨hworking'.trans hworking, hstanding', fun place hplaces => ?_, fun other hother => ?_⟩
    -- Nothing outside of all places changes, neither with the first tree nor with the others.
    · rw [hplace] at hrest
      rw [hrest place fun other hother => hplaces other (List.mem_cons_of_mem _ hother)]
      exact houtside place (hplaces t List.mem_cons_self)
    -- Each tree was settled when it was written, and no later tree has changed what is below its place.
    · rcases List.mem_cons.1 hother with rfl | hother
      · refine hagain.congr hworking' fun way => hrest _ fun next hnext => ?_
        exact not_isPrefix_of_ne (hne next hnext) way
      · exact hagain' other hother

/-- Trees that may be written again are written again one after the other. -/
theorem writeTrees_again {left : FileSystem} (hagain : ∀ t ∈ ts, Again anew plan folder t left)
    {run : Run σ} (hworking : run.files.workingFolder = left.workingFolder) (h : Standing run.files folder)
    (hbefore : anew ∨ ∀ t ∈ ts, ∀ way, run.files.entryAt? (left.placeOf folder ++ t.name :: way) =
      left.entryAt? (left.placeOf folder ++ t.name :: way)) :
    Ends (writeTrees plan folder ts) run fun r run' => r = .ok () ∧
      PlacedEach folder ts (fun t _ way => left.entryAt? (left.placeOf folder ++ t.name :: way))
        run.files run'.files := by
  -- The induction is on the trees. Each of them finds below its place what it has left there.
  induction ts generalizing run with
  | nil =>
    rw [writeTrees]
    refine ends_pure.2 ⟨rfl, rfl, h, fun t ht => ?_, fun _ _ => rfl⟩
    cases ht
  | cons t ts ih =>
    rw [List.map_cons, List.nodup_cons] at hnodup
    have hne : ∀ other ∈ ts, t.name ≠ other.name := by
      intro other hother heq
      exact hnodup.1 (heq ▸ List.mem_map_of_mem hother)
    have hplace := FileSystem.placeOf_congr hworking folder
    rw [writeTrees]
    refine (hagain t List.mem_cons_self run hworking h (hbefore.imp_right fun hsame => hsame t List.mem_cons_self)).bind
      ?_ (fun i run' hfirst => by cases hfirst.1)
    rintro _ run' ⟨-, hfirst⟩
    -- The first tree has not changed what the others find below their places.
    have hothers : ∀ other ∈ ts, ∀ way, run'.files.entryAt? (left.placeOf folder ++ other.name :: way) =
        run.files.entryAt? (left.placeOf folder ++ other.name :: way) :=
      fun other hother way => hfirst.overlaid.outside _ (not_isPrefix_of_ne (hne other hother) way)
    refine (ih hnodup.2 (fun other hother => hagain other (List.mem_cons_of_mem _ hother))
      (hfirst.workingFolder.trans hworking) hfirst.standing ?_).imp ?_
    · refine hbefore.imp_right fun hsame other hother way => ?_
      rw [hothers other hother way, hsame other (List.mem_cons_of_mem _ hother) way]
    · rintro r run'' ⟨hok, hworking', hstanding', heach, hrest⟩
      -- All places are measured in the system that was left.
      have hplace' := FileSystem.placeOf_congr hfirst.workingFolder folder
      rw [hplace', hplace] at heach hrest
      refine ⟨hok, hworking'.trans hfirst.workingFolder, hstanding', fun other hother way => ?_,
      fun place hplaces => ?_⟩
      · rw [hplace]
        -- The place of the first tree stays as that tree leaves it.
        rcases List.mem_cons.1 hother with rfl | hother
        · rw [hrest _ fun next hnext => not_isPrefix_of_ne (hne next hnext).symm way]
          have hinside := hfirst.overlaid.inside way
          rwa [List.append_assoc, List.singleton_append] at hinside
        · exact heach other hother way
      · rw [hplace] at hplaces
        rw [hrest place fun other hother => hplaces other (List.mem_cons_of_mem _ hother)]
        exact hfirst.overlaid.outside place (hplaces t List.mem_cons_self)

end Trees

/-! ### Looking at a name in a folder -/

namespace Standing

variable {files : FileSystem} {folder : Path} {name : String}

theorem of_join (hname : IsNormal name) (h : Standing files (folder.join name)) : Standing files folder where
  linkFree := h.linkFree
  rooted := h.rooted
  isOpen place hpasses := h.isOpen place (hpasses.join hname)

variable (h : Standing files folder) (hname : IsNormal name) (hfits : (folder.join name).Fits)
include h hname hfits

theorem occupied_iff : files.occupied (folder.join name) = true ↔
    files.entryAt? (files.placeOf folder ++ [name]) ≠ none := by
  rw [FileSystem.occupied_iff h.linkFree, FileSystem.placeOf_join _ _ hname]
  exact and_iff_right (h.isOpen.reachable_join hname hfits)

theorem isFolder_iff : files.isFolder (folder.join name) = true ↔
    files.entryAt? (files.placeOf folder ++ [name]) = some .folder := by
  rw [FileSystem.isFolder_iff h.linkFree, FileSystem.placeOf_join _ _ hname]
  exact and_iff_right (h.isOpen.reachable_join hname hfits)

/-- Where no folder stands, a file is written without a fault. -/
theorem writeFile_ok (plan : Plan σ) {run : Run σ} (content : String) (hfiles : run.files = files)
    (hfree : files.entryAt? (files.placeOf folder ++ [name]) ≠ some .folder) :
    Ends (Generation.writeFile plan (folder.join name) content) run fun r _ => r = .ok () := by
  have hmake := FileSystem.makeFolders_trimmed h.linkFree h.isOpen hname hfits
  rw [← FileSystem.placeOf_join _ _ hname] at hfree
  have hwrite := (FileSystem.writeText_eq_ok_iff h.linkFree hname (s := content)).2
    ⟨h.isOpen.reachable_join hname hfits, hfree, rfl⟩
  rw [Generation.writeFile, Path.parent?_join folder hname]
  simp only [ends_bind, ends_change, ends_attempt, ends_modify, hfiles, hmake, hwrite]

end Standing

/-- What stands in a place where something was put, whatever stood there before. -/
theorem Placed.entryAt?_eq {folder : Path} {name : String} {view : List String → Option Entry}
    {before after : FileSystem}
    (h : Placed folder (before.placeOf folder ++ [name]) (fun _ => view) before after) :
    (fun (_ : List String → Option Entry) way => after.entryAt? (after.placeOf folder ++ name :: way)) =
      fun _ => view := by
  funext _ way
  have hinside := h.overlaid.inside way
  rwa [List.append_assoc, List.singleton_append, ← FileSystem.placeOf_congr h.workingFolder] at hinside

/-! ### Files that replace others -/

section Files

variable {plan : Plan σ} {folder : Path} {name content : String} {run : Run σ}

/-- A file is written only to a place that the path of its folder does not come past: around it, what is missing of
    that path would be made first, and a folder would stand in its place. -/
theorem offWay_of_writeFile (hfs : run.files.LinkFree) (hrooted : run.files.Rooted) (hname : IsNormal name) :
    Ends (writeFile plan (folder.join name) content) run fun r _ => r = .ok () →
      OffWay run.files folder name ∧ (folder.join name).Fits := by
  rw [writeFile, Path.parent?_join folder hname]
  simp only [ends_bind, ends_change, ends_attempt, ends_modify]
  cases hmake : (run.files.makeFolders folder.trimmed).1 with
  | some fault => exact fun hok => by cases hok
  | none =>
    dsimp only
    split
    · rename_i files hwrite
      intro _
      -- The folder of the file is made first, so the write says that it is open, and it was written into.
      have hgrows := FileSystem.makeFolders_grows hfs folder.trimmed
      obtain ⟨hreach, hentry, -⟩ := (FileSystem.writeText_eq_ok_iff (hgrows.linkFree hfs) hname).1 hwrite
      rw [FileSystem.placeOf_join _ _ hname] at hentry
      have hstanding : Standing (run.files.makeFolders folder.trimmed).2 folder :=
        ⟨hgrows.linkFree hfs, hgrows.rooted hrooted, hreach.isOpen_of_join hname⟩
      exact ⟨(offWay_congr hgrows.workingFolder).1 (hstanding.offWay hentry), hreach.fits⟩
    · exact fun hok => by cases hok

variable {answer : Decision} (hanswer : Answers plan false answer) (hreplaces : Replaces answer)
  (h : Standing run.files folder) (hname : IsNormal name)
include hanswer hreplaces h hname

/-- Room is made for a file: a folder in its place is removed, and anything else is left to be replaced. -/
theorem clearForFile_replacing :
    Ends (clearForFile plan (folder.join name)) run fun r run' => r = .ok (some (folder.join name)) ∧
      (run'.files = run.files ∧ ((folder.join name).Fits →
          run.files.entryAt? (run.files.placeOf folder ++ [name]) ≠ some .folder) ∨
        run'.files = run.files.cut (run.files.placeOf folder ++ [name])) := by
  simp only [clearForFile, ends_bind, ends_get]
  by_cases hocc : run.files.occupied (folder.join name) = true
  · obtain ⟨hreach, hsome⟩ := (FileSystem.occupied_iff h.linkFree).1 hocc
    simp only [hocc, Bool.not_true, Bool.false_eq_true, if_false]
    refine (hanswer _ run).bind ?_ (fun i asked hasked => by cases hasked.1)
    rintro _ asked ⟨heq, hfiles⟩
    cases heq
    -- The question leaves the files as they are.
    rw [← hfiles] at h hreach hsome ⊢
    have hroom : Ends (if asked.files.isFolder (folder.join name) = true then do
          change (·.remove (folder.join name))
          return some (folder.join name)
        else return some (folder.join name)) asked fun r run' => r = .ok (some (folder.join name)) ∧
        (run'.files = asked.files ∧ ((folder.join name).Fits →
            asked.files.entryAt? (asked.files.placeOf folder ++ [name]) ≠ some .folder) ∨
          run'.files = asked.files.cut (asked.files.placeOf folder ++ [name])) := by
      refine (ends_remove_if h.linkFree hname hreach hsome).imp ?_
      rintro r run' ⟨hr, ⟨hnot, hsame⟩ | ⟨-, hcut⟩⟩
      · exact ⟨hr, .inl ⟨hsame, fun hfits => mt (h.isFolder_iff hname hfits).2 hnot⟩⟩
      · rw [FileSystem.placeOf_join _ _ hname] at hcut
        exact ⟨hr, .inr hcut⟩
    -- An overwrite and a merge clear alike.
    rcases hreplaces with rfl | rfl
    · simp only [ends_bind, ends_get]
      exact hroom
    · simp only [ends_bind, ends_get]
      exact hroom
  · simp only [hocc, Bool.not_false, if_true]
    refine ends_pure.2 ⟨rfl, .inl ⟨rfl, fun hfits hfolder => hocc ?_⟩⟩
    rw [h.occupied_iff hname hfits, hfolder]
    simp

/-- A file takes the place of its name, and may do so again and again. -/
theorem writeFile_settled (t? : Option String) (anew : Prop) :
    Ends (writeTree plan folder (.file name content t?)) run fun r run' => r = .ok () →
      Settled anew plan folder (.file name content t?) run.files run'.files := by
  have hclear {run : Run σ} (h : Standing run.files folder) :=
    clearForFile_replacing hanswer hreplaces h hname
  by_cases hroom : OffWay run.files folder name ∧ (folder.join name).Fits
  · obtain ⟨hoff, hfits⟩ := hroom
    -- The same from all states in which the folder stands.
    have hwrite {again : Run σ} (h : Standing again.files folder)
        (hworking : again.files.workingFolder = run.files.workingFolder) :
        Ends (writeTree plan folder (.file name content t?)) again fun r run' => r = .ok () ∧
          Placed folder (again.files.placeOf folder ++ [name]) (fun _ => (Tree.file name content t?).alone)
            again.files run'.files := by
      have hoff := (offWay_congr hworking).2 hoff
      rw [writeTree, ends_bind]
      refine (hclear h).imp ?_
      -- Nothing was removed, and no folder is in the way; or all that stood there was.
      rintro _ cleared ⟨rfl, ⟨hsame, hfree⟩ | hcut⟩
      · dsimp only
        rw [← hsame] at h ⊢
        have hok := h.writeFile_ok hname hfits plan content rfl
          (by rw [hsame]; exact hfree hfits)
        exact (hok.and (h.writeFile hname content t?)).imp fun r run' hr => ⟨hr.1, (hr.2 hr.1).2⟩
      · dsimp only
        have hstanding := h.cut hoff
        have hplace : (again.files.cut (again.files.placeOf folder ++ [name])).placeOf folder =
            again.files.placeOf folder := FileSystem.placeOf_congr rfl folder
        have hok := hstanding.writeFile_ok hname hfits plan content hcut <| by
          rw [hplace, FileSystem.entryAt?_cut _ _ _ (by simp), if_pos (by simp)]
          simp
        have hplaced : Ends (fill plan folder (.file name content t?)) cleared fun r run' => r = .ok () →
            Placed folder (again.files.placeOf folder ++ [name]) (fun _ => (Tree.file name content t?).alone)
              again.files run'.files :=
          fill_cleared (t := .file name content t?) (by simpa [Tree.names] using hname) rfl h hoff hcut
        exact (hok.and hplaced).imp fun r run' hr => ⟨hr.1, hr.2 hr.1⟩
    refine (hwrite h rfl).imp fun r after ⟨_, hplaced⟩ _ => ?_
    refine ⟨hplaced.workingFolder, hplaced.standing, hplaced.overlaid.outside, fun again hworking hstanding _ => ?_⟩
    have hworking := hworking.trans hplaced.workingFolder
    rw [Tree.name, hplaced.entryAt?_eq, FileSystem.placeOf_congr hplaced.workingFolder,
      ← FileSystem.placeOf_congr hworking]
    exact hwrite hstanding hworking
  -- A file whose way or path is unfit is never written, so the run does not succeed.
  · rw [writeTree, ends_bind]
    refine (hclear h).imp ?_
    rintro _ cleared ⟨rfl, hcleared⟩
    have hne : run.files.placeOf folder ++ [name] ≠ [] := by simp
    obtain ⟨hworking, hfs, hrooted⟩ : cleared.files.workingFolder = run.files.workingFolder ∧
        cleared.files.LinkFree ∧ cleared.files.Rooted := by
      rcases hcleared with ⟨hsame, -⟩ | hcut
      · rw [hsame]
        exact ⟨rfl, h.linkFree, h.rooted⟩
      · rw [hcut]
        exact ⟨rfl, h.linkFree.cut hne, h.rooted.cut hne⟩
    refine (offWay_of_writeFile hfs hrooted hname).imp fun r after hoff hok => absurd ?_ hroom
    rw [← offWay_congr hworking]
    exact hoff hok

end Files

/-! ### Folders -/

/-- Makes room for a folder and makes it; the answer tells whether to go on with its children. -/
def openFolder (plan : Plan σ) (target : Path) : Writing σ Bool := do
  if ← clearForFolder plan target then
    change (·.makeFolders target)
    return true
  else return false

theorem writeTree_folder (plan : Plan σ) (folder : Path) (name : String) (children : List Tree)
    (t? : Option String) :
    writeTree plan folder (.folder name children t?) = (do
      if ← openFolder plan (folder.join name) then writeTrees plan (folder.join name) children) := by
  rw [writeTree, openFolder, bind_assoc]
  refine congrArg (clearForFolder plan (folder.join name) >>= ·) (funext fun goOn => ?_)
  cases goOn with
  | false => simp
  | true => simp

/-- A folder was made or found at its name, and nothing else has changed. -/
structure Opened (folder : Path) (name : String) (before made : FileSystem) : Prop where
  workingFolder : made.workingFolder = before.workingFolder
  standing : Standing made (folder.join name)
  outside : ∀ other, ¬ before.placeOf folder ++ [name] <+: other → made.entryAt? other = before.entryAt? other

/-- The folder was opened again. But for the children, what stands there is what was left there. -/
structure Reopened (anew : Prop) (folder : Path) (name : String) (children : List Tree)
    (left before made : FileSystem) : Prop extends Opened folder name before made where
  rest : ∀ way, (∀ child ∈ children, ¬ [child.name] <+: way) →
    made.entryAt? (left.placeOf folder ++ name :: way) = left.entryAt? (left.placeOf folder ++ name :: way)
  same : anew ∨ ∀ way,
    made.entryAt? (left.placeOf folder ++ name :: way) = left.entryAt? (left.placeOf folder ++ name :: way)

section Folders

variable {anew : Prop} {plan : Plan σ} {folder : Path} {name : String} {children : List Tree}

/-- A place below the name of a child is one below the name of its folder. -/
theorem not_below_child {base : Location} {n : String} {other : Location} (h : ¬ base ++ [name] <+: other) :
    ¬ base ++ [name] ++ [n] <+: other := fun hbelow => h ((List.prefix_append _ _).trans hbelow)

/-- The children that are written again into a folder that was opened again are what was left. -/
theorem Reopened.placed {left before made after : FileSystem} (h : Reopened anew folder name children left before made)
    (hname : IsNormal name) (hworking : before.workingFolder = left.workingFolder)
    (hplaced : PlacedEach (folder.join name) children
      (fun child _ way => left.entryAt? (left.placeOf (folder.join name) ++ child.name :: way)) made after) :
    Placed folder (left.placeOf folder ++ [name])
      (fun _ way => left.entryAt? (left.placeOf folder ++ name :: way)) before after := by
  obtain ⟨hworking', hstanding, heach, hrest⟩ := hplaced
  have hplace : made.placeOf (folder.join name) = left.placeOf folder ++ [name] := by
    rw [FileSystem.placeOf_congr (h.workingFolder.trans hworking), FileSystem.placeOf_join _ _ hname]
  rw [hplace] at heach hrest
  -- Outside of the place nothing has changed; inside, what was left is there again.
  refine ⟨hworking'.trans h.workingFolder, hstanding.of_join hname, fun other hother => ?_, fun way => ?_⟩
  · rw [hrest other fun child _ => not_below_child hother]
    refine h.outside other ?_
    rwa [FileSystem.placeOf_congr hworking]
  · -- At a child, or not.
    by_cases hchild : ∃ child ∈ children, [child.name] <+: way
    · obtain ⟨child, hchild, rest, rfl⟩ := hchild
      have hwritten := heach child hchild rest
      rw [FileSystem.placeOf_join _ _ hname] at hwritten
      simpa using hwritten
    -- Elsewhere in the folder, it was reopened as it was left.
    · have hnone : ∀ child ∈ children, ¬ [child.name] <+: way := fun child hc hbelow => hchild ⟨child, hc, hbelow⟩
      rw [hrest _ fun child hc => by rw [List.prefix_append_right_inj]; exact hnone child hc]
      simpa using h.rest way hnone

/-- **A folder.** If opening it again finds what was left there, the folder with its children may be written
    again. -/
theorem writeFolder_settled {run : Run σ} (hname : IsNormal name) (hnodup : (children.map Tree.name).Nodup)
    (t? : Option String)
    (hopen : Ends (openFolder plan (folder.join name)) run fun r made => ∀ goOn, r = .ok goOn →
      goOn = true ∧ Opened folder name run.files made.files ∧
      ∀ left, SettledEach anew plan (folder.join name) children made.files left →
        ∀ again : Run σ, again.files.workingFolder = left.workingFolder → Standing again.files folder →
          (anew ∨ ∀ way, again.files.entryAt? (left.placeOf folder ++ name :: way) =
            left.entryAt? (left.placeOf folder ++ name :: way)) →
          Ends (openFolder plan (folder.join name)) again fun r made => r = .ok true ∧
            Reopened anew folder name children left again.files made.files)
    (hchildren : ∀ child ∈ children, ∀ run : Run σ, Standing run.files (folder.join name) →
      Ends (writeTree plan (folder.join name) child) run fun r run' => r = .ok () →
        Settled anew plan (folder.join name) child run.files run'.files) :
    Ends (writeTree plan folder (.folder name children t?)) run fun r run' => r = .ok () →
      Settled anew plan folder (.folder name children t?) run.files run'.files := by
  -- The first run: the folder is opened, and its children are settled in it.
  rw [writeTree_folder]
  refine hopen.bind ?_ (fun i made _ hok => by cases hok)
  intro goOn made hopened
  obtain ⟨rfl, hopened, hagain⟩ := hopened goOn rfl
  rw [if_pos rfl]
  refine (writeTrees_settled hnodup hchildren hopened.standing).imp ?_
  intro r after heach hok
  have heach := heach hok
  have hworking := heach.workingFolder.trans hopened.workingFolder
  refine ⟨hworking, heach.standing.of_join hname, fun other hother => ?_, ?_⟩
  · rw [heach.rest other fun child _ => ?_]
    · exact hopened.outside other hother
    · rw [FileSystem.placeOf_join _ _ hname, FileSystem.placeOf_congr hopened.workingFolder]
      exact not_below_child hother
  -- The second run: the folder is opened again, and its children find what they have left.
  · intro again hworking' hstanding hbefore
    rw [writeTree_folder]
    refine (hagain after.files heach again hworking' hstanding hbefore).bind ?_ (fun i made' hr => by cases hr.1)
    rintro _ made' ⟨heq, hre⟩
    cases heq
    rw [if_pos rfl]
    refine (writeTrees_again hnodup heach.again (hre.workingFolder.trans hworking') hre.standing ?_).imp ?_
    · refine hre.same.imp_right fun hsame child _ way => ?_
      rw [FileSystem.placeOf_join _ _ hname]
      simpa using hsame (child.name :: way)
    · exact fun r last hr => ⟨hr.1, hre.placed hname hworking' hr.2⟩

end Folders

/-! ### Merging into folders -/

section Merging

variable {plan : Plan σ} {folder : Path} {name : String} {run : Run σ} (hmerge : Answers plan true .merge)
  (h : Standing run.files folder) (hname : IsNormal name)
include hmerge h hname

/-- Where folders are merged into, room is made for one by removing what is no folder. -/
theorem clearForFolder_merging :
    Ends (clearForFolder plan (folder.join name)) run fun r room => r = .ok true ∧
      (room.files = run.files ∨ room.files = run.files.cut (run.files.placeOf folder ++ [name]) ∧
        run.files.entryAt? (run.files.placeOf folder ++ [name]) ≠ some .folder) := by
  simp only [clearForFolder, ends_bind, ends_get]
  -- Something is in the way, and the answer is Merge.
  by_cases hocc : run.files.occupied (folder.join name) = true
  · obtain ⟨hreach, hsome⟩ := (FileSystem.occupied_iff h.linkFree).1 hocc
    simp only [hocc, Bool.not_true, Bool.false_eq_true, if_false]
    refine (hmerge _ run).bind ?_ (fun i asked hasked => by cases hasked.1)
    rintro _ asked ⟨heq, hfiles⟩
    cases heq
    rw [← hfiles] at h hreach hsome ⊢
    simp only [ends_bind, ends_get]
    refine (ends_remove_if h.linkFree hname hreach hsome).imp ?_
    -- A folder is kept, and anything else is removed.
    rintro r room ⟨hr, ⟨-, hsame⟩ | ⟨hnot, hcut⟩⟩
    · exact ⟨hr, .inl hsame⟩
    · rw [FileSystem.placeOf_join _ _ hname] at hcut
      rw [Bool.not_eq_true', ← Bool.not_eq_true, h.isFolder_iff hname hreach.fits] at hnot
      exact ⟨hr, .inr ⟨hcut, hnot⟩⟩
  · simp only [hocc, Bool.not_false, if_true]
    exact ends_pure.2 ⟨rfl, .inl rfl⟩

theorem openFolder_merging :
    Ends (openFolder plan (folder.join name)) run fun r made => ∀ goOn, r = .ok goOn →
      goOn = true ∧ Opened folder name run.files made.files ∧ (folder.join name).Fits := by
  rw [openFolder]
  refine (clearForFolder_merging hmerge h hname).bind ?_ (fun i room hr => by cases hr.1)
  rintro _ room ⟨heq, hroom⟩
  cases heq
  rw [if_pos rfl]
  have hne : run.files.placeOf folder ++ [name] ≠ [] := by simp
  -- Room is made in the place only, and the folder stands as before.
  obtain ⟨hworking, hstanding, houtside⟩ : room.files.workingFolder = run.files.workingFolder ∧
      Standing room.files folder ∧ ∀ other, ¬ run.files.placeOf folder ++ [name] <+: other →
        room.files.entryAt? other = run.files.entryAt? other := by
    -- What stood there was a folder, and is kept, or it was removed.
    rcases hroom with hsame | ⟨hcut, hnot⟩
    · rw [hsame]
      exact ⟨rfl, h, fun _ _ => rfl⟩
    · rw [hcut]
      refine ⟨rfl, h.cut (h.offWay hnot), fun other hother => ?_⟩
      rw [FileSystem.entryAt?_cut _ _ _ hne, if_neg]
      rwa [List.isPrefixOf_iff_prefix]
  refine ((hstanding.makeFolders hname).and (fits_of_makeFolders hstanding.linkFree hname)).bind ?_
    (fun i made _ goOn hok => by cases hok)
  rintro _ made ⟨hmade, hfits⟩
  obtain ⟨hworking', hstanding', hentries⟩ := hmade rfl
  refine ends_pure.2 fun goOn hok => ⟨(Except.ok.inj hok).symm, ?_, hfits _ rfl⟩
  refine ⟨hworking'.trans hworking, hstanding', fun other hother => ?_⟩
  rw [hentries, FileSystem.placeOf_congr hworking, if_neg, houtside other hother]
  rintro rfl
  exact hother (List.prefix_refl _)

/-- A folder that is merged into again is found as it is. -/
theorem openFolder_found (hfits : (folder.join name).Fits)
    (hfolder : run.files.entryAt? (run.files.placeOf folder ++ [name]) = some .folder) :
    Ends (openFolder plan (folder.join name)) run fun r made => r = .ok true ∧ made.files = run.files := by
  rw [openFolder]
  refine (clearForFolder_merging hmerge h hname).bind ?_ (fun i room hr => by cases hr.1)
  -- Clearing either changed nothing, or met something that is no folder.
  rintro _ room ⟨heq, hsame | ⟨-, hnot⟩⟩
  · cases heq
    rw [← FileSystem.placeOf_join _ _ hname] at hfolder
    have hmake := FileSystem.makeFolders_of_folder h.linkFree (FileSystem.withoutSlashes_join folder hname)
      (h.isOpen.reachable_join hname hfits) hfolder
    rw [if_pos rfl, ends_bind, ends_change, hsame, hmake]
    exact ends_pure.2 ⟨rfl, rfl⟩
  · exact absurd hfolder hnot

/-- A folder is merged into, with its children, and may be so again. -/
theorem mergeFolder_settled {children : List Tree} (hnodup : (children.map Tree.name).Nodup) (t? : Option String)
    (hchildren : ∀ child ∈ children, ∀ run : Run σ, Standing run.files (folder.join name) →
      Ends (writeTree plan (folder.join name) child) run fun r run' => r = .ok () →
        Settled False plan (folder.join name) child run.files run'.files) :
    Ends (writeTree plan folder (.folder name children t?)) run fun r run' => r = .ok () →
      Settled False plan folder (.folder name children t?) run.files run'.files := by
  refine writeFolder_settled hname hnodup t? ?_ hchildren
  refine (openFolder_merging hmerge h hname).imp fun r made hr goOn hok => ?_
  obtain ⟨hgoOn, hopened, hfits⟩ := hr goOn hok
  -- The second run finds the folder that the first one made or merged into.
  refine ⟨hgoOn, hopened, fun left heach again hworking hstanding hbefore => ?_⟩
  have hbefore := hbefore.resolve_left id
  have hplace := FileSystem.placeOf_congr hworking folder
  -- The children have left the folder itself as it was made.
  have hleft : left.entryAt? (left.placeOf folder ++ [name]) = some .folder := by
    rw [← FileSystem.placeOf_join _ _ hname]
    exact heach.standing.isOpen.isFolder
  have hfolder : again.files.entryAt? (again.files.placeOf folder ++ [name]) = some .folder := by
    rw [hplace, hbefore [], hleft]
  refine (openFolder_found hmerge hstanding hname hfits hfolder).imp ?_
  rintro r found ⟨hr, hsame⟩
  rw [hsame]
  rw [← FileSystem.placeOf_join _ _ hname] at hfolder
  exact ⟨hr, {
    workingFolder := rfl
    standing := ⟨hstanding.linkFree, hstanding.rooted, hstanding.isOpen.join hname hfolder⟩
    outside := fun _ _ => rfl
    rest := fun way _ => hbefore way
    same := .inr hbefore }⟩

end Merging

/-! ### Overwriting folders -/

/-- Everything at and below the place was removed, and nothing else. -/
structure Cleared (place : Location) (before after : FileSystem) : Prop where
  workingFolder : after.workingFolder = before.workingFolder
  linkFree : after.LinkFree
  rooted : after.Rooted
  inside : ∀ way, after.entryAt? (place ++ way) = none
  outside : ∀ other, ¬ place <+: other → after.entryAt? other = before.entryAt? other

section Overwriting

variable {folder : Path} {name : String} {before cleared : FileSystem}

/-- A folder is made again in its cleared place. If its own path comes past folders that were in it, they are made
    again, too, and these are all. -/
theorem Cleared.makeFolders (hclear : Cleared (before.placeOf folder ++ [name]) before cleared)
    (h : Standing before folder) (hname : IsNormal name) (hok : (cleared.makeFolders (folder.join name)).1 = none) :
    Opened folder name before (cleared.makeFolders (folder.join name)).2 ∧
      ∀ way, (cleared.makeFolders (folder.join name)).2.entryAt? (before.placeOf folder ++ name :: way) =
        some .folder ∧ before.Passes (folder.join name) (before.placeOf folder ++ name :: way) ∨
      (cleared.makeFolders (folder.join name)).2.entryAt? (before.placeOf folder ++ name :: way) = none ∧
        ¬ before.Passes (folder.join name) (before.placeOf folder ++ name :: way) := by
  have hgrows := FileSystem.makeFolders_grows hclear.linkFree (folder.join name)
  have hopen := FileSystem.makeFolders_isOpen hclear.linkFree
    (fun hempty => absurd hempty (folder.text_join_ne_empty hname)) hok
  have hpasses := FileSystem.passes_congr hclear.workingFolder (folder.join name)
  rw [hpasses] at hgrows
  -- What is made lies on the way to the folder, which ends at its place.
  refine ⟨⟨hgrows.workingFolder.trans hclear.workingFolder, ⟨hgrows.linkFree hclear.linkFree,
    hgrows.rooted hclear.rooted, hopen⟩, fun other hother => ?_⟩, fun way => ?_⟩
  · rw [← hclear.outside other hother]
    rcases hgrows.entries other with hsame | ⟨hpassed, hmissing, -⟩
    · exact hsame
    · -- On the way to the place nothing is missing.
      rcases hpassed.of_join hname with hbefore | rfl
      · rw [hclear.outside other hother, h.isOpen other hbefore] at hmissing
        cases hmissing
      · rw [FileSystem.placeOf_join _ _ hname] at hother
        exact absurd (List.prefix_refl _) hother
  -- At or below the place, there is a folder if the way passes it, and nothing otherwise.
  · by_cases hpassed : before.Passes (folder.join name) (before.placeOf folder ++ name :: way)
    · refine .inl ⟨hopen _ ?_, hpassed⟩
      rwa [FileSystem.passes_congr (hgrows.workingFolder.trans hclear.workingFolder)]
    · refine .inr ⟨?_, hpassed⟩
      rw [hgrows.entryAt?_of_not_passed hpassed]
      simpa using hclear.inside way

/-- Whatever stood in the place, a folder is made alike when it was cleared. -/
theorem Cleared.agreeOn {before' cleared' : FileSystem}
    (hclear : Cleared (before.placeOf folder ++ [name]) before cleared)
    (hclear' : Cleared (before'.placeOf folder ++ [name]) before' cleared') (h : Standing before folder)
    (h' : Standing before' folder) (hworking : before'.workingFolder = before.workingFolder) (hname : IsNormal name) :
    FileSystem.AgreeOn (cleared.Passes (folder.join name)) cleared cleared' where
  workingFolder := hclear'.workingFolder.trans (hworking.trans hclear.workingFolder.symm)
  entries place hpasses := by
    rw [FileSystem.placeOf_congr hworking] at hclear'
    -- Below the place both are cleared alike; on the way to it both stand as before.
    by_cases hplace : before.placeOf folder ++ [name] <+: place
    · obtain ⟨way, rfl⟩ := hplace
      rw [hclear.inside, hclear'.inside]
    · rw [FileSystem.passes_congr hclear.workingFolder] at hpasses
      rcases hpasses.of_join hname with hbefore | rfl
      · rw [hclear.outside place hplace, hclear'.outside place hplace, h.isOpen place hbefore, h'.isOpen place]
        rwa [FileSystem.passes_congr hworking]
      · rw [FileSystem.placeOf_join _ _ hname] at hplace
        exact absurd (List.prefix_refl _) hplace

variable {plan : Plan σ} {run : Run σ} (hover : Answers plan true .overwrite) (h : Standing run.files folder)
  (hname : IsNormal name)
include hover h hname

/-- Where folders are overwritten, the place of one is cleared. -/
theorem clearForFolder_overwriting :
    Ends (clearForFolder plan (folder.join name)) run fun r room => r = .ok true ∧ room.files.LinkFree ∧
      ((folder.join name).Fits → Cleared (run.files.placeOf folder ++ [name]) run.files room.files) := by
  have hne : run.files.placeOf folder ++ [name] ≠ [] := by simp
  simp only [clearForFolder, ends_bind, ends_get]
  by_cases hocc : run.files.occupied (folder.join name) = true
  · obtain ⟨hreach, hsome⟩ := (FileSystem.occupied_iff h.linkFree).1 hocc
    simp only [hocc, Bool.not_true, Bool.false_eq_true, if_false]
    refine (hover _ run).bind ?_ (fun i asked hasked => by cases hasked.1)
    rintro _ asked ⟨heq, hfiles⟩
    cases heq
    -- The question leaves the files as they are, so what is asked about is still there to be removed.
    rw [← hfiles] at h hreach hsome hne ⊢
    simp only [ends_bind]
    rw [ends_change, FileSystem.remove_of_occupied h.linkFree hname hreach hsome, FileSystem.placeOf_join _ _ hname]
    refine ends_pure.2 ⟨rfl, h.linkFree.cut hne, fun _ => ⟨rfl, h.linkFree.cut hne, h.rooted.cut hne,
      fun way => ?_, fun other hother => ?_⟩⟩
    · rw [FileSystem.entryAt?_cut _ _ _ hne, if_pos (List.isPrefixOf_iff_prefix.2 (List.prefix_append _ _))]
    · rw [FileSystem.entryAt?_cut _ _ _ hne, if_neg]
      rwa [List.isPrefixOf_iff_prefix]
  · simp only [hocc, Bool.not_false, if_true]
    refine ends_pure.2 ⟨rfl, h.linkFree, fun hfits => ⟨rfl, h.linkFree, h.rooted, fun way => ?_, fun _ _ => rfl⟩⟩
    -- Nothing stands there, and so nothing below it.
    rw [h.occupied_iff hname hfits, not_ne_iff] at hocc
    cases way with
    | nil => rwa [List.append_nil]
    | cons n way => exact h.rooted.entryAt?_eq_none (by rw [hocc]; simp) (List.cons_ne_nil n way)

theorem openFolder_overwriting :
    Ends (openFolder plan (folder.join name)) run fun r made => ∀ goOn, r = .ok goOn →
      goOn = true ∧ (folder.join name).Fits ∧ ∃ cleared,
        Cleared (run.files.placeOf folder ++ [name]) run.files cleared ∧
          cleared.makeFolders (folder.join name) = (none, made.files) := by
  rw [openFolder]
  refine (clearForFolder_overwriting hover h hname).bind ?_ (fun i room hr => by cases hr.1)
  rintro _ room ⟨heq, hfs, hclear⟩
  cases heq
  rw [if_pos rfl, ends_bind, ends_change]
  split
  · exact fun goOn hok => by cases hok
  · rename_i hmake
    have hfits := FileSystem.makeFolders_join_fits hfs hname hmake
    refine ends_pure.2 fun goOn hok => ⟨(Except.ok.inj hok).symm, hfits, room.files, hclear hfits, ?_⟩
    exact Prod.ext hmake rfl

/-- A folder that was made once in its cleared place is made again there. -/
theorem openFolder_renewed (hfits : (folder.join name).Fits)
    (hclear : Cleared (before.placeOf folder ++ [name]) before cleared) (hbefore : Standing before folder)
    (hworking : run.files.workingFolder = before.workingFolder)
    (hok : (cleared.makeFolders (folder.join name)).1 = none) :
    Ends (openFolder plan (folder.join name)) run fun r made => r = .ok true ∧ ∃ cleared,
      Cleared (run.files.placeOf folder ++ [name]) run.files cleared ∧
        cleared.makeFolders (folder.join name) = (none, made.files) := by
  rw [openFolder]
  refine (clearForFolder_overwriting hover h hname).bind ?_ (fun i room hr => by cases hr.1)
  rintro _ room ⟨heq, hfs, hclear'⟩
  cases heq
  -- The second clearing leaves what the first left, as far as making the folder looks.
  have hclear' := hclear' hfits
  have hmake := (FileSystem.makeFolders_congr hclear.linkFree
    (hclear.agreeOn hclear' hbefore h hworking hname) fun _ hpasses => hpasses).1.trans hok
  rw [if_pos rfl, ends_bind, ends_change, hmake]
  exact ends_pure.2 ⟨rfl, room.files, hclear', Prod.ext hmake rfl⟩

/-- A folder is overwritten, with its children, and may be so again, whatever stands there then. -/
theorem overwriteFolder_settled {children : List Tree} (hnodup : (children.map Tree.name).Nodup) (t? : Option String)
    (hchildren : ∀ child ∈ children, ∀ run : Run σ, Standing run.files (folder.join name) →
      Ends (writeTree plan (folder.join name) child) run fun r run' => r = .ok () →
        Settled True plan (folder.join name) child run.files run'.files) :
    Ends (writeTree plan folder (.folder name children t?)) run fun r run' => r = .ok () →
      Settled True plan folder (.folder name children t?) run.files run'.files := by
  refine writeFolder_settled hname hnodup t? ?_ hchildren
  refine (openFolder_overwriting hover h hname).imp fun r made hr goOn hok => ?_
  obtain ⟨hgoOn, hfits, cleared, hclear, hmake⟩ := hr goOn hok
  have hok : (cleared.makeFolders (folder.join name)).1 = none := by rw [hmake]
  have hmade := hclear.makeFolders h hname hok
  rw [hmake] at hmade
  obtain ⟨hopened, hview⟩ := hmade
  -- The second run clears the folder that the first one made, and makes it again.
  refine ⟨hgoOn, hopened, fun left heach again hworking hstanding _ => ?_⟩
  have hworking' := hworking.trans (heach.workingFolder.trans hopened.workingFolder)
  refine (openFolder_renewed hover hstanding hname hfits hclear h hworking' hok).imp ?_
  rintro r renewed ⟨hr, cleared', hclear', hmake'⟩
  have hmade' := hclear'.makeFolders hstanding hname (by rw [hmake'])
  rw [hmake'] at hmade'
  obtain ⟨hopened', hview'⟩ := hmade'
  refine ⟨hr, { toOpened := hopened', rest := fun way hway => ?_, same := .inl trivial }⟩
  -- But for the children, both times only the folders are there that the path comes past.
  have hplace := FileSystem.placeOf_congr hworking' folder
  have hplace' := FileSystem.placeOf_congr hopened.workingFolder folder
  have hplace'' := FileSystem.placeOf_congr heach.workingFolder folder
  rw [hplace, FileSystem.passes_congr hworking'] at hview'
  rw [hplace'', hplace', heach.rest]
  -- What is there behind the clearing depends on the way alone.
  · rcases hview way with ⟨hentry, hpassed⟩ | ⟨hentry, hmissed⟩
    · rcases hview' way with ⟨hentry', -⟩ | ⟨-, hmissed⟩
      · rw [hentry, hentry']
      · exact absurd hpassed hmissed
    · rcases hview' way with ⟨-, hpassed⟩ | ⟨hentry', -⟩
      · exact absurd hpassed hmissed
      · rw [hentry, hentry']
  · intro child hchild
    rw [FileSystem.placeOf_join _ _ hname, hplace', List.append_assoc, List.prefix_append_right_inj,
      List.singleton_append, List.cons_prefix_cons]
    exact fun hbelow => hway child hchild hbelow.2

end Overwriting

/-! ### One tree -/

section Policies

variable {plan : Plan σ} {t : Tree}

/-- Where folders are merged into and files replaced, a tree that was written may be written again. -/
theorem writeTree_settled_of_overlays {answer : Decision} (hover : Overlays plan answer) (t : Tree) {folder : Path}
    {run : Run σ} (hnames : ∀ n ∈ t.names, IsNormal n) (hdistinct : t.distinctSiblings = true)
    (h : Standing run.files folder) :
    Ends (writeTree plan folder t) run fun r run' => r = .ok () →
      Settled False plan folder t run.files run'.files := by
  -- A file settles by itself; the children of a folder settle one after the other.
  induction t using Tree.induction_on generalizing run folder with
  | file name content t? =>
    exact writeFile_settled hover.files hover.replaces h (hnames name (by simp [Tree.names])) t? False
  | folder name children t? ih =>
    refine mergeFolder_settled hover.folders h (hnames name (by simp [Tree.names])) (Tree.nodup_children hdistinct) t?
      fun child hchild run' hstanding => ih child hchild ?_ (Tree.distinctSiblings_child hdistinct hchild) hstanding
    exact fun n hn => hnames n (List.mem_cons_of_mem _ (Tree.mem_namesOf.2 ⟨child, hchild, hn⟩))

/-- Where everything is overwritten, so it is, whatever stands there then. -/
theorem writeTree_settled_of_overwrite (hover : ∀ isFolder, Answers plan isFolder .overwrite) (t : Tree)
    {folder : Path} {run : Run σ} (hnames : ∀ n ∈ t.names, IsNormal n) (hdistinct : t.distinctSiblings = true)
    (h : Standing run.files folder) :
    Ends (writeTree plan folder t) run fun r run' => r = .ok () →
      Settled True plan folder t run.files run'.files := by
  -- As above, with the folder cleared first.
  induction t using Tree.induction_on generalizing run folder with
  | file name content t? =>
    exact writeFile_settled (hover false) (.inl rfl) h (hnames name (by simp [Tree.names])) t? True
  | folder name children t? ih =>
    refine overwriteFolder_settled (hover true) h (hnames name (by simp [Tree.names])) (Tree.nodup_children hdistinct)
      t? fun child hchild run' hstanding => ih child hchild ?_ (Tree.distinctSiblings_child hdistinct hchild) hstanding
    exact fun n hn => hnames n (List.mem_cons_of_mem _ (Tree.mem_namesOf.2 ⟨child, hchild, hn⟩))

/-- Where everything is skipped, a tree that was written, or left out, is left out when it is to be written
    again. -/
theorem writeTree_settled_of_skip (hskip : ∀ isFolder, Answers plan isFolder .skip) {folder : Path} {run : Run σ}
    (hnames : ∀ n ∈ t.names, IsNormal n) (hdistinct : t.distinctSiblings = true)
    (h : Standing run.files folder) :
    Ends (writeTree plan folder t) run fun r run' => r = .ok () →
      Settled False plan folder t run.files run'.files := by
  have hname : IsNormal t.name := hnames _ (by cases t <;> simp [Tree.names, Tree.name])
  have hfits : Ends (writeTree plan folder t) run fun r _ => r = .ok () → (folder.join t.name).Fits := by
    -- Where something is in the way the path was looked up; otherwise the node was written there.
    by_cases hocc : run.files.occupied (folder.join t.name) = true
    · exact ends_iff.2 fun _ => ((FileSystem.occupied_iff h.linkFree).1 hocc).1.fits
    · rw [ends_writeTree_of_free (by simpa using hocc)]
      exact fill_fits t hname h
  refine ((writeTree_spared hnames hdistinct h hskip).and hfits).imp ?_
  rintro r after ⟨hplaced, hfits⟩ hok
  obtain ⟨hworking, hstanding, hover⟩ := hplaced hok
  refine ⟨hworking, hstanding, hover.outside, fun again hworking' hstanding' hbefore => ?_⟩
  have hbefore := hbefore.resolve_left id
  have hplace := FileSystem.placeOf_congr hworking' folder
  -- Something stands there now, and is skipped.
  have hsome : after.files.entryAt? (run.files.placeOf folder ++ [t.name]) ≠ none := by
    have hinside := hover.inside []
    rw [List.append_nil] at hinside
    rw [hinside]
    split
    · cases t <;> simp [Tree.alone, Tree.at?, Tree.entry]
    · assumption
  rw [← FileSystem.placeOf_congr hworking folder, ← hbefore [], ← hplace, ← hstanding'.occupied_iff hname (hfits hok)]
    at hsome
  refine (writeTree_skipped hskip hsome).imp ?_
  rintro r' last ⟨hr, hsame⟩
  rw [hsame]
  refine ⟨hr, rfl, hstanding', fun _ _ => rfl, fun way => ?_⟩
  simpa using hbefore way

end Policies

/-! ### Whole runs -/

/-- A tree is written only if the path of its folder starts from a folder. -/
theorem base_of_writeTree {plan : Plan σ} {folder : Path} {run : Run σ} (t : Tree) (hname : IsNormal t.name)
    (hfs : run.files.LinkFree) :
    Ends (writeTree plan folder t) run fun r _ => r = .ok () →
      run.files.entryAt? (run.files.baseOf folder) = some .folder := by
  -- The name does not change where the path starts.
  have hbase : run.files.baseOf (folder.join t.name) = run.files.baseOf folder :=
    FileSystem.baseOf_congr rfl (folder.absolute_join hname)
  -- What is there already stands in folders; what is not is put into folders that are made.
  by_cases hocc : run.files.occupied (folder.join t.name) = true
  · refine ends_iff.2 fun _ => ?_
    rw [← hbase]
    exact ((FileSystem.occupied_iff hfs).1 hocc).1.base
  · rw [ends_writeTree_of_free (by simpa using hocc)]
    cases t with
    | folder name children t? =>
      rw [Tree.name] at hname hbase
      rw [fill, ends_bind, ends_change]
      split
      · exact fun hok => by cases hok
      · rename_i hmake
        rw [← hbase]
        exact ends_iff.2 fun _ => FileSystem.base_of_makeFolders hfs (folder.text_join_ne_empty hname) hmake
    | file name content t? =>
      rw [Tree.name] at hname hbase
      rw [fill, writeFile, Path.parent?_join folder hname]
      simp only [ends_bind, ends_change, ends_attempt, ends_modify]
      cases hmake : (run.files.makeFolders folder.trimmed).1 with
      | some fault => exact fun hok => by cases hok
      | none =>
        dsimp only
        split
        · rename_i files hwrite
          intro _
          have htrimmed : run.files.baseOf folder.trimmed = run.files.baseOf folder :=
            FileSystem.baseOf_congr rfl folder.trimmed_absolute
          -- An empty path has no folder of its own to be made, but the file could be written.
          by_cases htext : folder.trimmed.text = ""
          · rw [FileSystem.makeFolders_of_empty htext] at hwrite
            rw [← hbase]
            exact ((FileSystem.writeText_eq_ok_iff hfs hname).1 hwrite).1.base
          · rw [← htrimmed]
            exact FileSystem.base_of_makeFolders hfs htext hmake
        · exact fun hok => by cases hok

/-- What a run leaves behind that may be repeated: the destination, which is found when it is made again, and trees
    that may be written again. -/
structure Repeatable (anew : Prop) (plan : Plan σ) (destination : Path) (ts : List Tree) (files : FileSystem) :
    Prop where
  found : (files.makeFolders destination).1 = none
  unchanged : ∀ place, (files.makeFolders destination).2.entryAt? place = files.entryAt? place
  linkFree : files.LinkFree
  standing : ts ≠ [] → Standing files destination
  again : ∀ t ∈ ts, Again anew plan destination t files

section Runs

variable {anew : Prop} {plan : Plan σ} {destination : Path} {ts : List Tree}

/-- Making a folder again that stands changes nothing. -/
theorem makeFolders_unchanged {files : FileSystem} (hfs : files.LinkFree)
    (hopen : destination.text = "" ∨ files.IsOpen destination) (place : Location) :
    (files.makeFolders destination).2.entryAt? place = files.entryAt? place := by
  rcases hopen with htext | hopen
  · rw [FileSystem.makeFolders_of_empty htext]
  · exact (FileSystem.makeFolders_grows hfs destination).entryAt?_of_isOpen hopen place

/-- **Once.** A run that succeeds leaves behind what may be repeated. -/
theorem repeatable_of_run (run : Run σ) (hfs : run.files.LinkFree) (hrooted : run.files.Rooted)
    (hnodup : (ts.map Tree.name).Nodup) (hnames : ∀ t ∈ ts, IsNormal t.name)
    (htree : ∀ t ∈ ts, ∀ run : Run σ, Standing run.files destination →
      Ends (writeTree plan destination t) run fun r run' => r = .ok () →
        Settled anew plan destination t run.files run'.files) :
    Ends (do
        change (·.makeFolders destination)
        writeTrees plan destination ts) run fun r run' => r = .ok () →
      Repeatable anew plan destination ts run'.files := by
  -- Making the destination succeeded, so it can be made once more.
  rw [ends_bind, ends_change]
  split
  · exact fun hok => by cases hok
  rename_i hmake
  have hgrows := FileSystem.makeFolders_grows hfs destination
  have hmade := hgrows.linkFree hfs
  have hfound := FileSystem.makeFolders_again hfs hmake
  -- With no tree to write the destination is all there is.
  cases ts with
  | nil =>
    rw [writeTrees]
    refine ends_pure.2 fun _ => ⟨hfound, makeFolders_unchanged hmade ?_, hmade, fun hne => absurd rfl hne,
      fun t ht => by cases ht⟩
    by_cases htext : destination.text = ""
    · exact .inl htext
    · exact .inr (FileSystem.makeFolders_isOpen hfs (fun hempty => absurd hempty htext) hmake)
  | cons t ts =>
    by_cases hbase : (run.files.makeFolders destination).2.entryAt?
        ((run.files.makeFolders destination).2.baseOf destination) = some .folder
    · -- The destination stands, also if its path is empty.
      have hopen : (run.files.makeFolders destination).2.IsOpen destination := by
        refine FileSystem.makeFolders_isOpen hfs (fun hempty => ?_) hmake
        rwa [FileSystem.makeFolders_of_empty hempty, FileSystem.baseOf,
          (Path.isIdle_of_text_eq_empty hempty).1] at hbase
      refine (writeTrees_settled hnodup htree ⟨hmade, hgrows.rooted hrooted, hopen⟩).imp fun r after heach hok => ?_
      obtain ⟨hworking, hstanding, -, hagain⟩ := heach hok
      refine ⟨?_, makeFolders_unchanged hstanding.linkFree (.inr hstanding.isOpen), hstanding.linkFree,
        fun _ => hstanding, hagain⟩
      -- The path of the destination comes past folders before and after.
      have hagree : FileSystem.AgreeOn ((run.files.makeFolders destination).2.Passes destination)
          (run.files.makeFolders destination).2 after.files := by
        refine ⟨hworking, fun place hpasses => ?_⟩
        rw [hopen place hpasses, hstanding.isOpen place]
        rwa [FileSystem.passes_congr hworking]
      exact (FileSystem.makeFolders_congr hmade hagree fun _ hpasses => hpasses).1.trans hfound
    · rw [writeTrees]
      refine (base_of_writeTree t (hnames t List.mem_cons_self) hmade).bind (fun a run' hfolder => ?_)
        (fun i run' _ hok => by cases hok)
      exact absurd (hfolder rfl) hbase

/-- **Twice.** What may be repeated is repeated without a fault, and all is left as it is. -/
theorem Repeatable.run (run : Run σ) (h : Repeatable anew plan destination ts run.files)
    (hnodup : (ts.map Tree.name).Nodup) :
    Ends (do
        change (·.makeFolders destination)
        writeTrees plan destination ts) run fun r run' => r = .ok () ∧
      run'.files.workingFolder = run.files.workingFolder ∧
      ∀ place, run'.files.entryAt? place = run.files.entryAt? place := by
  have hworking := (FileSystem.makeFolders_grows h.linkFree destination).workingFolder
  rw [ends_bind, ends_change, h.found]
  dsimp only
  -- Without children nothing is written, and the way to the destination is made already.
  cases ts with
  | nil =>
    rw [writeTrees]
    exact ends_pure.2 ⟨rfl, hworking, h.unchanged⟩
  -- With children, the destination stands as a folder, and each child finds what it has left.
  | cons t ts =>
    have hstanding := h.standing (List.cons_ne_nil t ts)
    have hstanding' : Standing (run.files.makeFolders destination).2 destination := by
      have hgrows := FileSystem.makeFolders_grows h.linkFree destination
      refine ⟨hgrows.linkFree h.linkFree, hgrows.rooted hstanding.rooted, fun place hpasses => ?_⟩
      rw [FileSystem.passes_congr hworking] at hpasses
      rw [h.unchanged]
      exact hstanding.isOpen place hpasses
    refine (writeTrees_again hnodup h.again hworking hstanding' (.inr fun _ _ way => h.unchanged _)).imp ?_
    rintro r run' ⟨hok, hworking', -, heach, hrest⟩
    rw [FileSystem.placeOf_congr hworking] at heach hrest
    -- A place at or below the place of a child is as the second run of the child leaves it.
    refine ⟨hok, hworking'.trans hworking, fun place => ?_⟩
    by_cases hplace : ∃ child ∈ t :: ts, run.files.placeOf destination ++ [child.name] <+: place
    -- Any other place is not touched by the second run.
    · obtain ⟨child, hchild, way, rfl⟩ := hplace
      simpa using heach child hchild way
    · rw [hrest place fun child hchild hbelow => hplace ⟨child, hchild, hbelow⟩]
      exact h.unchanged place

end Runs

/-- The ways to answer that do not depend on anything: no callback, or one that always overwrites, merges or
    skips. -/
def IsSteady (callback? : Option (Callback σ)) : Prop :=
  callback? = none ∨ ∃ callback answer, callback? = some callback ∧
    (answer = .overwrite ∨ answer = .merge ∨ answer = .skip) ∧
    ∀ files question s, (callback files question s).1 = answer

/-- A tree that was written with steady answers may be written again with them. -/
theorem exists_settled {root : Tree} (destination : Path) {callback? : Option (Callback σ)}
    (h : IsSteady callback?) (hnames : ∀ n ∈ Tree.namesOf root.children, IsNormal n)
    (hdistinct : root.distinctSiblings = true) :
    ∃ anew : Prop, ∀ t ∈ root.children, ∀ run : Run σ, Standing run.files destination →
      Ends (writeTree (planOf root destination callback?) destination t) run fun r run' => r = .ok () →
        Settled anew (planOf root destination callback?) destination t run.files run'.files := by
  have hchild : ∀ t ∈ root.children, (∀ n ∈ t.names, IsNormal n) ∧ t.distinctSiblings = true :=
    fun t ht => ⟨fun n hn => hnames n (Tree.mem_namesOf.2 ⟨t, ht, hn⟩), Tree.distinctSiblings_child hdistinct ht⟩
  obtain rfl | ⟨callback, answer, rfl, hanswer, hcallback⟩ := h
  -- Without a callback everything is overlaid.
  · exact ⟨False, fun t ht run hstanding =>
      writeTree_settled_of_overlays (overlays_of_none rfl) t (hchild t ht).1 (hchild t ht).2 hstanding⟩
  · have hanswers : ∀ isFolder, Answers (planOf root destination (some callback)) isFolder answer :=
      answers_of_constant rfl hcallback
    -- The three answers differ in what is left: a new entry, the old one with more in it, or the old one.
    rcases hanswer with rfl | rfl | rfl
    · exact ⟨True, fun t ht run hstanding =>
        writeTree_settled_of_overwrite hanswers t (hchild t ht).1 (hchild t ht).2 hstanding⟩
    · exact ⟨False, fun t ht run hstanding =>
        writeTree_settled_of_overlays ⟨hanswers true, hanswers false, .inr rfl⟩ t (hchild t ht).1 (hchild t ht).2
          hstanding⟩
    · exact ⟨False, fun t ht run hstanding =>
        writeTree_settled_of_skip hanswers (hchild t ht).1 (hchild t ht).2 hstanding⟩

/-- **Twice is once.** Let a run succeed, without links, for a tree with normal names and different ones in each
    folder, without a callback or with one that always overwrites, always merges or always skips. Then a second run
    of the same tree into the same destination, with the same answers, succeeds and leaves all as it found it. -/
theorem generate_again {root : Tree} {destination : Path} {callback? : Option (Callback σ)} {files : FileSystem}
    {s : σ} (hfs : files.LinkFree) (hrooted : files.Rooted)
    (hnames : ∀ n ∈ Tree.namesOf root.children, IsNormal n) (hdistinct : root.distinctSiblings = true)
    (hsteady : IsSteady callback?) (hsuccess : (generate root destination callback? files s).success = true)
    (s' : σ) :
    let first := (generate root destination callback? files s).run.files
    let second := generate root destination callback? first s'
    second.success = true ∧ second.run.files.workingFolder = first.workingFolder ∧
      ∀ place, second.run.files.entryAt? place = first.entryAt? place := by
  intro first second
  have hnodup := Tree.nodup_children hdistinct
  have hnormal : ∀ t ∈ root.children, IsNormal t.name := fun t ht =>
    hnames _ (Tree.mem_namesOf.2 ⟨t, ht, by cases t <;> simp [Tree.names, Tree.name]⟩)
  obtain ⟨anew, hsettled⟩ := exists_settled destination hsteady hnames hdistinct
  have honce := (generate_iff (Q := fun interrupt? run => interrupt? = none →
    Repeatable anew (planOf root destination callback?) destination root.children run.files)).2
      -- The first run leaves the destination so that it can be written again.
      ((repeatable_of_run ⟨files, 0, [], s⟩ hfs hrooted hnodup hnormal hsettled).imp
        fun r run hr hstop => hr (stopped?_eq_none_iff.1 hstop))
  have hrepeatable := honce (Option.isNone_iff_eq_none.1 hsuccess)
  have htwice := (generate_iff (Q := fun interrupt? run => interrupt? = none ∧
    -- The second run starts from what was left, with a state of its own.
    run.files.workingFolder = first.workingFolder ∧ ∀ place, run.files.entryAt? place = first.entryAt? place)).2
      ((Repeatable.run ⟨first, 0, [], s'⟩ hrepeatable hnodup).imp
        fun r run hr => ⟨stopped?_eq_none_iff.2 hr.1, hr.2⟩)
  exact ⟨Option.isNone_iff_eq_none.2 htwice.1, htwice.2⟩

/-- Writes the tree into a folder whose path comes past what is overwritten. -/
def renewNested (files : FileSystem) : Outcome Unit :=
  generate nestedTree ⟨true, ["out", "c", "d", "..", ".."]⟩ (some (always .overwrite)) files ()

/-- Also where the first run made the way to the destination again, which comes past a folder that it overwrote. -/
theorem generate_again_nestedFolders :
    nestedFolders.LinkFree ∧ nestedFolders.Rooted ∧ (∀ n ∈ Tree.namesOf nestedTree.children, IsNormal n) ∧
    nestedTree.distinctSiblings = true ∧ IsSteady (some (always .overwrite)) ∧
    (renewNested nestedFolders).success = true ∧
    (renewNested nestedFolders).run.files.entryAt? ["out", "c", "d"] = some .folder ∧
    (renewNested (renewNested nestedFolders).run.files).success = true ∧
    (renewNested (renewNested nestedFolders).run.files).run.files.entryAt? ["out", "c", "d"] = some .folder ∧
    (renewNested (renewNested nestedFolders).run.files).run.files.entryAt? ["out", "c", "x"] =
      some (.file (.text "new")) := by
  have hfs : nestedFolders.LinkFree := FileSystem.linkFree_of_entries (by simp [nestedFolders])
  have hrooted : nestedFolders.Rooted := FileSystem.rooted_of_entries (by decide)
  have hnames : ∀ n ∈ Tree.namesOf nestedTree.children, IsNormal n := by decide +kernel
  have hdistinct : nestedTree.distinctSiblings = true := by decide +kernel
  have hsteady : IsSteady (some (always .overwrite)) :=
    .inr ⟨always .overwrite, .overwrite, rfl, .inl rfl, fun _ _ _ => rfl⟩
  have hsuccess : (renewNested nestedFolders).success = true := by decide +kernel
  have hinner : (renewNested nestedFolders).run.files.entryAt? ["out", "c", "d"] = some .folder := by
    decide +kernel
  have hfile : (renewNested nestedFolders).run.files.entryAt? ["out", "c", "x"] =
      some (.file (.text "new")) := by decide +kernel
  obtain ⟨hagain, -, hsame⟩ := generate_again hfs hrooted hnames hdistinct hsteady hsuccess ()
  refine ⟨hfs, hrooted, hnames, hdistinct, hsteady, hsuccess, hinner, hagain, ?_, ?_⟩
  · exact (hsame _).trans hinner
  · exact (hsame _).trans hfile

end Scaffold.Generation
