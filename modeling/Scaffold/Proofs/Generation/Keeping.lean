import Scaffold.Proofs.Generation.Watching

namespace Scaffold.Generation

/-!
# Keeping what is there

A run whose callback always keeps removes nothing, unless a folder is to be made where something else stands.
Apart from that it only adds to the file system: folders, and one file for each file of the tree.

* `Gains` — what a run that removes nothing did to a file system; `Gains.trans`, that what was added first
  is in the way of what is added later;
* `writeTree_adds` — writing a tree adds a file for each of its files, at places of their own;
* `generate_keep` — a generation that succeeds so keeps everything and loses no file of the tree.
-/

open Files (Path FileSystem Location Entry)
open Files.Path (IsNormal)
open Conflict (Decision Question Callback)

variable {σ α β : Type}

/-! ### Gains -/

/-- Nothing was lost from a file system, and files with texts were added at places where nothing stood. -/
structure Gains (before after : FileSystem) (news : List (Location × String)) : Prop where
  workingFolder : after.workingFolder = before.workingFolder
  linkFree : before.LinkFree → after.LinkFree
  kept : ∀ place e, before.entryAt? place = some e → after.entryAt? place = some e
  free : ∀ new ∈ news, before.entryAt? new.1 = none
  written : ∀ new ∈ news, after.entryAt? new.1 = some (.file (.text new.2))
  /-- Nothing else that is new is a file. -/
  only : ∀ place content, before.entryAt? place = none → after.entryAt? place = some (.file content) →
    place ∈ news.map Prod.fst
  nodup : (news.map Prod.fst).Nodup

namespace Gains

variable {before middle after : FileSystem} {news later : List (Location × String)}

/-- What is new is still missing if it is missing afterwards. -/
theorem entryAt?_eq_none (h : Gains before after news) {place : Location}
    (hnone : after.entryAt? place = none) : before.entryAt? place = none := by
  cases hentry : before.entryAt? place with
  | none => rfl
  | some e =>
    rw [h.kept place e hentry] at hnone
    cases hnone

/-- Nothing is gained. -/
theorem refl (files : FileSystem) : Gains files files [] where
  workingFolder := rfl
  linkFree := id
  kept _ _ := id
  free _ hnew := by cases hnew
  written _ hnew := by cases hnew
  only _ _ hnone hfile := by
    rw [hnone] at hfile
    cases hfile
  nodup := List.nodup_nil

/-- **Gains add up.** What was added first is kept from then on, and so is in the way of what comes later. -/
theorem trans (h : Gains before middle news) (h' : Gains middle after later) :
    Gains before after (news ++ later) where
  workingFolder := h'.workingFolder.trans h.workingFolder
  linkFree := h'.linkFree ∘ h.linkFree
  kept place e he := h'.kept place e (h.kept place e he)
  free new hnew := by
    rcases List.mem_append.1 hnew with hnew | hnew
    · exact h.free new hnew
    · exact h.entryAt?_eq_none (h'.free new hnew)
  written new hnew := by
    rcases List.mem_append.1 hnew with hnew | hnew
    · exact h'.kept _ _ (h.written new hnew)
    · exact h'.written new hnew
  -- A new file was there in the middle already, or it came later.
  only place content hnone hfile := by
    rw [List.map_append, List.mem_append]
    cases hentry : middle.entryAt? place with
    | none => exact .inr (h'.only place content hentry hfile)
    | some e =>
      rw [h'.kept place e hentry] at hfile
      cases hfile
      exact .inl (h.only place content hnone hentry)
  nodup := by
    rw [List.map_append]
    -- What came first is not free any more, so it does not come again.
    refine h.nodup.append h'.nodup ?_
    intro place hfirst hlater
    obtain ⟨new, hnew, rfl⟩ := List.mem_map.1 hfirst
    obtain ⟨new', hnew', heq⟩ := List.mem_map.1 hlater
    have hfree := h'.free new' hnew'
    rw [heq, h.written new hnew] at hfree
    cases hfree

/-- Folders that are added are no files. -/
theorem of_grows {passed : Location → Prop} (h : before.Grows after passed) : Gains before after [] where
  workingFolder := h.workingFolder
  linkFree := h.linkFree
  kept _ _ := h.entryAt?_of_some
  free _ hnew := by cases hnew
  written _ hnew := by cases hnew
  only place content hnone hfile := by
    -- What was added is a folder, so no file is new.
    rcases h.entries place with hsame | ⟨_, _, hfolder⟩
    · rw [hsame, hnone] at hfile
      cases hfile
    · rw [hfolder] at hfile
      cases hfile
  nodup := List.nodup_nil

/-- A file is written where nothing stands. -/
theorem put {place : Location} (hplace : place ≠ []) (hnone : before.entryAt? place = none)
    (text : String) : Gains before (before.put place (.file (.text text))) [(place, text)] where
  workingFolder := rfl
  linkFree hfs := hfs.put hplace (by simp)
  kept other e he := by
    -- The place was free, so no entry that stood before is covered.
    rw [FileSystem.entryAt?_put _ _ _ _ hplace, if_neg, he]
    rintro rfl
    rw [hnone] at he
    cases he
  free new hnew := by
    obtain rfl := List.mem_singleton.1 hnew
    exact hnone
  written new hnew := by
    obtain rfl := List.mem_singleton.1 hnew
    rw [FileSystem.entryAt?_put _ _ _ _ hplace, if_pos rfl]
  only other content hother hfile := by
    rw [FileSystem.entryAt?_put _ _ _ _ hplace] at hfile
    split at hfile
    · rename_i heq
      exact List.mem_singleton.2 heq
    · rw [hother] at hfile
      cases hfile
  nodup := List.nodup_singleton _

/-- The new files are just those that were added, with their texts. -/
theorem new_file_iff (h : Gains before after news) (place : Location) (content : Files.Content) :
    (after.entryAt? place = some (.file content) ∧
        ∀ old, before.entryAt? place ≠ some (.file old)) ↔
      ∃ text, content = .text text ∧ (place, text) ∈ news := by
  constructor
  · rintro ⟨hfile, hnew⟩
    -- Nothing was there before, since what was there is kept.
    have hnone : before.entryAt? place = none := by
      cases hentry : before.entryAt? place with
      | none => rfl
      | some e =>
        rw [h.kept place e hentry] at hfile
        cases hfile
        exact absurd hentry (hnew content)
    obtain ⟨⟨_, text⟩, hmem, rfl⟩ := List.mem_map.1 (h.only place content hnone hfile)
    have hwritten := h.written _ hmem
    rw [hfile] at hwritten
    cases hwritten
    exact ⟨text, rfl, hmem⟩
  · rintro ⟨text, rfl, hmem⟩
    refine ⟨h.written _ hmem, fun old hold => ?_⟩
    rw [h.free _ hmem] at hold
    cases hold

end Gains

/-! ### Folders to write into -/

/-- The path of a folder that is there, or the empty path, which no folders are made for. -/
def Stands (files : FileSystem) (folder : Path) : Prop := files.IsOpen folder ∨ folder.text = ""

/-- A folder that stands still stands when something is gained. -/
theorem Stands.gains {before after : FileSystem} {news : List (Location × String)} {folder : Path}
    (hstands : Stands before folder) (h : Gains before after news) : Stands after folder := by
  refine hstands.imp_left fun hopen place hpasses => ?_
  rw [FileSystem.passes_congr h.workingFolder] at hpasses
  exact h.kept place _ (hopen place hpasses)

/-- A path without text has none when it is trimmed. -/
theorem text_trimmed_eq_empty {folder : Path} (h : folder.text = "") : folder.trimmed.text = "" := by
  have hsize := Path.utf8ByteSize_text_le folder.trimmed_absolute folder.trims_trimPieces.isPrefix
  rw [h] at hsize
  exact String.utf8ByteSize_eq_zero_iff.1 (Nat.le_zero.1 hsize)

/-- A folder stands at the trimmed path, too. -/
theorem Stands.trimmed {files : FileSystem} {folder : Path} (h : Stands files folder) :
    Stands files folder.trimmed := h.imp FileSystem.IsOpen.trimmed text_trimmed_eq_empty

/-- No folders have to be made around a file that can be written into a folder that stands. -/
theorem Stands.makeFolders {files : FileSystem} (hfs : files.LinkFree) {folder : Path}
    (h : Stands files folder) {name : String} (hname : IsNormal name) (hfits : (folder.join name).Fits) :
    files.makeFolders folder.trimmed = (none, files) := by
  rcases h with hopen | hempty
  · exact FileSystem.makeFolders_trimmed hfs hopen hname hfits
  · rw [FileSystem.makeFolders, FileSystem.makeFoldersWithin]
    simp [text_trimmed_eq_empty hempty]

/-! ### Steps that add -/

/-- The callback was asked about a file, or about a folder where there is one already. -/
def Sighting.IsMild (sighting : Sighting) : Prop :=
  sighting.question.isFolder = true → sighting.files.isFolder sighting.question.path = true

/-- If the step `x` gives a value and all questions so far were mild, it did nothing but add to the file
    system; `P` holds of the value, the run then, and what was added. -/
def Adds (run : Run (σ × List Sighting)) (x : Writing (σ × List Sighting) α)
    (P : α → Run (σ × List Sighting) → List (Location × String) → Prop) : Prop :=
  Ends x run fun r run' => ∀ a, r = .ok a → (∀ sighting ∈ run'.callback.2, sighting.IsMild) →
    ∃ news, Gains run.files run'.files news ∧ P a run' news

section Steps

variable {plan : Plan (σ × List Sighting)} {callback : Callback σ} {run : Run (σ × List Sighting)}
  {P : α → Run (σ × List Sighting) → List (Location × String) → Prop}

/-- What follows from what is known at the end. -/
theorem Adds.imp {x : Writing (σ × List Sighting) α}
    {P' : α → Run (σ × List Sighting) → List (Location × String) → Prop} (hx : Adds run x P)
    (h : ∀ a run' news, P a run' news → P' a run' news) : Adds run x P' :=
  Ends.imp hx fun _ _ hr a ha hmild =>
    (hr a ha hmild).imp fun news hnews => ⟨hnews.1, h a _ news hnews.2⟩

/-- What is added first and what is added later is added in all. -/
theorem Adds.bind (hplan : plan.callback? = some (watched callback))
    {Q : β → Run (σ × List Sighting) → List (Location × String) → Prop}
    {x : Writing (σ × List Sighting) α} {f : α → Writing (σ × List Sighting) β} (hx : Adds run x P)
    (hscript : ∀ a, Script plan plan (f a) (f a))
    (hf : ∀ a run' news, Gains run.files run'.files news → P a run' news →
      Adds run' (f a) fun b run'' later => Q b run'' (news ++ later)) : Adds run (x >>= f) Q := by
  refine Ends.bind hx ?_ fun _ _ _ b hb => by cases hb
  intro a run' h
  by_cases hmild : ∀ sighting ∈ run'.callback.2, sighting.IsMild
  · obtain ⟨news, hgains, hP⟩ := h a rfl hmild
    refine Ends.imp (hf a run' news hgains hP) fun r run'' hr b hb hmild' => ?_
    obtain ⟨later, hlater, hQ⟩ := hr b hb hmild'
    exact ⟨news ++ later, hgains.trans hlater, hQ⟩
  · -- A question that was not mild stays written down.
    refine ((hscript a).acts run').imp fun r run'' hacts b _ hmild' => absurd ?_ hmild
    have hwatched : plan.callback? = (some callback).map watched := hplan
    obtain ⟨-, hseen⟩ := hacts.watched hwatched
    exact fun sighting hsighting => hmild' sighting (hseen.subset hsighting)

/-- Making folders adds folders. -/
theorem makeFolders_adds (hfs : run.files.LinkFree) (folder : Path) :
    Adds run (change (·.makeFolders folder)) fun _ run' news => news = [] ∧ Stands run'.files folder := by
  have hgrows := FileSystem.makeFolders_grows hfs folder
  rw [Adds, ends_change]
  cases hmake : (run.files.makeFolders folder).1 with
  | some fault => exact fun _ h => by cases h
  | none =>
    rintro _ _ _
    have hstands := (FileSystem.makeFoldersWithin_grows hfs (Prod.ext hmake rfl)).2 rfl
    exact ⟨[], .of_grows hgrows, rfl, hstands.symm⟩

/-- Writing a file where nothing stands adds it. -/
theorem writeFile_adds (hfs : run.files.LinkFree) {folder : Path} {name : String}
    (hname : IsNormal name) (hstands : Stands run.files folder)
    (hfree : run.files.occupied (folder.join name) = false) (content : String) :
    Adds run (writeFile plan (folder.join name) content) fun _ _ news => news.map Prod.snd = [content] := by
  rw [Adds, writeFile, Path.parent?_join folder hname]
  simp only [ends_bind, ends_change, ends_attempt, ends_modify]
  cases hmake : (run.files.makeFolders folder.trimmed).1 with
  | some fault => exact fun _ h => by cases h
  | none =>
    dsimp only
    split
    · rename_i files hwrite
      rintro _ _ _
      have hgrows := FileSystem.makeFolders_grows hfs folder.trimmed
      obtain ⟨hreach, hentry, rfl⟩ :=
        (FileSystem.writeText_eq_ok_iff (hgrows.linkFree hfs) hname).1 hwrite
      -- The file could be written, so all folders around it were there before.
      rw [hstands.makeFolders hfs hname hreach.fits] at hreach hentry ⊢
      have hnone : run.files.entryAt? (run.files.placeOf (folder.join name)) = none := by
        by_contra hsome
        rw [(FileSystem.occupied_iff hfs).2 ⟨hreach, hsome⟩] at hfree
        cases hfree
      exact ⟨_, .put (placeOf_join_ne_nil hname) hnone content, rfl⟩
    · exact fun _ h => by cases h

end Steps

/-! ### Steps that keep -/

section Keeping

variable {plan : Plan (σ × List Sighting)} {callback : Callback σ}
  (hplan : plan.callback? = some (watched callback))
  (hkeep : ∀ files question s, (callback files question s).1 = .keep)
include hplan hkeep

/-- What stands there is kept. -/
theorem ends_decide_keep {run : Run (σ × List Sighting)} {path : Path} {isFolder : Bool}
    {Q : Except Halt Decision → Run (σ × List Sighting) → Prop} :
    Ends (decide plan path isFolder) run Q ↔
      Q (.ok .keep) (run.ask (watched callback) ⟨path, plan.destination, isFolder⟩).2 := by
  have hanswer : (run.ask (watched callback) ⟨path, plan.destination, isFolder⟩).1 = .keep :=
    hkeep _ _ _
  rw [ends_decide, hplan]
  simp only [hanswer]

/-- A folder is merged into the one that is there. -/
theorem clearForFolder_adds (run : Run (σ × List Sighting)) (target : Path) :
    Adds run (clearForFolder plan target) fun clear _ news => news = [] ∧ clear = true := by
  rw [Adds, clearForFolder, ends_bind, ends_get]
  dsimp only
  -- A folder that is there is answered with Keep, which leaves it.
  by_cases hocc : run.files.occupied target = true
  · simp only [hocc, Bool.not_true, Bool.false_eq_true, if_false]
    rw [ends_bind, ends_decide_keep hplan hkeep]
    simp only [ends_bind, ends_get]
    have hfiles : (run.ask (watched callback) ⟨target, plan.destination, true⟩).2.files = run.files := rfl
    rw [hfiles]
    by_cases his : run.files.isFolder target = true
    · rw [if_neg (by simp [his]), ends_pure]
      rintro _ ⟨⟩ _
      exact ⟨[], .refl _, rfl, rfl⟩
    · -- Something else would have to be removed, and the question was not mild.
      rw [if_pos (by simp [his]), ends_bind, ends_change]
      split
      · exact fun _ h => by cases h
      · refine ends_pure.2 fun _ _ hmild => ?_
        rw [sightings_ask] at hmild
        exact absurd (hmild _ (List.mem_append_right _ (List.mem_singleton.2 rfl)) rfl) his
  · simp only [hocc, Bool.not_false, if_true]
    rw [ends_pure]
    rintro _ ⟨⟩ _
    exact ⟨[], .refl _, rfl, rfl⟩

/-- A file goes where nothing stands, beside what is in its place. -/
theorem clearForFile_adds {run : Run (σ × List Sighting)} (hfs : run.files.LinkFree) {folder : Path}
    {name : String} (hname : IsNormal name) (hstands : Stands run.files folder) :
    Adds run (clearForFile plan (folder.join name)) fun target? run' news =>
      news = [] ∧ ∃ folder' name', target? = some (folder'.join name') ∧ IsNormal name' ∧
        Stands run'.files folder' ∧ run'.files.occupied (folder'.join name') = false := by
  rw [Adds, clearForFile, ends_bind, ends_get]
  dsimp only
  -- A file that is there is answered with Keep, and the new one gets the next free name.
  by_cases hocc : run.files.occupied (folder.join name) = true
  · simp only [hocc, Bool.not_true, Bool.false_eq_true, if_false]
    rw [ends_bind, ends_decide_keep hplan hkeep]
    simp only [ends_bind, ends_get, ends_pure]
    rintro _ ⟨⟩ _
    obtain ⟨m, heq, hleads⟩ := freeVariant_eq run.files folder hname
    refine ⟨[], .refl _, rfl, folder.trimmed, variantName name m, congrArg some heq,
      isNormal_variantName hname m, hstands.trimmed, ?_⟩
    exact (FileSystem.occupied_eq_leads hfs).trans hleads
  · simp only [hocc, Bool.not_false, if_true]
    rw [ends_pure]
    rintro _ ⟨⟩ _
    exact ⟨[], .refl _, rfl, folder, name, rfl, hname, hstands, by simpa using hocc⟩

end Keeping

mutual

/-- **Writing a tree** whose names are normal adds a file for each of its files. -/
theorem writeTree_adds {plan : Plan (σ × List Sighting)} {callback : Callback σ}
    (hplan : plan.callback? = some (watched callback))
    (hkeep : ∀ files question s, (callback files question s).1 = .keep) :
    ∀ (t : Tree) {run : Run (σ × List Sighting)} {folder : Path}, run.files.LinkFree →
      Stands run.files folder → (∀ n ∈ t.names, IsNormal n) →
      Adds run (writeTree plan folder t) fun _ _ news => news.map Prod.snd = t.files.map Prod.snd
  | .file name content t?, run, folder, hfs, hstands, hnames => by
    have hname : IsNormal name := hnames name (by simp [Tree.names])
    rw [writeTree]
    -- The file goes into a free place, beside the one that was kept.
    refine (clearForFile_adds hplan hkeep hfs hname hstands).bind hplan ?_ ?_
    · rintro (_ | target)
      · exact .pure ()
      · exact writeFile_script target content
    · rintro _ run' news hgains ⟨rfl, folder', name', rfl, hname', hstands', hfree⟩
      exact writeFile_adds (hgains.linkFree hfs) hname' hstands' hfree content
  | .folder name children t?, run, folder, hfs, hstands, hnames => by
    have hchildren : ∀ n ∈ Tree.namesOf children, IsNormal n := fun n hn =>
      hnames n (by simp [Tree.names, hn])
    have hscript : ∀ target, Script plan plan
        (do change (·.makeFolders target); writeTrees plan target children)
        (do change (·.makeFolders target); writeTrees plan target children) :=
      fun target => (Script.change _).bind fun _ => writeTrees_script children target
    rw [writeTree]
    refine (clearForFolder_adds hplan hkeep run _).bind hplan ?_ ?_
    -- The rest of the tree writes nothing once the run has stopped.
    · rintro (_ | _)
      · exact .pure ()
      · exact hscript _
    · rintro _ run' news hgains ⟨rfl, rfl⟩
      have hfs' := hgains.linkFree hfs
      refine (makeFolders_adds hfs' _).bind hplan (fun _ => writeTrees_script children _) ?_
      rintro _ run'' news hmade ⟨rfl, hstands'⟩
      exact writeTrees_adds hplan hkeep children (hmade.linkFree hfs') hstands' hchildren

/-- Trees that are written one after the other. -/
theorem writeTrees_adds {plan : Plan (σ × List Sighting)} {callback : Callback σ}
    (hplan : plan.callback? = some (watched callback))
    (hkeep : ∀ files question s, (callback files question s).1 = .keep) :
    ∀ (ts : List Tree) {run : Run (σ × List Sighting)} {folder : Path}, run.files.LinkFree →
      Stands run.files folder → (∀ n ∈ Tree.namesOf ts, IsNormal n) →
      Adds run (writeTrees plan folder ts) fun _ _ news =>
        news.map Prod.snd = (Tree.filesOf ts).map Prod.snd
  | [], run, folder, hfs, hstands, hnames => by
    rw [writeTrees]
    refine ends_pure.2 ?_
    rintro _ ⟨⟩ _
    exact ⟨[], .refl _, rfl⟩
  | t :: ts, run, folder, hfs, hstands, hnames => by
    -- The names of a list are those of its first tree and of the others.
    have ht : ∀ n ∈ t.names, IsNormal n := fun n hn => hnames n (by simp [Tree.namesOf, hn])
    have hts : ∀ n ∈ Tree.namesOf ts, IsNormal n := fun n hn =>
      hnames n (by simp [Tree.namesOf, hn])
    rw [writeTrees]
    refine (writeTree_adds hplan hkeep t hfs hstands ht).bind hplan (fun _ => writeTrees_script ts _) ?_
    intro _ run' news hgains hnews
    refine (writeTrees_adds hplan hkeep ts (hgains.linkFree hfs) (hstands.gains hgains) hts).imp ?_
    intro _ _ later hlater
    rw [List.map_append, hnews, hlater, Tree.filesOf, List.map_append]

end

/-- A generation that keeps adds a file for each file of the tree. -/
theorem generate_gains {root : Tree} {destination : Path} {callback : Callback σ} {files : FileSystem}
    {s : σ} (hfs : files.LinkFree) (hnames : ∀ n ∈ Tree.namesOf root.children, IsNormal n)
    (hkeep : ∀ files question s, (callback files question s).1 = .keep)
    (hsuccess : (generate root destination (some callback) files s).success = true)
    (hfolders : ∀ sighting ∈ sightings root destination (some callback) files s,
      sighting.question.isFolder = true → sighting.files.isFolder sighting.question.path = true) :
    ∃ news, Gains files (generate root destination (some callback) files s).run.files news ∧
      news.map Prod.snd = (Tree.filesOf root.children).map Prod.snd := by
  obtain ⟨hstop, hrun⟩ := generate_watched root destination (some callback) files s
  -- The run is looked at as a whole: folders on the way to the destination, then the children of the tree.
  have hwriting : Adds ⟨files, 0, [], s, []⟩ (writing root destination (some (watched callback)))
      fun _ _ news => news.map Prod.snd = (Tree.filesOf root.children).map Prod.snd := by
    refine (makeFolders_adds hfs destination).bind rfl (fun _ => writeTrees_script root.children _) ?_
    rintro _ run news hmade ⟨rfl, hstands⟩
    exact writeTrees_adds rfl hkeep root.children (hmade.linkFree hfs) hstands hnames
  obtain ⟨hwatched, hend⟩ := generate_eq root destination (some (watched callback)) files (s, [])
  -- It has come to its end, since it was a success.
  have hok := stopped?_eq_none_iff.1
    (hwatched.symm.trans (hstop.trans (Option.isNone_iff_eq_none.1 hsuccess)))
  rw [hrun.files, Option.map_some, hend]
  refine ends_iff.1 hwriting () hok fun sighting hsighting => hfolders sighting ?_
  rw [sightings, Option.map_some, hend]
  exact hsighting

/-- **Keeping loses nothing.** If the names in a tree are normal and a generation whose callback always keeps
    succeeds, without a question about a folder where something else stands, then all that was there is
    unchanged, and the new files correspond to the files of the tree, in order: each has a place of its own
    and the content of its file. -/
theorem generate_keep {root : Tree} {destination : Path} {callback : Callback σ} {files : FileSystem}
    {s : σ} (hfs : files.LinkFree) (hnames : ∀ n ∈ Tree.namesOf root.children, IsNormal n)
    (hkeep : ∀ files question s, (callback files question s).1 = .keep)
    (hsuccess : (generate root destination (some callback) files s).success = true)
    (hfolders : ∀ sighting ∈ sightings root destination (some callback) files s,
      sighting.question.isFolder = true → sighting.files.isFolder sighting.question.path = true) :
    let after := (generate root destination (some callback) files s).run.files
    (∀ place e, files.entryAt? place = some e → after.entryAt? place = some e) ∧
    ∃ news : List (Location × String), (news.map Prod.fst).Nodup ∧
      news.map Prod.snd = (Tree.filesOf root.children).map Prod.snd ∧
      ∀ place content,
        (after.entryAt? place = some (.file content) ∧
            ∀ old, files.entryAt? place ≠ some (.file old)) ↔
          ∃ text, content = .text text ∧ (place, text) ∈ news := by
  obtain ⟨news, hgains, hcontents⟩ := generate_gains hfs hnames hkeep hsuccess hfolders
  exact ⟨hgains.kept, news, hgains.nodup, hcontents, hgains.new_file_iff⟩

/-! ### Files with the same name -/

/-- A callback that always answers with Keep. -/
def keeping : Callback Unit := fun _ _ s => (.keep, s)

/-- A destination in which a file and a folder of the tree are there already. -/
def keptFiles : FileSystem where
  entries := [(["out"], .folder), (["out", "a.txt"], .file (.text "old")), (["out", "d"], .folder)]
  workingFolder := []

/-- Two files share a name, and the third one has that of the copy made of the first. -/
def crowdedTree : Tree :=
  .folder "root"
    [.file "a.txt" "1" none, .file "a.txt" "2" none, .file "a (1).txt" "3" none,
      .folder "d" [.file "b" "4" none] none] none

/-- Each of the files goes to a place of its own, with one more number where the place of a copy is taken. -/
theorem generate_keep_crowded :
    keptFiles.LinkFree ∧ (∀ n ∈ Tree.namesOf crowdedTree.children, IsNormal n) ∧
    (generate crowdedTree ⟨true, ["out"]⟩ (some keeping) keptFiles ()).success = true ∧
    (∀ sighting ∈ sightings crowdedTree ⟨true, ["out"]⟩ (some keeping) keptFiles (),
      sighting.question.isFolder = true → sighting.files.isFolder sighting.question.path = true) ∧
    (generate crowdedTree ⟨true, ["out"]⟩ (some keeping) keptFiles ()).run.files.entries =
      [(["out", "d", "b"], .file (.text "4")), (["out", "a (1) (1).txt"], .file (.text "3")),
        (["out", "a (2).txt"], .file (.text "2")), (["out", "a (1).txt"], .file (.text "1")),
        (["out"], .folder), (["out", "a.txt"], .file (.text "old")), (["out", "d"], .folder)] ∧
    ∃ news : List (Location × String), (news.map Prod.fst).Nodup ∧
      news.map Prod.snd = (Tree.filesOf crowdedTree.children).map Prod.snd := by
  have hfs : keptFiles.LinkFree := FileSystem.linkFree_of_entries (by simp [keptFiles])
  have hnames : ∀ n ∈ Tree.namesOf crowdedTree.children, IsNormal n := by decide
  have hsuccess : (generate crowdedTree ⟨true, ["out"]⟩ (some keeping) keptFiles ()).success = true := by
    decide +kernel
  have hfolders : ∀ sighting ∈ sightings crowdedTree ⟨true, ["out"]⟩ (some keeping) keptFiles (),
      sighting.question.isFolder = true → sighting.files.isFolder sighting.question.path = true := by
    decide +kernel
  obtain ⟨-, news, hnodup, hcontents, -⟩ :=
    generate_keep hfs hnames (fun _ _ _ => rfl) hsuccess hfolders
  exact ⟨hfs, hnames, hsuccess, hfolders, by decide +kernel, news, hnodup, hcontents⟩

end Scaffold.Generation
