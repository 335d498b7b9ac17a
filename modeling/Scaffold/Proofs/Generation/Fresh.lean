import Scaffold.Proofs.Generation.Overlay

namespace Scaffold

/-!
# Fresh folders

Where nothing stands, a tree is written as it is, whatever the callback: no question comes up in a folder that
was just made. The path of the folder may lead anywhere as long as it comes past folders only.

* `Standing` — a folder that stands; `OffWay`, a name in it that its own path does not come past;
* `Placed` — what writing a tree did to the place of its name; `PlacedEach`, what writing trees did to theirs;
* `fill` — what is left of writing a tree once there is room for it; `NewFolder`, a folder that was just made;
  `fill_placed`, that the tree is put in its place;
* `writeTrees_placed` — trees with different names, each put in its own place.
-/

open Files (Path FileSystem Location Entry)
open Files.Path (IsNormal)

/-- What stands where, if nothing but the tree does. -/
def Tree.alone (t : Tree) (way : List String) : Option Entry := (t.at? way).map Tree.entry

namespace Generation

variable {σ : Type}

/-! ### Folders that stand -/

/-- The folder stands, and its path comes past folders only. -/
structure Standing (files : FileSystem) (folder : Path) : Prop where
  linkFree : files.LinkFree
  rooted : files.Rooted
  isOpen : files.IsOpen folder

/-- The path of the folder comes past nothing at or below the name in it. -/
def OffWay (files : FileSystem) (folder : Path) (name : String) : Prop :=
  ∀ place, files.Passes folder place → ¬ files.placeOf folder ++ [name] <+: place

theorem offWay_congr {before after : FileSystem} (h : after.workingFolder = before.workingFolder)
    {folder : Path} {name : String} : OffWay after folder name ↔ OffWay before folder name := by
  rw [OffWay, OffWay, FileSystem.passes_congr h, FileSystem.placeOf_congr h]

namespace Standing

variable {files after : FileSystem} {folder : Path} {name : String} (h : Standing files folder)
include h

/-- A path to a folder does not come past what is no folder. -/
theorem offWay (hnot : files.entryAt? (files.placeOf folder ++ [name]) ≠ some .folder) :
    OffWay files folder name := by
  rintro place hpasses ⟨way, rfl⟩
  have hfolder := h.isOpen _ hpasses
  cases way with
  | nil =>
    rw [List.append_nil] at hfolder
    exact hnot hfolder
  | cons n way => exact hnot (h.rooted.folder_above (List.cons_ne_nil n way) (by rw [hfolder]; simp))

/-- A folder stands as before if nothing changes that its path comes past. -/
theorem of_outside (hoff : OffWay files folder name) (hworking : after.workingFolder = files.workingFolder)
    (hfs : after.LinkFree) (hrooted : after.Rooted)
    (houtside : ∀ other, ¬ files.placeOf folder ++ [name] <+: other →
      after.entryAt? other = files.entryAt? other) : Standing after folder where
  linkFree := hfs
  rooted := hrooted
  isOpen := by
    intro place hpasses
    rw [FileSystem.passes_congr hworking] at hpasses
    rw [houtside place (hoff place hpasses)]
    exact h.isOpen place hpasses

/-- A folder stands as before when something was removed from it. -/
theorem cut (hoff : OffWay files folder name) :
    Standing (files.cut (files.placeOf folder ++ [name])) folder := by
  have hne : files.placeOf folder ++ [name] ≠ [] := by simp
  refine h.of_outside hoff rfl (h.linkFree.cut hne) (h.rooted.cut hne) fun other hother => ?_
  rw [FileSystem.entryAt?_cut _ _ _ hne, if_neg]
  rwa [List.isPrefixOf_iff_prefix]

end Standing

/-! ### What was put in a place -/

/-- What stands at `place` afterwards comes from what stood there by `f`. The rest is as it was, and so is the
    folder. -/
structure Placed (folder : Path) (place : Location)
    (f : (List String → Option Entry) → List String → Option Entry) (before after : FileSystem) : Prop where
  workingFolder : after.workingFolder = before.workingFolder
  standing : Standing after folder
  overlaid : Overlaid place f before after

/-- What stands at the names of the trees in the folder comes from what stood there by `f`, and the rest is as it
    was. -/
structure PlacedEach (folder : Path) (ts : List Tree)
    (f : Tree → (List String → Option Entry) → List String → Option Entry) (before after : FileSystem) :
    Prop where
  workingFolder : after.workingFolder = before.workingFolder
  standing : Standing after folder
  each : ∀ t ∈ ts, ∀ way, after.entryAt? (before.placeOf folder ++ t.name :: way) =
    f t (fun rest => before.entryAt? (before.placeOf folder ++ t.name :: rest)) way
  rest : ∀ place, (∀ t ∈ ts, ¬ before.placeOf folder ++ [t.name] <+: place) →
    after.entryAt? place = before.entryAt? place

/-- What is at or below one name is not below another one. -/
theorem not_isPrefix_of_ne {base : Location} {m n : String} (h : m ≠ n) (way : List String) :
    ¬ base ++ [m] <+: base ++ n :: way := by
  rw [List.prefix_append_right_inj, List.cons_prefix_cons]
  exact fun hbelow => h hbelow.1

/-- One tree after the other is put in its place. What is asked of a place, `P`, has to depend on that place
    alone. -/
theorem writeTrees_placed {plan : Plan σ} {folder : Path}
    {f : Tree → (List String → Option Entry) → List String → Option Entry} {P : Tree → FileSystem → Prop}
    (hlocal : ∀ t (before after : FileSystem), after.workingFolder = before.workingFolder →
      (∀ way, after.entryAt? (before.placeOf folder ++ t.name :: way) =
        before.entryAt? (before.placeOf folder ++ t.name :: way)) → P t before → P t after)
    {ts : List Tree} (hnodup : (ts.map Tree.name).Nodup)
    (htree : ∀ t ∈ ts, ∀ run : Run σ, Standing run.files folder → P t run.files →
      Ends (writeTree plan folder t) run fun r run' => r = .ok () →
        Placed folder (run.files.placeOf folder ++ [t.name]) (f t) run.files run'.files)
    {run : Run σ} (h : Standing run.files folder) (hP : ∀ t ∈ ts, P t run.files) :
    Ends (writeTrees plan folder ts) run fun r run' => r = .ok () →
      PlacedEach folder ts f run.files run'.files := by
  -- What is carried along: the folder stands, and `P` holds of the trees that are still to come.
  induction ts generalizing run with
  | nil =>
    rw [writeTrees]
    refine ends_pure.2 fun _ => ⟨rfl, h, fun t ht => ?_, fun _ _ => rfl⟩
    cases ht
  | cons t ts ih =>
    rw [List.map_cons, List.nodup_cons] at hnodup
    have hne : ∀ other ∈ ts, t.name ≠ other.name := by
      intro other hother heq
      exact hnodup.1 (heq ▸ List.mem_map_of_mem hother)
    rw [writeTrees]
    refine (htree t List.mem_cons_self run h (hP t List.mem_cons_self)).bind ?_
      (fun i run' _ hok => by cases hok)
    intro _ run' hfirst
    obtain ⟨hworking, hstanding, hover⟩ := hfirst rfl
    have hplace := FileSystem.placeOf_congr hworking folder
    -- The places of the other trees are as before.
    have hothers : ∀ other ∈ ts, ∀ way, run'.files.entryAt? (run.files.placeOf folder ++ other.name :: way) =
        run.files.entryAt? (run.files.placeOf folder ++ other.name :: way) :=
      fun other hother way => hover.outside _ (not_isPrefix_of_ne (hne other hother) way)
    have hrest := ih hnodup.2 (fun other hother => htree other (List.mem_cons_of_mem _ hother)) hstanding
      fun other hother => hlocal other run.files run'.files hworking (hothers other hother)
        (hP other (List.mem_cons_of_mem _ hother))
    refine hrest.imp fun r run'' hlast hok => ?_
    obtain ⟨hworking', hstanding', heach, helse⟩ := hlast hok
    rw [hplace] at heach helse
    refine ⟨hworking'.trans hworking, hstanding', fun other hother way => ?_, fun place hplace => ?_⟩
    -- Below the first tree's name nothing is changed by the others.
    · rcases List.mem_cons.1 hother with rfl | hother
      · have hinside := hover.inside way
        simp only [List.append_assoc, List.singleton_append] at hinside
        rw [helse _ fun next hnext => not_isPrefix_of_ne (hne next hnext).symm way]
        exact hinside
      · rw [heach other hother way]
        simp only [hothers other hother]
    · rw [helse place fun other hother => hplace other (List.mem_cons_of_mem _ hother)]
      exact hover.outside place (hplace t List.mem_cons_self)

/-! ### Filling a place -/

/-- What is left of writing a tree once there is room for it. -/
def fill (plan : Plan σ) (folder : Path) : Tree → Writing σ Unit
  | .file name content _ => writeFile plan (folder.join name) content
  | .folder name children _ => do
    change (·.makeFolders (folder.join name))
    writeTrees plan (folder.join name) children

/-- Where nothing stands, there is room without a question. -/
theorem ends_writeTree_of_free {plan : Plan σ} {run : Run σ} {folder : Path} {t : Tree}
    (hfree : run.files.occupied (folder.join t.name) = false) {Q : Except Halt Unit → Run σ → Prop} :
    Ends (writeTree plan folder t) run Q ↔ Ends (fill plan folder t) run Q := by
  -- What is asked about an occupied place is never asked here.
  cases t with
  | file name content t? =>
    rw [Tree.name] at hfree
    rw [writeTree, fill, ends_bind, clearForFile, ends_bind, ends_get]
    simp only [hfree, Bool.not_false, if_true, ends_pure]
  | folder name children t? =>
    rw [Tree.name] at hfree
    rw [writeTree, fill, ends_bind, clearForFolder, ends_bind, ends_get]
    simp only [hfree, Bool.not_false, if_true, ends_pure]

section Filling

variable {plan : Plan σ} {run : Run σ} {folder : Path} {name : String}
  (h : Standing run.files folder) (hname : IsNormal name)
include h hname

/-- A file that is written without a fault takes the place of its name. -/
theorem Standing.writeFile (content : String) (t? : Option String) :
    Ends (writeFile plan (folder.join name) content) run fun r run' => r = .ok () →
      (folder.join name).Fits ∧ Placed folder (run.files.placeOf folder ++ [name])
        (fun _ => (Tree.file name content t?).alone) run.files run'.files := by
  rw [Generation.writeFile, Path.parent?_join folder hname]
  simp only [ends_bind, ends_change, ends_attempt, ends_modify]
  cases hmake : (run.files.makeFolders folder.trimmed).1 with
  | some fault => exact fun hok => by cases hok
  | none =>
    dsimp only
    -- The write came through, as the run did not fail.
    split
    · rename_i files hwrite
      intro _
      -- All folders around the file are there.
      have hgrows := FileSystem.makeFolders_grows h.linkFree folder.trimmed
      have hsame := hgrows.entryAt?_of_isOpen h.isOpen.trimmed
      have hfs := hgrows.linkFree h.linkFree
      have hrooted := hgrows.rooted h.rooted
      obtain ⟨hreach, hentry, rfl⟩ := (FileSystem.writeText_eq_ok_iff hfs hname).1 hwrite
      have hfolder := hreach.parent hname
      have hne : run.files.placeOf folder ++ [name] ≠ [] := by simp
      rw [FileSystem.placeOf_join _ _ hname, FileSystem.placeOf_congr hgrows.workingFolder] at hentry ⊢
      rw [FileSystem.placeOf_congr hgrows.workingFolder] at hfolder
      have hover : Overlaid (run.files.placeOf folder ++ [name]) (Tree.file name content t?).overlay run.files
          ((run.files.makeFolders folder.trimmed).2.put (run.files.placeOf folder ++ [name])
            (.file (.text content))) :=
        .of_file hne hrooted hentry (fun other _ => hsame other) rfl
      have hoverlay : (Tree.file name content t?).overlay = fun _ => (Tree.file name content t?).alone := by
        funext before way
        cases way <;> rfl
      rw [hoverlay] at hover
      refine ⟨hreach.fits, hgrows.workingFolder, ?_, hover⟩
      refine h.of_outside (h.offWay ?_) hgrows.workingFolder (hfs.put hne (by simp))
        (hrooted.put hfolder (.inr hentry)) hover.outside
      rwa [← hsame]
    · exact fun hok => by cases hok

/-- A folder that is made without a fault is all that is new. -/
theorem Standing.makeFolders :
    Ends (change (·.makeFolders (folder.join name))) run fun r run' => r = .ok () →
      run'.files.workingFolder = run.files.workingFolder ∧ Standing run'.files (folder.join name) ∧
        ∀ other, run'.files.entryAt? other =
          if other = run.files.placeOf folder ++ [name] then some .folder else run.files.entryAt? other := by
  rw [ends_change]
  split
  · exact fun hok => by cases hok
  · rename_i hmake
    intro _
    have hgrows := FileSystem.makeFolders_grows h.linkFree (folder.join name)
    have hopen := FileSystem.makeFolders_isOpen h.linkFree
      (fun hempty => absurd hempty (folder.text_join_ne_empty hname)) hmake
    have hplace := FileSystem.placeOf_join run.files folder hname
    refine ⟨hgrows.workingFolder, ⟨hgrows.linkFree h.linkFree, hgrows.rooted h.rooted, hopen⟩, fun other => ?_⟩
    split
    · rename_i heq
      have hfolder := hopen.isFolder
      rwa [FileSystem.placeOf_congr hgrows.workingFolder, hplace, ← heq] at hfolder
    · rename_i hother
      -- An entry is the one that stood there, or a folder made on the way, which is the new folder itself.
      rcases hgrows.entries other with hsame | ⟨hpassed, hmissing, _⟩
      · exact hsame
      · -- On the way to the folder nothing is missing.
        rcases hpassed.of_join hname with hbefore | hself
        · rw [h.isOpen other hbefore] at hmissing
          cases hmissing
        · exact absurd (hself.trans hplace) hother

end Filling

/-- A folder was made at `place`, where nothing stood, and that is all. -/
structure NewFolder (place : Location) (before made : FileSystem) : Prop where
  workingFolder : made.workingFolder = before.workingFolder
  free : before.entryAt? place = none
  entries : ∀ other, made.entryAt? other = if other = place then some .folder else before.entryAt? other

/-- Nothing stands in a folder that was just made. -/
theorem NewFolder.below {place : Location} {before made : FileSystem} (h : NewFolder place before made)
    (hrooted : before.Rooted) {way : List String} (hway : way ≠ []) : made.entryAt? (place ++ way) = none := by
  rw [h.entries, if_neg (by simpa using hway)]
  exact hrooted.entryAt?_eq_none (by rw [h.free]; simp) hway

/-- A new folder and the children that are put into it are just the tree. -/
theorem Standing.placed_folder {before made after : FileSystem} {folder : Path} {name : String}
    {children : List Tree} (t? : Option String) (h : Standing before folder) (hname : IsNormal name)
    (hnodup : (children.map Tree.name).Nodup) (hnew : NewFolder (before.placeOf folder ++ [name]) before made)
    (hchildren : PlacedEach (folder.join name) children (fun child _ => child.alone) made after) :
    Placed folder (before.placeOf folder ++ [name]) (fun _ => (Tree.folder name children t?).alone) before
      after := by
  obtain ⟨hworking, hstanding, heach, hrest⟩ := hchildren
  rw [FileSystem.placeOf_congr hnew.workingFolder, FileSystem.placeOf_join _ _ hname] at heach hrest
  have hworking' := hworking.trans hnew.workingFolder
  have houtside : ∀ other, ¬ before.placeOf folder ++ [name] <+: other →
      after.entryAt? other = before.entryAt? other := by
    intro other hother
    rw [hrest other fun child _ hbelow => hother ((List.prefix_append _ _).trans hbelow), hnew.entries, if_neg]
    rintro rfl
    exact hother (List.prefix_refl _)
  -- Outside the new folder everything is as before; inside stand the folder, its children and nothing else.
  refine ⟨hworking', ?_, houtside, fun way => ?_⟩
  · exact h.of_outside (h.offWay (by rw [hnew.free]; simp)) hworking' hstanding.linkFree hstanding.rooted houtside
  · cases way with
    | nil =>
      -- The folder itself is none of its children.
      rw [List.append_nil, hrest _ fun child _ hbelow => by simpa using hbelow.length_le, hnew.entries,
        if_pos rfl]
      rfl
    | cons n way =>
      rw [Tree.alone, Tree.at?]
      by_cases hn : n ∈ children.map Tree.name
      · obtain ⟨child, hchild, rfl⟩ := List.mem_map.1 hn
        simp only [Tree.children, Tree.named?_of_mem hnodup hchild]
        exact heach child hchild way
      · -- No child has the name, and nothing is there.
        simp only [Tree.children, Tree.named?_eq_none hn]
        rw [hrest, hnew.below h.rooted (by simp)]
        · rfl
        · intro child hchild
          refine not_isPrefix_of_ne ?_ way
          rintro rfl
          exact hn (List.mem_map_of_mem hchild)

/-- **Filling a place.** If the rest of a tree is written without a fault, the tree stands in its place and nothing
    else changes. For a folder nothing may stand there before. -/
theorem fill_placed {plan : Plan σ} (t : Tree) {run : Run σ} {folder : Path}
    (hnames : ∀ n ∈ t.names, IsNormal n) (hdistinct : t.distinctSiblings = true)
    (h : Standing run.files folder)
    (hroom : t.isFile = false → run.files.entryAt? (run.files.placeOf folder ++ [t.name]) = none) :
    Ends (fill plan folder t) run fun r run' => r = .ok () →
      Placed folder (run.files.placeOf folder ++ [t.name]) (fun _ => t.alone) run.files run'.files := by
  induction t using Tree.induction_on generalizing run folder with
  | file name content t? =>
    have hname : IsNormal name := hnames name (by simp [Tree.names])
    rw [fill]
    exact (h.writeFile hname content t?).imp fun r run' hr hok => (hr hok).2
  | folder name children t? ih =>
    have hname : IsNormal name := hnames name (by simp [Tree.names])
    have hnodup : (children.map Tree.name).Nodup := Tree.nodup_children hdistinct
    rw [fill]
    refine (h.makeFolders hname).bind ?_ (fun i run' _ hok => by cases hok)
    intro _ made hmade
    obtain ⟨hworking, hstanding, hentries⟩ := hmade rfl
    -- The place was free, so the folder is new and empty.
    have hnew : NewFolder (run.files.placeOf folder ++ [name]) run.files made.files :=
      ⟨hworking, hroom rfl, hentries⟩
    -- What carries the children: nothing stands in the place of one that is still to come.
    have hchildren : Ends (writeTrees plan (folder.join name) children) made fun r run' => r = .ok () →
        PlacedEach (folder.join name) children (fun child _ => child.alone) made.files run'.files := by
      refine writeTrees_placed (P := fun child files =>
        files.entryAt? (files.placeOf (folder.join name) ++ [child.name]) = none) ?_ hnodup ?_ hstanding ?_
      · intro child before after hsame heq hfree
        rw [FileSystem.placeOf_congr hsame, heq []]
        exact hfree
      · intro child hchild run' hstanding' hfree
        have hnames' : ∀ n ∈ child.names, IsNormal n := fun n hn =>
          hnames n (List.mem_cons_of_mem _ (Tree.mem_namesOf.2 ⟨child, hchild, hn⟩))
        have hnormal : IsNormal child.name := hnames' _ (by cases child <;> simp [Tree.names, Tree.name])
        have hocc : run'.files.occupied ((folder.join name).join child.name) = false := by
          rw [← Bool.not_eq_true, FileSystem.occupied_iff hstanding'.linkFree,
            FileSystem.placeOf_join _ _ hnormal]
          exact fun hocc => hocc.2 hfree
        rw [ends_writeTree_of_free hocc]
        exact ih child hchild hnames' (Tree.distinctSiblings_child hdistinct hchild) hstanding' fun _ => hfree
      · intro child _
        rw [FileSystem.placeOf_congr hworking, FileSystem.placeOf_join _ _ hname]
        exact hnew.below h.rooted (by simp)
    exact hchildren.imp fun r run' hr hok => h.placed_folder t? hname hnodup hnew (hr hok)

end Generation

end Scaffold
