import Scaffold.Proofs.Generation.Fresh

namespace Scaffold.Generation

/-!
# Mirroring and adding

What a run does whose callback always answers the same. If everything is overwritten, the children of the root are
afterwards in the destination just as they are in the tree; if everything is skipped, those whose names were free
are.

* `writeTree_unasked`, `writeTree_skipped` — a tree whose place is free, and one that is left out;
* `writeTree_mirrored`, `writeTree_spared` — one tree, in a place where something may stand;
* `generate_placed` — all trees of a run that succeeds, each in its own place;
* `generate_mirrors` — both kinds of runs; `generate_leaves_way`, that the destination's path may not come past
  what is overwritten.
-/

open Files (Path FileSystem Location Entry)
open Files.Path (IsNormal)
open Conflict (Decision Callback)

variable {σ : Type}

section Writing

variable {plan : Plan σ} {run : Run σ} {folder : Path}

/-- What is left of writing a tree goes well only if the system takes its path. -/
theorem fill_fits (t : Tree) (hname : IsNormal t.name) (h : Standing run.files folder) :
    Ends (fill plan folder t) run fun r _ => r = .ok () → (folder.join t.name).Fits := by
  cases t with
  | file name content t? =>
    rw [fill]
    exact (h.writeFile hname content t?).imp fun r run' hr hok => (hr hok).1
  | folder name children t? =>
    rw [fill]
    refine (fits_of_makeFolders h.linkFree hname).bind (fun a run' hfits => ?_) (fun i run' _ hok => by cases hok)
    exact ends_iff.2 fun _ => hfits a rfl

/-- A tree that is skipped is left out as a whole. -/
theorem writeTree_skipped {t : Tree} (hskip : ∀ isFolder, Answers plan isFolder .skip)
    (hocc : run.files.occupied (folder.join t.name) = true) :
    Ends (writeTree plan folder t) run fun r run' => r = .ok () ∧ run'.files = run.files := by
  -- A file and a folder are skipped alike: the answer ends the work on this node.
  cases t with
  | file name content t? =>
    rw [Tree.name] at hocc
    rw [writeTree, ends_bind]
    simp only [clearForFile, ends_bind, ends_get, hocc, Bool.not_true, Bool.false_eq_true, if_false]
    refine (hskip false _ run).imp ?_
    rintro _ asked ⟨rfl, hfiles⟩
    exact ends_pure.2 (ends_pure.2 ⟨rfl, hfiles⟩)
  | folder name children t? =>
    rw [Tree.name] at hocc
    rw [writeTree, ends_bind]
    simp only [clearForFolder, ends_bind, ends_get, hocc, Bool.not_true, Bool.false_eq_true, if_false]
    refine (hskip true _ run).imp ?_
    rintro _ asked ⟨rfl, hfiles⟩
    exact ends_pure.2 (ends_pure.2 ⟨rfl, hfiles⟩)

section Places

variable {t : Tree} (hnames : ∀ n ∈ t.names, IsNormal n) (hdistinct : t.distinctSiblings = true)
  (h : Standing run.files folder)
include hnames hdistinct h

/-- Where no question comes up, a tree that is written without a fault is put where nothing stood. Else its path
    would be one that the system does not take. -/
theorem writeTree_unasked (hfree : run.files.occupied (folder.join t.name) = false) :
    Ends (writeTree plan folder t) run fun r run' => r = .ok () →
      run.files.entryAt? (run.files.placeOf folder ++ [t.name]) = none ∧
        Placed folder (run.files.placeOf folder ++ [t.name]) (fun _ => t.alone) run.files run'.files := by
  have hname : IsNormal t.name := hnames _ (by cases t <;> simp [Tree.names, Tree.name])
  rw [ends_writeTree_of_free hfree]
  by_cases hnone : run.files.entryAt? (run.files.placeOf folder ++ [t.name]) = none
  · exact (fill_placed t hnames hdistinct h fun _ => hnone).imp fun r run' hr hok => ⟨hnone, hr hok⟩
  · refine (fill_fits t hname h).imp fun r run' hfits hok => ?_
    rw [← Bool.not_eq_true, FileSystem.occupied_iff h.linkFree, FileSystem.placeOf_join _ _ hname] at hfree
    exact absurd ⟨h.isOpen.reachable_join hname (hfits hok), hnone⟩ hfree

/-- Once its place was cleared, a tree is put into it as if nothing had stood there. -/
theorem fill_cleared (hoff : OffWay run.files folder t.name) {run' : Run σ}
    -- Clearing leaves the place empty and everything else as it was, so the node is written as into free space.
    (hfiles : run'.files = run.files.cut (run.files.placeOf folder ++ [t.name])) :
    Ends (fill plan folder t) run' fun r run'' => r = .ok () →
      Placed folder (run.files.placeOf folder ++ [t.name]) (fun _ => t.alone) run.files run''.files := by
  have hne : run.files.placeOf folder ++ [t.name] ≠ [] := by simp
  have hworking : run'.files.workingFolder = run.files.workingFolder := by
    rw [hfiles]
    rfl
  have hplace := FileSystem.placeOf_congr hworking folder
  have hstanding : Standing run'.files folder := by
    rw [hfiles]
    exact h.cut hoff
  have hfree : run'.files.entryAt? (run'.files.placeOf folder ++ [t.name]) = none := by
    rw [hplace, hfiles, FileSystem.entryAt?_cut _ _ _ hne, if_pos (by simp)]
  refine (fill_placed t hnames hdistinct hstanding fun _ => hfree).imp fun r run'' hr hok => ?_
  obtain ⟨hworking', hstanding', hover⟩ := hr hok
  rw [hplace] at hover
  refine ⟨hworking'.trans hworking, hstanding', fun other hother => ?_, hover.inside⟩
  rw [hover.outside other hother, hfiles, FileSystem.entryAt?_cut _ _ _ hne, if_neg]
  rwa [List.isPrefixOf_iff_prefix]

/-- **Overwriting.** Whatever stood in its place, a tree that is written without a fault is all that stands there
    afterwards. -/
theorem writeTree_mirrored (hover : ∀ isFolder, Answers plan isFolder .overwrite)
    (hoff : OffWay run.files folder t.name) :
    Ends (writeTree plan folder t) run fun r run' => r = .ok () →
      Placed folder (run.files.placeOf folder ++ [t.name]) (fun _ => t.alone) run.files run'.files := by
  by_cases hocc : run.files.occupied (folder.join t.name) = true
  · obtain ⟨hreach, hsome⟩ := (FileSystem.occupied_iff h.linkFree).1 hocc
    -- The answer clears the place, and the node is written as into a free one.
    cases t with
    | file name content t? =>
      have hname : IsNormal name := hnames name (by simp [Tree.names])
      have hplace := FileSystem.placeOf_join run.files folder hname
      rw [Tree.name] at hocc hreach hsome ⊢
      rw [writeTree, ends_bind]
      simp only [clearForFile, ends_bind, ends_get, hocc, Bool.not_true, Bool.false_eq_true, if_false]
      refine (hover false _ run).imp ?_
      rintro _ asked ⟨rfl, hfiles⟩
      -- The question leaves the files as they are.
      rw [← hfiles] at h hoff hreach hsome hplace ⊢
      simp only [ends_bind, ends_get]
      refine (ends_remove_if h.linkFree hname hreach hsome).imp ?_
      rintro r run' ⟨rfl, ⟨_, hsame⟩ | ⟨_, hcleared⟩⟩
      · -- What is there is no folder, and the file takes its place.
        rw [← hsame] at h ⊢
        exact fill_placed (.file name content t?) hnames hdistinct h fun hfolder => by cases hfolder
      · rw [hplace] at hcleared
        exact fill_cleared hnames hdistinct h hoff hcleared
    | folder name children t? =>
      have hname : IsNormal name := hnames name (by simp [Tree.names])
      have hplace := FileSystem.placeOf_join run.files folder hname
      rw [Tree.name] at hocc hreach hsome ⊢
      rw [writeTree, ends_bind]
      simp only [clearForFolder, ends_bind, ends_get, hocc, Bool.not_true, Bool.false_eq_true, if_false]
      refine (hover true _ run).imp ?_
      rintro _ asked ⟨rfl, hfiles⟩
      rw [← hfiles] at h hoff hreach hsome hplace ⊢
      simp only [ends_bind]
      rw [ends_change, FileSystem.remove_of_occupied h.linkFree hname hreach hsome, hplace]
      exact ends_pure.2 (fill_cleared hnames hdistinct h hoff rfl)
  · exact (writeTree_unasked hnames hdistinct h (by simpa using hocc)).imp fun r run' hr hok => (hr hok).2

/-- **Skipping.** A tree that is written without a fault is put where nothing stood, or all is as it was. -/
theorem writeTree_spared (hskip : ∀ isFolder, Answers plan isFolder .skip) :
    Ends (writeTree plan folder t) run fun r run' => r = .ok () →
      Placed folder (run.files.placeOf folder ++ [t.name])
        (fun before way => if before [] = none then t.alone way else before way) run.files run'.files := by
  have hname : IsNormal t.name := hnames _ (by cases t <;> simp [Tree.names, Tree.name])
  -- What stands there decides: it is skipped over, or the node is written unasked.
  by_cases hocc : run.files.occupied (folder.join t.name) = true
  · obtain ⟨_, hsome⟩ := (FileSystem.occupied_iff h.linkFree).1 hocc
    rw [FileSystem.placeOf_join _ _ hname] at hsome
    refine (writeTree_skipped hskip hocc).imp ?_
    rintro r run' ⟨_, hfiles⟩ _
    rw [hfiles]
    refine ⟨rfl, h, fun _ _ => rfl, fun way => ?_⟩
    simp only [List.append_nil, if_neg hsome]
  · refine (writeTree_unasked hnames hdistinct h (by simpa using hocc)).imp fun r run' hr hok => ?_
    obtain ⟨hnone, hworking, hstanding, hover⟩ := hr hok
    refine ⟨hworking, hstanding, hover.outside, fun way => ?_⟩
    simp only [List.append_nil, if_pos hnone]
    exact hover.inside way

end Places

end Writing

/-! ### Whole runs -/

section Runs

variable {root : Tree} {destination : Path} {callback? : Option (Callback σ)} {files : FileSystem} {s : σ}

/-- A run that succeeds in a folder that stands puts each child of the root in its place, if writing one tree
    does. -/
theorem generate_placed {f : Tree → (List String → Option Entry) → List String → Option Entry}
    {P : Tree → FileSystem → Prop} (hfs : files.LinkFree) (hrooted : files.Rooted)
    (hfolder : files.isFolder destination = true)
    (hlocal : ∀ t (before after : FileSystem), after.workingFolder = before.workingFolder →
      (∀ way, after.entryAt? (before.placeOf destination ++ t.name :: way) =
        before.entryAt? (before.placeOf destination ++ t.name :: way)) → P t before → P t after)
    (hnodup : (root.children.map Tree.name).Nodup)
    (htree : ∀ t ∈ root.children, ∀ run : Run σ, Standing run.files destination → P t run.files →
      Ends (writeTree (planOf root destination callback?) destination t) run fun r run' => r = .ok () →
        Placed destination (run.files.placeOf destination ++ [t.name]) (f t) run.files run'.files)
    (hP : ∀ t ∈ root.children, P t files)
    (hsuccess : (generate root destination callback? files s).success = true) :
    PlacedEach destination root.children f files
      (generate root destination callback? files s).run.files := by
  -- The destination is open already, so making it changes nothing.
  obtain ⟨hreach, hentry⟩ := (FileSystem.isFolder_iff hfs).1 hfolder
  have hopen := hreach.isOpen hentry
  have hgrows := FileSystem.makeFolders_grows hfs destination
  -- The destination stands already, and nothing is made.
  have hsame := hgrows.entryAt?_of_isOpen hopen
  have hplace := FileSystem.placeOf_congr hgrows.workingFolder destination
  let made : Run σ := ⟨(files.makeFolders destination).2, 0, [], s⟩
  have hstanding : Standing made.files destination := by
    refine ⟨hgrows.linkFree hfs, hgrows.rooted hrooted, fun place hpasses => ?_⟩
    rw [FileSystem.passes_congr hgrows.workingFolder] at hpasses
    rw [hsame]
    exact hopen place hpasses
  have hwrite := writeTrees_placed hlocal hnodup htree hstanding fun t ht =>
    hlocal t files made.files hgrows.workingFolder (fun way => hsame _) (hP t ht)
  have hsteps : Ends (writing root destination callback?) ⟨files, 0, [], s⟩ fun r run => r = .ok () →
      PlacedEach destination root.children f made.files run.files := by
    rw [writing, ends_bind, ends_change]
    split
    · exact fun hok => by cases hok
    · exact hwrite
  -- What holds of the steps holds of the run's outcome, which was a success.
  have hok := (generate_iff (Q := fun interrupt? run => interrupt? = none →
    PlacedEach destination root.children f made.files run.files)).2
      (hsteps.imp fun r run hr hstop => hr (stopped?_eq_none_iff.1 hstop))
  obtain ⟨hworking, hstanding', heach, hrest⟩ := hok (Option.isNone_iff_eq_none.1 hsuccess)
  simp only [made, hsame, hplace] at heach hrest
  exact ⟨hworking.trans hgrows.workingFolder, hstanding', heach, hrest⟩

end Runs

/-- **Mirroring and adding.** In a folder of a file system without links, let a run succeed whose tree has normal
    names and different ones in each folder.

    If everything is overwritten and the path of the destination comes past nothing at or below a name of a child
    of the root, then each child is afterwards just what stands at its name, down to the last entry, and all else
    is as it was. If everything is skipped, then what stood before stands, the children whose names were free are
    just what stands at their names, and all else is as it was. -/
theorem generate_mirrors {root : Tree} {destination : Path} {callback : Callback σ} {files : FileSystem} {s : σ}
    (hfs : files.LinkFree) (hrooted : files.Rooted) (hfolder : files.isFolder destination = true)
    (hnames : ∀ n ∈ Tree.namesOf root.children, IsNormal n) (hdistinct : root.distinctSiblings = true)
    (hsuccess : (generate root destination (some callback) files s).success = true) :
    let base := files.placeOf destination
    let after := (generate root destination (some callback) files s).run.files
    ((∀ files question s, (callback files question s).1 = .overwrite) →
      (∀ child ∈ root.children, OffWay files destination child.name) →
      (∀ child ∈ root.children, ∀ way, after.entryAt? (base ++ child.name :: way) =
        (child.at? way).map Tree.entry) ∧
      (∀ place, (∀ child ∈ root.children, ¬ base ++ [child.name] <+: place) →
        after.entryAt? place = files.entryAt? place)) ∧
    ((∀ files question s, (callback files question s).1 = .skip) →
      (∀ place e, files.entryAt? place = some e → after.entryAt? place = some e) ∧
      (∀ child ∈ root.children, files.entryAt? (base ++ [child.name]) = none →
        ∀ way, after.entryAt? (base ++ child.name :: way) = (child.at? way).map Tree.entry) ∧
      (∀ place, (∀ child ∈ root.children, files.entryAt? (base ++ [child.name]) = none →
        ¬ base ++ [child.name] <+: place) → after.entryAt? place = files.entryAt? place)) := by
  intro base after
  have hnodup := Tree.nodup_children hdistinct
  have hchild : ∀ t ∈ root.children, (∀ n ∈ t.names, IsNormal n) ∧ t.distinctSiblings = true :=
    fun t ht => ⟨fun n hn => hnames n (Tree.mem_namesOf.2 ⟨t, ht, hn⟩), Tree.distinctSiblings_child hdistinct ht⟩
  refine ⟨fun hover hoff => ?_, fun hskip => ?_⟩
  -- Each child replaces what stood in its place.
  · have hplaced := generate_placed (f := fun t _ => t.alone)
      (P := fun t files => OffWay files destination t.name) hfs hrooted hfolder
      (fun t before after hworking _ hoff => (offWay_congr hworking).2 hoff) hnodup
      (fun t ht run hstanding hoff =>
        writeTree_mirrored (hchild t ht).1 (hchild t ht).2 hstanding (answers_of_constant rfl hover) hoff)
      hoff hsuccess
    exact ⟨hplaced.each, hplaced.rest⟩
  -- Each child is left out where something stands, and written where nothing does.
  · have hplaced := generate_placed
      (f := fun t before way => if before [] = none then t.alone way else before way) (P := fun _ _ => True)
      hfs hrooted hfolder (fun _ _ _ _ _ _ => trivial) hnodup
      (fun t ht run hstanding _ =>
        writeTree_spared (hchild t ht).1 (hchild t ht).2 hstanding (answers_of_constant rfl hskip))
      (fun _ _ => trivial) hsuccess
    have hfree : ∀ child ∈ root.children, files.entryAt? (base ++ [child.name]) = none →
        ∀ way, after.entryAt? (base ++ child.name :: way) = (child.at? way).map Tree.entry := by
      intro child hc hnone way
      exact (hplaced.each child hc way).trans (if_pos hnone)
    have helse : ∀ place, (∀ child ∈ root.children, files.entryAt? (base ++ [child.name]) = none →
        ¬ base ++ [child.name] <+: place) → after.entryAt? place = files.entryAt? place := by
      intro place hplace
      by_cases hbelow : ∃ child ∈ root.children, base ++ [child.name] <+: place
      · -- Below a name that was taken all is as it was.
        obtain ⟨child, hc, way, rfl⟩ := hbelow
        have hsome : files.entryAt? (base ++ [child.name]) ≠ none := fun hnone =>
          hplace child hc hnone (List.prefix_append _ _)
        rw [List.append_assoc, List.singleton_append]
        exact (hplaced.each child hc way).trans (if_neg hsome)
      · exact hplaced.rest place fun child hc h => hbelow ⟨child, hc, h⟩
    refine ⟨fun place e he => ?_, hfree, helse⟩
    rw [helse place, he]
    -- Below a free name nothing stood.
    rintro child hc hnone ⟨way, rfl⟩
    cases way with
    | nil =>
      rw [List.append_nil, hnone] at he
      cases he
    | cons n way =>
      rw [hrooted.entryAt?_eq_none (by rw [hnone]; simp) (List.cons_ne_nil n way)] at he
      cases he

/-- The file takes the place of the folder with all that is in it, or is left out; the folder is new. -/
theorem generate_mirrors_usedFolder :
    let mirrored := generate smallTree ⟨true, ["out"]⟩ (some (always .overwrite)) usedFolder ()
    let spared := generate smallTree ⟨true, ["out"]⟩ (some (always .skip)) usedFolder ()
    usedFolder.LinkFree ∧ usedFolder.Rooted ∧ usedFolder.isFolder ⟨true, ["out"]⟩ = true ∧
    (∀ n ∈ Tree.namesOf smallTree.children, IsNormal n) ∧ smallTree.distinctSiblings = true ∧
    (∀ child ∈ smallTree.children, OffWay usedFolder ⟨true, ["out"]⟩ child.name) ∧
    (mirrored.success = true ∧ mirrored.run.files.entryAt? ["out", "b"] = some (.file (.text "new")) ∧
      mirrored.run.files.entryAt? ["out", "b", "x"] = none ∧
      mirrored.run.files.entryAt? ["out", "a"] = some (.file (.text "old"))) ∧
    (spared.success = true ∧ spared.run.files.entryAt? ["out", "b", "x"] = some (.file (.text "old")) ∧
      spared.run.files.entryAt? ["out", "d", "e"] = some (.file (.text "new"))) := by
  intro mirrored spared
  have hfs : usedFolder.LinkFree := FileSystem.linkFree_of_entries (by simp [usedFolder])
  have hrooted : usedFolder.Rooted := FileSystem.rooted_of_entries (by decide)
  have hfolder : usedFolder.isFolder ⟨true, ["out"]⟩ = true := by decide +kernel
  have hnames : ∀ n ∈ Tree.namesOf smallTree.children, IsNormal n := by decide +kernel
  have hdistinct : smallTree.distinctSiblings = true := by decide +kernel
  have hoff : ∀ child ∈ smallTree.children, OffWay usedFolder ⟨true, ["out"]⟩ child.name := by
    intro child _ place hpasses hbelow
    have habove := hpasses.isPrefix (by decide)
    have hlength := hbelow.length_le
    rw [List.length_append, List.length_singleton] at hlength
    exact absurd habove.length_le (by omega)
  have hover : mirrored.success = true := by decide +kernel
  have hskip : spared.success = true := by decide +kernel
  obtain ⟨hchildren, hrest⟩ := (generate_mirrors hfs hrooted hfolder hnames hdistinct hover).1
    (fun _ _ _ => rfl) hoff
  obtain ⟨hkept, hfree, _⟩ := (generate_mirrors hfs hrooted hfolder hnames hdistinct hskip).2 fun _ _ _ => rfl
  refine ⟨hfs, hrooted, hfolder, hnames, hdistinct, hoff, ⟨hover, ?_, ?_, ?_⟩, hskip, ?_, ?_⟩
  · exact hchildren (.file "b" "new" none) (by simp [smallTree, Tree.children]) []
  · exact hchildren (.file "b" "new" none) (by simp [smallTree, Tree.children]) ["x"]
  · refine hrest ["out", "a"] ?_
    simp only [smallTree, Tree.children]
    decide +kernel
  · exact hkept ["out", "b", "x"] _ rfl
  · exact hfree (.folder "d" [.file "e" "new" none] none) (by simp [smallTree, Tree.children]) rfl ["e"]

/-- A folder with another one in it, in a folder. -/
def nestedFolders : FileSystem where
  entries := [(["out"], .folder), (["out", "c"], .folder), (["out", "c", "d"], .folder)]
  workingFolder := []

def nestedTree : Tree := .folder "root" [.folder "c" [.file "x" "new" none] none] none

/-- What is asked of the way is needed. Where the path of the destination comes past a folder that is overwritten
    and past another one in it, both are made again, and the one inside stays. -/
theorem generate_leaves_way :
    let o := generate nestedTree ⟨true, ["out", "c", "d", "..", ".."]⟩ (some (always .overwrite)) nestedFolders ()
    nestedFolders.LinkFree ∧ nestedFolders.Rooted ∧
    nestedFolders.isFolder ⟨true, ["out", "c", "d", "..", ".."]⟩ = true ∧
    (∀ n ∈ Tree.namesOf nestedTree.children, IsNormal n) ∧ nestedTree.distinctSiblings = true ∧
    o.success = true ∧ o.run.files.entryAt? ["out", "c", "d"] = some .folder ∧
    nestedTree.at? ["c"] = some (.folder "c" [.file "x" "new" none] none) ∧
    nestedTree.at? ["c", "d"] = none := by
  have hfs : nestedFolders.LinkFree := FileSystem.linkFree_of_entries (by simp [nestedFolders])
  have hrooted : nestedFolders.Rooted := FileSystem.rooted_of_entries (by decide)
  refine ⟨hfs, hrooted, ?_, ?_, ?_, ?_, ?_, rfl, rfl⟩ <;> decide +kernel

end Scaffold.Generation
