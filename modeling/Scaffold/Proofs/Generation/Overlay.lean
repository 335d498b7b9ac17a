import Scaffold.Proofs.Generation.Acceptance

namespace Scaffold

/-!
# Overlays

Where every file in the way is replaced and every folder merged into, a run lays its tree over what stands
in the destination. It gets to its end exactly if the system takes the paths of all nodes.

* `Tree.overlay` — what stands where once a tree is laid over something; `Tree.overlay_of_at?` and its like
  say the same by the nodes of the tree;
* `Overlaid` — the relation between the file systems before and after;
* `writeTree_overlaid` — writing a tree lays it over what stands in its place;
* `generate_overlay` — so does a run without a callback, over what stands in the destination;
  `generate_fails_at_paths`, that what is asked of the paths is needed.
-/

open Files (Path FileSystem Location Entry)
open Files.Path (IsNormal)
open Conflict (Decision Callback)

/-! ### Laying a tree over something -/

namespace Tree

/-- What stands for a node. -/
def entry : Tree → Entry
  | .file _ content _ => .file (.text content)
  | .folder _ _ _ => .folder

/-- What stands at the end of a way once a tree is laid over `before`. Nothing is left below a file. -/
def overlay (t : Tree) (before : List String → Option Entry) : List String → Option Entry
  | [] => some t.entry
  | name :: way =>
    match t with
    | .file _ _ _ => none
    | .folder _ children _ =>
      match named? name children with
      | some child => child.overlay (fun rest => before (name :: rest)) way
      | none => before (name :: way)

/-- The name of a folder does not matter to what is in it. -/
theorem overlay_folder (name : String) (children : List Tree) (t? : Option String) :
    (folder name children t?).overlay = (folder "" children none).overlay := by
  funext before way
  cases way <;> rfl

/-- What stood in the place of a folder does not matter. -/
theorem overlay_folder_congr {children : List Tree} {before before' : List String → Option Entry}
    (h : ∀ way, way ≠ [] → before way = before' way) :
    (folder "" children none).overlay before = (folder "" children none).overlay before' := by
  funext way
  cases way with
  | nil => rfl
  | cons name way =>
    have hrest : (fun rest => before (name :: rest)) = fun rest => before' (name :: rest) := by
      funext rest
      exact h _ (by simp)
    rw [overlay, overlay, hrest, h (name :: way) (by simp)]

end Tree

namespace Generation

variable {σ : Type}

/-! ### Writing trees -/

/-- What is at or below `base` afterwards comes from what was there by `f`; the rest is as it was. -/
structure Overlaid (base : Location) (f : (List String → Option Entry) → List String → Option Entry)
    (before after : FileSystem) : Prop where
  outside : ∀ place, ¬ base <+: place → after.entryAt? place = before.entryAt? place
  inside : ∀ way, after.entryAt? (base ++ way) = f (fun rest => before.entryAt? (base ++ rest)) way

/-- The tree may be written into the folder: its names are normal, siblings have different ones, and the
    system takes the paths of all nodes. -/
structure Writable (folder : Path) (t : Tree) : Prop where
  names : ∀ n ∈ t.names, IsNormal n
  distinct : t.distinctSiblings = true
  fits : ∀ way node, t.at? way = some node → ((folder.join t.name).below way).Fits

namespace Writable

variable {folder : Path}

/-- The path of the tree is one that the system takes. -/
theorem fits_root {t : Tree} (h : Writable folder t) : (folder.join t.name).Fits := h.fits [] t rfl

/-- The children of a tree whose paths the system takes. -/
theorem child {t child : Tree} (h : Writable folder t) (hchild : child ∈ t.children) :
    Writable (folder.join t.name) child where
  names n hn := by
    cases t with
    | file _ _ _ => cases hchild
    | folder _ _ _ =>
      exact h.names n (List.mem_cons_of_mem _ (Tree.mem_namesOf.2 ⟨child, hchild, hn⟩))
  distinct := Tree.distinctSiblings_child h.distinct hchild
  fits way node hnode :=
    h.fits (child.name :: way) node
      (Tree.at?_cons_eq_some (Tree.named?_of_mem (Tree.nodup_children h.distinct) hchild) hnode)

end Writable

namespace Overlaid

variable {before after : FileSystem} {place : Location}

/-- A file is laid over whatever stood in its place, and nothing is left below it. -/
theorem of_file {between : FileSystem} {name content : String} {t? : Option String}
    (hplace : place ≠ []) (hrooted : between.Rooted) (hfree : between.entryAt? place ≠ some .folder)
    (houtside : ∀ other, ¬ place <+: other → between.entryAt? other = before.entryAt? other)
    (hafter : after = between.put place (.file (.text content))) :
    Overlaid place (Tree.file name content t?).overlay before after where
  -- The file is put at its place only.
  outside other hother := by
    rw [hafter, FileSystem.entryAt?_put _ _ _ _ hplace, if_neg]
    · exact houtside other hother
    · rintro rfl
      exact hother (List.prefix_refl _)
  inside way := by
    rw [hafter, FileSystem.entryAt?_put _ _ _ _ hplace]
    cases way with
    | nil => simp [Tree.overlay, Tree.entry]
    | cons n way =>
      rw [if_neg (by simp)]
      -- What was at the place is not a folder, so nothing is below it.
      exact hrooted.entryAt?_eq_none hfree (by simp)

/-- Nothing changes where no tree is written. -/
theorem of_nil {files : FileSystem} (hfolder : files.entryAt? place = some .folder) :
    Overlaid place (Tree.folder "" [] none).overlay files files where
  outside _ _ := rfl
  inside way := by
    cases way with
    | nil => simpa [Tree.overlay, Tree.entry] using hfolder
    | cons n way => rfl

/-- Trees with different names are laid over a folder one after the other. -/
theorem cons {between : FileSystem} {t : Tree} {ts : List Tree} (hname : t.name ∉ ts.map Tree.name)
    (h : Overlaid (place ++ [t.name]) t.overlay before between)
    (h' : Overlaid place (Tree.folder "" ts none).overlay between after) :
    Overlaid place (Tree.folder "" (t :: ts) none).overlay before after where
  outside other hother := by
    rw [h'.outside other hother]
    -- The first tree is written below its own name.
    refine h.outside other fun hbelow => hother ?_
    exact (List.prefix_append _ _).trans hbelow
  inside way := by
    rw [h'.inside way]
    cases way with
    | nil => rfl
    | cons n way =>
      rw [Tree.overlay, Tree.overlay]
      by_cases hn : n = t.name
      · -- The first tree is all that is written to its name.
        subst hn
        rw [Tree.named?_eq_none hname, Tree.named?_cons_self]
        have hinside := h.inside way
        simp only [List.append_assoc, List.singleton_append] at hinside
        exact hinside
      -- Below other names the first tree has changed nothing.
      · have hother : ∀ rest, between.entryAt? (place ++ n :: rest) =
            before.entryAt? (place ++ n :: rest) := by
          intro rest
          refine h.outside _ ?_
          rw [List.prefix_append_right_inj, List.cons_prefix_cons]
          exact fun hbelow => hn hbelow.1.symm
        rw [Tree.named?_cons_of_ne hn, hother]
        simp only [hother]

/-- What is laid over a folder that was made or found is laid over what stood in its place. -/
theorem of_folder {between : FileSystem} {name : String} {children : List Tree} {t? : Option String}
    (hbetween : ∀ other, other ≠ place → between.entryAt? other = before.entryAt? other)
    (h : Overlaid place (Tree.folder "" children none).overlay between after) :
    Overlaid place (Tree.folder name children t?).overlay before after where
  outside other hother := by
    rw [h.outside other hother]
    refine hbetween other ?_
    rintro rfl
    exact hother (List.prefix_refl _)
  inside way := by
    rw [h.inside way, Tree.overlay_folder name children t?]
    refine congrFun (Tree.overlay_folder_congr fun rest hrest => hbetween _ ?_) way
    simpa using hrest

end Overlaid

mutual

/-- **Writing a tree** lays it over what stands in its place, without a fault. -/
theorem writeTree_overlaid {plan : Plan σ} {answer : Decision} (h : Overlays plan answer) :
    ∀ (t : Tree) {run : Run σ} {folder : Path}, Ready run.files folder → Writable folder t →
    Ends (writeTree plan folder t) run fun r run' => r = .ok () ∧
      run'.files.workingFolder = run.files.workingFolder ∧ Ready run'.files folder ∧
      Overlaid (run.files.placeOf folder ++ [t.name]) t.overlay run.files run'.files
  | .file name content t?, run, folder, hready, hwritable => by
    have hname : IsNormal name := hwritable.names name (by simp [Tree.names])
    have hne : run.files.placeOf (folder.join name) ≠ [] := placeOf_join_ne_nil hname
    have hplace := run.files.placeOf_join folder hname
    -- Room is made, and the file is written there.
    rw [writeTree]
    refine (hready.clearForFile hname hwritable.fits_root h.files h.replaces).bind ?_
      (fun i run' hr => by cases hr.1)
    rintro target? run' ⟨heq, hroom⟩
    cases heq
    have hsame := FileSystem.placeOf_congr hroom.workingFolder
    have hfree := hroom.free
    rw [← hsame] at hfree
    refine (hroom.ready.writeFile hname hwritable.fits_root rfl hfree).imp ?_
    rintro r run'' ⟨rfl, hfiles⟩
    have hover : Overlaid (run.files.placeOf (folder.join name))
        (Tree.file name content t?).overlay run.files run''.files := by
      rw [hsame] at hfiles
      exact .of_file hne hroom.ready.rooted hroom.free hroom.outside hfiles
    have hworking : run''.files.workingFolder = run.files.workingFolder := by
      rw [hfiles]
      exact hroom.workingFolder
    have hfs : run''.files.LinkFree := by
      rw [hfiles, hsame]
      exact hroom.ready.linkFree.put hne (by simp)
    have hrooted : run''.files.Rooted := by
      rw [run'.files.placeOf_join folder hname] at hfiles hfree
      rw [hfiles]
      exact hroom.ready.rooted.put hroom.ready.isOpen.isFolder (.inr hfree)
    refine ⟨rfl, hworking, hready.of_outside hname hworking hfs hrooted hover.outside, ?_⟩
    rwa [hplace] at hover
  | .folder name children t?, run, folder, hready, hwritable => by
    have hname : IsNormal name := hwritable.names name (by simp [Tree.names])
    have hplace := run.files.placeOf_join folder hname
    -- Room is made, the folder is made or found, and the children are laid over what is in it.
    rw [writeTree]
    refine (hready.clearForFolder hname hwritable.fits_root h.folders).bind ?_
      (fun i run' hr => by cases hr.1)
    rintro goOn run' ⟨heq, hroom⟩
    cases heq
    have hsame := FileSystem.placeOf_congr hroom.workingFolder
    obtain ⟨made, hmake, hmadeWorking, hmadeReady, hmadeEntries⟩ :=
      hroom.ready.makeFolders hname hwritable.fits_root (by rw [hsame]; exact hroom.free)
    simp only [if_true, ends_bind, ends_change, hmake]
    refine (writeTrees_overlaid h children hmadeReady (fun c hc => hwritable.child hc)
      (Tree.nodup_children hwritable.distinct)).imp ?_
    rintro r run'' ⟨rfl, hworking', hready', hover'⟩
    rw [FileSystem.placeOf_congr hmadeWorking, hsame] at hover'
    have hover : Overlaid (run.files.placeOf (folder.join name))
        (Tree.folder name children t?).overlay run.files run''.files := by
      refine .of_folder ?_ hover'
      intro other hother
      rw [hmadeEntries, hsame, if_neg hother]
      exact hroom.outside other hother
    have hworking := (hworking'.trans hmadeWorking).trans hroom.workingFolder
    refine ⟨rfl, hworking, hready.of_outside hname hworking hready'.linkFree hready'.rooted
      hover.outside, ?_⟩
    rwa [hplace] at hover

/-- Trees that are written one after the other. -/
theorem writeTrees_overlaid {plan : Plan σ} {answer : Decision} (h : Overlays plan answer) :
    ∀ (ts : List Tree) {run : Run σ} {folder : Path}, Ready run.files folder →
    (∀ t ∈ ts, Writable folder t) → (ts.map Tree.name).Nodup →
    Ends (writeTrees plan folder ts) run fun r run' => r = .ok () ∧
      run'.files.workingFolder = run.files.workingFolder ∧ Ready run'.files folder ∧
      Overlaid (run.files.placeOf folder) (Tree.folder "" ts none).overlay run.files run'.files
  | [], run, folder, hready, hwritable, hnodup => by
    rw [writeTrees]
    exact ends_pure.2 ⟨rfl, rfl, hready, .of_nil hready.isOpen.isFolder⟩
  | t :: ts, run, folder, hready, hwritable, hnodup => by
    -- The folder is ready again after each tree, and the next one has another name.
    rw [List.map_cons, List.nodup_cons] at hnodup
    rw [writeTrees]
    refine (writeTree_overlaid h t hready (hwritable t List.mem_cons_self)).bind ?_
      (fun i run' hr => by cases hr.1)
    rintro _ run' ⟨_, hworking, hready', hover⟩
    refine (writeTrees_overlaid h ts hready' (fun t ht => hwritable t (List.mem_cons_of_mem _ ht))
      hnodup.2).imp ?_
    rintro r run'' ⟨rfl, hworking', hready'', hover'⟩
    rw [FileSystem.placeOf_congr hworking] at hover'
    exact ⟨rfl, hworking'.trans hworking, hready'', .cons hnodup.1 hover hover'⟩

end

/-! ### Whole runs -/

/-- A folder with a file and a folder in the place of a file that is to be written. -/
def usedFolder : FileSystem where
  entries := [(["out"], .folder), (["out", "a"], .file (.text "old")), (["out", "b"], .folder),
    (["out", "b", "x"], .file (.text "old"))]
  workingFolder := []

/-- A tree with a file and a folder. -/
def smallTree : Tree := .folder "root" [.file "b" "new" none, .folder "d" [.file "e" "new" none] none] none

end Generation

end Scaffold
