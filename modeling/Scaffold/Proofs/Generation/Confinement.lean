import Scaffold.Proofs.Builder.Cycles
import Scaffold.Proofs.Builder.Names
import Scaffold.Proofs.Generation.Moves

namespace Scaffold.Generation

/-!
# Confinement

A run changes nothing outside its destination, whatever the outcome; at most it adds the missing folders
around the destination.

* `Confined` — what may change around a location;
* `Move.confined`, `generate_confined` — it holds of every move, and of every run;
* `generate_of_build_confined` — no document makes a run leave its destination, since all names in a built
  tree are clean.
-/

open Files (Path FileSystem Location)
open Files.Path (IsNormal)
open Conflict (Callback)

variable {σ : Type}

/-- What is not at or below `base` is the same in both file systems, except for folders on the way to `base`
    that were added. -/
structure Confined (base : Location) (before after : FileSystem) : Prop where
  workingFolder : after.workingFolder = before.workingFolder
  outside : ∀ place, ¬ base <+: place → after.entryAt? place = before.entryAt? place ∨
    place <+: base ∧ before.entryAt? place = none ∧ after.entryAt? place = some .folder

namespace Confined

variable {base : Location} {before between after : FileSystem}

/-- A system that does not change. -/
theorem refl (base : Location) (files : FileSystem) : Confined base files files :=
  ⟨rfl, fun _ _ => .inl rfl⟩

/-- One change behind the other. -/
theorem trans (h : Confined base before between) (h' : Confined base between after) :
    Confined base before after where
  workingFolder := h'.workingFolder.trans h.workingFolder
  outside place hplace := by
    rcases h.outside place hplace with hsame | ⟨habove, hnone, hfolder⟩
    · rw [← hsame]
      exact h'.outside place hplace
    · -- A folder that was added is there to stay.
      rcases h'.outside place hplace with hsame | ⟨_, hnone', _⟩
      · exact .inr ⟨habove, hnone, hsame.trans hfolder⟩
      · rw [hfolder] at hnone'
        cases hnone'

/-- Folders are added below `base`, or on the way to it. -/
theorem of_grows {passed : Location → Prop} {way : Location} (h : before.Grows after passed)
    (hpassed : ∀ place, passed place → place <+: base ++ way) : Confined base before after where
  workingFolder := h.workingFolder
  outside place hplace := by
    rcases h.entries place with hsame | ⟨honWay, hrest⟩
    · exact .inl hsame
    · rcases List.prefix_or_prefix_of_prefix (hpassed place honWay) (List.prefix_append base way) with
        habove | hbelow
      · exact .inr ⟨habove, hrest⟩
      · exact absurd hbelow hplace

/-- An entry that is put inside. -/
theorem of_put {place : Location} {entry : Files.Entry} (hne : place ≠ []) (h : base <+: place) :
    Confined base before (before.put place entry) where
  workingFolder := rfl
  outside other hother := by
    rw [FileSystem.entryAt?_put _ _ _ _ hne, if_neg]
    · exact .inl rfl
    · rintro rfl
      exact hother h

/-- A cut that is made inside. -/
theorem of_cut {place : Location} (hne : place ≠ []) (h : base <+: place) :
    Confined base before (before.cut place) where
  workingFolder := rfl
  outside other hother := by
    rw [FileSystem.entryAt?_cut _ _ _ hne, if_neg]
    · exact .inl rfl
    · intro hcut
      exact hother (h.trans (List.isPrefixOf_iff_prefix.1 hcut))

end Confined

section Runs

variable {plan : Plan σ} {run run' : Run σ}

/-- A joined path inside the destination is about a place below it. -/
theorem Inside.isPrefix {folder : Path} {way : List String} {name : String} (h : Inside plan folder way)
    (hname : IsNormal name) (files : FileSystem) :
    files.placeOf plan.destination <+: files.placeOf (folder.join name) := by
  rw [(h.join hname).placeOf_eq]
  exact List.prefix_append _ _

/-- What a path inside a plain destination comes past is around its place. -/
theorem Inside.passes {folder : Path} {way : List String} (h : Inside plan folder way)
    (hp : plan.destination.IsPlain) (files : FileSystem) (place : Location)
    (hpasses : files.Passes folder place) : place <+: files.placeOf plan.destination ++ way := by
  rw [← h.placeOf_eq]
  exact hpasses.isPrefix (h.plain hp)

/-- No move leaves the destination. -/
theorem Move.confined (h : Move plan run run') (hp : plan.destination.IsPlain) :
    Confined (run.files.placeOf plan.destination) run.files run'.files := by
  cases h with
  | ask => exact .refl _ _
  | grow hinside hgrows => exact .of_grows hgrows (hinside.passes hp run.files)
  | remove hinside hname => exact .of_cut (placeOf_join_ne_nil hname) (hinside.isPrefix hname _)
  | @write folder way name content files hinside hname hgrows =>
    have hbelow := hinside.isPrefix hname run.files
    rw [← FileSystem.placeOf_congr hgrows.workingFolder (folder.join name)] at hbelow
    exact (Confined.of_grows hgrows (hinside.passes hp run.files)).trans
      (.of_put (placeOf_join_ne_nil hname) hbelow)

/-- A run changes nothing outside of the destination. -/
theorem Moves.confined (h : Moves plan run run') (hp : plan.destination.IsPlain) :
    Confined (run.files.placeOf plan.destination) run.files run'.files := by
  induction h with
  | refl => exact .refl _ _
  | tail hmoves hmove ih =>
    have hstep := hmove.confined hp
    rw [FileSystem.placeOf_congr (Moves.keeps hmoves).1] at hstep
    exact ih.trans hstep

/-- Whatever the outcome, a run of a tree with normal names is confined to its destination. -/
theorem generate_confined {root : Tree} {destination : Path} {callback? : Option (Callback σ)}
    {files : FileSystem} {s : σ} (hp : destination.IsPlain) (hfs : files.LinkFree)
    (hnames : ∀ n ∈ Tree.namesOf root.children, IsNormal n) :
    Confined (files.placeOf destination) files
      (generate root destination callback? files s).run.files :=
  (generate_moves hfs hnames).confined hp

end Runs

/-- **Documents are confined.** All names in a tree that is built are clean, whatever the document, the
    library, the context and the engine; and no run that writes such a tree changes anything outside its
    destination, except that it adds the missing folders around it. -/
theorem generate_of_build_confined {b : Builder σ} {v : Yaml.Value} {ctx : Context}
    {stack : List String} {s s' : σ} {t : Tree}
    (hbuild : (b.build v ctx stack).run s = (.ok (some t), s')) :
    (∀ n ∈ t.names, FileName.IsClean n) ∧
      ∀ (τ : Type) (destination : Path) (callback? : Option (Callback τ)) (files : FileSystem) (c : τ),
        destination.IsPlain → files.LinkFree →
        Confined (files.placeOf destination) files
          (generate t destination callback? files c).run.files := by
  have hclean := Builder.names_of_build hbuild
  refine ⟨hclean, ?_⟩
  intro τ destination callback? files c hp hfs
  refine generate_confined hp hfs ?_
  intro n hn
  refine (hclean n ?_).isNormal
  -- The names below the root are among the names of the tree.
  cases t with
  | file name content t? => simp [Tree.children, Tree.namesOf] at hn
  | folder name children t? => exact List.mem_cons_of_mem _ hn

/-! ### A name that climbs -/

/-- A document with a file that asks to stand beside the destination. -/
def climbingDocument : Yaml.Value := .sequence [.string "../secret.txt"]

/-- A tree whose file has a name that was to climb. -/
def climbingTree : Tree := .folder "Project" [.file ".._secret.txt" "" none] none

/-- A folder with a file that such a document might be after. -/
def homeFiles : FileSystem where
  entries := [(["home"], .folder), (["home", "secret.txt"], .file (.text "mine"))]
  workingFolder := ["home"]

/-- There is no link. -/
theorem homeFiles_linkFree : homeFiles.LinkFree :=
  FileSystem.linkFree_of_entries (by simp [homeFiles])

/-- The file goes into the destination, under another name. -/
theorem generate_of_build_confined_climbing :
    (Builder.mutualBuilder.build climbingDocument .empty []).run () = (.ok (some climbingTree), ()) ∧
    (⟨true, ["home", "out"]⟩ : Path).IsPlain ∧ homeFiles.LinkFree ∧
    (∀ n ∈ climbingTree.names, FileName.IsClean n) ∧
    Confined ["home", "out"] homeFiles
      (generate climbingTree ⟨true, ["home", "out"]⟩ (none : Option (Callback Unit)) homeFiles
        ()).run.files := by
  have hbuild : (Builder.mutualBuilder.build climbingDocument .empty []).run () =
      (.ok (some climbingTree), ()) := Prod.ext rfl rfl
  have hp : (⟨true, ["home", "out"]⟩ : Path).IsPlain := by simp [Path.IsPlain]
  have hconfined := generate_of_build_confined hbuild
  exact ⟨hbuild, hp, homeFiles_linkFree, hconfined.1,
    hconfined.2 Unit ⟨true, ["home", "out"]⟩ none homeFiles () hp homeFiles_linkFree⟩

end Scaffold.Generation
