import Scaffold.Library.Directory
import Scaffold.Proofs.Builder.Cycles
import Scaffold.Proofs.Files.Lookup

namespace Scaffold

/-!
# Spellings of template names

A template that is open is known by the name that it was included by. In a directory one file has many
names: `a`, `a.yaml`, `./a`, `a .yaml` are read from `a.yaml` all of them. What is refused is a name that is
open, not a file that is:

* `Directory.projectPlace?` — the file that a name stands for, and is read from;
* `Directory.IsPlain` — the spelling that is what the file is called; there is one at most;
* `Builder.reopens_file` — a file that is opened inside itself, by another name;
* `Builder.itemsGuarded_directory` — on every way into a document the open names are distinct, and so are
  the files of those that are spelled plainly.
-/

open Document (Item)
open Files (Path Location FileSystem)

variable {σ : Type}

namespace Directory

/-! ### Names and files -/

/-- The path of the file that a project template is read from. -/
def projectPath? (d : Directory) (name : String) : Option Path := do
  let relative ← relativePath? ((withoutSuffix name).getD name)
  let folder ← d.projects?
  return folder.join (relative.text ++ documentSuffix)

/-- The file that a name stands for: the location that its path leads to, through links. -/
def projectPlace? (d : Directory) (fs : FileSystem) (name : String) : Option Location :=
  (d.projectPath? name).bind fun p => (fs.locate true p).toOption

/-- A template is what stands in the file of its name. -/
theorem project?_eq (d : Directory) (fs : FileSystem) (name : String) :
    d.project? fs name = (d.projectPath? name).bind (read? fs) := by
  unfold project? projectPath?
  cases relativePath? ((withoutSuffix name).getD name) with
  | none => rfl
  | some relative => cases d.projects? <;> rfl

/-- What a template is read from is the file of its name. -/
theorem entryAt?_of_project? {d : Directory} {fs : FileSystem} {name source : String}
    (h : d.project? fs name = some source) :
    ∃ place, d.projectPlace? fs name = some place ∧
      fs.entryAt? place = some (.file (.text source)) := by
  rw [project?_eq] at h
  obtain ⟨p, hp, hread⟩ := Option.bind_eq_some_iff.1 h
  unfold read? FileSystem.readText FileSystem.stat at hread
  rw [projectPlace?, hp, Option.bind_some]
  -- Only a text that is found at a place is read.
  cases hlocate : fs.locate true p with
  | error fault => simp [hlocate, bind, Except.bind, Except.toOption] at hread
  | ok place =>
    refine ⟨place, rfl, ?_⟩
    simp only [hlocate, bind, Except.bind] at hread
    -- A folder, a link or a file of bytes is not read as a text.
    cases hentry : fs.entryAt? place with
    | none => simp [hentry, Except.toOption] at hread
    | some e =>
      simp only [hentry] at hread
      split at hread
      · match e with
        | .file (.text s) => simpa [Except.toOption] using hread
        | .file (.binary _) => simp [Except.toOption] at hread
        | .folder => simp [Except.toOption] at hread
        | .link _ => simp [Except.toOption] at hread
      · cases hread

/-- A name is spelled plainly if it is what its file is called below the folder of templates, but for the
    ending: looking it up changes nothing about it, and it leads from name to name. -/
def IsPlain (name : String) : Prop :=
  (relativePath? ((withoutSuffix name).getD name)).map Path.text = some name ∧
    ∀ piece ∈ Text.splitOn '/' (name ++ documentSuffix), Path.IsNormal piece

instance (name : String) : Decidable (IsPlain name) := inferInstanceAs (Decidable (_ ∧ _))

/-- The path of a plain name is spelled like the name. -/
theorem IsPlain.projectPath?_eq {name : String} (h : IsPlain name) (d : Directory) :
    d.projectPath? name = d.projects?.map (·.join (name ++ documentSuffix)) := by
  obtain ⟨relative, hrelative, htext⟩ := Option.map_eq_some_iff.1 h.1
  unfold projectPath?
  rw [hrelative]
  dsimp only [bind, Option.bind]
  rw [htext]
  cases d.projects? <;> rfl

/-- Without links, the file of a plain name is where the name says. -/
theorem IsPlain.place_eq {name : String} (h : IsPlain name) {d : Directory} {fs : FileSystem}
    (hfs : fs.LinkFree) {place : Location} (hplace : d.projectPlace? fs name = some place) :
    ∃ folder, d.projects? = some folder ∧
      place = fs.placeOf folder ++ Text.splitOn '/' (name ++ documentSuffix) := by
  rw [projectPlace?, h.projectPath?_eq] at hplace
  cases hfolder : d.projects? with
  | none => simp [hfolder] at hplace
  | some folder =>
    refine ⟨folder, rfl, ?_⟩
    rw [hfolder, Option.map_some, Option.bind_some] at hplace
    -- Without links, the system gets to the place that the path spells, or nowhere.
    rcases FileSystem.locate_cases hfs true (folder.join (name ++ documentSuffix)) with
      ⟨_, hlocate⟩ | ⟨_, fault, hlocate⟩
    · rw [hlocate] at hplace
      rw [← Option.some.inj hplace, FileSystem.placeOf_join_of_normal fs folder h.2]
    · simp [hlocate, Except.toOption] at hplace

/-- **Plain names.** Without links, no two plain names stand for the same file. -/
theorem IsPlain.inj {d : Directory} {fs : FileSystem} (hfs : fs.LinkFree) {name other : String}
    (h : IsPlain name) (hother : IsPlain other) {place : Location}
    (hplace : d.projectPlace? fs name = some place)
    (hplace' : d.projectPlace? fs other = some place) : name = other := by
  obtain ⟨folder, hfolder, hname⟩ := h.place_eq hfs hplace
  obtain ⟨folder', hfolder', hname'⟩ := hother.place_eq hfs hplace'
  obtain rfl : folder = folder' := Option.some.inj (hfolder.symm.trans hfolder')
  -- The two names have the same path below the folder.
  have htexts : name ++ documentSuffix = other ++ documentSuffix :=
    Text.splitOn_inj (List.append_cancel_left (hname.symm.trans hname'))
  have hchars := congrArg String.toList htexts
  rw [String.toList_append, String.toList_append] at hchars
  exact String.toList_inj.1 (List.append_cancel_right hchars)

/-- The files of those of the open templates that are spelled plainly. -/
def plainPlaces (d : Directory) (fs : FileSystem) (opened : List String) : List Location :=
  (opened.filter fun name => decide (IsPlain name)).filterMap (d.projectPlace? fs)

/-- Distinct plain names have distinct files. -/
theorem nodup_plainPlaces {d : Directory} {fs : FileSystem} (hfs : fs.LinkFree)
    {opened : List String} (h : opened.Nodup) : (d.plainPlaces fs opened).Nodup := by
  rw [plainPlaces, List.filterMap_filter]
  refine h.filterMap ?_
  intro name other place hplace hplace'
  simp only [Option.mem_def, Option.ite_none_right_eq_some, decide_eq_true_eq] at hplace hplace'
  exact hplace.1.inj hfs hplace'.1 hplace.2 hplace'.2

end Directory

namespace Builder

/-! ### One file, two names -/

/-- A directory with one project template, which includes its own file. -/
def selfDirectory : Directory := ⟨some (Path.ofText "templates"), none⟩

def selfFiles : FileSystem where
  entries := [(["templates"], .folder),
    (["templates", "a.yaml"], .file (.text "- project_template: a.yaml\n"))]
  workingFolder := []

def selfBuilder : Builder Unit := ⟨⟨idleEngine, none⟩, selfDirectory.library selfFiles⟩

/-- The document includes `a`, whose file includes `a.yaml`, which is the same file: it is opened inside
    itself, and the cycle is only noticed where it is to be opened a third time. A check that the open files
    are distinct is passed in front of the first expansion and fails in front of the second one. -/
theorem reopens_file :
    selfDirectory.projectPlace? selfFiles "a" = some ["templates", "a.yaml"] ∧
    selfDirectory.projectPlace? selfFiles "a.yaml" = some ["templates", "a.yaml"] ∧
    (selfBuilder.buildText "plan" "- project_template: a\n" .empty []).run () =
      (.error (.located "a.yaml" (some 1) (.cyclicInclude ["a", "a.yaml", "a.yaml"])), ()) ∧
    (selfBuilder.itemsGuarded
        (fun opened => decide (opened.filterMap (selfDirectory.projectPlace? selfFiles)).Nodup)
        (fun _ opened _ => throw (.invalidItems "opened twice" (Text.joinWith " -> " opened)))
        2 .empty [] [.inclusion (.string "a") none none]).run () =
      (.error (.located "a.yaml" none (.invalidItems "opened twice" "a -> a.yaml")), ()) := by
  -- Both runs are computed.
  refine ⟨by decide +kernel, by decide +kernel, run_of_failsWith ?_, run_of_failsWith ?_⟩
  · decide +kernel
  · decide +kernel

/-! ### What is never opened twice -/

/-- **Open names are distinct, plain files too.** Let items be built from a directory without links. In
    front of each expansion, of a template or of what code gives, a check that no name is open twice, and no
    file by names that are spelled plainly, never fails: whatever would happen otherwise does not. -/
theorem itemsGuarded_directory (f : Filler σ) (d : Directory) (fs : FileSystem)
    (hfs : fs.LinkFree) (otherwise : Nested σ) (depth : Nat) (ctx : Context) (stack : List String)
    (hstack : stack.Nodup) (is : List Item) :
    itemsGuarded ⟨f, d.library fs⟩
        (fun opened => decide opened.Nodup && decide (d.plainPlaces fs opened).Nodup) otherwise
        depth ctx stack is =
      itemsWithin ⟨f, d.library fs⟩ depth ctx stack is := by
  refine itemsGuarded_eq (P := List.Nodup) ?_ ?_ otherwise depth ctx hstack is
  · intro opened name source hopened hname _
    simpa using hopened.concat hname
  · intro opened hopened
    -- Names that are opened once have places that are opened once, as far as they are plain.
    rw [Bool.and_eq_true, decide_eq_true_eq, decide_eq_true_eq]
    exact ⟨hopened, Directory.nodup_plainPlaces hfs hopened⟩

/-- The plain name of the template in `selfDirectory` is `a`. -/
theorem itemsGuarded_directory_self :
    selfFiles.LinkFree ∧ ([] : List String).Nodup ∧
    Directory.IsPlain "a" ∧ ¬ Directory.IsPlain "a.yaml" ∧
    itemsGuarded selfBuilder
        (fun opened => decide opened.Nodup &&
          decide (selfDirectory.plainPlaces selfFiles opened).Nodup)
        (fun _ opened _ => throw (.invalidItems "opened twice" (Text.joinWith " -> " opened)))
        3 .empty [] [.inclusion (.string "a") none none] =
      selfBuilder.itemsWithin 3 .empty [] [.inclusion (.string "a") none none] := by
  have hfs : selfFiles.LinkFree := FileSystem.linkFree_of_entries (by simp [selfFiles])
  refine ⟨hfs, List.nodup_nil, by decide +kernel, by decide +kernel, ?_⟩
  exact itemsGuarded_directory ⟨idleEngine, none⟩ selfDirectory selfFiles hfs _ 3 .empty []
    List.nodup_nil _

end Builder

end Scaffold
