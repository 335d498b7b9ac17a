import Scaffold.Library.Directory
import Scaffold.Proofs.Files.Change

namespace Scaffold

/-!
# Lookups stay in their directory

The name of a template may be any text: it comes out of a document with its placeholders filled. On the way to a
file it loses an ending and the blanks around it, its backslashes become slashes, it is checked, and an ending is
put behind it again before it is joined to the folder of templates. None of this leads out of the folder.

* `Directory.ofText_of_relativePath?` — what is joined to the folder is a relative path that does not go up,
  whatever ending it gets;
* `FileSystem.AgreesAt` — file systems that are alike at a path and below it;
* `Directory.read?_join_congr` — reading a path joined to another one does not tell such file systems apart;
* `Directory.lookup_confined` — so the answer to a lookup depends on the folder of templates alone.
-/

open Files (Path Location FileSystem)

/-! ### Names on their way to a path -/

namespace Files.Path

theorem absolute_ofText (text : String) :
    (ofText text).absolute = true ↔ text.toList.head? = some '/' := by
  rw [ofText]
  split
  · rename_i htext
    simp [htext]
  · rename_i htext
    simp [htext]
  · rename_i htext
    simp [htext]
  · rename_i hslash
    constructor
    · intro h
      cases h
    -- A text without a slash in front is split into its pieces.
    · intro h
      obtain ⟨rest, hrest⟩ := List.head?_eq_some_iff.1 h
      exact absurd hrest (hslash rest)

/-- A relative path is written as it was read. -/
theorem text_ofText {text : String} (hne : text ≠ "") (hslash : text.toList.head? ≠ some '/') :
    (ofText text).text = text := by
  rw [ofText_of_relative hne hslash, Path.text, if_neg Bool.false_ne_true, Text.joinWith_splitOn,
    String.empty_append]

/-- A path whose components are names and dots does not go up, and does not start at the root. -/
theorem isPlain_of_components {p : Path}
    (h : ∀ c ∈ p.components, c ≠ .root ∧ c ≠ .up) : p.absolute = false ∧ p.IsPlain := by
  constructor
  -- A root or a parent folder would be a component.
  · by_contra habs
    rw [Bool.not_eq_false] at habs
    have hroot : Component.root ∈ p.components := by simp [components, habs]
    exact (h _ hroot).1 rfl
  · intro hup
    have hrest : Component.up ∈ p.pieces.filterMap component? :=
      List.mem_filterMap.2 ⟨"..", hup, by decide⟩
    have hmem : Component.up ∈ p.components := by
      rw [components]
      split
      · exact List.mem_cons_of_mem _ hrest
      · split
        · exact List.mem_cons_of_mem _ hrest
        · exact hrest
    exact (h _ hmem).2 rfl

end Files.Path

namespace Directory

/-- **Paths of names.** A name that is let through is read again as a relative path that does not go up, whatever
    is put behind it, as long as that does not make a piece of two dots. -/
theorem ofText_of_relativePath? {name : String} {p : Path} (h : relativePath? name = some p)
    (ending : String) (hslash : '/' ∉ ending.toList)
    (hdots : ending = "" ∨ ¬ ending.toList <:+ "..".toList) :
    ∃ rest, Path.ofText (p.text ++ ending) = ⟨false, rest⟩ ∧ rest ≠ [] ∧ ".." ∉ rest := by
  simp only [relativePath?] at h
  generalize String.ofList (Chars.replaceChar '\\' ['/'] (Chars.trim name.toList)) = text at h
  split at h
  · rename_i hchecked
    obtain rfl := Option.some.inj h
    rw [Bool.and_eq_true, List.all_eq_true] at hchecked
    obtain ⟨hname, hinside⟩ := hchecked
    obtain ⟨hrelative, hplain⟩ := Path.isPlain_of_components (p := Path.ofText text) <| by
      intro c hc
      have hc' := hinside c hc
      cases c <;> simp_all
    have hne : text ≠ "" := by
      rintro rfl
      revert hname
      decide
    have hfirst : text.toList.head? ≠ some '/' := by
      rw [Ne, ← Path.absolute_ofText, hrelative]
      exact Bool.false_ne_true
    rw [Path.text_ofText hne hfirst]
    -- The ending adds nothing in front, so the text stays relative.
    have hfirst' : (text ++ ending).toList.head? ≠ some '/' := by
      cases hlist : text.toList with
      | nil => exact absurd (String.toList_eq_nil_iff.1 hlist) hne
      | cons c cs => simpa [hlist] using hfirst
    have hne' : text ++ ending ≠ "" := by simp [hne]
    refine ⟨_, Path.ofText_of_relative hne' hfirst', ?_, ?_⟩
    · simp [Text.splitOn, Chars.splitOn_ne_nil]
    -- Only the last piece is another one than before.
    · intro hup
      rw [Path.ofText_of_relative hne hfirst, Path.IsPlain] at hplain
      obtain ⟨front, last, hsplit, hsplit'⟩ := Chars.splitOn_append_of_notMem text.toList hslash
      rw [Text.splitOn, hsplit] at hplain
      rw [Text.splitOn, String.toList_append, hsplit', List.map_append, List.mem_append] at hup
      rcases hup with hup | hup
      · exact hplain (by rw [List.map_append]; exact List.mem_append_left _ hup)
      · have hlast : last ++ ending.toList = "..".toList := by
          simpa using (congrArg String.toList (List.mem_singleton.1 hup)).symm
        rcases hdots with rfl | hdots
        · refine hplain ?_
          simp [show last = ['.', '.'] by simpa using hlast]
        · exact hdots ⟨last, hlast⟩
  · cases h

end Directory

/-! ### File systems that agree -/

namespace Files.FileSystem

/-- Two file systems agree at a path and below it: at its location and at each place below, the same stands on
    both. A path that goes up may come past folders that are not around its location; it has to come past
    folders on both, or on neither. -/
structure AgreesAt (fs fs' : FileSystem) (p : Path) : Prop where
  entryAt?_eq : ∀ names, fs.entryAt? (fs.placeOf p ++ names) = fs'.entryAt? (fs'.placeOf p ++ names)
  comesThrough : p.IsPlain ∨ (fs.IsOpen p ↔ fs'.IsOpen p)

/-- In rooted file systems that agree at a path it comes past folders on both or on neither. -/
theorem AgreesAt.isOpen_congr {fs fs' : FileSystem} {p : Path} (h : fs.AgreesAt fs' p)
    (hroot : fs.Rooted) (hroot' : fs'.Rooted) : fs.IsOpen p ↔ fs'.IsOpen p := by
  have hplace : fs.entryAt? (fs.placeOf p) = fs'.entryAt? (fs'.placeOf p) := by
    simpa using h.entryAt?_eq []
  rcases h.comesThrough with hp | hway
  · constructor
    · intro hopen
      exact hroot'.isOpen hp (hplace ▸ hopen.isFolder)
    · intro hopen
      exact hroot.isOpen hp (hplace ▸ hopen.isFolder)
  · exact hway

/-- Pieces that do not go up are walked along in the same way from places that look the same. -/
theorem walkable_congr {fs fs' : FileSystem} {place place' : Location}
    (h : ∀ names, fs.entryAt? (place ++ names) = fs'.entryAt? (place' ++ names)) {pieces : List String}
    (hplain : ".." ∉ pieces) : fs.Walkable place pieces ↔ fs'.Walkable place' pieces := by
  rw [walkable_iff, walkable_iff]
  refine and_congr_right fun _ => forall_congr' fun start => forall_congr' fun piece => ?_
  refine forall_congr' fun hstart => ?_
  -- Each beginning of the pieces leads through the same names on both sides.
  have hstart' : ".." ∉ start := by
    intro hup
    exact hplain (((List.prefix_append start [piece]).trans hstart).subset hup)
  rw [follow_of_plain place hstart', follow_of_plain place' hstart', h]

/-- The way along a joined path: through the folder of the path in front, then from there. -/
theorem walkable_join_iff {fs : FileSystem} {p : Path} {rest : List String} (hne : rest ≠ []) :
    fs.Walkable (fs.baseOf p) (p.stem ++ rest) ↔
      (∀ piece ∈ p.stem, piece.utf8ByteSize ≤ nameLimit) ∧ fs.IsOpen p ∧
        fs.Walkable (fs.placeOf p) rest := by
  have hplace : follow (fs.baseOf p) p.stem = fs.placeOf p := follow_of_trims _ p.trims_stem
  rw [walkable_append, hplace, walkable_iff]
  constructor
  · rintro ⟨⟨hnames, hway⟩, hrest⟩
    refine ⟨hnames, ?_, hrest⟩
    rintro place hpasses
    obtain ⟨start, hstart, rfl⟩ := hpasses.of_trims (q := ⟨p.absolute, p.stem⟩) rfl p.trims_stem
    show fs.entryAt? (follow (fs.baseOf p) start) = some .folder
    -- The path ends here or goes on: in both cases the next piece is followed from a folder.
    rcases hstart with ⟨more, hmore⟩
    cases more with
    | nil =>
      rw [List.append_nil] at hmore
      rw [hmore]
      obtain ⟨piece, rest, rfl⟩ := List.exists_cons_of_ne_nil hne
      rw [hplace]
      exact hrest.1
    | cons piece more =>
      refine hway start piece ⟨more, ?_⟩
      rw [List.append_assoc, List.singleton_append, hmore]
  · rintro ⟨hnames, hopen, hrest⟩
    refine ⟨⟨hnames, fun start piece hstart => hopen _ ⟨start, ?_, rfl⟩⟩, hrest⟩
    exact ((List.prefix_append _ _).trans hstart).trans p.trims_stem.isPrefix

/-- The location of a joined path. -/
theorem placeOf_joined (fs : FileSystem) (p : Path) (rest : List String) :
    fs.placeOf ⟨p.absolute, p.stem ++ rest⟩ = follow (fs.placeOf p) rest := by
  rw [placeOf, follow_append, placeOf, ← follow_of_trims (fs.baseOf p) p.trims_stem]
  rfl

end Files.FileSystem

namespace Directory

/-! ### Reading -/

/-- What is read is the text of the file at the location of the path. -/
theorem read?_eq_some_iff {fs : FileSystem} (hfs : fs.LinkFree) {p : Path} {text : String} :
    read? fs p = some text ↔
      fs.Reachable p ∧ fs.entryAt? (fs.placeOf p) = some (.file (.text text)) := by
  rw [← FileSystem.stat_eq_ok_iff hfs, read?, FileSystem.isFile, FileSystem.readText]
  cases hstat : fs.stat p with
  | error fault => simp
  | ok e =>
    cases e with
    | folder => simp
    | link target => simp
    | file content => cases content <;> simp [bind, Except.bind, Except.toOption]

/-- **Reading below a path.** File systems that agree at a path cannot be told apart by what is read from a path
    joined to it that does not go up. -/
theorem read?_join_congr {fs fs' : FileSystem} (hfs : fs.LinkFree) (hfs' : fs'.LinkFree)
    (hroot : fs.Rooted) (hroot' : fs'.Rooted) {p : Path} (h : fs.AgreesAt fs' p) {name : String}
    {rest : List String} (hname : Path.ofText name = ⟨false, rest⟩) (hne : rest ≠ [])
    (hplain : ".." ∉ rest) : read? fs (p.join name) = read? fs' (p.join name) := by
  refine Option.ext fun text => ?_
  rw [read?_eq_some_iff hfs, read?_eq_some_iff hfs', p.join_of_relative hname hne]
  -- Both ways start from the folder and do not leave it, so they are open in one system as in the other.
  have hwalk : fs.Walkable (fs.baseOf p) (p.stem ++ rest) ↔
      fs'.Walkable (fs'.baseOf p) (p.stem ++ rest) := by
    rw [FileSystem.walkable_join_iff hne, FileSystem.walkable_join_iff hne,
      h.isOpen_congr hroot hroot', FileSystem.walkable_congr h.entryAt?_eq hplain]
  have hentry : fs.entryAt? (fs.placeOf ⟨p.absolute, p.stem ++ rest⟩) =
      fs'.entryAt? (fs'.placeOf ⟨p.absolute, p.stem ++ rest⟩) := by
    rw [FileSystem.placeOf_joined, FileSystem.placeOf_joined, FileSystem.follow_of_plain _ hplain,
      FileSystem.follow_of_plain _ hplain, h.entryAt?_eq]
  exact and_congr (and_congr_right fun _ => hwalk) (by rw [hentry])

/-- **Lookups are confined.** Let two file systems without links agree at the folder of project templates and
    below it: then no name at all, looked up as that of a project template, tells them apart. The same holds of
    file templates and their folder. -/
theorem lookup_confined (d : Directory) {fs fs' : FileSystem} (hfs : fs.LinkFree)
    (hfs' : fs'.LinkFree) (hroot : fs.Rooted) (hroot' : fs'.Rooted) (name : String) :
    ((∀ folder ∈ d.projects?, fs.AgreesAt fs' folder) → d.project? fs name = d.project? fs' name) ∧
      ((∀ folder ∈ d.files?, fs.AgreesAt fs' folder) → d.file? fs name = d.file? fs' name) := by
  constructor
  · intro hagree
    unfold project?
    -- A refused name is refused before the folder is looked at.
    cases hrelative : relativePath? ((withoutSuffix name).getD name) with
    | none => simp only [bind, Option.bind]
    | some relative =>
      cases hfolder : d.projects? with
      | none => simp only [bind, Option.bind]
      | some folder =>
        obtain ⟨rest, hrest, hne, hplain⟩ := ofText_of_relativePath? hrelative documentSuffix
          (by decide) (.inr (by decide))
        exact read?_join_congr hfs hfs' hroot hroot' (hagree folder hfolder) hrest hne hplain
  · intro hagree
    unfold file?
    cases hrelative : relativePath? name with
    | none => simp only [bind, Option.bind]
    | some relative =>
      cases hfolder : d.files? with
      | none => simp only [bind, Option.bind]
      | some folder =>
        obtain ⟨rest, hrest, hne, hplain⟩ := ofText_of_relativePath? hrelative ""
          (by decide) (.inl rfl)
        rw [String.append_empty] at hrest
        exact read?_join_congr hfs hfs' hroot hroot' (hagree folder hfolder) hrest hne hplain

/-! ### A secret beside the templates -/

def guardedDirectory : Directory := ⟨some (Path.ofText "templates"), none⟩

/-- One template, and beside the templates a file that is none. -/
def guardedFiles : FileSystem where
  entries := [(["templates"], .folder), (["templates", "a.yaml"], .file (.text "- a.txt\n")),
    (["secret.yaml"], .file (.text "mine"))]
  workingFolder := []

/-- The same with another secret. -/
def otherFiles : FileSystem := guardedFiles.put ["secret.yaml"] (.file (.text "yours"))

/-- A path could lead to the secrets, which differ. The name of the template does not, for all its blanks, dots
    and backslashes: its text is found, and it is the same. -/
theorem lookup_confined_secret :
    guardedFiles.LinkFree ∧ otherFiles.LinkFree ∧ guardedFiles.Rooted ∧ otherFiles.Rooted ∧
    (∀ folder ∈ guardedDirectory.projects?, guardedFiles.AgreesAt otherFiles folder) ∧
    read? guardedFiles ((Path.ofText "templates").join "../secret.yaml") = some "mine" ∧
    read? otherFiles ((Path.ofText "templates").join "../secret.yaml") = some "yours" ∧
    guardedDirectory.project? guardedFiles " .\\a.yaml" = some "- a.txt\n" ∧
    guardedDirectory.project? guardedFiles " .\\a.yaml" =
      guardedDirectory.project? otherFiles " .\\a.yaml" := by
  have hfs : guardedFiles.LinkFree := FileSystem.linkFree_of_entries (by simp [guardedFiles])
  have hfs' : otherFiles.LinkFree := hfs.put (by simp) (by simp)
  have hroot : guardedFiles.Rooted := FileSystem.rooted_of_entries (by decide +kernel)
  have hroot' : otherFiles.Rooted := by
    show (guardedFiles.put ([] ++ ["secret.yaml"]) _).Rooted
    exact hroot.put (FileSystem.entryAt?_root _) (.inr (by decide +kernel))
  have hagree : guardedFiles.AgreesAt otherFiles (Path.ofText "templates") := by
    refine ⟨fun names => ?_, .inl (by decide +kernel)⟩
    have hplace : guardedFiles.placeOf (Path.ofText "templates") = ["templates"] := by decide +kernel
    have hplace' : otherFiles.placeOf (Path.ofText "templates") = ["templates"] := by decide +kernel
    rw [hplace, hplace', otherFiles, FileSystem.entryAt?_put _ _ _ _ (by simp), if_neg (by simp)]
  have hfolder : ∀ folder ∈ guardedDirectory.projects?, guardedFiles.AgreesAt otherFiles folder := by
    intro folder hmem
    cases hmem
    exact hagree
  exact ⟨hfs, hfs', hroot, hroot', hfolder, by decide +kernel, by decide +kernel, by decide +kernel,
    (lookup_confined guardedDirectory hfs hfs' hroot hroot' " .\\a.yaml").1 hfolder⟩

end Directory

end Scaffold
