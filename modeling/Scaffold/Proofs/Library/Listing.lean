import Scaffold.Library.Directory
import Scaffold.Proofs.Document.Normal
import Scaffold.Proofs.Files.Descent
import Scaffold.Proofs.Library.Confinement

namespace Scaffold

/-!
# Listed names

The names of templates are listed by what their files are called. A name that is looked up is changed first: blanks
at its ends are cut off, backslashes become slashes, and an ending `.yaml` is taken off that of a project template. A
listed name to which none of this happens is found, with the content of the file that it was listed for. The others
are not: they are not found, or another file is.

* `Directory.mem_fileNames`, `Directory.mem_projectNames` — what is listed;
* `Directory.relativePath?_eq` — names that looking up does not change;
* `Directory.listed_found` — listed names are found;
* `Directory.listed_not_found` — listed names that looking up changes.
-/

open Files (Path Location FileSystem)

namespace Directory

/-! ### What is listed -/

/-- Sorting keeps the names. -/
theorem mem_sorted {names : List String} {name : String} : name ∈ sorted names ↔ name ∈ names := by
  simp [sorted, List.mem_mergeSort]

/-- Taking the suffix off. -/
theorem withoutSuffix_eq_some_iff {name stem : String} :
    withoutSuffix name = some stem ↔ name = stem ++ documentSuffix := by
  rw [withoutSuffix, Chars.dropSuffix?, ← String.toList_inj, String.toList_append]
  constructor
  · intro h
    split at h
    · rename_i hsuffix
      obtain ⟨front, hfront⟩ := List.isSuffixOf_iff_suffix.1 hsuffix
      rw [← hfront, Option.map_some, List.length_append, Nat.add_sub_cancel, List.take_left] at h
      rw [← hfront, ← Option.some.inj h, String.toList_ofList]
    · cases h
  · intro h
    rw [h, if_pos (List.isSuffixOf_iff_suffix.2 (List.suffix_append _ _))]
    simp

/-- A listed name leads down from the folder to a file that it is the name of. -/
theorem exists_file_of_mem_namesIn {fs : FileSystem} (hfs : fs.IsTree) {folder : Path} {name : String}
    (h : name ∈ namesIn fs folder) :
    ∃ root content, fs.locate true folder = .ok root ∧ fs.entryAt? root = some .folder ∧
      fs.entryAt? (root ++ Text.splitOn '/' name) = some (.file content) ∧
      ∀ piece ∈ Text.splitOn '/' name, Path.IsNormal piece ∧ '\x00' ∉ piece.toList ∧
        piece.utf8ByteSize ≤ FileSystem.nameLimit := by
  unfold namesIn at h
  split at h
  -- What is listed is a file below the folder.
  · rename_i root hroot hfolder
    obtain ⟨⟨place, entry⟩, hmem, hname⟩ := List.mem_filterMap.1 h
    cases entry with
    | folder => cases hname
    | link target => cases hname
    | file content =>
      simp only at hname
      split at hname
      · rename_i hlisted
        rw [Bool.and_eq_true, List.isPrefixOf_iff_prefix] at hlisted
        obtain ⟨⟨below, rfl⟩, hlisted⟩ := hlisted
        rw [List.drop_left] at hname hlisted
        obtain rfl := Option.some.inj hname
        have hne : below ≠ [] := by
          rintro rfl
          simp [isListed] at hlisted
        have hpieces (piece : String) (hpiece : piece ∈ below) : piece ∈ root ++ below :=
          List.mem_append_right _ hpiece
        -- The name is made of the pieces below the folder, none of which has a slash in it.
        have hsplit : Text.splitOn '/' (Text.joinWith "/" below) = below :=
          Text.splitOn_joinWith hne fun piece hpiece => (hfs.normal _ hmem piece (hpieces piece hpiece)).no_slash
        rw [hsplit]
        refine ⟨root, content, hroot, ?_, hfs.entryAt?_of_mem (by simp [hne]) hmem, fun piece hpiece => ?_⟩
        · unfold FileSystem.isFolder FileSystem.stat at hfolder
          cases hentry : fs.entryAt? root with
          | none => simp [hroot, hentry, bind, Except.bind] at hfolder
          | some e => cases e <;> simp_all [bind, Except.bind]
        · have hpiece := hpieces piece hpiece
          exact ⟨hfs.normal _ hmem piece hpiece, hfs.no_nul _ hmem piece hpiece, hfs.short _ hmem piece hpiece⟩
      · cases hname
  · cases h

/-- The names of file templates are those in their folder. -/
theorem mem_fileNames {d : Directory} {fs : FileSystem} {name : String} :
    name ∈ d.fileNames fs ↔ ∃ folder, d.files? = some folder ∧ name ∈ namesIn fs folder := by
  rw [fileNames, mem_sorted]
  cases d.files? <;> simp

/-- A project template is listed by the name of its file without the ending. -/
theorem mem_projectNames {d : Directory} {fs : FileSystem} {name : String} :
    name ∈ d.projectNames fs ↔ ∃ folder, d.projects? = some folder ∧ name ++ documentSuffix ∈ namesIn fs folder := by
  simp only [projectNames, List.mem_filterMap, withoutSuffix_eq_some_iff, mem_sorted, exists_eq_right]
  cases d.projects? <;> simp

/-! ### Names that looking up does not change -/

/-- Looking up a name takes it as it is: there are no blanks at its ends, and no backslashes in it. -/
structure IsVerbatim (name : String) : Prop where
  trim_eq : Chars.trim name.toList = name.toList
  no_backslash : '\\' ∉ name.toList

/-- Looking up the name of a project template takes it as it is. Besides, it does not end as the files do, and it is
    not empty, no dot, and does not end with a component of two dots. -/
structure IsVerbatimProject (name : String) : Prop extends IsVerbatim name where
  no_suffix : withoutSuffix name = none
  ne_empty : name ≠ ""
  ne_here : name ≠ "."
  last_ne_up : (Text.splitOn '/' name).getLast? ≠ some ".."

/-- The components of a relative path that does not go up are names, except for a dot in front. If there is one, the
    path ends with a name. -/
theorem components_of_relative {pieces : List String} (hup : ".." ∉ pieces)
    (hname : ∃ piece ∈ pieces, Path.isIdle piece = false) :
    (∀ c ∈ (⟨false, pieces⟩ : Path).components, c = .here ∨ ∃ s, c = .name s) ∧
      (⟨false, pieces⟩ : Path).fileName?.isSome = true := by
  -- Without a piece that goes up, the components are names.
  have hnames : ∀ c ∈ pieces.filterMap Path.component?, ∃ s, c = .name s := by
    intro c hc
    obtain ⟨piece, hpiece, hc⟩ := List.mem_filterMap.1 hc
    have hne : piece ≠ ".." := fun h => hup (h ▸ hpiece)
    simp only [Path.component?, hne, if_false, Option.ite_none_left_eq_some, Option.some.injEq] at hc
    exact ⟨piece, hc.2.symm⟩
  obtain ⟨last, hlast⟩ : ∃ last, (pieces.filterMap Path.component?).getLast? = some (.name last) := by
    obtain ⟨piece, hpiece, hidle⟩ := hname
    -- At least one piece is a name.
    have hne : pieces.filterMap Path.component? ≠ [] := by
      intro hnil
      have hnone := List.filterMap_eq_nil_iff.1 hnil piece hpiece
      simp [Path.component?, hidle] at hnone
    obtain ⟨c, hc⟩ := Option.isSome_iff_exists.1 (List.getLast?_isSome.2 hne)
    obtain ⟨last, rfl⟩ := hnames c (List.mem_of_getLast? hc)
    exact ⟨last, hc⟩
  rw [Path.fileName?, Path.components, if_neg Bool.false_ne_true]
  split
  · refine ⟨fun c hc => (List.mem_cons.1 hc).imp_right (hnames c), ?_⟩
    rw [List.getLast?_cons, hlast]
    rfl
  · refine ⟨fun c hc => .inr (hnames c hc), ?_⟩
    rw [hlast]
    rfl

/-- A name that does not go up and has a component stands for the path as which it is written. -/
theorem relativePath?_eq {name : String} (h : IsVerbatim name) (hslash : name.toList.head? ≠ some '/')
    (hup : ".." ∉ Text.splitOn '/' name) (hname : ∃ piece ∈ Text.splitOn '/' name, Path.isIdle piece = false) :
    ∃ p, relativePath? name = some p ∧ p.text = name := by
  have hne : name ≠ "" := by
    rintro rfl
    revert hname
    decide
  -- The text that is made a path is the name itself, since it is verbatim.
  have htext : String.ofList (Chars.replaceChar '\\' ['/'] (Chars.trim name.toList)) = name := by
    rw [h.trim_eq, Chars.replaceChar_of_notMem _ h.no_backslash, String.ofList_toList]
  have hpath := Path.ofText_of_relative hne hslash
  obtain ⟨hinside, hfile⟩ := components_of_relative hup hname
  refine ⟨Path.ofText name, ?_, Path.text_ofText hne hslash⟩
  simp only [relativePath?, htext, hpath, hfile, Bool.true_and]
  refine if_pos (List.all_eq_true.2 fun c hc => ?_)
  -- Each component is a name or a leading dot, which the guard lets pass.
  rcases hinside c hc with rfl | ⟨s, rfl⟩ <;> rfl

/-- A name of normal pieces does not start with a slash. -/
theorem head?_ne_slash {name : String} (h : ∀ piece ∈ Text.splitOn '/' name, Path.IsNormal piece) :
    name.toList.head? ≠ some '/' := by
  intro hslash
  obtain ⟨rest, hname⟩ := List.head?_eq_some_iff.1 hslash
  have hfirst : "" ∈ Text.splitOn '/' name := by
    rw [Text.splitOn, hname, Chars.splitOn, if_pos rfl]
    exact List.mem_cons_self
  exact (h "" hfirst).nonempty rfl

/-- The name of a file, from name to name, stands for its path. -/
theorem relativePath?_of_normal {name : String} (h : IsVerbatim name)
    (hnormal : ∀ piece ∈ Text.splitOn '/' name, Path.IsNormal piece) :
    ∃ p, relativePath? name = some p ∧ p.text = name := by
  obtain ⟨piece, rest, hsplit⟩ := List.exists_cons_of_ne_nil (l := Text.splitOn '/' name)
    (by simp [Text.splitOn, Chars.splitOn_ne_nil])
  have hpiece : piece ∈ Text.splitOn '/' name := by
    rw [hsplit]
    exact List.mem_cons_self
  exact relativePath?_eq h (head?_ne_slash hnormal) (fun hup => (hnormal _ hup).ne_up rfl)
    ⟨piece, hpiece, (hnormal piece hpiece).not_isIdle⟩

/-- The name of a project template stands for the path of its file without the ending. -/
theorem relativePath?_of_project {name : String} (h : IsVerbatimProject name)
    (hnormal : ∀ piece ∈ Text.splitOn '/' (name ++ documentSuffix), Path.IsNormal piece) :
    ∃ p, relativePath? name = some p ∧ p.text = name := by
  -- Only the last piece is another one without the ending, and need not be normal.
  have hending : '/' ∉ documentSuffix.toList := by decide
  obtain ⟨front, last, hsplit, hfull⟩ := Chars.splitOn_append_of_notMem name.toList hending
  have hname : Text.splitOn '/' name = front.map String.ofList ++ [String.ofList last] := by
    rw [Text.splitOn, hsplit, List.map_append, List.map_singleton]
  have hfront : ∀ piece ∈ front.map String.ofList, Path.IsNormal piece := by
    intro piece hpiece
    refine hnormal piece ?_
    rw [Text.splitOn, String.toList_append, hfull, List.map_append]
    exact List.mem_append_left _ hpiece
  refine relativePath?_eq h.toIsVerbatim ?_ ?_ ?_
  · intro hslash
    obtain ⟨rest, hrest⟩ := List.head?_eq_some_iff.1 hslash
    refine head?_ne_slash hnormal ?_
    rw [String.toList_append, hrest]
    rfl
  · intro hup
    rw [hname, List.mem_append, List.mem_singleton] at hup
    rcases hup with hup | hup
    · exact (hfront _ hup).ne_up rfl
    · refine h.last_ne_up ?_
      rw [hname, List.getLast?_concat, hup]
  · rw [hname]
    cases hcases : front.map String.ofList with
    | nil =>
      -- There is one piece only, the name itself.
      have hlast : String.ofList last = name := by
        have hjoin := Text.joinWith_splitOn name
        rw [hname, hcases] at hjoin
        simpa [Text.joinWith, Chars.joinWith] using hjoin
      exact ⟨name, by simp [hlast], by simp [Path.isIdle, h.ne_empty, h.ne_here]⟩
    | cons piece rest =>
      rw [hcases] at hfront
      exact ⟨piece, by simp, (hfront piece List.mem_cons_self).not_isIdle⟩

/-! ### Reading -/

/-- What stands at the location of a path is what is read. -/
theorem read?_of_locate {fs : FileSystem} {p : Path} {place : Location} {text : String}
    (hlocate : fs.locate true p = .ok place) (hentry : fs.entryAt? place = some (.file (.text text))) :
    read? fs p = some text := by
  simp [read?, FileSystem.isFile, FileSystem.readText, FileSystem.stat, hlocate, hentry, bind, Except.bind,
    Except.toOption]

/-- The system does not take a path that is too long. -/
theorem utf8ByteSize_le_of_read? {fs : FileSystem} {p : Path} {text : String} (h : read? fs p = some text) :
    p.text.utf8ByteSize ≤ FileSystem.pathLimit := by
  by_contra hlong
  obtain ⟨fault, hlocate⟩ : ∃ fault, fs.locate true p = .error fault := by
    unfold FileSystem.locate
    split
    · exact ⟨_, rfl⟩
    · split
      · exact ⟨_, rfl⟩
      · exact ⟨_, if_pos (Nat.lt_of_not_le hlong)⟩
  simp [read?, FileSystem.isFile, FileSystem.stat, hlocate, bind, Except.bind] at h

/-- What is listed is read from the file that it is listed for, by the path of the folder with the name behind
    it. -/
theorem read?_of_mem_namesIn {fs : FileSystem} (hfs : fs.IsTree) {folder : Path} {name : String}
    (h : name ∈ namesIn fs folder) :
    (∀ piece ∈ Text.splitOn '/' name, Path.IsNormal piece) ∧
      ∃ root content, fs.locate true folder = .ok root ∧
        fs.entryAt? (root ++ Text.splitOn '/' name) = some (.file content) ∧
        ∀ text, content = .text text → (read? fs (folder.join name) = some text ↔
          (folder.join name).text.utf8ByteSize ≤ FileSystem.pathLimit) := by
  obtain ⟨root, content, hroot, hfolder, hentry, hpieces⟩ := exists_file_of_mem_namesIn hfs h
  have hnormal : ∀ piece ∈ Text.splitOn '/' name, Path.IsNormal piece := fun piece hp => (hpieces piece hp).1
  refine ⟨hnormal, root, content, hroot, hentry, ?_⟩
  rintro text rfl
  refine ⟨utf8ByteSize_le_of_read?, fun hlimit => ?_⟩
  have hlocate := FileSystem.locate_join hfs.rooted hroot hfolder hnormal (fun piece hp => (hpieces piece hp).2.1)
    (fun piece hp => (hpieces piece hp).2.2) hentry (by simp) hlimit
  exact read?_of_locate hlocate hentry

/-- **Listed names are found.** A project template is listed by the name of a file below the folder of project
    templates. If the name is one that looking up takes as it is, the text of this file is found by it, unless the
    path of the folder with the name behind it is too long for the system. The same holds of file templates and their
    folder. -/
theorem listed_found (d : Directory) {fs : FileSystem} (hfs : fs.IsTree) :
    (∀ name ∈ d.projectNames fs, ∃ folder root content,
      d.projects? = some folder ∧ fs.locate true folder = .ok root ∧
      fs.entryAt? (root ++ Text.splitOn '/' (name ++ documentSuffix)) = some (.file content) ∧
      ∀ text, content = .text text → IsVerbatimProject name → (d.project? fs name = some text ↔
        (folder.join (name ++ documentSuffix)).text.utf8ByteSize ≤ FileSystem.pathLimit)) ∧
    ∀ name ∈ d.fileNames fs, ∃ folder root content,
      d.files? = some folder ∧ fs.locate true folder = .ok root ∧
      fs.entryAt? (root ++ Text.splitOn '/' name) = some (.file content) ∧
      ∀ text, content = .text text → IsVerbatim name → (d.file? fs name = some text ↔
        (folder.join name).text.utf8ByteSize ≤ FileSystem.pathLimit) := by
  refine ⟨fun name hname => ?_, fun name hname => ?_⟩
  · obtain ⟨folder, hfolder, hmem⟩ := mem_projectNames.1 hname
    obtain ⟨hnormal, root, content, hroot, hentry, hread⟩ := read?_of_mem_namesIn hfs hmem
    refine ⟨folder, root, content, hfolder, hroot, hentry, fun text htext hverbatim => ?_⟩
    obtain ⟨p, hp, hname⟩ := relativePath?_of_project hverbatim hnormal
    unfold project?
    rw [hverbatim.no_suffix, Option.getD_none, hp, hfolder]
    show read? fs (folder.join (p.text ++ documentSuffix)) = some text ↔ _
    rw [hname]
    exact hread text htext
  · obtain ⟨folder, hfolder, hmem⟩ := mem_fileNames.1 hname
    obtain ⟨hnormal, root, content, hroot, hentry, hread⟩ := read?_of_mem_namesIn hfs hmem
    refine ⟨folder, root, content, hfolder, hroot, hentry, fun text htext hverbatim => ?_⟩
    obtain ⟨p, hp, hname⟩ := relativePath?_of_normal hverbatim hnormal
    unfold file?
    rw [hp, hfolder]
    show read? fs (folder.join p.text) = some text ↔ _
    rw [hname]
    exact hread text htext

/-! ### Names that are not found -/

/-- Two folders of templates. -/
def oddDirectory : Directory := ⟨some (Path.ofText "plans"), some (Path.ofText "parts")⟩

/-- Templates with names that looking up changes, and two with names that it does not. -/
def oddFiles : FileSystem where
  entries := [(["plans"], .folder), (["plans", "a.yaml"], .file (.text "a")),
    (["plans", "n"], .folder), (["plans", "n", "b.yaml"], .file (.text "b")),
    (["plans", "a.yaml.yaml"], .file (.text "ending")), (["plans", " c.yaml"], .file (.text "blank")),
    (["plans", "c\\d.yaml"], .file (.text "backslash")), (["plans", ".yaml"], .file (.text "empty")),
    (["plans", "..yaml"], .file (.text "dot")), (["plans", "n", "...yaml"], .file (.text "dots")),
    (["parts"], .folder), (["parts", "x "], .file (.text "blank")), (["parts", "y\\z"], .file (.text "backslash"))]
  workingFolder := []

/-- The folder is a tree. -/
theorem oddFiles_isTree : oddFiles.IsTree where
  rooted := FileSystem.rooted_of_entries (by decide +kernel)
  distinct := by decide +kernel
  normal := by decide +kernel
  no_nul := by decide +kernel
  short := by decide +kernel

/-- The template in a folder of its own is found. -/
theorem listed_found_nested :
    oddFiles.IsTree ∧ "n/b" ∈ oddDirectory.projectNames oddFiles ∧
      oddDirectory.project? oddFiles "n/b" = some "b" := by
  have hmem : "n/b" ∈ oddDirectory.projectNames oddFiles :=
    mem_projectNames.2 ⟨Path.ofText "plans", rfl, by decide +kernel⟩
  refine ⟨oddFiles_isTree, hmem, ?_⟩
  obtain ⟨folder, root, content, hfolder, hroot, hentry, hfound⟩ := (listed_found oddDirectory oddFiles_isTree).1 _ hmem
  obtain rfl : Path.ofText "plans" = folder := Option.some.inj hfolder
  obtain rfl : ["plans"] = root := Except.ok.inj (Eq.trans (by decide +kernel) hroot)
  have hcontent : oddFiles.entryAt? ["plans", "n", "b.yaml"] = some (.file (.text "b")) := by decide +kernel
  obtain rfl : Files.Content.text "b" = content := by
    have := hcontent.symm.trans hentry
    simpa using this
  have hverbatim : IsVerbatimProject "n/b" :=
    ⟨⟨by decide, by decide⟩, by decide, by decide, by decide, by decide⟩
  exact (hfound "b" rfl hverbatim).2 (by decide +kernel)

/-- Listed names, and the texts of the files that they are listed for. -/
def oddProjects : List (String × String) :=
  [("a.yaml", "ending"), (" c", "blank"), ("c\\d", "backslash"), ("", "empty"), (".", "dot"), ("n/..", "dots")]

/-- The same for file templates. -/
def oddParts : List (String × String) := [("x ", "blank"), ("y\\z", "backslash")]

/-- **Listed names that are not found.** There are no links, and all files are texts. Each of these names is listed for
    a file and does not give the text of this file; `a.yaml` gives that of another one. -/
theorem listed_not_found :
    oddFiles.IsTree ∧ oddFiles.LinkFree ∧
    (∀ e ∈ oddFiles.entries, ∀ content, e.2 = .file content → ∃ text, content = .text text) ∧
    (∀ x ∈ oddProjects, x.1 ∈ oddDirectory.projectNames oddFiles ∧
      oddFiles.entryAt? ("plans" :: Text.splitOn '/' (x.1 ++ documentSuffix)) = some (.file (.text x.2)) ∧
      oddDirectory.project? oddFiles x.1 ≠ some x.2) ∧
    (∀ x ∈ oddParts, x.1 ∈ oddDirectory.fileNames oddFiles ∧
      oddFiles.entryAt? ("parts" :: Text.splitOn '/' x.1) = some (.file (.text x.2)) ∧
      oddDirectory.file? oddFiles x.1 ≠ some x.2) ∧
    oddDirectory.project? oddFiles "a.yaml" = some "a" := by
  have hlinks : oddFiles.LinkFree := FileSystem.linkFree_of_entries (by simp [oddFiles])
  have hprojects : ∀ x ∈ oddProjects, x.1 ++ documentSuffix ∈ namesIn oddFiles (Path.ofText "plans") := by
    decide +kernel
  have hparts : ∀ x ∈ oddParts, x.1 ∈ namesIn oddFiles (Path.ofText "parts") := by decide +kernel
  have hfound : ∀ x ∈ oddProjects,
      oddFiles.entryAt? ("plans" :: Text.splitOn '/' (x.1 ++ documentSuffix)) = some (.file (.text x.2)) ∧
        oddDirectory.project? oddFiles x.1 ≠ some x.2 := by
    decide +kernel
  have hfound' : ∀ x ∈ oddParts, oddFiles.entryAt? ("parts" :: Text.splitOn '/' x.1) = some (.file (.text x.2)) ∧
      oddDirectory.file? oddFiles x.1 ≠ some x.2 := by
    decide +kernel
  refine ⟨oddFiles_isTree, hlinks, by simp [oddFiles], fun x hx => ⟨?_, hfound x hx⟩, fun x hx => ⟨?_, hfound' x hx⟩,
    by decide +kernel⟩
  · exact mem_projectNames.2 ⟨Path.ofText "plans", rfl, hprojects x hx⟩
  · exact mem_fileNames.2 ⟨Path.ofText "parts", rfl, hparts x hx⟩

end Directory

end Scaffold
