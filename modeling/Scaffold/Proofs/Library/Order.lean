import Scaffold.Proofs.Library.Listing
import Scaffold.Proofs.Text.Letters
import Mathlib.Data.List.Pairwise
import Mathlib.Data.String.Basic

namespace Scaffold

/-!
# The order of listed names

Names are listed once each, and none is left out. They are sorted by the lower case of the names of their files,
which is the order of the names themselves if these are file templates. The ending `.yaml` is taken off the names
of project templates after they have been sorted, and that may leave them out of order: `a-b.yaml` stands in
front of `a.yaml` since a dash counts less than a dot.

* `Directory.HasTemplate` — that a file is a template of a folder, and what its name is;
* `Directory.IsListing` — that names are listed once each, completely and in the order of a key;
* `Chars.behind_iff` — when texts get into order by what is put behind them;
* `Directory.names_listing` — both listings, and which names of project templates are out of order.
-/

open Files (Path Location Entry FileSystem)

/-! ### Texts that end alike -/

namespace Chars

/-- What is in front of both texts does not count. -/
theorem append_lt_append {front s t : List Char} (h : s < t) : front ++ s < front ++ t := by
  induction front with
  | nil => exact h
  | cons c front ih => exact List.cons_lt_cons_iff.2 (.inr ⟨rfl, ih⟩)

/-- **Endings and order.** If two texts are in order with an ending behind both of them, the second one is
    nevertheless less than the first one exactly if the first one is the second one and a tail that is less,
    with the ending behind it, than the ending. -/
theorem behind_iff {ending s t : List Char} (h : ¬ t ++ ending < s ++ ending) :
    t < s ↔ ∃ tail, s = t ++ tail ∧ tail ++ ending < ending := by
  induction t generalizing s with
  | nil =>
    rw [List.nil_append] at h
    simp only [List.nil_append, exists_eq_left']
    cases s with
    | nil => simp
    | cons c s =>
      refine iff_of_true (List.nil_lt_cons c s) (lt_of_le_of_ne (not_lt.1 h) fun heq => ?_)
      have hlength := congrArg List.length heq
      rw [List.length_append, List.length_cons] at hlength
      omega
  | cons d t ih =>
    cases s with
    | nil => simp
    | cons c s =>
      -- The first characters decide, unless they are the same.
      rw [List.cons_append, List.cons_append, List.cons_lt_cons_iff, not_or] at h
      rw [List.cons_lt_cons_iff]
      rcases Decidable.em (d = c) with rfl | hne
      · have hrest : ¬ t ++ ending < s ++ ending := fun hlt => h.2 ⟨rfl, hlt⟩
        simp [ih hrest]
      · refine iff_of_false ?_ ?_
        · rintro (hgt | ⟨heq, -⟩)
          · exact h.1 hgt
          · exact hne heq
        · rintro ⟨tail, heq, -⟩
          rw [List.cons_append] at heq
          exact hne (List.cons.inj heq).1.symm

end Chars

namespace Directory

/-! ### Templates of a folder -/

/-- Whether there is a template called `name` below the folder: a file, not inside of a folder that is not looked
    into, that is not called like a file that is no template. The name is the path from the folder to the file. -/
def HasTemplate (fs : FileSystem) (folder? : Option Path) (name : String) : Prop :=
  ∃ folder root below content, folder? = some folder ∧ fs.locate true folder = .ok root ∧
    fs.entryAt? root = some .folder ∧ fs.entryAt? (root ++ below) = some (.file content) ∧
    (∀ piece ∈ below.dropLast, piece ∉ unlistedFolders) ∧
    (∃ last, below.getLast? = some last ∧ isUnlisted last = false) ∧ name = Text.joinWith "/" below

/-- A path is listed if no folder on the way is left out, nor the name at its end. -/
theorem isListed_iff {below : Location} :
    isListed below = true ↔ (∀ piece ∈ below.dropLast, piece ∉ unlistedFolders) ∧
      ∃ last, below.getLast? = some last ∧ isUnlisted last = false := by
  simp [isListed, Option.any_eq_true]

/-- The folder itself is not listed. -/
theorem ne_nil_of_isListed {below : Location} (h : isListed below = true) : below ≠ [] := by
  rintro rfl
  simp [isListed] at h

/-- The name that is listed for an entry in a folder. -/
def listedName? (root : Location) : Location × Entry → Option String
  | (place, .file _) =>
    let below := place.drop root.length
    if root.isPrefixOf place && isListed below then some (Text.joinWith "/" below) else none
  | _ => none

/-- The name of an entry is the way to it, if it is a file that is listed. -/
theorem listedName?_eq_some_iff {root place : Location} {e : Entry} {name : String} :
    listedName? root (place, e) = some name ↔
      ∃ below content, place = root ++ below ∧ e = .file content ∧ isListed below = true ∧
        name = Text.joinWith "/" below := by
  constructor
  · intro h
    -- A folder or a link has no name of its own here.
    cases e with
    | folder => cases h
    | link target => cases h
    | file content =>
      simp only [listedName?, Option.ite_none_right_eq_some, Bool.and_eq_true, List.isPrefixOf_iff_prefix] at h
      obtain ⟨⟨⟨below, rfl⟩, hlisted⟩, hname⟩ := h
      rw [List.drop_left] at hname hlisted
      exact ⟨below, content, rfl, rfl, hlisted, (Option.some.inj hname).symm⟩
  · rintro ⟨below, content, rfl, rfl, hlisted, rfl⟩
    have hprefix : root.isPrefixOf (root ++ below) = true :=
      List.isPrefixOf_iff_prefix.2 (List.prefix_append _ _)
    simp only [listedName?, List.drop_left, hprefix, hlisted, Bool.and_self, if_true]

/-- A path that leads somewhere is that of a folder if there is one. -/
theorem isFolder_of_locate {fs : FileSystem} {folder : Path} {root : Location}
    (h : fs.locate true folder = .ok root) :
    fs.isFolder folder = true ↔ fs.entryAt? root = some .folder := by
  simp only [FileSystem.isFolder_iff_locate, h, Except.ok.injEq, exists_eq_left']

/-- The names below a folder are those that are listed for the entries in it; without a folder there are none. -/
theorem namesIn_cases (fs : FileSystem) (folder : Path) :
    (∃ root, fs.locate true folder = .ok root ∧ fs.entryAt? root = some .folder ∧
      namesIn fs folder = fs.entries.filterMap (listedName? root)) ∨
    ((∀ root, fs.locate true folder = .ok root → fs.entryAt? root ≠ some .folder) ∧ namesIn fs folder = []) := by
  unfold namesIn
  split
  · rename_i root hroot hfolder
    -- The two ways to say which entries are listed agree.
    refine .inl ⟨root, hroot, (isFolder_of_locate hroot).1 hfolder, List.filterMap_congr fun e _ => ?_⟩
    rcases e with ⟨place, _ | _ | _⟩
    · rfl
    · rfl
    · rfl
  · rename_i hnone
    exact .inr ⟨fun root hroot hfolder => hnone root hroot ((isFolder_of_locate hroot).2 hfolder), rfl⟩

/-- **Completeness.** The names below a folder are those of its templates. -/
theorem mem_namesIn_iff {fs : FileSystem} (hfs : fs.IsTree) {folder : Path} {name : String} :
    name ∈ namesIn fs folder ↔ HasTemplate fs (some folder) name := by
  rcases namesIn_cases fs folder with ⟨root, hroot, hfolder, hnames⟩ | ⟨hnone, hnames⟩
  · rw [hnames, List.mem_filterMap]
    -- An entry is listed if and only if it is a template below the root.
    constructor
    · rintro ⟨⟨place, e⟩, hmem, hname⟩
      obtain ⟨below, content, rfl, rfl, hlisted, rfl⟩ := listedName?_eq_some_iff.1 hname
      have hne := ne_nil_of_isListed hlisted
      exact ⟨folder, root, below, content, rfl, hroot, hfolder, hfs.entryAt?_of_mem (by simp [hne]) hmem,
        (isListed_iff.1 hlisted).1, (isListed_iff.1 hlisted).2, rfl⟩
    · rintro ⟨_, _, below, content, hfolder', hroot', -, hfile, hfolders, hlast, rfl⟩
      obtain rfl := Option.some.inj hfolder'
      obtain rfl := Except.ok.inj (hroot.symm.trans hroot')
      have hlisted := isListed_iff.2 ⟨hfolders, hlast⟩
      have hne := ne_nil_of_isListed hlisted
      exact ⟨(root ++ below, .file content), FileSystem.mem_entries_of_entryAt? (by simp [hne]) hfile,
        listedName?_eq_some_iff.2 ⟨below, content, rfl, rfl, hlisted, rfl⟩⟩
  -- The folder is not there, so it has no templates either.
  · rw [hnames]
    refine iff_of_false List.not_mem_nil ?_
    rintro ⟨_, root, below, content, hfolder', hroot, hfolder, -⟩
    obtain rfl := Option.some.inj hfolder'
    exact hnone root hroot hfolder

/-- A listed name tells where its file stands. -/
theorem place_of_listedName? {fs : FileSystem} (hfs : fs.IsTree) {root : Location} {e : Location × Entry}
    (hmem : e ∈ fs.entries) {name : String} (h : listedName? root e = some name) :
    e.1 = root ++ Text.splitOn '/' name := by
  obtain ⟨below, content, hplace, -, hlisted, rfl⟩ := listedName?_eq_some_iff.1 h
  rw [Text.splitOn_joinWith (ne_nil_of_isListed hlisted) fun piece hpiece => ?_]
  · exact hplace
  · refine (hfs.normal e hmem piece ?_).no_slash
    rw [hplace]
    exact List.mem_append_right _ hpiece

/-- No name is listed for two files. -/
theorem nodup_namesIn {fs : FileSystem} (hfs : fs.IsTree) (folder : Path) : (namesIn fs folder).Nodup := by
  rcases namesIn_cases fs folder with ⟨root, -, -, hnames⟩ | ⟨-, hnames⟩
  · rw [hnames]
    refine List.pairwise_filterMap.2 ((List.pairwise_map.1 hfs.distinct).imp_of_mem ?_)
    intro e e' hmem hmem' hplaces name hname name' hname' heq
    subst heq
    exact hplaces ((place_of_listedName? hfs hmem hname).trans (place_of_listedName? hfs hmem' hname').symm)
  · rw [hnames]
    exact List.nodup_nil

/-! ### Sorting -/

/-- Sorting keeps the names. -/
theorem sorted_perm (names : List String) : (sorted names).Perm names := by
  have hperm := (List.mergeSort_perm (names.map fun n => (Text.lower n, n)) fun a b => !(b.1 < a.1)).map Prod.snd
  have hid : (Prod.snd ∘ fun n : String => (Text.lower n, n)) = id := rfl
  rwa [List.map_map, hid, List.map_id] at hperm

/-- The test of the sort is the order of the keys. -/
theorem le_key_iff (a b : String × String) : (!decide (b.1 < a.1)) = true ↔ a.1 ≤ b.1 := by
  rw [Bool.not_eq_true', decide_eq_false_iff_not, String.not_lt]

/-- Names are sorted by their lower case. -/
theorem sorted_pairwise (names : List String) :
    (sorted names).Pairwise fun m n => Text.lower m ≤ Text.lower n := by
  have htrans (a b c : String × String) (hab : (!decide (b.1 < a.1)) = true) (hbc : (!decide (c.1 < b.1)) = true) :
      (!decide (c.1 < a.1)) = true :=
    (le_key_iff a c).2 (String.le_trans ((le_key_iff a b).1 hab) ((le_key_iff b c).1 hbc))
  have htotal (a b : String × String) : (!decide (b.1 < a.1) || !decide (a.1 < b.1)) = true :=
    Bool.or_eq_true_iff.2 ((String.le_total a.1 b.1).imp (le_key_iff a b).2 (le_key_iff b a).2)
  unfold sorted
  rw [List.pairwise_map]
  refine (List.pairwise_mergeSort htrans htotal _).imp_of_mem ?_
  -- Each name stands beside its key.
  intro a b ha hb hab
  rw [List.mem_mergeSort, List.mem_map] at ha hb
  obtain ⟨m, -, rfl⟩ := ha
  obtain ⟨n, -, rfl⟩ := hb
  exact (le_key_iff (Text.lower m, m) (Text.lower n, n)).1 hab

/-! ### Listings -/

/-- The names are those that `P` says, once each, in the order of `key`. -/
structure IsListing (P : String → Prop) (key : String → String) (names : List String) : Prop where
  nodup : names.Nodup
  mem_iff : ∀ name, name ∈ names ↔ P name
  ordered : names.Pairwise fun m n => key m ≤ key n

/-- The sorted names of a folder list its templates. -/
theorem isListing_sorted {fs : FileSystem} (hfs : fs.IsTree) (folder? : Option Path) :
    IsListing (HasTemplate fs folder?) Text.lower (sorted ((folder?.map (namesIn fs)).getD [])) where
  nodup := by
    rw [(sorted_perm _).nodup_iff]
    cases folder? with
    | none => exact List.nodup_nil
    | some folder => exact nodup_namesIn hfs folder
  mem_iff name := by
    -- A folder that is not set has no templates.
    rw [mem_sorted]
    cases folder? with
    | none =>
      refine iff_of_false List.not_mem_nil ?_
      rintro ⟨folder, root, below, content, hnone, -⟩
      cases hnone
    | some folder => exact mem_namesIn_iff hfs
  ordered := sorted_pairwise _

/-- The names of file templates list them. -/
theorem isListing_fileNames (d : Directory) {fs : FileSystem} (hfs : fs.IsTree) :
    IsListing (HasTemplate fs d.files?) Text.lower (d.fileNames fs) := isListing_sorted hfs d.files?

/-- Taking the ending off leaves the project templates in the order of their files. -/
theorem IsListing.projects {fs : FileSystem} {folder? : Option Path} {names : List String}
    (h : IsListing (HasTemplate fs folder?) Text.lower names) :
    IsListing (fun name => HasTemplate fs folder? (name ++ documentSuffix))
      (fun name => Text.lower (name ++ documentSuffix)) (names.filterMap withoutSuffix) := by
  constructor
  -- Different names have different stems, since they end alike.
  · refine List.pairwise_filterMap.2 (h.nodup.imp ?_)
    intro m n hne stem hm stem' hn heq
    subst heq
    rw [withoutSuffix_eq_some_iff] at hm hn
    exact hne (hm.trans hn.symm)
  · intro name
    simp only [List.mem_filterMap, withoutSuffix_eq_some_iff, exists_eq_right, h.mem_iff]
  -- The order is that of the names with their extension.
  · refine List.pairwise_filterMap.2 (h.ordered.imp ?_)
    intro m n hle stem hm stem' hn
    rw [withoutSuffix_eq_some_iff] at hm hn
    rwa [← hm, ← hn]

/-- Project templates are listed in the order of their files. -/
theorem isListing_projectNames (d : Directory) {fs : FileSystem} (hfs : fs.IsTree) :
    IsListing (fun name => HasTemplate fs d.projects? (name ++ documentSuffix))
      (fun name => Text.lower (name ++ documentSuffix)) (d.projectNames fs) :=
  (isListing_sorted hfs d.projects?).projects

/-! ### Names out of order -/

/-- Whether the file of `m` counts less than that of `n`, though `m` counts more than `n`. -/
def Overtakes (m n : String) : Prop :=
  ∃ tail, Text.lower m = Text.lower n ++ tail ∧ tail ++ documentSuffix < documentSuffix

/-- The suffix is put behind small letters as it is, since no letter in front of it depends on it. -/
theorem lower_append_suffix {name : String} (h : 'Σ' ∉ name.toList) :
    Text.lower (name ++ documentSuffix) = Text.lower name ++ documentSuffix := by
  have hends (before : List Char) : Text.lowerFrom before documentSuffix.toList = documentSuffix.toList := by
    simp [documentSuffix, Text.lowerFrom, Text.lowerChar, Text.asciiLower, Text.isAscii, Text.isAsciiUpper]
  rw [Text.lower, Text.lowerChars, String.toList_append, Text.lowerFrom_append h, hends, Text.lower,
    Text.lowerChars_of_notMem h, String.ofList_append, String.ofList_toList]

/-- Among files in order, the names without the ending are out of order if the one overtakes the other. -/
theorem lower_lt_iff_overtakes {m n : String} (hm : 'Σ' ∉ m.toList) (hn : 'Σ' ∉ n.toList)
    (h : Text.lower (m ++ documentSuffix) ≤ Text.lower (n ++ documentSuffix)) :
    Text.lower n < Text.lower m ↔ Overtakes m n := by
  -- The suffix is the same for both, so the order is decided by what stands in front of it.
  rw [lower_append_suffix hm, lower_append_suffix hn, ← String.not_lt, String.lt_iff, String.toList_append,
    String.toList_append] at h
  rw [String.lt_iff, Chars.behind_iff h]
  constructor
  · rintro ⟨tail, heq, hlt⟩
    refine ⟨.ofList tail, ?_, ?_⟩
    · rw [← String.toList_inj, heq, String.toList_append, String.toList_ofList]
    · rwa [String.lt_iff, String.toList_append, String.toList_ofList]
  · rintro ⟨tail, heq, hlt⟩
    refine ⟨tail.toList, ?_, ?_⟩
    · rw [heq, String.toList_append]
    · rwa [String.lt_iff, String.toList_append] at hlt

/-- A name that overtakes another one comes first with the suffix. -/
theorem Overtakes.lower_lt {m n : String} (hm : 'Σ' ∉ m.toList) (hn : 'Σ' ∉ n.toList) (h : Overtakes m n) :
    Text.lower (m ++ documentSuffix) < Text.lower (n ++ documentSuffix) := by
  obtain ⟨tail, heq, hlt⟩ := h
  rw [String.lt_iff, String.toList_append] at hlt
  rw [lower_append_suffix hm, lower_append_suffix hn, heq, String.lt_iff, String.append_assoc,
    String.toList_append, String.toList_append, String.toList_append]
  exact Chars.append_lt_append hlt

/-- One of two names stands in front of the other one, by its file and by itself. -/
def InOrder (m n : String) : Prop :=
  (Text.lower (m ++ documentSuffix) ≤ Text.lower (n ++ documentSuffix) ∧ Text.lower m ≤ Text.lower n) ∨
    (Text.lower (n ++ documentSuffix) ≤ Text.lower (m ++ documentSuffix) ∧ Text.lower n ≤ Text.lower m)

/-- Being in order does not depend on which name is first. -/
instance : Std.Symm InOrder := ⟨fun _ _ => Or.symm⟩

/-- **Listings.** Each template of a directory is listed once, and nothing else is: the files below the folder by
    their paths, those with the ending `.yaml` among the project templates by their paths without it. The listings
    are in the order of the lower case of the files' names. For file templates, this is the order of the names that
    are listed. For project templates it is, unless one of the names overtakes another one, as far as there is no
    capital sigma in them, whose lower case depends on what is behind it. -/
theorem names_listing (d : Directory) {fs : FileSystem} (hfs : fs.IsTree) :
    IsListing (HasTemplate fs d.files?) Text.lower (d.fileNames fs) ∧
    IsListing (fun name => HasTemplate fs d.projects? (name ++ documentSuffix))
      (fun name => Text.lower (name ++ documentSuffix)) (d.projectNames fs) ∧
    ((∀ name ∈ d.projectNames fs, 'Σ' ∉ name.toList) →
      ((d.projectNames fs).Pairwise (fun m n => Text.lower m ≤ Text.lower n) ↔
        ∀ m ∈ d.projectNames fs, ∀ n ∈ d.projectNames fs, ¬ Overtakes m n)) := by
  have hprojects := d.isListing_projectNames hfs
  refine ⟨d.isListing_fileNames hfs, hprojects, fun hsigma => ⟨fun hordered m hm n hn hover => ?_, fun hnone => ?_⟩⟩
  · -- Wherever the two stand, one of the orders is broken.
    have hfile := hover.lower_lt (hsigma m hm) (hsigma n hn)
    have hname := (lower_lt_iff_overtakes (hsigma m hm) (hsigma n hn) (Std.le_of_lt hfile)).2 hover
    have hne : m ≠ n := by
      rintro rfl
      exact String.lt_irrefl _ hfile
    have hboth := (hprojects.ordered.and hordered).imp (S := InOrder) .inl
    rcases hboth.forall hm hn hne with ⟨-, hle⟩ | ⟨hle, -⟩
    · exact hle hname
    · exact hle hfile
  · refine hprojects.ordered.imp_of_mem fun {m n} hm hn hle hlt => ?_
    exact hnone m hm n hn ((lower_lt_iff_overtakes (hsigma m hm) (hsigma n hn) hle).1 hlt)

/-! ### A dash -/

/-- A folder of project templates, with files that are none. -/
def dashDirectory : Directory := ⟨some (Path.ofText "plans"), none⟩

/-- A folder with a template whose name goes on behind a dash, and one in a folder below. -/
def dashFiles : FileSystem where
  entries := [(["plans"], .folder), (["plans", "a.yaml"], .file (.text "")), (["plans", "a-b.yaml"], .file (.text "")),
    (["plans", "n"], .folder), (["plans", "n", "C.yaml"], .file (.text "")),
    (["plans", "n", "notes"], .file (.text "")), (["plans", ".git"], .folder),
    (["plans", ".git", "d.yaml"], .file (.text "")), (["plans", ".DS_Store"], .file (.text ""))]
  workingFolder := []

/-- It is a tree. -/
theorem dashFiles_isTree : dashFiles.IsTree where
  rooted := FileSystem.rooted_of_entries (by decide +kernel)
  distinct := by decide +kernel
  normal := by decide +kernel
  no_nul := by decide +kernel
  short := by decide +kernel

/-- Its names, in the order in which they are listed. -/
theorem projectNames_dash : dashDirectory.projectNames dashFiles = ["a-b", "a", "n/C"] := by
  -- The files are listed and sorted with their extension.
  have hnames : namesIn dashFiles (Path.ofText "plans") = ["a.yaml", "a-b.yaml", "n/C.yaml", "n/notes"] := by
    decide +kernel
  have hsorted : sorted ["a.yaml", "a-b.yaml", "n/C.yaml", "n/notes"] =
      ["a-b.yaml", "a.yaml", "n/C.yaml", "n/notes"] := by
    have ha : Text.lower "a.yaml" = "a.yaml" := by decide
    have hb : Text.lower "a-b.yaml" = "a-b.yaml" := by decide
    have hc : Text.lower "n/C.yaml" = "n/c.yaml" := by decide
    have hd : Text.lower "n/notes" = "n/notes" := by decide
    simp [sorted, ha, hb, hc, hd, List.mergeSort, List.MergeSort.Internal.splitInTwo, -String.lt_iff_ltb]
  rw [projectNames, dashDirectory, Option.map_some, Option.getD_some, hnames, hsorted]
  decide

/-- The name `a-b` overtakes the name `a`. -/
theorem names_listing_dash :
    dashFiles.IsTree ∧ (∀ name ∈ dashDirectory.projectNames dashFiles, 'Σ' ∉ name.toList) ∧
      ¬ (dashDirectory.projectNames dashFiles).Pairwise (fun m n => Text.lower m ≤ Text.lower n) := by
  have hsigma : ∀ name ∈ dashDirectory.projectNames dashFiles, 'Σ' ∉ name.toList := by
    rw [projectNames_dash]
    decide
  refine ⟨dashFiles_isTree, hsigma, fun hordered => ?_⟩
  have hnone := ((names_listing dashDirectory dashFiles_isTree).2.2 hsigma).1 hordered
  rw [projectNames_dash] at hnone
  exact hnone "a-b" (by decide) "a" (by decide) ⟨"-b", by decide, by decide⟩

/-- **Names out of order.** There are no links, and the names of the project templates are not in the order of
    their lower case. -/
theorem projectNames_out_of_order :
    dashFiles.IsTree ∧ dashFiles.LinkFree ∧ dashDirectory.projectNames dashFiles = ["a-b", "a", "n/C"] ∧
      ¬ (dashDirectory.projectNames dashFiles).Pairwise (fun m n => Text.lower m ≤ Text.lower n) := by
  refine ⟨dashFiles_isTree, FileSystem.linkFree_of_entries (by simp [dashFiles]), projectNames_dash, ?_⟩
  rw [projectNames_dash]
  intro hordered
  exact List.rel_of_pairwise_cons hordered List.mem_cons_self (by decide : Text.lower "a" < Text.lower "a-b")

end Directory

end Scaffold
