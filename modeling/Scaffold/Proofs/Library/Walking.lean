import Scaffold.Proofs.Library.Order
import Scaffold.Proofs.Runs
import Mathlib.Data.List.Nodup

namespace Scaffold

/-!
# Going through a folder of templates

The templates of a folder are listed by going from folder to folder. This gives the names of the files below it that
are templates, unless the path of a folder that is looked into is too long for the system. The paths get longer from
folder to folder, and so there is an end to it.

* `FileSystem.mem_children` — what stands right below a place;
* `Directory.Leads` — that the paths of the folders lead where the names in them lead;
* `Directory.Finds` — what is found by the ways that start alike: all that is there, or that a path is too long;
* `Directory.namesBelow_finds` — what is found below a folder;
* `Directory.listing_cases` — listings that are found, and listings that fail;
* `Directory.fileListing_cases`, `Directory.projectListing_cases` — going from folder to folder and filtering all that
  there is give the same names.
-/

open Files (Path Location Entry FileSystem)

/-! ### Right below a place -/

namespace Files.FileSystem

variable {fs : FileSystem} {place root : Location} {folder : Path}

/-- An entry of a folder is listed at the place of the folder with its name behind it. -/
theorem mem_children (hfs : fs.IsTree) {name : String} {e : Entry} :
    (name, e) ∈ fs.children place ↔ fs.entryAt? (place ++ [name]) = some e := by
  rw [children, List.mem_filterMap]
  constructor
  · rintro ⟨⟨spot, e'⟩, hmem, hspot⟩
    rw [Option.ite_none_right_eq_some] at hspot
    obtain ⟨hfront, hlast⟩ := hspot
    obtain ⟨name', hname, heq⟩ := Option.map_eq_some_iff.1 hlast
    obtain ⟨rfl, rfl⟩ := Prod.mk.inj heq
    -- A place is its folder and its last name.
    have hspot : spot = place ++ [name'] := hfront ▸ (List.dropLast_append_getLast? name' hname).symm
    exact hfs.entryAt?_of_mem (by simp) (hspot ▸ hmem)
  · intro hentry
    exact ⟨(place ++ [name], e), mem_entries_of_entryAt? (by simp) hentry, by simp⟩

/-- No two entries of a folder have the same name. -/
theorem pairwise_children (hfs : fs.IsTree) (place : Location) :
    (fs.children place).Pairwise fun c c' => c.1 ≠ c'.1 := by
  -- Places of two children with one name would be the same.
  have hplace {e : Location × Entry} {c : String × Entry}
      (h : (if e.1.dropLast = place then e.1.getLast?.map (·, e.2) else none) = some c) :
      e.1 = place ++ [c.1] := by
    rw [Option.ite_none_right_eq_some] at h
    obtain ⟨hfront, hlast⟩ := h
    obtain ⟨name, hname, rfl⟩ := Option.map_eq_some_iff.1 hlast
    exact hfront ▸ (List.dropLast_append_getLast? name hname).symm
  refine List.pairwise_filterMap.2 ((List.pairwise_map.1 hfs.distinct).imp ?_)
  intro e e' hne c hc c' hc' heq
  exact hne ((hplace hc).trans (heq ▸ (hplace hc').symm))

/-- A name at which something stands is one that the system takes. -/
theorem IsTree.of_mem_place (hfs : fs.IsTree) {e : Entry} (hentry : fs.entryAt? place = some e) {name : String}
    (hname : name ∈ place) :
    Path.IsNormal name ∧ '\x00' ∉ name.toList ∧ name.utf8ByteSize ≤ nameLimit := by
  have hmem := mem_entries_of_entryAt? (List.ne_nil_of_mem hname) hentry
  exact ⟨hfs.normal _ hmem name hname, hfs.no_nul _ hmem name hname, hfs.short _ hmem name hname⟩

/-- A path that the system locates is one that it takes: it is not empty, not too long, and there is no NUL in it. -/
theorem taken_of_locate {followLast : Bool} (h : fs.locate followLast folder = .ok root) :
    0 < folder.text.utf8ByteSize ∧ folder.text.utf8ByteSize ≤ pathLimit ∧
      ∀ piece ∈ folder.pieces, '\x00' ∉ piece.toList := by
  unfold locate at h
  split at h
  · cases h
  · rename_i hnul
    split at h
    · cases h
    · rename_i hempty
      split at h
      · cases h
      · rename_i hlimit
        -- A path without text would be empty.
        refine ⟨Nat.pos_of_ne_zero fun hzero => hempty ?_, Nat.not_lt.1 hlimit, by simpa using hnul⟩
        rw [String.isEmpty_iff, String.utf8ByteSize_eq_zero_iff.1 hzero]

/-- A path that is too long is not looked for. -/
theorem locate_of_long {followLast : Bool} (hnul : ∀ piece ∈ folder.pieces, '\x00' ∉ piece.toList)
    (hlong : pathLimit < folder.text.utf8ByteSize) : fs.locate followLast folder = .error .nameTooLong := by
  have hempty : folder.text.isEmpty = false := by
    rw [Bool.eq_false_iff, Ne, String.isEmpty_iff]
    intro hempty
    rw [hempty] at hlong
    exact Nat.not_lt_zero _ hlong
  rw [locate, if_neg (by simpa using hnul), hempty, if_neg Bool.false_ne_true, if_pos hlong]

end Files.FileSystem

namespace Directory

variable {fs : FileSystem} {folder : Path} {root way front : Location} {name : String}

/-! ### Ways from a folder -/

/-- That the way from a place leads to a file that is a template. -/
def IsTemplateAt (fs : FileSystem) (root way : Location) : Prop :=
  isListed way = true ∧ ∃ content, fs.entryAt? (root ++ way) = some (.file content)

/-- That the way from a place leads to a folder that is looked into. -/
def IsEnteredAt (fs : FileSystem) (root way : Location) : Prop :=
  (∀ name ∈ way, name ∉ unlistedFolders) ∧ fs.entryAt? (root ++ way) = some .folder

/-- A folder has a template of the name if a way leads to one. -/
theorem hasTemplate_iff (hroot : fs.locate true folder = .ok root) (hfolder : fs.entryAt? root = some .folder) :
    HasTemplate fs (some folder) name ↔ ∃ way, IsTemplateAt fs root way ∧ name = Text.joinWith "/" way := by
  constructor
  · rintro ⟨_, _, way, content, hfolder', hroot', -, hfile, hfolders, hlast, rfl⟩
    obtain rfl := Option.some.inj hfolder'
    obtain rfl := Except.ok.inj (hroot.symm.trans hroot')
    exact ⟨way, ⟨isListed_iff.2 ⟨hfolders, hlast⟩, content, hfile⟩, rfl⟩
  · rintro ⟨way, ⟨hlisted, content, hfile⟩, rfl⟩
    exact ⟨folder, root, way, content, rfl, hroot, hfolder, hfile, (isListed_iff.1 hlisted).1,
      (isListed_iff.1 hlisted).2, rfl⟩

/-- A way is listed if its first folder is not left out and the rest is listed. -/
theorem isListed_cons (hway : way ≠ []) :
    isListed (name :: way) = true ↔ name ∉ unlistedFolders ∧ isListed way = true := by
  obtain ⟨next, rest, rfl⟩ := List.exists_cons_of_ne_nil hway
  simp only [isListed_iff, List.dropLast_cons_cons, List.forall_mem_cons, List.getLast?_cons_cons, and_assoc]

/-- A name is listed if it is not left out. -/
theorem isListed_singleton : isListed [name] = true ↔ isUnlisted name = false := by
  simp [isListed_iff]

/-- The way through a folder, as a name. -/
theorem joinWith_cons (hway : way ≠ []) : Text.joinWith "/" (name :: way) = name ++ "/" ++ Text.joinWith "/" way := by
  obtain ⟨next, rest, rfl⟩ := List.exists_cons_of_ne_nil hway
  simp [Text.joinWith, Chars.joinWith, String.ofList_append, String.append_assoc]

/-- Templates have the same name only if the same way leads to them. -/
theorem IsTemplateAt.eq_of_name_eq (hfs : fs.IsTree) {way' : Location} (h : IsTemplateAt fs root way)
    (h' : IsTemplateAt fs root way') (hname : Text.joinWith "/" way = Text.joinWith "/" way') : way = way' := by
  have hsplit {way : Location} (h : IsTemplateAt fs root way) :
      Text.splitOn '/' (Text.joinWith "/" way) = way := by
    obtain ⟨hlisted, content, hfile⟩ := h
    refine Text.splitOn_joinWith (ne_nil_of_isListed hlisted) fun piece hpiece => ?_
    exact (hfs.of_mem_place hfile (List.mem_append_right _ hpiece)).1.no_slash
  rw [← hsplit h, hname, hsplit h']

/-! ### The paths of the folders -/

/-- That a path leads to the folder at a place, unless the system does not take it because of its length. -/
structure Leads (fs : FileSystem) (folder : Path) (root : Location) : Prop where
  isFolder : fs.entryAt? root = some .folder
  locate_short : folder.text.utf8ByteSize ≤ FileSystem.pathLimit → fs.locate true folder = .ok root
  locate_long : FileSystem.pathLimit < folder.text.utf8ByteSize → fs.locate true folder = .error .nameTooLong

/-- A path that leads to a folder. -/
theorem leads_of_locate (hroot : fs.locate true folder = .ok root) (hfolder : fs.entryAt? root = some .folder) :
    Leads fs folder root where
  isFolder := hfolder
  locate_short _ := hroot
  locate_long hlong := absurd hlong (Nat.not_lt.2 (FileSystem.taken_of_locate hroot).2.1)

/-- The path of a folder with a name behind it leads to the folder of this name in it. -/
theorem Leads.join (hfs : fs.IsTree) (h : Leads fs folder root)
    (hshort : folder.text.utf8ByteSize ≤ FileSystem.pathLimit)
    (hchild : fs.entryAt? (root ++ [name]) = some .folder) : Leads fs (folder.join name) (root ++ [name]) := by
  have hmem : name ∈ root ++ [name] := by simp
  obtain ⟨hnormal, hnul, hsize⟩ := hfs.of_mem_place hchild hmem
  have hsplit : Text.splitOn '/' name = [name] := hnormal.splitOn_eq
  have hroot := h.locate_short hshort
  refine ⟨hchild, fun hlimit => ?_, FileSystem.locate_of_long fun piece hpiece => ?_⟩
  -- A name of one piece is found like any other path below the root.
  · have hentry : fs.entryAt? (root ++ Text.splitOn '/' name) = some .folder := by rw [hsplit, hchild]
    have hlocate := FileSystem.locate_join hfs.rooted hroot h.isFolder (by simpa [hsplit] using hnormal)
      (by simpa [hsplit] using hnul) (by simpa [hsplit] using hsize) hentry (by simp) hlimit
    rwa [hsplit] at hlocate
  · rw [Path.pieces_join folder hnormal, List.mem_append, List.mem_singleton] at hpiece
    rcases hpiece with hpiece | rfl
    · exact (FileSystem.taken_of_locate hroot).2.2 piece (folder.trims_stem.isPrefix.subset hpiece)
    · exact hnul

/-- Reading the folder that a path leads to gives its entries. -/
theorem Leads.readFolder (h : Leads fs folder root) (hshort : folder.text.utf8ByteSize ≤ FileSystem.pathLimit) :
    fs.readFolder folder = .ok (fs.children root) := by
  rw [FileSystem.readFolder, h.locate_short hshort]
  simp only [bind, Except.bind, h.isFolder]

/-- A path that is too long is not read. -/
theorem Leads.readFolder_long (h : Leads fs folder root)
    (hlong : FileSystem.pathLimit < folder.text.utf8ByteSize) : fs.readFolder folder = .error .nameTooLong := by
  rw [FileSystem.readFolder, h.locate_long hlong]
  rfl

/-! ### What is found -/

/-- What is found of all to which a way from the folder leads that starts with `front`: the names of the templates,
    once each, where the system takes the path of each folder that is looked into; else that there is one that it
    does not take. -/
def Finds (fs : FileSystem) (folder : Path) (root front : Location) : Except Unread (List String) → Prop
  | .ok names => names.Nodup ∧
      (∀ name, name ∈ names ↔ ∃ way, front <+: way ∧ IsTemplateAt fs root way ∧ name = Text.joinWith "/" way) ∧
      ∀ way, front <+: way → IsEnteredAt fs root way →
        (folder.below way).text.utf8ByteSize ≤ FileSystem.pathLimit
  | .error unread => unread.fault = .nameTooLong ∧ FileSystem.pathLimit < unread.folder.text.utf8ByteSize ∧
      ∃ way, front <+: way ∧ IsEnteredAt fs root way ∧ unread.folder = folder.below way

/-- A way that starts with a name. -/
theorem eq_cons_of_prefix (h : [name] <+: way) : ∃ rest, way = name :: rest := by
  obtain ⟨rest, rfl⟩ := h
  exact ⟨rest, rfl⟩

/-- What is found in a folder that is not looked into: nothing. -/
theorem finds_unlisted (hfolder : fs.entryAt? (root ++ [name]) = some .folder) (hname : name ∈ unlistedFolders) :
    Finds fs folder root [name] (.ok []) := by
  refine ⟨List.nodup_nil, fun n => iff_of_false List.not_mem_nil ?_, fun way hway hentered => ?_⟩
  -- Nothing is listed below a folder that is left out.
  · rintro ⟨way, hway, ⟨hlisted, content, hfile⟩, -⟩
    obtain ⟨rest, rfl⟩ := eq_cons_of_prefix hway
    cases rest with
    | nil =>
      rw [hfolder] at hfile
      cases hfile
    | cons next rest => exact ((isListed_cons (List.cons_ne_nil _ _)).1 hlisted).1 hname
  · obtain ⟨rest, rfl⟩ := eq_cons_of_prefix hway
    exact absurd hname (hentered.1 name List.mem_cons_self)

/-- What is found where no folder stands: the file, if it is a template. -/
theorem finds_leaf (hfs : fs.IsTree) {e : Entry} (he : e ≠ .folder) (hentry : fs.entryAt? (root ++ [name]) = some e)
    {names : List String} (hnodup : names.Nodup)
    (hnames : ∀ n, n ∈ names ↔ (∃ content, e = .file content) ∧ isUnlisted name = false ∧ n = name) :
    Finds fs folder root [name] (.ok names) := by
  have hname : Text.joinWith "/" [name] = name := by simp [Text.joinWith, Chars.joinWith]
  -- Nothing stands below it.
  have hnone {rest : Location} (hrest : rest ≠ []) : fs.entryAt? (root ++ name :: rest) = none := by
    rw [List.append_cons]
    exact hfs.rooted.entryAt?_eq_none (by rw [hentry]; simpa using he) hrest
  -- The only way through the leaf is the leaf itself, which is no folder that could be entered.
  refine ⟨hnodup, fun n => ?_, fun way hway hentered => ?_⟩
  · rw [hnames]
    constructor
    · rintro ⟨⟨content, rfl⟩, hlisted, rfl⟩
      exact ⟨[n], List.prefix_refl _, ⟨isListed_singleton.2 hlisted, content, hentry⟩, hname.symm⟩
    · rintro ⟨way, hway, ⟨hlisted, content, hfile⟩, rfl⟩
      obtain ⟨rest, rfl⟩ := eq_cons_of_prefix hway
      by_cases hrest : rest = []
      · subst hrest
        exact ⟨⟨content, Option.some.inj (hentry.symm.trans hfile)⟩, isListed_singleton.1 hlisted, hname⟩
      · rw [hnone hrest] at hfile
        cases hfile
  · obtain ⟨rest, rfl⟩ := eq_cons_of_prefix hway
    have hfolder := hentered.2
    by_cases hrest : rest = []
    · subst hrest
      exact absurd (Option.some.inj (hentry.symm.trans hfolder)) he
    · rw [hnone hrest] at hfolder
      cases hfolder

/-- What is found in a folder of the folder has the name of that folder in front. -/
theorem Finds.inside {result : Except Unread (List String)} (h : Finds fs (folder.join name) (root ++ [name]) [] result)
    (hfolder : fs.entryAt? (root ++ [name]) = some .folder) (hname : name ∉ unlistedFolders) :
    Finds fs folder root [name] (result.map fun names => names.map fun below => name ++ "/" ++ below) := by
  -- What is below the child is below the root.
  have hassoc (rest : Location) : root ++ [name] ++ rest = root ++ name :: rest := by simp
  have hentered {rest : Location} : IsEnteredAt fs root (name :: rest) ↔ IsEnteredAt fs (root ++ [name]) rest := by
    rw [IsEnteredAt, IsEnteredAt, hassoc, List.forall_mem_cons, and_assoc, and_iff_right hname]
  cases result with
  -- A fault inside is a fault of the folder, at a way that starts with the child.
  | error unread =>
    obtain ⟨hfault, hlong, way, -, hway, hpath⟩ := h
    exact ⟨hfault, hlong, name :: way, List.prefix_append [name] way, hentered.2 hway, hpath⟩
  | ok names =>
    obtain ⟨hnodup, hmem, hshort⟩ := h
    -- The names stay different with the child in front of them.
    refine ⟨List.Nodup.map (fun m n => (String.append_right_inj _).1) hnodup, fun n => ?_,
      fun way hway hentered' => ?_⟩
    · rw [List.mem_map]
      constructor
      · rintro ⟨below, hbelow, rfl⟩
        obtain ⟨way, -, ⟨hlisted, content, hfile⟩, rfl⟩ := (hmem below).1 hbelow
        have hne := ne_nil_of_isListed hlisted
        exact ⟨name :: way, List.prefix_append [name] way,
          ⟨(isListed_cons hne).2 ⟨hname, hlisted⟩, content, by rw [← hassoc, hfile]⟩, (joinWith_cons hne).symm⟩
      · rintro ⟨way, hway, ⟨hlisted, content, hfile⟩, rfl⟩
        obtain ⟨rest, rfl⟩ := eq_cons_of_prefix hway
        -- The file is not the folder itself.
        have hne : rest ≠ [] := by
          rintro rfl
          rw [hfolder] at hfile
          cases hfile
        exact ⟨Text.joinWith "/" rest, (hmem _).2 ⟨rest, List.nil_prefix,
          ⟨((isListed_cons hne).1 hlisted).2, content, by rw [hassoc, hfile]⟩, rfl⟩, (joinWith_cons hne).symm⟩
    · obtain ⟨rest, rfl⟩ := eq_cons_of_prefix hway
      exact hshort rest List.nil_prefix (hentered.1 hentered')

/-- What is found in the entries of a folder is what is found in the folder. -/
theorem finds_flatten (hfs : fs.IsTree) (hshort : folder.text.utf8ByteSize ≤ FileSystem.pathLimit)
    {look : String × Entry → Except Unread (List String)}
    (hlook : ∀ c ∈ fs.children root, Finds fs folder root [c.1] (look c)) :
    Finds fs folder root [] (do return (← (fs.children root).mapM look).flatten) := by
  -- The entry that a way comes to first.
  have hfirst {next : String} {rest : Location} {e : Entry} (hentry : fs.entryAt? (root ++ next :: rest) = some e) :
      ∃ e, (next, e) ∈ fs.children root := by
    rw [List.append_cons] at hentry
    simp only [FileSystem.mem_children hfs]
    by_cases hrest : rest = []
    · subst hrest
      exact ⟨e, by simpa using hentry⟩
    · exact ⟨.folder, hfs.rooted.folder_above hrest (by rw [hentry]; simp)⟩
  rcases mapM_cases look (fs.children root) with ⟨g, hall, hg⟩ | ⟨fault, c, hc, hfails, hall⟩
  · have hfinds {c : String × Entry} (hc : c ∈ fs.children root) : Finds fs folder root [c.1] (.ok (g c)) :=
      hg c hc ▸ hlook c hc
    rw [hall]
    refine ⟨?_, fun n => ?_, fun way _ hentered => ?_⟩
    -- The names below one entry are listed once, and those below two entries differ.
    · rw [← List.flatMap_def, List.nodup_flatMap]
      refine ⟨fun c hc => (hfinds hc).1, (FileSystem.pairwise_children hfs root).imp_of_mem ?_⟩
      -- A name below two entries would be the name of one template.
      intro c c' hc hc' hne n hn hn'
      obtain ⟨way, hway, htemplate, rfl⟩ := ((hfinds hc).2.1 n).1 hn
      obtain ⟨way', hway', htemplate', hname⟩ := ((hfinds hc').2.1 _).1 hn'
      obtain rfl := htemplate.eq_of_name_eq hfs htemplate' hname
      obtain ⟨rest, rfl⟩ := eq_cons_of_prefix hway
      obtain ⟨rest', heq⟩ := eq_cons_of_prefix hway'
      exact hne (List.cons.inj heq).1
    · rw [← List.flatMap_def, List.mem_flatMap]
      constructor
      · rintro ⟨c, hc, hn⟩
        obtain ⟨way, -, htemplate, rfl⟩ := ((hfinds hc).2.1 n).1 hn
        exact ⟨way, List.nil_prefix, htemplate, rfl⟩
      · rintro ⟨way, -, htemplate, rfl⟩
        obtain ⟨next, rest, rfl⟩ := List.exists_cons_of_ne_nil (ne_nil_of_isListed htemplate.1)
        obtain ⟨content, hfile⟩ := htemplate.2
        obtain ⟨e, hmem⟩ := hfirst hfile
        exact ⟨(next, e), hmem,
          ((hfinds hmem).2.1 _).2 ⟨next :: rest, List.prefix_append [next] rest, htemplate, rfl⟩⟩
    -- A folder is entered below one of the children, or it is the one the walk starts in.
    · cases way with
      | nil => exact hshort
      | cons next rest =>
        obtain ⟨e, hmem⟩ := hfirst hentered.2
        exact (hfinds hmem).2.2 _ (List.prefix_append [next] rest) hentered
  · rw [hall]
    have hfinds := hlook c hc
    rw [hfails] at hfinds
    -- The entry that could not be looked into lies below the folder.
    obtain ⟨hfault, hlong, way, -, hentered, hpath⟩ := hfinds
    exact ⟨hfault, hlong, way, List.nil_prefix, hentered, hpath⟩

/-- Where the path that leads to a folder is too long, this folder is the one that is not read. -/
theorem Leads.finds_long (h : Leads fs folder root) (hlong : FileSystem.pathLimit < folder.text.utf8ByteSize) :
    Finds fs folder root [] (.error ⟨folder, .nameTooLong⟩) :=
  ⟨rfl, hlong, [], List.prefix_refl _, ⟨by simp, by rw [List.append_nil, h.isFolder]⟩, rfl⟩

/-- **Going through a folder.** As many levels as there are bytes left for the path are enough. -/
theorem namesBelow_finds (hfs : fs.IsTree) {levels : Nat} (h : Leads fs folder root)
    (hlevels : FileSystem.pathLimit < folder.text.utf8ByteSize + levels) :
    Finds fs folder root [] (namesBelow fs levels folder) := by
  -- The induction is on the levels, which are more than the path may still grow by.
  induction levels generalizing folder root with
  | zero => exact h.finds_long hlevels
  | succ levels ih =>
    by_cases hlong : FileSystem.pathLimit < folder.text.utf8ByteSize
    -- A path that is too long is refused, and the walk ends with it.
    · rw [namesBelow, h.readFolder_long hlong]
      exact h.finds_long hlong
    have hshort := Nat.not_lt.1 hlong
    rw [namesBelow, h.readFolder hshort]
    refine finds_flatten hfs hshort fun c hc => ?_
    obtain ⟨name, e⟩ := c
    have hentry := (FileSystem.mem_children hfs).1 hc
    -- A folder is walked unless it is left out; a file or a link is at the end of its way.
    cases e with
    | folder =>
      rw [namesAt]
      split
      · rename_i hname
        exact finds_unlisted hentry (by simpa using hname)
      · rename_i hname
        have hmem : name ∈ root ++ [name] := by simp
        -- The path of a child is longer, so one level less is enough.
        have hlonger := Path.utf8ByteSize_text_lt_join folder (hfs.of_mem_place hentry hmem).1
        have hfinds := ih (h.join hfs hshort hentry) (by omega)
        have hinside := hfinds.inside hentry (by simpa using hname)
        cases hresult : namesBelow fs levels (folder.join name) <;> rw [hresult] at hinside <;> exact hinside
    | file content =>
      refine finds_leaf hfs (by simp) hentry ?_ fun n => ?_
      · split <;> simp
      · split <;> simp_all
    | link target => exact finds_leaf hfs (by simp) hentry List.nodup_nil (by simp)

/-! ### Listings -/

/-- That the system takes the path of each folder of templates that is looked into. -/
def TakesFolders (fs : FileSystem) (folder? : Option Path) : Prop :=
  ∀ folder root way, folder? = some folder → fs.locate true folder = .ok root → IsEnteredAt fs root way →
    (folder.below way).text.utf8ByteSize ≤ FileSystem.pathLimit

/-- What is listed completely and once each is the same but for the order. -/
theorem IsListing.perm {P : String → Prop} {key key' : String → String} {names names' : List String}
    (h : IsListing P key names) (h' : IsListing P key' names') : names.Perm names' :=
  (List.perm_ext_iff_of_nodup h.nodup h'.nodup).2 fun name => (h.mem_iff name).trans (h'.mem_iff name).symm

/-- **Listing from folder to folder.** If the system takes the path of each folder that is looked into, the templates
    of the folder are listed, once each and in order. Else the listing fails with a path that is too long. -/
theorem listing_cases (hfs : fs.IsTree) (folder? : Option Path) :
    (TakesFolders fs folder? ∧ ∃ names, listing fs folder? = .ok names ∧
      IsListing (HasTemplate fs folder?) Text.lower names) ∨
    (¬ TakesFolders fs folder? ∧ ∃ unread, listing fs folder? = .error unread ∧
      unread.fault = .nameTooLong ∧ FileSystem.pathLimit < unread.folder.text.utf8ByteSize) := by
  -- Without a folder there are no templates, and no folders to look into.
  have hnothing (hnone : ∀ folder root, folder? = some folder → fs.locate true folder = .ok root →
      fs.entryAt? root ≠ some .folder) :
      TakesFolders fs folder? ∧ IsListing (HasTemplate fs folder?) Text.lower [] := by
    refine ⟨fun folder root way hsome hroot hentered => ?_, List.nodup_nil,
      fun name => iff_of_false List.not_mem_nil ?_, List.Pairwise.nil⟩
    · refine absurd ?_ (hnone folder root hsome hroot)
      by_cases hway : way = []
      · subst hway
        simpa using hentered.2
      · exact hfs.rooted.folder_above hway (by rw [hentered.2]; simp)
    · rintro ⟨folder, root, way, content, hsome, hroot, hfolder, -⟩
      exact hnone folder root hsome hroot hfolder
  cases folder? with
  | none =>
    obtain ⟨htakes, hlisting⟩ := hnothing (by simp)
    exact .inl ⟨htakes, [], rfl, hlisting⟩
  | some folder =>
    rw [listing]
    split
    · rename_i hfolder
      obtain ⟨root, hroot, hentry⟩ := FileSystem.isFolder_iff_locate.1 hfolder
      have hpos := (FileSystem.taken_of_locate hroot).1
      -- Each level makes the path longer, so the walk has more levels than the system takes.
      have hlevels : FileSystem.pathLimit < folder.text.utf8ByteSize + FileSystem.pathLimit := by omega
      have hfinds := namesBelow_finds hfs (leads_of_locate hroot hentry) hlevels
      cases hnames : namesBelow fs FileSystem.pathLimit folder with
      | ok names =>
        rw [hnames] at hfinds
        obtain ⟨hnodup, hmem, hshort⟩ := hfinds
        refine .inl ⟨?_, sorted names, rfl, (sorted_perm names).nodup_iff.2 hnodup, fun name => ?_,
          sorted_pairwise names⟩
        · rintro _ root' way hsome hroot' hentered
          obtain rfl := Option.some.inj hsome
          obtain rfl := Except.ok.inj (hroot.symm.trans hroot')
          exact hshort way List.nil_prefix hentered
        · rw [mem_sorted, hmem, hasTemplate_iff hroot hentry]
          simp
      | error unread =>
        rw [hnames] at hfinds
        obtain ⟨hfault, hlong, way, -, hentered, hpath⟩ := hfinds
        refine .inr ⟨fun htakes => ?_, unread, rfl, hfault, hlong⟩
        exact absurd (hpath ▸ htakes folder root way rfl hroot hentered) (Nat.not_le.2 hlong)
    -- What is there is no folder, so nothing is looked into.
    · rename_i hfolder
      obtain ⟨htakes, hlisting⟩ := hnothing fun folder' root hsome hroot hentry =>
        hfolder (FileSystem.isFolder_iff_locate.2 ⟨root, Option.some.inj hsome ▸ hroot, hentry⟩)
      exact .inl ⟨htakes, [], rfl, hlisting⟩

/-- Going from folder to folder lists the same file templates as filtering all that there is. -/
theorem fileListing_cases (d : Directory) (hfs : fs.IsTree) :
    (TakesFolders fs d.files? ∧ ∃ names, d.fileListing fs = .ok names ∧ names.Perm (d.fileNames fs) ∧
      IsListing (HasTemplate fs d.files?) Text.lower names) ∨
    (¬ TakesFolders fs d.files? ∧ ∃ unread, d.fileListing fs = .error unread ∧
      unread.fault = .nameTooLong ∧ FileSystem.pathLimit < unread.folder.text.utf8ByteSize) := by
  refine (listing_cases hfs d.files?).imp_left ?_
  rintro ⟨htakes, names, hnames, hlisting⟩
  exact ⟨htakes, names, hnames, hlisting.perm (d.isListing_fileNames hfs), hlisting⟩

/-- Going from folder to folder lists the same project templates as filtering all that there is. -/
theorem projectListing_cases (d : Directory) (hfs : fs.IsTree) :
    (TakesFolders fs d.projects? ∧ ∃ names, d.projectListing fs = .ok names ∧ names.Perm (d.projectNames fs) ∧
      IsListing (fun name => HasTemplate fs d.projects? (name ++ documentSuffix))
        (fun name => Text.lower (name ++ documentSuffix)) names) ∨
    (¬ TakesFolders fs d.projects? ∧ ∃ unread, d.projectListing fs = .error unread ∧
      unread.fault = .nameTooLong ∧ FileSystem.pathLimit < unread.folder.text.utf8ByteSize) := by
  rw [projectListing]
  rcases listing_cases hfs d.projects? with
    ⟨htakes, names, hnames, hlisting⟩ | ⟨htakes, unread, hfails, hlong⟩
  · refine .inl ⟨htakes, names.filterMap withoutSuffix, by rw [hnames]; rfl, ?_, hlisting.projects⟩
    exact hlisting.projects.perm (d.isListing_projectNames hfs)
  · exact .inr ⟨htakes, unread, by rw [hfails]; rfl, hlong⟩

end Directory

end Scaffold
