import Scaffold.Proofs.Files.Change

namespace Scaffold.Files.FileSystem

/-!
# Down from a folder

A path to a folder may lead there through links. From the folder on, names lead down to what stands below it, and
they lead there as well when they are put behind that path.

* `IsTree` — file systems as they are: entries with names of their own, each of them in a folder;
* `walkWith_down` — from a folder, names lead down;
* `walk_append` — what a walk to a folder goes on with;
* `locate_join` — the location of names that are joined to the path of a folder.
-/

/-- Each entry stands in a folder, no location has two entries, and each name on the way to one is a name that the
    system takes. -/
structure IsTree (fs : FileSystem) : Prop where
  rooted : fs.Rooted
  distinct : (fs.entries.map Prod.fst).Nodup
  normal : ∀ e ∈ fs.entries, ∀ name ∈ e.1, Path.IsNormal name
  no_nul : ∀ e ∈ fs.entries, ∀ name ∈ e.1, '\x00' ∉ name.toList
  short : ∀ e ∈ fs.entries, ∀ name ∈ e.1, name.utf8ByteSize ≤ nameLimit

variable {fs : FileSystem} {at_ root place : Location} {names idle : List String}

/-- What is listed is what stands there. -/
theorem IsTree.entryAt?_of_mem (h : fs.IsTree) {e : Entry} (hne : place ≠ []) (hmem : (place, e) ∈ fs.entries) :
    fs.entryAt? place = some e := by
  obtain ⟨before, after, hentries⟩ := List.append_of_mem hmem
  have hdistinct := h.distinct
  rw [entryAt?, if_neg hne, List.lookup_eq_some_iff]
  refine ⟨before, after, hentries, fun e' he' => ?_⟩
  rw [hentries, List.map_append, List.nodup_append] at hdistinct
  have hother := hdistinct.2.2 e'.1 (List.mem_map_of_mem he') place (by simp)
  simpa using Ne.symm hother

/-- What stands somewhere below the root is listed. -/
theorem mem_entries_of_entryAt? {e : Entry} (hne : place ≠ []) (h : fs.entryAt? place = some e) :
    (place, e) ∈ fs.entries := by
  rw [entryAt?, if_neg hne] at h
  obtain ⟨before, after, hentries, -⟩ := List.lookup_eq_some_iff.1 h
  rw [hentries]
  exact List.mem_append_right _ List.mem_cons_self

/-! ### Walking down -/

section Walks

variable {onLink : Location → List String → Except Fault Location}

/-- Idle pieces lead nowhere else. -/
theorem walkWith_idle {followLast : Bool} (hidle : ∀ piece ∈ idle, Path.isIdle piece = true)
    (h : fs.walkWith followLast onLink at_ idle = .ok place) : place = at_ := by
  induction idle with
  | nil => exact (Except.ok.inj h).symm
  | cons piece idle ih =>
    rw [walkWith] at h
    split at h
    · cases h
    · rw [if_pos (hidle piece List.mem_cons_self)] at h
      exact ih (fun p hp => hidle p (List.mem_cons_of_mem _ hp)) h
    · cases h

/-- From a folder, names lead down to the entry below it, which is not a link. -/
theorem walkWith_down (hfs : fs.Rooted) {followLast : Bool} {e : Entry}
    (hnormal : ∀ name ∈ names, Path.IsNormal name) (hshort : ∀ name ∈ names, name.utf8ByteSize ≤ nameLimit)
    (hentry : fs.entryAt? (at_ ++ names) = some e) (hlink : ∀ target, e ≠ .link target) :
    fs.walkWith followLast onLink at_ names = .ok (at_ ++ names) := by
  induction names generalizing at_ with
  | nil => rw [List.append_nil, walkWith]
  | cons name names ih =>
    have hname : Path.IsNormal name := hnormal name List.mem_cons_self
    -- The entry is there, so everything above it is a folder.
    have hfolder : fs.entryAt? at_ = some .folder :=
      hfs.folder_above (List.cons_ne_nil name names) (by rw [hentry]; simp)
    have hassoc : at_ ++ name :: names = (at_ ++ [name]) ++ names := by simp
    rw [hassoc] at hentry
    have hrest := ih (fun n hn => hnormal n (List.mem_cons_of_mem _ hn))
      (fun n hn => hshort n (List.mem_cons_of_mem _ hn)) hentry
    -- The entry at the first name: the one that is looked for, or a folder around it.
    obtain ⟨e', he', hlink'⟩ : ∃ e', fs.entryAt? (at_ ++ [name]) = some e' ∧ ∀ target, e' ≠ .link target := by
      cases names with
      | nil => exact ⟨e, by simpa using hentry, hlink⟩
      | cons next names =>
        refine ⟨.folder, hfs.folder_above (List.cons_ne_nil next names) (by rw [hentry]; simp), ?_⟩
        simp
    rw [walkWith, hfolder, hname.not_isIdle, if_neg Bool.false_ne_true, if_neg hname.ne_up,
      if_neg (Nat.not_lt.2 (hshort name List.mem_cons_self)), hassoc]
    simp only [he']
    cases e' with
    | folder => exact hrest
    | file content => exact hrest
    | link target => exact absurd rfl (hlink' target)

/-- A walk that ends in a folder goes on from this folder, if that holds of what follows the links. What is idle at
    the end of the walk can be left out. -/
theorem walkWith_append (hidle : ∀ piece ∈ idle, Path.isIdle piece = true)
    (hroot : fs.entryAt? root = some .folder)
    (honLink : ∀ at_ pieces, onLink at_ (pieces ++ idle) = .ok root → onLink at_ (pieces ++ names) = .ok place)
    (hdown : fs.walkWith true onLink root names = .ok place) {pieces : List String}
    (h : fs.walkWith true onLink at_ (pieces ++ idle) = .ok root) :
    fs.walkWith true onLink at_ (pieces ++ names) = .ok place := by
  induction pieces generalizing at_ with
  | nil =>
    obtain rfl : root = at_ := walkWith_idle hidle h
    exact hdown
  | cons piece pieces ih =>
    -- Both walks read the same piece in the same folder, so each test of one decides that of the other.
    rw [List.cons_append, walkWith] at h ⊢
    split at h
    · cases h
    · rename_i hfolder
      simp only
      split at h
      · rename_i hpiece
        rw [if_pos hpiece]
        exact ih h
      rename_i hpiece
      rw [if_neg hpiece]
      split at h
      · rename_i hup
        rw [if_pos hup]
        exact ih h
      rename_i hup
      rw [if_neg hup]
      split at h
      · cases h
      rename_i hshort
      rw [if_neg hshort]
      simp only at h ⊢
      split at h
      · rename_i target htarget
        -- A link that is met before the last piece is followed, with what stands behind it in both lists.
        simp only [Bool.not_true, Bool.and_false, Bool.false_eq_true, if_false] at h ⊢
        rw [← List.append_assoc] at h ⊢
        exact honLink _ _ h
      · exact ih h
      · -- Nothing stands there, so that the walk would not end in a folder.
        rename_i hnone
        split at h
        · rw [Except.ok.inj h, hroot] at hnone
          cases hnone
        · cases h
    · cases h

end Walks

/-- A walk that ends in a folder goes on from this folder, however many links it followed. -/
theorem walk_append (hfs : fs.Rooted) {e : Entry} (hidle : ∀ piece ∈ idle, Path.isIdle piece = true)
    (hroot : fs.entryAt? root = some .folder) (hnormal : ∀ name ∈ names, Path.IsNormal name)
    (hshort : ∀ name ∈ names, name.utf8ByteSize ≤ nameLimit) (hentry : fs.entryAt? (root ++ names) = some e)
    (hlink : ∀ target, e ≠ .link target) {links : Nat} {pieces : List String}
    (h : fs.walk true links at_ (pieces ++ idle) = .ok root) :
    fs.walk true links at_ (pieces ++ names) = .ok (root ++ names) := by
  induction links generalizing at_ pieces with
  | zero =>
    refine walkWith_append hidle hroot (fun _ _ h => ?_) (walkWith_down hfs hnormal hshort hentry hlink) h
    cases h
  | succ links ih =>
    exact walkWith_append hidle hroot (fun _ _ h => ih h) (walkWith_down hfs hnormal hshort hentry hlink) h

/-- **Names in a folder.** What stands below a folder is located by the names that lead there from the folder,
    joined to any path that leads to the folder, if the system takes a path of this length. -/
theorem locate_join (hfs : fs.Rooted) {folder : Path} (hfolder : fs.locate true folder = .ok root)
    (hroot : fs.entryAt? root = some .folder) {text : String} {e : Entry}
    (hnormal : ∀ name ∈ Text.splitOn '/' text, Path.IsNormal name)
    (hnul : ∀ name ∈ Text.splitOn '/' text, '\x00' ∉ name.toList)
    (hshort : ∀ name ∈ Text.splitOn '/' text, name.utf8ByteSize ≤ nameLimit)
    (hentry : fs.entryAt? (root ++ Text.splitOn '/' text) = some e) (hlink : ∀ target, e ≠ .link target)
    (hlimit : (folder.join text).text.utf8ByteSize ≤ pathLimit) :
    fs.locate true (folder.join text) = .ok (root ++ Text.splitOn '/' text) := by
  have hjoin := folder.join_of_normal hnormal
  obtain ⟨idle, hpieces, hidle⟩ := folder.trims_stem
  have hnonempty : (folder.join text).text.isEmpty = false := by
    rw [Bool.eq_false_iff, Ne, String.isEmpty_iff]
    intro hempty
    -- A name is not idle.
    obtain ⟨name, rest, hnames⟩ := List.exists_cons_of_ne_nil (l := Text.splitOn '/' text)
      (by simp [Text.splitOn, Chars.splitOn_ne_nil])
    have hname : name ∈ Text.splitOn '/' text := by
      rw [hnames]
      exact List.mem_cons_self
    have hall := (Path.isIdle_of_text_eq_empty hempty).2 name (by rw [hjoin]; simp [hname])
    rw [(hnormal name hname).not_isIdle] at hall
    cases hall
  -- The joined path passes each test of the search that the folder passed.
  unfold locate at hfolder ⊢
  split at hfolder
  · cases hfolder
  · rename_i hnul'
    split at hfolder
    · cases hfolder
    · split at hfolder
      · cases hfolder
      · rw [hpieces] at hnul' hfolder
        have hnul'' : ¬ (folder.join text).pieces.any (·.toList.contains '\x00') = true := by
          rw [hjoin]
          simp only [List.any_append, Bool.or_eq_true, not_or] at hnul' ⊢
          refine ⟨hnul'.1, ?_⟩
          simpa using hnul
        rw [if_neg hnul'', hnonempty, if_neg Bool.false_ne_true, if_neg (Nat.not_lt.2 hlimit), hjoin]
        exact walk_append hfs hidle hroot hnormal hshort hentry hlink hfolder

end Scaffold.Files.FileSystem
