import Scaffold.Proofs.Files.Folders

namespace Scaffold.Files.FileSystem

/-!
# Making folders again

Without links, making folders looks only at what their path comes past. So it goes alike in file systems that are
alike there, and once folders have been made, making them again finds them and changes nothing.

* `AgreeOn` — file systems that are alike in a region;
* `makeFolders_congr` — in such file systems folders are made alike, if their path stays in the region;
* `makeFolders_again` — folders that were made are found when they are made again;
* `base_of_makeFolders` — a folder is made only if the path starts from one.
-/

/-- The file systems are alike at the locations in the region, and have the same working folder. -/
structure AgreeOn (region : Location → Prop) (fs fs' : FileSystem) : Prop where
  workingFolder : fs'.workingFolder = fs.workingFolder
  entries : ∀ place, region place → fs'.entryAt? place = fs.entryAt? place

variable {fs fs' : FileSystem} {p : Path} {region : Location → Prop}

/-- The same entry in both systems. -/
theorem AgreeOn.put (h : AgreeOn region fs fs') {place : Location} (hne : place ≠ []) (e : Entry) :
    AgreeOn region (fs.put place e) (fs'.put place e) where
  workingFolder := h.workingFolder
  entries other hother := by
    rw [entryAt?_put _ _ _ _ hne, entryAt?_put _ _ _ _ hne, h.entries other hother]

/-! ### Looking -/

/-- A walk looks only at the locations that its pieces lead to. -/
theorem walkWith_congr (hfs : fs.LinkFree) {followLast : Bool}
    {onLink onLink' : Location → List String → Except Fault Location} {pieces : List String} {at_ : Location}
    (h : ∀ start, start <+: pieces → fs'.entryAt? (follow at_ start) = fs.entryAt? (follow at_ start)) :
    fs'.walkWith followLast onLink' at_ pieces = fs.walkWith followLast onLink at_ pieces := by
  -- The induction is on the pieces of the path; each step looks at the place it has come to and at the next one.
  induction pieces generalizing at_ with
  | nil => rfl
  | cons piece rest ih =>
    have hat : fs'.entryAt? at_ = fs.entryAt? at_ := h [] List.nil_prefix
    have hnext : fs'.entryAt? (next at_ piece) = fs.entryAt? (next at_ piece) := h [piece] ⟨rest, rfl⟩
    have hrest : fs'.walkWith followLast onLink' (next at_ piece) rest =
        fs.walkWith followLast onLink (next at_ piece) rest :=
      ih fun start hstart => h (piece :: start) (List.cons_prefix_cons.2 ⟨rfl, hstart⟩)
    rw [walkWith, walkWith, hat]
    cases fs.entryAt? at_ with
    | none => rfl
    | some e =>
      cases e with
      | file content => rfl
      | link target => rfl
      | folder =>
        dsimp only
        rw [next] at hnext hrest
        split
        · rename_i hidle
          rwa [if_pos hidle] at hrest
        rename_i hidle
        rw [if_neg hidle] at hnext hrest
        split
        · rename_i hup
          rwa [if_pos hup] at hrest
        rename_i hup
        rw [if_neg hup] at hnext hrest
        rw [hnext, hrest]
        cases hentry : fs.entryAt? (at_ ++ [piece]) with
        | none => rfl
        | some e =>
          cases e with
          -- There are no links.
          | link target => exact absurd hentry (hfs _ target)
          | folder => rfl
          | file content => rfl

section Alike

variable (hfs : fs.LinkFree) (h : AgreeOn region fs fs') (hp : ∀ place, fs.Passes p place → region place)
include hfs h hp

/-- A path leads to the same place in both systems. -/
theorem locate_congr (followLast : Bool) : fs'.locate followLast p = fs.locate followLast p := by
  -- A walk reads entries along the way only, and links would be met there too; none are.
  have hwalk (links : Nat) : fs'.walk followLast links (fs.baseOf p) p.pieces =
      fs.walk followLast links (fs.baseOf p) p.pieces := by
    have hway : ∀ start, start <+: p.pieces →
        fs'.entryAt? (follow (fs.baseOf p) start) = fs.entryAt? (follow (fs.baseOf p) start) :=
      fun start hstart => h.entries _ (hp _ ⟨start, hstart, rfl⟩)
    cases links with
    | zero => exact walkWith_congr hfs hway
    | succ links => exact walkWith_congr hfs hway
  have hwalk := hwalk linkLimit
  unfold baseOf at hwalk
  unfold locate
  rw [h.workingFolder, hwalk]

/-- A path is that of a folder in both systems or in none. -/
theorem isFolder_congr : fs'.isFolder p = fs.isFolder p := by
  have hentry : fs'.entryAt? (fs.placeOf p) = fs.entryAt? (fs.placeOf p) := h.entries _ (hp _ (.placeOf fs p))
  unfold isFolder stat
  rw [locate_congr hfs h hp]
  rcases locate_cases hfs true p with ⟨_, hlocate⟩ | ⟨_, fault, hlocate⟩
  · rw [hlocate]
    simp only [bind, Except.bind, hentry]
  · rw [hlocate]
    rfl

/-- One folder is made alike, or the fault is the same. -/
theorem makeFolder_congr :
    (∃ fault, fs.makeFolder p = .error fault ∧ fs'.makeFolder p = .error fault) ∨
      ∃ made made', fs.makeFolder p = .ok made ∧ fs'.makeFolder p = .ok made' ∧ AgreeOn region made made' := by
  -- The folder lies in the region, and so do those on its way.
  have hway : ∀ place, fs.Passes (withoutSlashes p) place → region place :=
    fun place hpasses => hp place (hpasses.of_isPrefix rfl (trims_withoutSlashes p).isPrefix)
  have hentry : fs'.entryAt? (fs.placeOf p) = fs.entryAt? (fs.placeOf p) := h.entries _ (hp _ (.placeOf fs p))
  unfold makeFolder
  rw [locate_congr hfs h hway]
  split
  · exact .inl ⟨_, rfl, rfl⟩
  -- The path leads to its own place in both systems, or to the same fault.
  · rcases locate_cases hfs false (withoutSlashes p) with ⟨_, hlocate⟩ | ⟨_, fault, hlocate⟩
    · rw [hlocate, placeOf_withoutSlashes]
      simp only [bind, Except.bind, hentry]
      cases hplace : fs.entryAt? (fs.placeOf p) with
      | some e => exact .inl ⟨_, rfl, rfl⟩
      | none =>
        refine .inr ⟨_, _, rfl, rfl, h.put ?_ .folder⟩
        intro hnil
        rw [hnil, entryAt?_root] at hplace
        cases hplace
    · rw [hlocate]
      exact .inl ⟨fault, rfl, rfl⟩

/-- Making or finding a folder does the same in both systems. -/
theorem makeOrFind_congr :
    (fs'.makeOrFind p).1 = (fs.makeOrFind p).1 ∧ AgreeOn region (fs.makeOrFind p).2 (fs'.makeOrFind p).2 := by
  unfold makeOrFind
  rcases makeFolder_congr hfs h hp with ⟨fault, hmake, hmake'⟩ | ⟨made, made', hmake, hmake', hmade⟩
  · rw [hmake, hmake', isFolder_congr hfs h hp]
    exact ⟨rfl, h⟩
  · rw [hmake, hmake']
    exact ⟨rfl, hmade⟩

end Alike

/-! ### Making folders -/

/-- One folder is made or found, if need be after those around it. -/
theorem makeFoldersWithin_succ (fuel : Nat) (p : Path) (fs : FileSystem) :
    makeFoldersWithin (fuel + 1) p fs =
      if p.text.isEmpty then (none, fs)
      else match fs.makeFolder p with
      | .error .notFound =>
        match p.parent? with
        | none => (some .notFound, fs)
        | some parent =>
          match makeFoldersWithin fuel parent fs with
          | (none, made) => made.makeOrFind p
          | (some fault, made) => (some fault, made)
      | _ => fs.makeOrFind p := by
  rw [makeFoldersWithin]
  unfold makeOrFind
  split
  · rfl
  · rcases hmake : fs.makeFolder p with ⟨⟨⟩⟩ | made <;> rfl

/-- **Alike.** In file systems that are alike wherever the path comes past, its folders are made alike. -/
theorem makeFoldersWithin_congr (hfs : fs.LinkFree) (h : AgreeOn region fs fs') {fuel : Nat}
    (hp : ∀ place, fs.Passes p place → region place) :
    (makeFoldersWithin fuel p fs').1 = (makeFoldersWithin fuel p fs).1 ∧
      AgreeOn region (makeFoldersWithin fuel p fs).2 (makeFoldersWithin fuel p fs').2 := by
  -- The induction is on the fuel, which bounds the folders above the path.
  induction fuel generalizing p with
  | zero => exact ⟨rfl, h⟩
  | succ fuel ih =>
    rw [makeFoldersWithin_succ, makeFoldersWithin_succ]
    split
    · exact ⟨rfl, h⟩
    have hfound := makeOrFind_congr hfs h hp
    rcases makeFolder_congr hfs h hp with ⟨fault, hmake, hmake'⟩ | ⟨made, made', hmake, hmake', -⟩
    · rw [hmake, hmake']
      cases fault with
      | notFound =>
        dsimp only
        cases hparent : p.parent? with
        | none => exact ⟨rfl, h⟩
        | some parent =>
          dsimp only
          obtain ⟨habs, hpieces⟩ := Path.isPrefix_of_parent? hparent
          obtain ⟨hsame, hagree⟩ := ih fun place hpasses => hp place (hpasses.of_isPrefix habs hpieces)
          have hgrows := (makeFoldersWithin_grows hfs (rfl : makeFoldersWithin fuel parent fs = _)).1
          -- What the two systems make for the folder above is all that is needed of it.
          generalize makeFoldersWithin fuel parent fs = inner at hsame hagree hgrows ⊢
          generalize makeFoldersWithin fuel parent fs' = inner' at hsame hagree ⊢
          obtain ⟨fault?, made⟩ := inner
          obtain ⟨fault?', made'⟩ := inner'
          obtain rfl : fault?' = fault? := hsame
          cases fault?' with
          | none =>
            -- The folder above was made within the region, so the folder itself is made alike.
            refine makeOrFind_congr (hgrows.linkFree hfs) hagree fun place hpasses => hp place ?_
            rwa [passes_congr hgrows.workingFolder] at hpasses
          | some fault => exact ⟨rfl, hagree⟩
      | _ => exact hfound
    · rw [hmake, hmake']
      exact hfound

/-- Making folders does the same in both systems. -/
theorem makeFolders_congr (hfs : fs.LinkFree) (h : AgreeOn region fs fs')
    (hp : ∀ place, fs.Passes p place → region place) :
    (fs'.makeFolders p).1 = (fs.makeFolders p).1 ∧
      AgreeOn region (fs.makeFolders p).2 (fs'.makeFolders p).2 :=
  makeFoldersWithin_congr hfs h hp

/-! ### Making them again -/

/-- An open path is reached, if the system takes it. -/
theorem IsOpen.reachable (h : fs.IsOpen p) (hfits : p.Fits) : fs.Reachable p := by
  refine ⟨hfits.accepted, walkable_iff.2 ⟨hfits.names, fun start piece hstart => ?_⟩⟩
  exact h _ ⟨start, (List.prefix_append _ _).trans hstart, rfl⟩

/-- An open path is that of a folder. -/
theorem IsOpen.isFolder_eq (hfs : fs.LinkFree) (h : fs.IsOpen p) (hfits : p.Fits) : fs.isFolder p = true :=
  (isFolder_iff hfs).2 ⟨h.reachable hfits, h.isFolder⟩

/-- The system takes a path with slashes at its end, if it takes it without them and they do not make it too
    long. -/
theorem fits_of_withoutSlashes (h : (withoutSlashes p).Fits) (hshort : p.text.utf8ByteSize ≤ pathLimit) :
    p.Fits := by
  have htrims := trims_withoutSlashes p
  refine ⟨⟨no_nul_of_trims htrims h.accepted.no_nul, fun hempty => ?_, hshort⟩, fun piece hpiece => ?_⟩
  · have hsize := Path.utf8ByteSize_text_le (p := p) (q := withoutSlashes p) rfl htrims.isPrefix
    rw [hempty] at hsize
    exact h.accepted.nonempty (String.utf8ByteSize_eq_zero_iff.1 (Nat.le_zero.1 hsize))
  · obtain ⟨rest, hrest, hidle⟩ := htrims
    rw [hrest, List.mem_append] at hpiece
    rcases hpiece with hpiece | hpiece
    · exact h.names piece hpiece
    · exact utf8ByteSize_le_of_isIdle (hidle piece hpiece)

/-- A folder that is there does not have to be made. -/
theorem makeOrFind_of_isFolder (h : fs.isFolder p = true) : (fs.makeOrFind p).1 = none := by
  unfold makeOrFind
  split
  · rfl
  · exact if_pos h

/-- A folder that was made or found without a fault is there. If it was made, the system says so when it is to make
    it again. -/
theorem isFolder_of_makeOrFind (hfs : fs.LinkFree) (h : fs.makeOrFind p = (none, fs')) :
    fs'.isFolder p = true ∧ (fs' = fs ∨ fs'.makeFolder p = .error .exists_) := by
  unfold makeOrFind at h
  split at h
  · rename_i made hmake
    cases h
    obtain ⟨hgrows, hopen⟩ := makeFolder_grows hfs hmake
    obtain ⟨hreach, hshort, -, -⟩ := (makeFolder_eq_ok_iff hfs).1 hmake
    have hfs' := hgrows.linkFree hfs
    refine ⟨hopen.isFolder_eq hfs' (fits_of_withoutSlashes hreach.fits hshort), .inr ?_⟩
    have hopen' : fs'.IsOpen (withoutSlashes p) := fun place hpasses =>
      hopen place (hpasses.of_isPrefix rfl (trims_withoutSlashes p).isPrefix)
    -- The folder is there now, so it cannot be made again.
    refine makeFolder_of_occupied ((locate_eq_ok_iff hfs' false _).2 ⟨rfl, hopen'.reachable hreach.fits⟩) hshort ?_
    rw [hopen'.isFolder]
    simp
  · by_cases hfolder : fs.isFolder p = true
    · rw [if_pos hfolder] at h
      cases h
      exact ⟨hfolder, .inl rfl⟩
    · rw [if_neg hfolder] at h
      cases h

/-- **Again.** Folders that were made without a fault are made again without one. -/
theorem makeFoldersWithin_again {fuel : Nat} (hfs : fs.LinkFree) (h : makeFoldersWithin fuel p fs = (none, fs')) :
    (makeFoldersWithin fuel p fs').1 = none := by
  induction fuel generalizing p fs fs' with
  | zero => cases h
  | succ fuel ih =>
    -- Where the folder was made last, it is there, and the system says so.
    have hexists (hfolder : fs'.isFolder p = true) (hmake : fs'.makeFolder p = .error .exists_) :
        (makeFoldersWithin (fuel + 1) p fs').1 = none := by
      rw [makeFoldersWithin_succ, hmake]
      split
      · rfl
      · exact makeOrFind_of_isFolder hfolder
    -- The empty path, a folder that is made at once, a fault, or a folder made behind its parent.
    rcases makeFoldersWithin_cases h with ⟨htext, rfl⟩ | hone | ⟨hfault, -⟩ |
      ⟨parent, inner?, made, hparent, hinner, hrest⟩
    · rw [h]
    · obtain ⟨hfolder, rfl | hmake⟩ := isFolder_of_makeOrFind hfs hone
      · rw [h]
      · exact hexists hfolder hmake
    · cases hfault
    · rcases hrest with ⟨rfl, hone⟩ | ⟨hfault, -⟩
      · have hmade := (makeFoldersWithin_grows hfs hinner).1.linkFree hfs
        obtain ⟨hfolder, rfl | hmake⟩ := isFolder_of_makeOrFind hmade hone
        · -- It was found behind its parent, which is made again first.
          have hagain := ih hfs hinner
          rw [makeFoldersWithin_succ, hparent]
          split
          · rfl
          · split
            · dsimp only
              have hgrows := (makeFoldersWithin_grows hmade (rfl : makeFoldersWithin fuel parent fs' = _)).1
              generalize makeFoldersWithin fuel parent fs' = twice at hagain hgrows ⊢
              obtain ⟨fault?, twice⟩ := twice
              obtain rfl : fault? = none := hagain
              obtain ⟨hreach, hentry⟩ := (isFolder_iff hmade).1 hfolder
              have hopen : twice.IsOpen p := by
                intro place hpasses
                rw [passes_congr hgrows.workingFolder] at hpasses
                exact hgrows.entryAt?_of_some (hreach.isOpen hentry place hpasses)
              exact makeOrFind_of_isFolder (hopen.isFolder_eq (hgrows.linkFree hmade) hreach.fits)
            · exact makeOrFind_of_isFolder hfolder
        · exact hexists hfolder hmake
      · exact absurd rfl hfault

/-- Folders that have been made are found the second time. -/
theorem makeFolders_again (hfs : fs.LinkFree) (h : (fs.makeFolders p).1 = none) :
    ((fs.makeFolders p).2.makeFolders p).1 = none :=
  makeFoldersWithin_again hfs (Prod.ext h rfl)

/-! ### Where they start -/

/-- The system gets along a path only from a folder. -/
theorem Reachable.base (h : fs.Reachable p) : fs.entryAt? (fs.baseOf p) = some .folder := by
  cases hpieces : p.pieces with
  | nil =>
    rw [baseOf, if_pos (h.1.absolute_of_nil hpieces), entryAt?_root]
  | cons piece rest => exact (walkable_iff.1 h.2).2 [] piece ⟨rest, hpieces.symm⟩

/-- Where a folder was made, there is a folder that the path starts from. -/
theorem base_of_makeOrFind (hfs : fs.LinkFree) (h : fs.makeOrFind p = (none, fs')) :
    fs.entryAt? (fs.baseOf p) = some .folder := by
  unfold makeOrFind at h
  split at h
  · rename_i made hmake
    exact ((makeFolder_eq_ok_iff hfs).1 hmake).1.base
  · by_cases hfolder : fs.isFolder p = true
    · exact ((isFolder_iff hfs).1 hfolder).1.base
    · rw [if_neg hfolder] at h
      cases h

/-- Folders are made only by a path that starts from one, or by the empty path, for which none is made. -/
theorem base_of_makeFoldersWithin {fuel : Nat} (hfs : fs.LinkFree)
    (h : makeFoldersWithin fuel p fs = (none, fs')) :
    p.text = "" ∧ fs' = fs ∨ fs.entryAt? (fs.baseOf p) = some .folder := by
  -- The induction is on the fuel; the folder where the path starts is the same for all folders above it.
  induction fuel generalizing p fs' with
  | zero => cases h
  | succ fuel ih =>
    rcases makeFoldersWithin_cases h with hempty | hone | ⟨hfault, -⟩ |
      ⟨parent, inner?, made, hparent, hinner, hrest⟩
    · exact .inl hempty
    · exact .inr (base_of_makeOrFind hfs hone)
    · cases hfault
    · rcases hrest with ⟨rfl, hone⟩ | ⟨hfault, -⟩
      · refine .inr ?_
        have hbase := baseOf_congr (rfl : fs.workingFolder = fs.workingFolder) (Path.isPrefix_of_parent? hparent).1
        rcases ih hinner with ⟨-, rfl⟩ | hfolder
        · exact base_of_makeOrFind hfs hone
        · rwa [hbase] at hfolder
      · exact absurd rfl hfault

/-- Where folders were made, there is a folder that the path starts from. -/
theorem base_of_makeFolders (hfs : fs.LinkFree) (htext : p.text ≠ "") (h : (fs.makeFolders p).1 = none) :
    fs.entryAt? (fs.baseOf p) = some .folder :=
  (base_of_makeFoldersWithin hfs (Prod.ext h rfl)).resolve_left fun hempty => htext hempty.1

end Scaffold.Files.FileSystem
