import Scaffold.Proofs.Files.Change
import Scaffold.Proofs.Files.Walks

namespace Scaffold.Files.FileSystem

/-!
# Making folders

Making a folder with those around it only adds folders, where the path comes past, and this also if it fails
halfway.

* `Grows fs fs' passed` — the relation between the file systems before and after;
* `makeFolders_grows` — it holds whether or not there is a fault, and keeps `LinkFree` and `Rooted`;
* `makeFolders_isOpen` — without a fault, the path comes past folders only afterwards;
* `makeFolders_of_isFolder`, `makeFolders_around` — where a folder stands already, nothing happens, whatever links
  there are.
-/

/-- Folders were added to `fs` at some of the locations that are passed, and nothing else changed. -/
structure Grows (fs fs' : FileSystem) (passed : Location → Prop) : Prop where
  workingFolder : fs'.workingFolder = fs.workingFolder
  entries : ∀ other, fs'.entryAt? other = fs.entryAt? other ∨
    passed other ∧ fs.entryAt? other = none ∧ fs'.entryAt? other = some .folder
  rooted : fs.Rooted → fs'.Rooted

namespace Grows

variable {fs fs' fs'' : FileSystem} {passed : Location → Prop}

/-- A system that does not change. -/
theorem refl (fs : FileSystem) (passed : Location → Prop) : Grows fs fs passed where
  workingFolder := rfl
  entries _ := .inl rfl
  rooted h := h

/-- What stood before stands after. -/
theorem entryAt?_of_some (h : Grows fs fs' passed) {other : Location} {e : Entry}
    (he : fs.entryAt? other = some e) : fs'.entryAt? other = some e := by
  rcases h.entries other with hsame | ⟨_, hnone, _⟩
  · rw [hsame, he]
  · rw [he] at hnone
    cases hnone

/-- Away from the way nothing changes. -/
theorem entryAt?_of_not_passed (h : Grows fs fs' passed) {other : Location} (hother : ¬ passed other) :
    fs'.entryAt? other = fs.entryAt? other := by
  rcases h.entries other with hsame | ⟨hpassed, _⟩
  · exact hsame
  · exact absurd hpassed hother

/-- Where the path comes past folders only, nothing changes. -/
theorem entryAt?_of_isOpen {p : Path} (h : Grows fs fs' (fs.Passes p)) (hopen : fs.IsOpen p)
    (other : Location) : fs'.entryAt? other = fs.entryAt? other := by
  rcases h.entries other with hsame | ⟨hpassed, hnone, _⟩
  · exact hsame
  · rw [hopen other hpassed] at hnone
    cases hnone

/-- Folders bring no link into the system. -/
theorem linkFree (h : Grows fs fs' passed) (hfs : fs.LinkFree) : fs'.LinkFree := by
  intro other target
  rcases h.entries other with hsame | ⟨_, _, hfolder⟩
  · rw [hsame]
    exact hfs other target
  · rw [hfolder]
    simp

/-- One change behind the other. -/
theorem trans (h : Grows fs fs' passed) (h' : Grows fs' fs'' passed) : Grows fs fs'' passed where
  workingFolder := h'.workingFolder.trans h.workingFolder
  entries other := by
    rcases h.entries other with hsame | ⟨hpassed, hnone, hfolder⟩
    · rw [← hsame]
      exact h'.entries other
    · exact .inr ⟨hpassed, hnone, h'.entryAt?_of_some hfolder⟩
  rooted := h'.rooted ∘ h.rooted

/-- The region may be a larger one. -/
theorem mono {passed' : Location → Prop} (h : Grows fs fs' passed)
    (hpassed : ∀ place, passed place → passed' place) : Grows fs fs' passed' where
  workingFolder := h.workingFolder
  entries other := (h.entries other).imp_right fun hother => ⟨hpassed other hother.1, hother.2⟩
  rooted := h.rooted

end Grows

/-! ### Making folders -/

section MakeFolders

variable {fs : FileSystem} {p : Path}

/-- No folder is made for the empty path. -/
theorem makeFolders_of_empty (h : p.text = "") : fs.makeFolders p = (none, fs) := by
  rw [makeFolders, makeFoldersWithin]
  simp [h]

/-- No folder is made where the path leads to one, through links or not. -/
theorem makeFolders_of_isFolder (hslash : withoutSlashes p = p) (h : fs.isFolder p = true) :
    fs.makeFolders p = (none, fs) := by
  obtain ⟨goal, hgoal, hentry⟩ := isFolder_iff_locate.1 h
  obtain ⟨place, hplace, hsome⟩ := occupied_iff_locate.1
    (occupied_of_leads (leads_iff_locate.2 ⟨goal, hgoal, by rw [hentry]; simp⟩))
  have haccepted := (locate_eq_ok_iff_walk.1 hplace).1
  have hmake := makeFolder_of_occupied (by rwa [hslash]) haccepted.short hsome
  rw [makeFolders, makeFoldersWithin]
  simp only [hmake, h, if_true]
  split <;> rfl

/-- The folder around what a path locates is there, and none is made by a path of that folder. -/
theorem makeFolders_around {q : Path} {followLast : Bool} {place : Location} {init rest : List String}
    {piece : String} (hlocate : fs.locate followLast p = .ok place) (hpieces : p.pieces = init ++ piece :: rest)
    (habs : q.absolute = p.absolute) (htrims : Path.Trims q.pieces init) (hslash : q.pieces.getLast? ≠ some "") :
    fs.makeFolders q = (none, fs) := by
  obtain ⟨haccepted, hwalk⟩ := locate_eq_ok_iff_walks.1 hlocate
  -- The folder is on the way of the path that was found to lead somewhere.
  have hstart : q.pieces <+: p.pieces := htrims.isPrefix.trans ⟨piece :: rest, hpieces.symm⟩
  by_cases hempty : q.text = ""
  · exact makeFolders_of_empty hempty
  · obtain ⟨mid, _, hmid, hinit, _⟩ := hwalk.split hpieces
    have hq : q.IsAccepted := {
      no_nul := fun name hname => haccepted.no_nul name (hstart.subset hname)
      nonempty := hempty
      short := (Path.utf8ByteSize_text_le habs hstart).trans haccepted.short }
    rw [← baseOf_congr rfl habs] at hinit
    refine makeFolders_of_isFolder (withoutSlashes_eq hslash) ?_
    exact isFolder_iff_locate.2 ⟨mid, locate_eq_ok_iff_walks.2 ⟨hq, hinit.of_trims htrims⟩, hmid⟩

/-- A path that is reached, and at whose location nothing stands, is about an entry of a folder. -/
theorem Reachable.exists_parent (hrooted : fs.Rooted) (h : fs.Reachable p)
    (hnone : fs.entryAt? (fs.placeOf p) = none) :
    ∃ parent name, fs.placeOf p = parent ++ [name] ∧ fs.entryAt? parent = some .folder := by
  -- A path without pieces leads to the root or to the working folder, which are there.
  rcases List.eq_nil_or_concat p.pieces with hnil | ⟨init, last, hpieces⟩
  · rw [placeOf, baseOf, if_pos (h.1.absolute_of_nil hnil), hnil, follow_nil, fs.entryAt?_root] at hnone
    cases hnone
  · rw [List.concat_eq_append] at hpieces
    have hfolder := (walkable_iff.1 h.2).2 init last (hpieces ▸ List.prefix_refl _)
    -- The last piece is idle, leads up, or is the name that is missing in its folder.
    rw [placeOf, hpieces, follow_append, follow_cons, follow_nil, next] at hnone ⊢
    split at hnone
    · rw [hfolder] at hnone
      cases hnone
    · rename_i hidle
      rw [if_neg hidle]
      split at hnone
      · -- Above a folder there is one.
        rcases List.eq_nil_or_concat (follow (fs.baseOf p) init) with hroot | ⟨above, name, habove⟩
        · rw [hroot, List.dropLast_nil, fs.entryAt?_root] at hnone
          cases hnone
        · rw [List.concat_eq_append] at habove
          rw [habove] at hfolder
          rw [habove, List.dropLast_concat, hrooted above name (by rw [hfolder]; simp)] at hnone
          cases hnone
      · rename_i hup
        rw [if_neg hup]
        exact ⟨_, last, rfl, hfolder⟩

/-- One folder is made, or nothing happens. -/
theorem makeFolder_grows (hfs : fs.LinkFree) {fs' : FileSystem} (h : fs.makeFolder p = .ok fs') :
    Grows fs fs' (fs.Passes p) ∧ fs'.IsOpen p := by
  obtain ⟨hreach, -, hnone, rfl⟩ := (makeFolder_eq_ok_iff hfs).1 h
  -- At the root there is a folder already.
  have hne : fs.placeOf p ≠ [] := by
    intro hnil
    rw [hnil, fs.entryAt?_root] at hnone
    cases hnone
  have hgrows : Grows fs (fs.put (fs.placeOf p) .folder) (fs.Passes p) := {
    workingFolder := rfl
    entries := fun other => by
      rw [entryAt?_put _ _ _ _ hne]
      split
      · rename_i heq
        rw [heq]
        exact .inr ⟨.placeOf fs p, hnone, rfl⟩
      · exact .inl rfl
    rooted := fun hrooted => by
      rw [← placeOf_withoutSlashes] at hnone ⊢
      obtain ⟨parent, name, hplace, hparent⟩ := hreach.exists_parent hrooted hnone
      rw [hplace]
      exact hrooted.put hparent (.inl rfl) }
  refine ⟨hgrows, fun place hpasses => ?_⟩
  rw [passes_congr hgrows.workingFolder] at hpasses
  -- The way passes the new folder, or what was passed before.
  rcases hreach.passes (hpasses.of_trims rfl (trims_withoutSlashes p)) with hplace | hfolder
  · rw [placeOf_withoutSlashes] at hplace
    rw [entryAt?_put _ _ _ _ hne, if_pos hplace]
  · exact hgrows.entryAt?_of_some hfolder

/-- Makes a folder, or finds one. -/
def makeOrFind (fs : FileSystem) (p : Path) : Option Fault × FileSystem :=
  match fs.makeFolder p with
  | .ok fs => (none, fs)
  | .error fault => (if fs.isFolder p then none else some fault, fs)

/-- One folder is made or found, and the path is open behind it. -/
theorem makeOrFind_grows (hfs : fs.LinkFree) {fault? : Option Fault} {fs' : FileSystem}
    (h : fs.makeOrFind p = (fault?, fs')) :
    Grows fs fs' (fs.Passes p) ∧ (fault? = none → fs'.IsOpen p) := by
  rw [makeOrFind] at h
  cases hmake : fs.makeFolder p with
  | ok made =>
    rw [hmake] at h
    cases h
    have hmade := makeFolder_grows hfs hmake
    exact ⟨hmade.1, fun _ => hmade.2⟩
  | error fault =>
    rw [hmake] at h
    obtain ⟨hfault, rfl⟩ := Prod.mk.inj h
    refine ⟨.refl _ _, fun hnone => ?_⟩
    -- Nothing was made; without a fault there was a folder.
    by_cases hisFolder : fs.isFolder p = true
    · obtain ⟨hreach, hfolder⟩ := (isFolder_iff hfs).1 hisFolder
      exact hreach.isOpen hfolder
    · rw [if_neg hisFolder] at hfault
      rw [← hfault] at hnone
      cases hnone

/-- What making folders does: nothing for the empty path, one folder if that is enough, and otherwise
    those around it first. -/
theorem makeFoldersWithin_cases {fuel : Nat} {fault? : Option Fault} {fs' : FileSystem}
    (h : makeFoldersWithin (fuel + 1) p fs = (fault?, fs')) :
    (p.text = "" ∧ fs' = fs) ∨ fs.makeOrFind p = (fault?, fs') ∨
      (fault? = some .notFound ∧ fs' = fs) ∨
      ∃ parent inner? made, p.parent? = some parent ∧
        makeFoldersWithin fuel parent fs = (inner?, made) ∧
        (inner? = none ∧ made.makeOrFind p = (fault?, fs') ∨ fault? ≠ none ∧ fs' = made) := by
  -- The cases follow the attempts: the folder itself, and the one above it if that is missing.
  rw [makeFoldersWithin] at h
  dsimp only at h
  split at h
  · rename_i hempty
    cases h
    exact .inl ⟨by simpa using hempty, rfl⟩
  · refine .inr ?_
    split at h
    · rename_i made hmake
      refine .inl ?_
      rw [makeOrFind, hmake]
      exact h
    · split at h
      · cases h
        exact .inr (.inl ⟨rfl, rfl⟩)
      · rename_i parent hparent
        refine .inr (.inr ?_)
        cases hinner : makeFoldersWithin fuel parent fs with
        | mk inner? made =>
          refine ⟨parent, inner?, made, hparent, hinner, ?_⟩
          rw [hinner] at h
          cases inner? with
          | none => exact .inl ⟨rfl, h⟩
          | some fault =>
            cases h
            exact .inr ⟨by simp, rfl⟩
    · rename_i fault _ hmake
      refine .inl ?_
      rw [makeOrFind, hmake]
      exact h

/-- **Making folders.** Folders are added where the path comes past, also if that fails halfway; without
    a fault it comes past folders only. The empty path is no location, and nothing is made for it. -/
theorem makeFoldersWithin_grows (hfs : fs.LinkFree) {fuel : Nat} {fault? : Option Fault}
    {fs' : FileSystem} (h : makeFoldersWithin fuel p fs = (fault?, fs')) :
    Grows fs fs' (fs.Passes p) ∧ (fault? = none → p.text = "" ∨ fs'.IsOpen p) := by
  -- The induction is on the fuel, which bounds the folders above the path.
  induction fuel generalizing p fault? fs' with
  | zero =>
    cases h
    exact ⟨.refl _ _, by simp⟩
  | succ fuel ih =>
    rcases makeFoldersWithin_cases h with ⟨htext, rfl⟩ | hone | ⟨rfl, rfl⟩ |
      ⟨parent, inner?, made, hparent, hinner, hrest⟩
    · exact ⟨.refl _ _, fun _ => .inl htext⟩
    · have hgrows := makeOrFind_grows hfs hone
      exact ⟨hgrows.1, fun hnone => .inr (hgrows.2 hnone)⟩
    · exact ⟨.refl _ _, by simp⟩
    · obtain ⟨habs, hpieces⟩ := Path.isPrefix_of_parent? hparent
      have hmade := (ih hinner).1.mono fun _ hpasses => hpasses.of_isPrefix habs hpieces
      rcases hrest with ⟨rfl, hone⟩ | ⟨hsome, rfl⟩
      -- The folder above is made first, and the folder itself in the system with it.
      · have hgrows := makeOrFind_grows (hmade.linkFree hfs) hone
        rw [passes_congr hmade.workingFolder] at hgrows
        exact ⟨hmade.trans hgrows.1, fun hnone => .inr (hgrows.2 hnone)⟩
      · exact ⟨hmade, fun hnone => absurd hnone hsome⟩

/-- Making folders changes nothing but what the path comes past. -/
theorem makeFolders_grows (hfs : fs.LinkFree) (p : Path) :
    Grows fs (fs.makeFolders p).2 (fs.Passes p) :=
  (makeFoldersWithin_grows hfs rfl).1

/-- Folders that were made are there. The empty path is about the working folder. -/
theorem makeFolders_isOpen (hfs : fs.LinkFree)
    (hempty : p.text = "" → fs.entryAt? fs.workingFolder = some .folder)
    (h : (fs.makeFolders p).1 = none) : (fs.makeFolders p).2.IsOpen p := by
  rcases (makeFoldersWithin_grows hfs rfl).2 h with htext | hopen
  · have hgrows := makeFolders_grows hfs p
    obtain ⟨habs, hidle⟩ := Path.isIdle_of_text_eq_empty htext
    rintro place ⟨start, hstart, rfl⟩
    rw [follow_of_isIdle _ fun piece hpiece => hidle piece (hstart.subset hpiece), baseOf, habs,
      hgrows.workingFolder]
    exact hgrows.entryAt?_of_some (hempty htext)
  · exact hopen

/-- Where a folder stands that the system gets to, none is made. -/
theorem makeFolders_of_folder (hfs : fs.LinkFree) (hslash : withoutSlashes p = p)
    (hreach : fs.Reachable p) (hfolder : fs.entryAt? (fs.placeOf p) = some .folder) :
    fs.makeFolders p = (none, fs) :=
  makeFolders_of_isFolder hslash ((isFolder_iff hfs).2 ⟨hreach, hfolder⟩)

/-- Where nothing stands in a folder that the system gets to, one folder is made. -/
theorem makeFolders_of_none (hfs : fs.LinkFree) (hslash : withoutSlashes p = p)
    (hreach : fs.Reachable p) (hnone : fs.entryAt? (fs.placeOf p) = none) :
    fs.makeFolders p = (none, fs.put (fs.placeOf p) .folder) := by
  have hmake := (makeFolder_eq_ok_iff hfs).2 ⟨by rwa [hslash], hreach.1.short, hnone, rfl⟩
  have htext : ¬ p.text.isEmpty = true := by simpa using hreach.1.nonempty
  rw [makeFolders, makeFoldersWithin]
  simp only [if_neg htext, hmake]

/-- Where a path is open, no folder is made around a name in it. -/
theorem makeFolders_trimmed (hfs : fs.LinkFree) (hopen : fs.IsOpen p) {name : String}
    (hname : Path.IsNormal name) (hfits : (p.join name).Fits) :
    fs.makeFolders p.trimmed = (none, fs) := by
  have hlocate := (locate_eq_ok_iff hfs false _).2 ⟨rfl, hopen.reachable_join hname hfits⟩
  have htrims : Path.Trims p.trimmed.pieces p.stem := by
    rw [← p.trimmed_stem]
    exact Path.trims_trimPieces _
  exact makeFolders_around hlocate (p.pieces_join hname) (p.absolute_join hname).symm htrims
    p.getLast?_trimPieces

/-- Folders are made only by paths that the system takes. -/
theorem makeFolders_join_fits (hfs : fs.LinkFree) {name : String} (hname : Path.IsNormal name)
    (h : (fs.makeFolders (p.join name)).1 = none) : (p.join name).Fits := by
  -- Whether the folder was made or found, its path is one that the system takes.
  have hone : ∀ {fs made : FileSystem}, fs.LinkFree → fs.makeOrFind (p.join name) = (none, made) →
      (p.join name).Fits := by
    intro fs made hfs hmake
    rw [makeOrFind] at hmake
    split at hmake
    · rename_i hok
      have hreach := ((makeFolder_eq_ok_iff hfs).1 hok).1
      rw [withoutSlashes_join p hname] at hreach
      exact hreach.fits
    · by_cases hfolder : fs.isFolder (p.join name) = true
      · exact ((isFolder_iff hfs).1 hfolder).1.fits
      · rw [if_neg hfolder] at hmake
        cases hmake
  -- The last attempt is for the folder itself, with or without those above it.
  rcases makeFoldersWithin_cases (Prod.ext h rfl : fs.makeFolders (p.join name) = (none, _)) with
    ⟨htext, _⟩ | hmake | ⟨hfault, _⟩ | ⟨parent, inner?, made, hparent, hinner, hrest⟩
  · exact absurd htext (p.text_join_ne_empty hname)
  · exact hone hfs hmake
  · cases hfault
  · rcases hrest with ⟨rfl, hmake⟩ | ⟨hfault, _⟩
    · exact hone ((makeFoldersWithin_grows hfs hinner).1.linkFree hfs) hmake
    · exact absurd rfl hfault

end MakeFolders

end Scaffold.Files.FileSystem
