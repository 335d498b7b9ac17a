import Scaffold.Proofs.Files.Lookup

namespace Scaffold.Files.FileSystem

/-!
# Walks through links

A walk may be led away by links at each of its pieces. As a relation it can be taken apart and put together piece
by piece, whatever links there are.

* `Walks` — from which location a walk leads along which pieces to which other one, and how many links it may
  follow; `walk_eq_ok_iff_walks`, that walking a path is just that;
* `Walks.split` — a walk comes past a folder in front of each of its pieces;
* `Walks.followed`, `Walks.unfollowed` — walks that follow a last link and walks that do not;
* `Walks.put` — a file that is put somewhere is in nobody's way;
* `locate_eq_ok_iff_walks` and what follows from it — the location of a path.
-/

/-- A piece that leads one step down from a folder. -/
structure IsStep (piece : String) : Prop where
  not_idle : Path.isIdle piece = false
  ne_up : piece ≠ ".."
  short : piece.utf8ByteSize ≤ nameLimit

/-- Where a walk goes on from the folder `at_` along a link in it. -/
def linkBase (at_ : Location) (target : String) : Location := if (Path.ofText target).absolute then [] else at_

/-- From a location, the pieces lead to `place`, and no more than `links` links are followed. -/
inductive Walks (fs : FileSystem) (followLast : Bool) : Nat → Location → List String → Location → Prop
  | here {links : Nat} {at_ : Location} : Walks fs followLast links at_ [] at_
  | idle {links : Nat} {at_ place : Location} {piece : String} {rest : List String}
      (hat : fs.entryAt? at_ = some .folder) (hidle : Path.isIdle piece = true)
      (h : Walks fs followLast links at_ rest place) : Walks fs followLast links at_ (piece :: rest) place
  | up {links : Nat} {at_ place : Location} {rest : List String} (hat : fs.entryAt? at_ = some .folder)
      (h : Walks fs followLast links at_.dropLast rest place) : Walks fs followLast links at_ (".." :: rest) place
  /-- Past an entry that is no link. -/
  | past {links : Nat} {at_ place : Location} {piece : String} {rest : List String} {e : Entry}
      (hat : fs.entryAt? at_ = some .folder) (hstep : IsStep piece)
      (hentry : fs.entryAt? (at_ ++ [piece]) = some e) (hlink : ∀ target, e ≠ .link target)
      (h : Walks fs followLast links (at_ ++ [piece]) rest place) :
      Walks fs followLast links at_ (piece :: rest) place
  /-- To where nothing stands. -/
  | free {links : Nat} {at_ : Location} {piece : String} (hat : fs.entryAt? at_ = some .folder)
      (hstep : IsStep piece) (hnone : fs.entryAt? (at_ ++ [piece]) = none) :
      Walks fs followLast links at_ [piece] (at_ ++ [piece])
  /-- To a link that is not followed. -/
  | stay {links : Nat} {at_ : Location} {piece target : String} (hat : fs.entryAt? at_ = some .folder)
      (hstep : IsStep piece) (hentry : fs.entryAt? (at_ ++ [piece]) = some (.link target))
      (hlast : followLast = false) : Walks fs followLast links at_ [piece] (at_ ++ [piece])
  /-- Along a link. -/
  | follow {links : Nat} {at_ place : Location} {piece target : String} {rest : List String}
      (hat : fs.entryAt? at_ = some .folder) (hstep : IsStep piece)
      (hentry : fs.entryAt? (at_ ++ [piece]) = some (.link target)) (hgo : followLast = true ∨ rest ≠ [])
      (h : Walks fs followLast links (linkBase at_ target) ((Path.ofText target).pieces ++ rest) place) :
      Walks fs followLast (links + 1) at_ (piece :: rest) place

/-! ### Walks are what is walked -/

section Walking

variable {fs : FileSystem} {followLast : Bool}

/-- What a walk does that ends somewhere is a walk, if this holds of what follows the links. -/
theorem walks_of_walkWith {onLink : Location → List String → Except Fault Location} {links : Nat}
    (honLink : ∀ at_ pieces place, onLink at_ pieces = .ok place →
      ∃ fewer, links = fewer + 1 ∧ fs.Walks followLast fewer at_ pieces place)
    {pieces : List String} {at_ place : Location} (h : fs.walkWith followLast onLink at_ pieces = .ok place) :
    fs.Walks followLast links at_ pieces place := by
  induction pieces generalizing at_ with
  | nil =>
    cases h
    exact .here
  | cons piece rest ih =>
    rw [walkWith] at h
    split at h
    · cases h
    · rename_i hat
      split at h
      · rename_i hidle
        exact .idle hat hidle (ih h)
      rename_i hidle
      split at h
      · rename_i hup
        subst hup
        exact .up hat (ih h)
      rename_i hup
      split at h
      · cases h
      rename_i hshort
      -- What is left is a step; how it goes on depends on what stands there.
      have hstep : IsStep piece := ⟨by simpa using hidle, hup, Nat.le_of_not_lt hshort⟩
      dsimp only at h
      split at h
      · rename_i target hentry
        -- A link at the end may stay, unless it is to be followed.
        split at h
        · rename_i hlast
          simp only [Bool.and_eq_true, List.isEmpty_iff, Bool.not_eq_true'] at hlast
          obtain ⟨rfl, hlast⟩ := hlast
          cases h
          exact .stay hat hstep hentry hlast
        · rename_i hgo
          obtain ⟨fewer, rfl, hrest⟩ := honLink _ _ _ h
          refine .follow hat hstep hentry ?_ hrest
          simpa [or_iff_not_imp_right] using hgo
      · rename_i e hlink hentry
        exact .past hat hstep hentry (fun target he => hlink target he) (ih h)
      · rename_i hnone
        -- Only the last piece may be missing.
        split at h
        · rename_i hempty
          rw [List.isEmpty_iff] at hempty
          cases hempty
          cases h
          exact .free hat hstep hnone
        · cases h
    · cases h

/-- A walk is walked, if this holds of what follows the links. -/
theorem Walks.walkWith_eq {onLink : Location → List String → Except Fault Location} {links : Nat}
    (honLink : ∀ fewer at_ pieces place, links = fewer + 1 → fs.Walks followLast fewer at_ pieces place →
      onLink at_ pieces = .ok place)
    {pieces : List String} {at_ place : Location} (h : fs.Walks followLast links at_ pieces place) :
    fs.walkWith followLast onLink at_ pieces = .ok place := by
  -- The induction is on the pieces; each rule is one case of the walk.
  induction pieces generalizing at_ with
  | nil =>
    cases h
    rfl
  | cons piece rest ih =>
    rw [walkWith]
    cases h with
    | idle hat hidle h => simp only [hat, hidle, if_true, ih h]
    | up hat h =>
      have hidle : Path.isIdle ".." = false := by decide
      simp only [hat, hidle, Bool.false_eq_true, if_false, if_true, ih h]
    | past hat hstep hentry hlink h =>
      simp only [hat, hstep.not_idle, Bool.false_eq_true, if_false, hstep.ne_up, Nat.not_lt.2 hstep.short, hentry]
      exact ih h
    | free hat hstep hnone =>
      simp only [hat, hstep.not_idle, Bool.false_eq_true, if_false, hstep.ne_up, Nat.not_lt.2 hstep.short, hnone,
        List.isEmpty_nil, if_true]
    | stay hat hstep hentry hlast =>
      simp only [hat, hstep.not_idle, Bool.false_eq_true, if_false, hstep.ne_up, Nat.not_lt.2 hstep.short, hentry,
        hlast, List.isEmpty_nil, Bool.not_false, Bool.and_self, if_true]
    -- A link at the end is followed only if it is asked for.
    | follow hat hstep hentry hgo h =>
      have hnot : (rest.isEmpty && !followLast) = false := by
        rcases hgo with hlast | hrest
        · simp [hlast]
        · simp [hrest]
      simp only [hat, hstep.not_idle, Bool.false_eq_true, if_false, hstep.ne_up, Nat.not_lt.2 hstep.short, hentry,
        hnot]
      exact honLink _ _ _ _ rfl h

/-- **Walks.** To walk along a path is to be led by its pieces and the links among them. -/
theorem walk_eq_ok_iff_walks {links : Nat} {at_ place : Location} {pieces : List String} :
    fs.walk followLast links at_ pieces = .ok place ↔ fs.Walks followLast links at_ pieces place := by
  -- On the links that may still be followed. The pieces are what the lemmas above are about.
  induction links generalizing at_ pieces place with
  | zero =>
    rw [walk]
    constructor
    · exact walks_of_walkWith fun _ _ _ h => by cases h
    · exact Walks.walkWith_eq fun _ _ _ _ h _ => by cases h
  | succ links ih =>
    rw [walk]
    constructor
    · exact walks_of_walkWith fun _ _ _ h => ⟨links, rfl, ih.1 h⟩
    · refine Walks.walkWith_eq fun fewer _ _ _ hfewer h => ih.2 ?_
      rwa [← Nat.succ.inj hfewer] at h

end Walking

/-! ### Taking walks apart -/

/-- What is above a folder is one. -/
theorem Rooted.dropLast {fs : FileSystem} (h : fs.Rooted) {place : Location}
    (hplace : fs.entryAt? place = some .folder) : fs.entryAt? place.dropLast = some .folder := by
  rcases List.eq_nil_or_concat place with rfl | ⟨above, name, rfl⟩
  · exact hplace
  · rw [List.concat_eq_append] at hplace ⊢
    rw [List.dropLast_concat]
    exact h above name (by rw [hplace]; simp)

namespace Walks

variable {fs : FileSystem} {followLast : Bool} {links : Nat} {at_ place : Location}
  {pieces init rest kept : List String} {piece : String}

/-- Idle pieces lead nowhere else. -/
theorem eq_of_isIdle (h : fs.Walks followLast links at_ pieces place)
    (hidle : ∀ piece ∈ pieces, Path.isIdle piece = true) : place = at_ := by
  induction h with
  | here => rfl
  | idle _ _ _ ih => exact ih fun piece hpiece => hidle piece (List.mem_cons_of_mem _ hpiece)
  | up => exact absurd (hidle ".." List.mem_cons_self) (by decide)
  | past _ hstep | free _ hstep | stay _ hstep | follow _ hstep =>
    have hpiece := hidle _ List.mem_cons_self
    rw [hstep.not_idle] at hpiece
    cases hpiece

/-- **Split.** In front of each piece a walk is in a folder. What it follows up to there, it follows to its end. -/
theorem split (h : fs.Walks followLast links at_ pieces place) (heq : pieces = init ++ piece :: rest) :
    ∃ mid fewer, fs.entryAt? mid = some .folder ∧ fs.Walks true links at_ init mid ∧
      fs.Walks followLast fewer mid (piece :: rest) place := by
  -- In each case the piece comes first, or it is among those that the walk goes on with.
  induction h generalizing init with
  | here => simp at heq
  | idle hat hidle h ih =>
    cases init with
    | nil =>
      cases heq
      exact ⟨_, _, hat, .here, .idle hat hidle h⟩
    | cons first init =>
      cases heq
      obtain ⟨mid, fewer, hmid, hinit, hrest⟩ := ih rfl
      exact ⟨mid, fewer, hmid, .idle hat hidle hinit, hrest⟩
  | up hat h ih =>
    cases init with
    | nil =>
      cases heq
      exact ⟨_, _, hat, .here, .up hat h⟩
    | cons first init =>
      cases heq
      obtain ⟨mid, fewer, hmid, hinit, hrest⟩ := ih rfl
      exact ⟨mid, fewer, hmid, .up hat hinit, hrest⟩
  | past hat hstep hentry hlink h ih =>
    cases init with
    | nil =>
      cases heq
      exact ⟨_, _, hat, .here, .past hat hstep hentry hlink h⟩
    | cons first init =>
      cases heq
      obtain ⟨mid, fewer, hmid, hinit, hrest⟩ := ih rfl
      exact ⟨mid, fewer, hmid, .past hat hstep hentry hlink hinit, hrest⟩
  | free hat hstep hnone =>
    cases init with
    | nil =>
      cases heq
      exact ⟨_, 0, hat, .here, .free hat hstep hnone⟩
    | cons first init => simp at heq
  | stay hat hstep hentry hlast =>
    cases init with
    | nil =>
      cases heq
      exact ⟨_, 0, hat, .here, .stay hat hstep hentry hlast⟩
    | cons first init => simp at heq
  | @follow links at_ place piece' target rest' hat hstep hentry hgo h ih =>
    cases init with
    | nil =>
      cases heq
      exact ⟨_, _, hat, .here, .follow hat hstep hentry hgo h⟩
    | cons first init =>
      cases heq
      -- The pieces of the link come in front.
      obtain ⟨mid, fewer, hmid, hinit, hrest⟩ := ih (List.append_assoc _ init _).symm
      exact ⟨mid, fewer, hmid, .follow hat hstep hentry (.inl rfl) hinit, hrest⟩

/-- What is idle at the end of a walk can be left out. -/
theorem of_trims (h : fs.Walks true links at_ pieces place) (htrims : Path.Trims kept pieces) :
    fs.Walks true links at_ kept place := by
  obtain ⟨idle, rfl, hidle⟩ := htrims
  cases idle with
  | nil => rwa [List.append_nil] at h
  | cons piece idle =>
    obtain ⟨mid, fewer, _, hkept, hrest⟩ := h.split rfl
    rwa [hrest.eq_of_isIdle hidle]

/-- A walk that does not end in a folder ends with a step. -/
theorem isStep_of_ne_folder (hfs : fs.Rooted) (h : fs.Walks followLast links at_ (init ++ [piece]) place)
    (hplace : fs.entryAt? place ≠ some .folder) : IsStep piece := by
  obtain ⟨mid, fewer, hmid, _, hlast⟩ := h.split rfl
  -- A piece that is no name would lead to a folder.
  cases hlast with
  | idle _ _ h =>
    cases h
    exact absurd hmid hplace
  | up _ h =>
    cases h
    exact absurd (hfs.dropLast hmid) hplace
  | past _ hstep | free _ hstep | stay _ hstep | follow _ hstep => exact hstep

/-- A walk that does not follow a last link ends at its last name, in the folder in front of it. -/
theorem exists_eq_concat (h : fs.Walks false links at_ (init ++ [piece]) place)
    (hpiece : Path.isIdle piece = false) (hup : piece ≠ "..") :
    ∃ mid, place = mid ++ [piece] ∧ fs.entryAt? mid = some .folder ∧ fs.Walks true links at_ init mid := by
  obtain ⟨mid, fewer, hmid, hinit, hlast⟩ := h.split rfl
  refine ⟨mid, ?_, hmid, hinit⟩
  -- The last piece is a name, so the walk ends at it.
  cases hlast with
  | idle _ hidle =>
    rw [hpiece] at hidle
    cases hidle
  | up => exact absurd rfl hup
  | past _ _ _ _ h =>
    cases h
    rfl
  | free => rfl
  | stay => rfl
  | follow _ _ _ hgo => simp at hgo

/-! ### Last links -/

/-- Where no link stands, there is none to be followed. -/
theorem followed (h : fs.Walks false links at_ pieces place)
    (hplace : ∀ target, fs.entryAt? place ≠ some (.link target)) : fs.Walks true links at_ pieces place := by
  induction h with
  | here => exact .here
  | idle hat hidle _ ih => exact .idle hat hidle (ih hplace)
  | up hat _ ih => exact .up hat (ih hplace)
  | past hat hstep hentry hlink _ ih => exact .past hat hstep hentry hlink (ih hplace)
  | free hat hstep hnone => exact .free hat hstep hnone
  | stay _ _ hentry => exact absurd hentry (hplace _)
  | follow hat hstep hentry _ _ ih => exact .follow hat hstep hentry (.inl rfl) (ih hplace)

/-- Without following a last link, a walk ends at the same place, or at that link. -/
theorem unfollowed (h : fs.Walks true links at_ pieces place) :
    ∃ last, fs.Walks false links at_ pieces last ∧
      (last = place ∨ ∃ target, fs.entryAt? last = some (.link target)) := by
  induction h with
  | here => exact ⟨_, .here, .inl rfl⟩
  | idle hat hidle _ ih =>
    obtain ⟨last, hwalk, hlast⟩ := ih
    exact ⟨last, .idle hat hidle hwalk, hlast⟩
  | up hat _ ih =>
    obtain ⟨last, hwalk, hlast⟩ := ih
    exact ⟨last, .up hat hwalk, hlast⟩
  | past hat hstep hentry hlink _ ih =>
    obtain ⟨last, hwalk, hlast⟩ := ih
    exact ⟨last, .past hat hstep hentry hlink hwalk, hlast⟩
  | free hat hstep hnone => exact ⟨_, .free hat hstep hnone, .inl rfl⟩
  | stay _ _ _ hlast => cases hlast
  | @follow links at_ place piece target rest hat hstep hentry _ _ ih =>
    cases rest with
    | nil => exact ⟨_, .stay hat hstep hentry rfl, .inr ⟨target, hentry⟩⟩
    | cons next rest =>
      obtain ⟨last, hwalk, hlast⟩ := ih
      exact ⟨last, .follow hat hstep hentry (.inr (by simp)) hwalk, hlast⟩

/-- A walk that follows a last link does not end at one. -/
theorem ne_link (h : fs.Walks true links at_ pieces place) (hfs : fs.Rooted)
    (hat : ∀ target, fs.entryAt? at_ ≠ some (.link target)) (target : String) :
    fs.entryAt? place ≠ some (.link target) := by
  have hfolder : ∀ {spot : Location}, fs.entryAt? spot = some .folder →
      ∀ target, fs.entryAt? spot ≠ some (.link target) := by
    intro spot hspot target
    rw [hspot]
    simp
  -- The induction is on the walk, which ends at no link since it follows them all.
  induction h with
  | here => exact hat target
  | idle hat' _ _ ih => exact ih (hfolder hat')
  | up hat' _ ih => exact ih (hfolder (hfs.dropLast hat'))
  | past _ _ hentry hlink _ ih =>
    refine ih fun target => ?_
    rw [hentry]
    simpa using hlink target
  | free _ _ hnone =>
    rw [hnone]
    simp
  | stay _ _ _ hlast => cases hlast
  | @follow links at_ place piece goal rest hat' _ _ _ _ ih =>
    refine ih (hfolder ?_)
    -- A link starts at the root or at the folder that it stands in.
    rw [linkBase]
    split
    · exact fs.entryAt?_root
    · exact hat'

/-! ### Walks in a file system that changes -/

/-- A walk comes past a file that is put where no folder and no link stands, or ends at it. -/
theorem put (h : fs.Walks followLast links at_ pieces place) {spot : Location}
    (hfolder : fs.entryAt? spot ≠ some .folder) (hlink : ∀ target, fs.entryAt? spot ≠ some (.link target))
    (content : Content) : (fs.put spot (.file content)).Walks followLast links at_ pieces place := by
  have hne := ne_nil_of_ne_folder hfolder
  -- The folders that a walk is in and the links that it meets stay.
  have hkept : ∀ {other : Location} {e : Entry}, fs.entryAt? other = some e →
      (e = .folder ∨ ∃ target, e = .link target) → (fs.put spot (.file content)).entryAt? other = some e := by
    intro other e hentry he
    rw [entryAt?_put _ _ _ _ hne, if_neg]
    · exact hentry
    · rintro rfl
      rcases he with rfl | ⟨target, rfl⟩
      · exact hfolder hentry
      · exact hlink target hentry
  induction h with
  | here => exact .here
  | idle hat hidle _ ih => exact .idle (hkept hat (.inl rfl)) hidle ih
  | up hat _ ih => exact .up (hkept hat (.inl rfl)) ih
  -- Where the new file takes the place of another one, the walk passes it as it passed the old one.
  | @past links at_ place piece rest e hat hstep hentry hnot _ ih =>
    have hat' := hkept hat (.inl rfl)
    by_cases hspot : at_ ++ [piece] = spot
    · refine .past hat' hstep (e := .file content) ?_ (by simp) ih
      rw [entryAt?_put _ _ _ _ hne, if_pos hspot]
    · refine .past hat' hstep (e := e) ?_ hnot ih
      rw [entryAt?_put _ _ _ _ hne, if_neg hspot, hentry]
  -- A place that was free holds the new file now, or is still free.
  | @free links at_ piece hat hstep hnone =>
    have hat' := hkept hat (.inl rfl)
    by_cases hspot : at_ ++ [piece] = spot
    · refine .past hat' hstep (e := .file content) ?_ (by simp) .here
      rw [entryAt?_put _ _ _ _ hne, if_pos hspot]
    · refine .free hat' hstep ?_
      rw [entryAt?_put _ _ _ _ hne, if_neg hspot, hnone]
  | stay hat hstep hentry hlast => exact .stay (hkept hat (.inl rfl)) hstep (hkept hentry (.inr ⟨_, rfl⟩)) hlast
  | follow hat hstep hentry hgo _ ih =>
    exact .follow (hkept hat (.inl rfl)) hstep (hkept hentry (.inr ⟨_, rfl⟩)) hgo ih

end Walks

/-! ### Locations of paths -/

section Locating

variable {fs : FileSystem} {followLast : Bool} {p : Path} {place : Location}

theorem locate_eq_ok_iff_walks : fs.locate followLast p = .ok place ↔
    p.IsAccepted ∧ fs.Walks followLast linkLimit (fs.baseOf p) p.pieces place := by
  rw [locate_eq_ok_iff_walk, walk_eq_ok_iff_walks]

/-- Where no link stands, it makes no difference whether a last one is followed. -/
theorem locate_followed (h : fs.locate false p = .ok place)
    (hplace : ∀ target, fs.entryAt? place ≠ some (.link target)) : fs.locate true p = .ok place := by
  rw [locate_eq_ok_iff_walks] at h ⊢
  exact ⟨h.1, h.2.followed hplace⟩

/-- A path leads to its own location, or along a link that stands there. -/
theorem locate_unfollowed (h : fs.locate true p = .ok place) :
    ∃ last, fs.locate false p = .ok last ∧ (last = place ∨ ∃ target, fs.entryAt? last = some (.link target)) := by
  rw [locate_eq_ok_iff_walks] at h
  obtain ⟨last, hwalk, hlast⟩ := h.2.unfollowed
  exact ⟨last, locate_eq_ok_iff_walks.2 ⟨h.1, hwalk⟩, hlast⟩

/-- What leads to something is occupied, by what it leads to or by a link. -/
theorem occupied_of_leads (h : fs.leads p = true) : fs.occupied p = true := by
  obtain ⟨place, hlocate, hplace⟩ := leads_iff_locate.1 h
  obtain ⟨last, hlast, rfl | ⟨target, hlink⟩⟩ := locate_unfollowed hlocate
  · exact occupied_iff_locate.2 ⟨last, hlast, hplace⟩
  · exact occupied_iff_locate.2 ⟨last, hlast, by rw [hlink]; simp⟩

/-- What is occupied and leads to nothing is a link. -/
theorem entry_eq_link (hocc : fs.occupied p = true) (hleads : fs.leads p = false) :
    ∃ target, fs.entry p = .ok (.link target) := by
  obtain ⟨place, hlocate, hplace⟩ := occupied_iff_locate.1 hocc
  by_contra hnot
  have hlink : ∀ target, fs.entryAt? place ≠ some (.link target) := fun target htarget =>
    hnot ⟨target, entry_eq_ok_iff_locate.2 ⟨place, hlocate, htarget⟩⟩
  rw [leads_iff_locate.2 ⟨place, locate_followed hlocate hlink, hplace⟩] at hleads
  cases hleads

/-- A path does not lead to a link. -/
theorem ne_link_of_locate (hfs : fs.Rooted) (h : fs.locate true p = .ok place) (target : String) :
    fs.entryAt? place ≠ some (.link target) := by
  rw [locate_eq_ok_iff_walks] at h
  obtain ⟨haccepted, hwalk⟩ := h
  cases hpieces : p.pieces with
  | nil =>
    rw [hpieces] at hwalk
    cases hwalk
    rw [baseOf, if_pos (haccepted.absolute_of_nil hpieces), fs.entryAt?_root]
    simp
  | cons piece rest =>
    -- The walk starts in a folder.
    have hfirst : p.pieces = [] ++ piece :: rest := hpieces
    obtain ⟨mid, fewer, hmid, hinit, _⟩ := hwalk.split hfirst
    cases hinit
    exact hwalk.ne_link hfs (fun target => by rw [hmid]; simp) target

/-- A file that is put where no folder and no link stands changes no location. -/
theorem locate_put (h : fs.locate followLast p = .ok place) {spot : Location}
    (hfolder : fs.entryAt? spot ≠ some .folder) (hlink : ∀ target, fs.entryAt? spot ≠ some (.link target))
    (content : Content) : (fs.put spot (.file content)).locate followLast p = .ok place := by
  rw [locate_eq_ok_iff_walks] at h ⊢
  exact ⟨h.1, h.2.put hfolder hlink content⟩

/-- A path whose location is no folder ends with a step. -/
theorem exists_step_of_locate (hfs : fs.Rooted) (h : fs.locate followLast p = .ok place)
    (hplace : fs.entryAt? place ≠ some .folder) : ∃ init piece, p.pieces = init ++ [piece] ∧ IsStep piece := by
  rw [locate_eq_ok_iff_walks] at h
  obtain ⟨haccepted, hwalk⟩ := h
  -- A path without pieces leads to the root.
  rcases List.eq_nil_or_concat p.pieces with hnil | ⟨init, piece, hpieces⟩
  · rw [hnil] at hwalk
    cases hwalk
    rw [baseOf, if_pos (haccepted.absolute_of_nil hnil), fs.entryAt?_root] at hplace
    exact absurd rfl hplace
  · rw [List.concat_eq_append] at hpieces
    rw [hpieces] at hwalk
    exact ⟨init, piece, hpieces, hwalk.isStep_of_ne_folder hfs hplace⟩

end Locating

end Scaffold.Files.FileSystem
