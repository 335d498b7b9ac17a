import Scaffold.Proofs.Files.Lookup
import Mathlib.Data.List.Induction

namespace Scaffold.Files.FileSystem

/-!
# Changing file systems

What each operation does to a file system without links. Each operation either fails and changes nothing, or
does the one thing it is for.

* `LinkFree.put`, `Rooted.put` and their like — what changing one location keeps;
* `IsOpen` — paths that come past folders only; the system gets to what is in such a folder, if it takes the
  path;
* `IsDirect` — paths that do not come past anything below their own location;
* `makeFolder_eq_ok_iff`, `writeText_eq_ok_iff`, `remove_cases` — the operations on one location;
* `makeFolder_of_occupied`, `writeText_eq_ok_iff_locate`, `remove_eq_none` — what is known of them if there are
  links.
-/

/-! ### One location -/

section Location

variable {fs : FileSystem} {place : Location}

/-- An entry that is no link brings no link into the system. -/
theorem LinkFree.put (h : fs.LinkFree) (hplace : place ≠ []) {e : Entry}
    (he : ∀ target, e ≠ .link target) : (fs.put place e).LinkFree := by
  intro other target
  rw [entryAt?_put _ _ _ _ hplace]
  split
  · simpa using he target
  · exact h other target

/-- Removing an entry brings no link into the system. -/
theorem LinkFree.cut (h : fs.LinkFree) (hplace : place ≠ []) : (fs.cut place).LinkFree := by
  intro other target
  rw [entryAt?_cut _ _ _ hplace]
  split
  · simp
  · exact h other target

/-- Something may be put into a folder, unless it takes the place of a folder with entries. -/
theorem Rooted.put (h : fs.Rooted) {parent : Location} {name : String} {e : Entry}
    (hparent : fs.entryAt? parent = some .folder)
    (he : e = .folder ∨ fs.entryAt? (parent ++ [name]) ≠ some .folder) :
    (fs.put (parent ++ [name]) e).Rooted := by
  have hne : parent ++ [name] ≠ [] := by simp
  intro other child hsome
  rw [entryAt?_put _ _ _ _ hne] at hsome ⊢
  have hother : fs.entryAt? other = some .folder := by
    -- The new entry stands in its parent, every other one where it stood.
    by_cases heq : other ++ [child] = parent ++ [name]
    · rw [(List.append_inj' heq rfl).1]
      exact hparent
    · rw [if_neg heq] at hsome
      exact h other child hsome
  split
  · rename_i heq
    rcases he with rfl | he
    · rfl
    · exact absurd (heq ▸ hother) he
  · exact hother

/-- Removing an entry with all that is below it leaves the others in folders. -/
theorem Rooted.cut (h : fs.Rooted) (hplace : place ≠ []) : (fs.cut place).Rooted := by
  intro other child hsome
  rw [entryAt?_cut _ _ _ hplace] at hsome ⊢
  -- What stands below a place that is cut does not stand any more.
  by_cases hcut : place.isPrefixOf other = true
  · have hbelow : place.isPrefixOf (other ++ [child]) = true := by
      rw [List.isPrefixOf_iff_prefix] at hcut ⊢
      exact hcut.trans (List.prefix_append _ _)
    rw [if_pos hbelow] at hsome
    exact absurd rfl hsome
  · rw [if_neg hcut]
    split at hsome
    · exact absurd rfl hsome
    · exact h other child hsome

/-- What is on the way to an entry is a folder. -/
theorem Rooted.folder_above (h : fs.Rooted) {way : List String} (hway : way ≠ [])
    (hsome : fs.entryAt? (place ++ way) ≠ none) : fs.entryAt? place = some .folder := by
  -- From behind: the entry that holds the last name is a folder, so there is something at the shorter way.
  induction way using List.reverseRecOn with
  | nil => exact absurd rfl hway
  | append_singleton way name ih =>
    rw [← List.append_assoc] at hsome
    have hfolder := h (place ++ way) name hsome
    cases way with
    | nil => simpa using hfolder
    | cons next way => exact ih (by simp) (by rw [hfolder]; simp)

/-- Nothing stands below a place at which no folder stands. -/
theorem Rooted.entryAt?_eq_none (h : fs.Rooted) (hplace : fs.entryAt? place ≠ some .folder)
    {way : List String} (hway : way ≠ []) : fs.entryAt? (place ++ way) = none := by
  by_contra hsome
  exact hplace (h.folder_above hway hsome)

end Location

/-! ### Paths through folders -/

/-- The path comes past folders only, its own location included. -/
def IsOpen (fs : FileSystem) (p : Path) : Prop :=
  ∀ place, fs.Passes p place → fs.entryAt? place = some .folder

/-- The path does not come past anything below its own location. -/
def IsDirect (fs : FileSystem) (p : Path) : Prop :=
  ∀ place, fs.Passes p place → fs.placeOf p <+: place → place = fs.placeOf p

section Reaching

variable {fs : FileSystem} {p : Path} {name : String}

/-- A path that the system takes to a place is one that it takes. -/
theorem Reachable.fits (h : fs.Reachable p) : p.Fits := ⟨h.1, (walkable_iff.1 h.2).1⟩

/-- A joined path is reached only through the folder that the name was joined to. -/
theorem Reachable.parent (hname : Path.IsNormal name) (h : fs.Reachable (p.join name)) :
    fs.entryAt? (fs.placeOf p) = some .folder := by
  have hlast : p.stem ++ [name] <+: (p.join name).pieces :=
    ⟨[], by rw [p.join_eq hname, List.append_nil]⟩
  have hway := (walkable_iff.1 h.2).2 p.stem name hlast
  rwa [baseOf_congr rfl (p.absolute_join hname), follow_of_trims _ p.trims_stem] at hway

/-- A path that is reached comes past folders on the way. -/
theorem Reachable.passes (h : fs.Reachable p) {place : Location} (hpasses : fs.Passes p place) :
    place = fs.placeOf p ∨ fs.entryAt? place = some .folder := by
  -- The place is the one of all pieces, or there is a piece behind it, which is then followed from it.
  obtain ⟨start, ⟨rest, hrest⟩, rfl⟩ := hpasses
  cases rest with
  | nil =>
    rw [List.append_nil] at hrest
    exact .inl (by rw [placeOf, hrest])
  | cons piece rest =>
    refine .inr ((walkable_iff.1 h.2).2 start piece ⟨rest, ?_⟩)
    rw [← hrest, List.append_assoc, List.singleton_append]

/-- A path that leads to a folder is open. -/
theorem Reachable.isOpen (h : fs.Reachable p) (hfolder : fs.entryAt? (fs.placeOf p) = some .folder) :
    fs.IsOpen p := by
  intro place hpasses
  rcases h.passes hpasses with rfl | hplace
  · exact hfolder
  · exact hplace

/-- A name is reached only if the path of its folder comes past folders only. -/
theorem Reachable.isOpen_of_join (hname : Path.IsNormal name) (h : fs.Reachable (p.join name)) : fs.IsOpen p := by
  intro place hpasses
  -- What is behind the stem of `p` names nothing, so the place lies on the stem.
  obtain ⟨start, ⟨rest, hrest⟩, rfl⟩ := hpasses.of_trims (q := ⟨p.absolute, p.stem⟩) rfl p.trims_stem
  change start ++ rest = p.stem at hrest
  obtain ⟨piece, after, hnext⟩ := List.exists_cons_of_ne_nil (List.concat_ne_nil name rest)
  have hbase : fs.baseOf (p.join name) = fs.baseOf ⟨p.absolute, p.stem⟩ := baseOf_congr rfl (p.absolute_join hname)
  rw [← hbase]
  refine (walkable_iff.1 h.2).2 start piece ⟨after, ?_⟩
  rw [p.pieces_join hname, ← hrest, List.append_assoc, List.append_assoc, List.singleton_append, ← hnext]

/-- In a rooted file system a plain path to a folder comes past folders only. -/
theorem Rooted.isOpen (h : fs.Rooted) (hp : p.IsPlain)
    (hfolder : fs.entryAt? (fs.placeOf p) = some .folder) : fs.IsOpen p := by
  intro place hpasses
  obtain ⟨way, hway⟩ := hpasses.isPrefix hp
  rw [← hway] at hfolder
  cases way with
  | nil => rwa [List.append_nil] at hfolder
  | cons n way => exact h.folder_above (List.cons_ne_nil n way) (by rw [hfolder]; simp)

namespace IsOpen

/-- An open path leads to a folder. -/
theorem isFolder (h : fs.IsOpen p) : fs.entryAt? (fs.placeOf p) = some .folder :=
  h _ (.placeOf fs p)

/-- From an open path the system gets to every name in the folder, if it takes the path. -/
theorem reachable_join (h : fs.IsOpen p) (hname : Path.IsNormal name) (hfits : (p.join name).Fits) :
    fs.Reachable (p.join name) := by
  refine ⟨hfits.accepted, walkable_iff.2 ⟨hfits.names, fun start piece hstart => ?_⟩⟩
  rw [baseOf_congr rfl (p.absolute_join hname)]
  rw [p.join_eq hname] at hstart
  refine h _ ⟨start, List.IsPrefix.trans ?_ p.trims_stem.isPrefix, rfl⟩
  -- A beginning of the joined pieces is all of them, with the new name last, or a beginning of the stem.
  rcases List.prefix_concat_iff.1 hstart with hall | hshort
  · obtain rfl := (List.append_inj' hall rfl).1
    exact List.prefix_refl _
  · exact (List.prefix_append _ _).trans hshort

/-- An open path is open when it is trimmed. -/
theorem trimmed (h : fs.IsOpen p) : fs.IsOpen p.trimmed :=
  fun place hpasses => h place (hpasses.of_isPrefix p.trimmed_absolute p.trims_trimPieces.isPrefix)

/-- A folder in an open one is open. -/
theorem join (h : fs.IsOpen p) (hname : Path.IsNormal name)
    (hfolder : fs.entryAt? (fs.placeOf (p.join name)) = some .folder) : fs.IsOpen (p.join name) := by
  intro place hpasses
  rcases hpasses.of_join hname with hbefore | rfl
  · exact h place hbefore
  · exact hfolder

end IsOpen

/-- A direct path does not come past anything at or below a name in its folder. -/
theorem IsDirect.not_isPrefix (h : fs.IsDirect p) (hname : Path.IsNormal name) {place : Location}
    (hpasses : fs.Passes p place) : ¬ fs.placeOf (p.join name) <+: place := by
  intro hbelow
  rw [fs.placeOf_join p hname] at hbelow
  obtain rfl := h place hpasses ((List.prefix_append _ _).trans hbelow)
  have hlength := hbelow.length_le
  rw [List.length_append, List.length_singleton] at hlength
  omega

/-- A name behind a direct path. -/
theorem IsDirect.join (h : fs.IsDirect p) (hname : Path.IsNormal name) :
    fs.IsDirect (p.join name) := by
  intro place hpasses hbelow
  rcases hpasses.of_join hname with hbefore | hplace
  · exact absurd hbelow (h.not_isPrefix hname hbefore)
  · exact hplace

/-- Whether a path is direct depends on the working folder only. -/
theorem isDirect_congr {fs fs' : FileSystem} (h : fs'.workingFolder = fs.workingFolder) :
    fs'.IsDirect p ↔ fs.IsDirect p := by
  rw [IsDirect, IsDirect, passes_congr h, placeOf_congr h]

end Reaching

/-! ### Operations on one location -/

/-- Leaving out slashes at the end is trimming. -/
theorem trims_withoutSlashes (p : Path) : Path.Trims (withoutSlashes p).pieces p.pieces :=
  Path.trims_dropWhile (by simp [Path.isIdle]) p.pieces

/-- Pieces that are trimmed hold no NUL. -/
theorem no_nul_of_trims {kept pieces : List String} (h : Path.Trims kept pieces)
    (hkept : ∀ piece ∈ kept, '\x00' ∉ piece.toList) : ∀ piece ∈ pieces, '\x00' ∉ piece.toList := by
  obtain ⟨rest, rfl, hidle⟩ := h
  intro piece hpiece
  rcases List.mem_append.1 hpiece with hpiece | hpiece
  · exact hkept piece hpiece
  · have hpiece := hidle piece hpiece
    rw [Path.isIdle, Bool.or_eq_true, decide_eq_true_eq, decide_eq_true_eq] at hpiece
    rcases hpiece with rfl | rfl <;> decide

/-- Slashes at the end of a path say nothing about its location. -/
@[simp] theorem placeOf_withoutSlashes (fs : FileSystem) (p : Path) :
    fs.placeOf (withoutSlashes p) = fs.placeOf p :=
  follow_of_trims _ (trims_withoutSlashes p)

/-- Without a slash at its end, a path stays as it is. -/
theorem withoutSlashes_eq {p : Path} (h : p.pieces.getLast? ≠ some "") : withoutSlashes p = p := by
  -- Nothing is dropped from behind: the last piece is not empty.
  have hdrop : (p.pieces.reverse.dropWhile (· = "")).reverse = p.pieces := by
    rcases List.eq_nil_or_concat p.pieces with hnil | ⟨init, last, hpieces⟩
    · rw [hnil]
      rfl
    · rw [hpieces, List.concat_eq_append, List.getLast?_concat] at h
      rw [hpieces, List.concat_eq_append, List.reverse_append, List.reverse_singleton,
        List.singleton_append, List.dropWhile_cons_of_neg (by simpa using h), List.reverse_cons,
        List.reverse_reverse]
  rw [withoutSlashes, hdrop]

/-- Behind a name there is no slash to leave out. -/
theorem withoutSlashes_join (p : Path) {name : String} (hname : Path.IsNormal name) :
    withoutSlashes (p.join name) = p.join name := by
  refine withoutSlashes_eq ?_
  rw [Path.getLast?_pieces_join p hname]
  simpa using hname.nonempty

section Located

variable {fs fs' : FileSystem} {p : Path} {place : Location}

/-- A folder is not made where something stands. -/
theorem makeFolder_of_occupied (hlocate : fs.locate false (withoutSlashes p) = .ok place)
    (hshort : p.text.utf8ByteSize ≤ pathLimit) (h : fs.entryAt? place ≠ none) :
    fs.makeFolder p = .error .exists_ := by
  obtain ⟨e, he⟩ := Option.ne_none_iff_exists'.1 h
  rw [makeFolder, if_neg (by simp [Nat.not_lt.2 hshort]), hlocate]
  simp [bind, Except.bind, he]

/-- A text goes to what the path leads to, through links. -/
theorem writeText_eq_ok_iff_locate {s : String} :
    fs.writeText p s = .ok fs' ↔ p.pieces.getLast? ≠ some "" ∧ ∃ goal, fs.locate true p = .ok goal ∧
      fs.entryAt? goal ≠ some .folder ∧ fs' = fs.put goal (.file (.text s)) := by
  rw [writeText]
  -- A path with a slash at its end leads to no file.
  by_cases hlast : p.pieces.getLast? = some ""
  · cases fs.locate true (withoutSlashes p) <;> simp [hlast, bind, Except.bind]
  · rw [withoutSlashes_eq hlast]
    cases fs.locate true p with
    | error fault => simp [bind, Except.bind]
    | ok goal =>
      simp only [hlast, bind, Except.bind, if_false, ne_eq, not_false_eq_true, true_and, Except.ok.injEq,
        exists_eq_left']
      -- At the place there is nothing, or an entry that is no folder.
      cases fs.entryAt? goal with
      | none => simp [eq_comm]
      | some e => cases e <;> simp [eq_comm]

/-- What is removed without a fault stood where the path leads, without following a last link. A folder goes only
    by a path that ends with a name. -/
theorem remove_eq_none (h : fs.remove p = (none, fs')) :
    ∃ place e, fs.locate false p = .ok place ∧ fs.entryAt? place = some e ∧ fs' = fs.cut place ∧
      (e = .folder → ∃ piece, (withoutSlashes p).pieces.getLast? = some piece ∧ piece ≠ "." ∧ piece ≠ "..") := by
  -- The system looks first what is at the path.
  rw [remove] at h
  split at h
  · cases h
  · rename_i hfolder
    obtain ⟨place, hlocate, hentry⟩ := entry_eq_ok_iff_locate.1 hfolder
    refine ⟨place, .folder, hlocate, hentry, ?_⟩
    rw [removeTree, hlocate] at h
    dsimp only at h
    split at h
    · cases h
    · cases h
    · cases h
    · rename_i piece hdot hdots hlast
      cases h
      exact ⟨rfl, fun _ => ⟨piece, hlast, by simpa using hdot, by simpa using hdots⟩⟩
  -- What is no folder is removed as a file.
  · rename_i e hnot hentry'
    obtain ⟨place, hlocate, hentry⟩ := entry_eq_ok_iff_locate.1 hentry'
    refine ⟨place, e, hlocate, hentry, ?_, fun hfolder => absurd hfolder hnot⟩
    rw [removeFile, hlocate] at h
    simp only [bind, Except.bind, hentry] at h
    cases e with
    | folder => exact absurd rfl hnot
    | file content =>
      cases h
      rfl
    | link target =>
      cases h
      rfl

end Located

section Operations

variable {fs fs' : FileSystem} (hfs : fs.LinkFree) {p : Path}
include hfs

/-- A folder is made exactly where nothing stands, by a path that is not too long with all its slashes. -/
theorem makeFolder_eq_ok_iff :
    fs.makeFolder p = .ok fs' ↔
      fs.Reachable (withoutSlashes p) ∧ p.text.utf8ByteSize ≤ pathLimit ∧ fs.entryAt? (fs.placeOf p) = none ∧
        fs' = fs.put (fs.placeOf p) .folder := by
  rw [makeFolder]
  rcases locate_cases hfs false (withoutSlashes p) with ⟨hreach, hloc⟩ | ⟨hreach, fault, hloc⟩
  · have hnul : p.pieces.any (·.toList.contains '\x00') = false := by
      simpa using no_nul_of_trims (trims_withoutSlashes p) hreach.1.no_nul
    rw [placeOf_withoutSlashes] at hloc
    simp only [hloc, bind, Except.bind, hreach, hnul, true_and, Bool.not_false, Bool.and_true, decide_eq_true_eq]
    -- The path is accepted if it is short enough.
    by_cases hlong : pathLimit < p.text.utf8ByteSize
    · simp [hlong, Nat.not_le.2 hlong]
    · rw [if_neg hlong, and_iff_right (Nat.le_of_not_lt hlong)]
      cases fs.entryAt? (fs.placeOf p) <;> simp [eq_comm]
  · simp only [hloc, bind, Except.bind, hreach, false_and, iff_false]
    split <;> simp

variable {name : String} (hname : Path.IsNormal name)
include hname

/-- A text is written exactly where no folder stands. -/
theorem writeText_eq_ok_iff {s : String} :
    fs.writeText (p.join name) s = .ok fs' ↔
      fs.Reachable (p.join name) ∧ fs.entryAt? (fs.placeOf (p.join name)) ≠ some .folder ∧
        fs' = fs.put (fs.placeOf (p.join name)) (.file (.text s)) := by
  -- The path ends in the new name, so it does not ask for a folder.
  have hlast : (p.join name).pieces.getLast? ≠ some "" := by
    rw [Path.getLast?_pieces_join p hname]
    simpa using hname.nonempty
  rw [writeText_eq_ok_iff_locate, and_iff_right hlast]
  simp only [locate_eq_ok_iff hfs, and_assoc, exists_eq_left]

/-- What can be reached is removed with all that is below it. -/
theorem remove_of_occupied (hreach : fs.Reachable (p.join name))
    (h : fs.entryAt? (fs.placeOf (p.join name)) ≠ none) :
    fs.remove (p.join name) = (none, fs.cut (fs.placeOf (p.join name))) := by
  obtain ⟨e, he⟩ := Option.ne_none_iff_exists'.1 h
  have hentry := (entry_eq_ok_iff hfs).2 ⟨hreach, he⟩
  have hloc := (locate_eq_ok_iff hfs false _).2 ⟨rfl, hreach⟩
  rw [remove, hentry]
  -- The entry is no link, since there are none.
  cases e with
  | link target => exact absurd he (hfs _ target)
  | file content => simp only [removeFile, hloc, bind, Except.bind, he]
  | folder =>
    have hlast : (withoutSlashes (p.join name)).pieces.getLast? = some name := by
      rw [withoutSlashes_join p hname, Path.getLast?_pieces_join p hname]
    simp only [removeTree, hloc, hlast]
    split
    · rename_i hnil
      cases hnil
    · rename_i hdot
      exact absurd (Option.some.inj hdot) hname.ne_here
    · rename_i hdots
      exact absurd (Option.some.inj hdots) hname.ne_up
    · rfl

/-- Removing does what it is for, or fails and changes nothing. -/
theorem remove_cases :
    (fs.entryAt? (fs.placeOf (p.join name)) ≠ none ∧
        fs.remove (p.join name) = (none, fs.cut (fs.placeOf (p.join name)))) ∨
      ∃ fault, fs.remove (p.join name) = (some fault, fs) := by
  cases hentry : fs.entry (p.join name) with
  | error fault => exact .inr ⟨fault, by rw [remove, hentry]⟩
  | ok e =>
    obtain ⟨hreach, he⟩ := (entry_eq_ok_iff hfs).1 hentry
    have hsome : fs.entryAt? (fs.placeOf (p.join name)) ≠ none := by rw [he]; simp
    exact .inl ⟨hsome, remove_of_occupied hfs hname hreach hsome⟩

end Operations

end Scaffold.Files.FileSystem
