import Scaffold.Files.FileSystem
import Scaffold.Proofs.Files.Joining

namespace Scaffold.Files

/-!
# Looking up paths

In a file system without links, a path leads to the one location that its pieces spell. What is left of a walk
is whether it gets there.

* `LinkFree`, `Rooted` — file systems without links, and such in which every entry stands in a folder;
* `placeOf` — the location that a path is about, `Passes`, what the path comes past on the way there, and
  `Reachable`, whether the system gets there;
* `locate_eq_ok_iff` — locating a path, whether or not a last link is followed;
* `entry_eq_ok_iff_locate` and its like — looking at a path; `entry_eq_ok_iff` and its like, where there are no
  links.
-/

/-- Whether the system takes the path at all: it is not empty, holds no NUL, and is not too long. -/
structure Path.IsAccepted (p : Path) : Prop where
  no_nul : ∀ piece ∈ p.pieces, '\x00' ∉ piece.toList
  nonempty : p.text ≠ ""
  short : p.text.utf8ByteSize ≤ FileSystem.pathLimit

/-- Whether the system takes the path and each name in it, whatever stands where. -/
structure Path.Fits (p : Path) : Prop where
  accepted : p.IsAccepted
  names : ∀ piece ∈ p.pieces, piece.utf8ByteSize ≤ FileSystem.nameLimit

/-- Whether the system takes a path can be computed. -/
instance (p : Path) : Decidable p.IsAccepted :=
  decidable_of_iff ((∀ piece ∈ p.pieces, '\x00' ∉ piece.toList) ∧ p.text ≠ "" ∧
      p.text.utf8ByteSize ≤ FileSystem.pathLimit)
    ⟨fun ⟨h₁, h₂, h₃⟩ => ⟨h₁, h₂, h₃⟩, fun ⟨h₁, h₂, h₃⟩ => ⟨h₁, h₂, h₃⟩⟩

/-- Whether the system takes a path and its names can be computed. -/
instance (p : Path) : Decidable p.Fits :=
  decidable_of_iff (p.IsAccepted ∧ ∀ piece ∈ p.pieces, piece.utf8ByteSize ≤ FileSystem.nameLimit)
    ⟨fun ⟨h₁, h₂⟩ => ⟨h₁, h₂⟩, fun ⟨h₁, h₂⟩ => ⟨h₁, h₂⟩⟩

/-- A path without pieces that the system takes is that of the root. -/
theorem Path.IsAccepted.absolute_of_nil {p : Path} (h : p.IsAccepted) (hnil : p.pieces = []) :
    p.absolute = true := by
  by_contra hrel
  exact h.nonempty (by simp [Path.text, hrel, hnil, Text.joinWith, Chars.joinWith])

/-- The system takes the beginnings of a path, except for an empty one. -/
theorem Path.Fits.of_isPrefix {p q : Path} (h : p.Fits) (habs : q.absolute = p.absolute)
    (hpieces : q.pieces <+: p.pieces) (htext : q.text ≠ "") : q.Fits where
  accepted :=
    { no_nul := fun piece hpiece => h.accepted.no_nul piece (hpieces.subset hpiece)
      nonempty := htext
      short := Nat.le_trans (Path.utf8ByteSize_text_le habs hpieces) h.accepted.short }
  names := fun piece hpiece => h.names piece (hpieces.subset hpiece)

namespace FileSystem

/-! ### File systems -/

/-- No entry is a symbolic link. -/
def LinkFree (fs : FileSystem) : Prop :=
  ∀ place target, fs.entryAt? place ≠ some (.link target)

/-- Every entry stands in a folder. -/
def Rooted (fs : FileSystem) : Prop :=
  ∀ place name, fs.entryAt? (place ++ [name]) ≠ none → fs.entryAt? place = some .folder

/-- Only the entries that are there have to be looked at. -/
theorem linkFree_of_entries {fs : FileSystem} (h : ∀ e ∈ fs.entries, ∀ target, e.2 ≠ .link target) :
    fs.LinkFree := by
  intro place target hlink
  rw [entryAt?] at hlink
  split at hlink
  · cases hlink
  · obtain ⟨before, after, hentries, _⟩ := List.lookup_eq_some_iff.1 hlink
    exact h (place, .link target) (by rw [hentries]; simp) target rfl

/-- Only the entries that are there have to be looked at. -/
theorem rooted_of_entries {fs : FileSystem}
    (h : ∀ e ∈ fs.entries, fs.entryAt? e.1.dropLast = some .folder) : fs.Rooted := by
  intro place name hsome
  rw [entryAt?, if_neg (by simp), Option.ne_none_iff_exists'] at hsome
  obtain ⟨e, he⟩ := hsome
  obtain ⟨before, after, hentries, _⟩ := List.lookup_eq_some_iff.1 he
  have := h (place ++ [name], e) (by rw [hentries]; simp)
  rwa [List.dropLast_concat] at this

/-- The root is a folder. -/
theorem ne_nil_of_ne_folder {fs : FileSystem} {place : Location} (h : fs.entryAt? place ≠ some .folder) :
    place ≠ [] := by
  rintro rfl
  exact h fs.entryAt?_root

/-! ### Following pieces -/

/-- Where a piece leads from a folder. -/
def next (at_ : Location) (piece : String) : Location :=
  if Path.isIdle piece then at_ else if piece = ".." then at_.dropLast else at_ ++ [piece]

/-- Where pieces lead from a folder, one after the other. -/
def follow (at_ : Location) (pieces : List String) : Location := pieces.foldl next at_

@[simp] theorem follow_nil (at_ : Location) : follow at_ [] = at_ := rfl

@[simp] theorem follow_cons (at_ : Location) (piece : String) (pieces : List String) :
    follow at_ (piece :: pieces) = follow (next at_ piece) pieces := rfl

/-- Following pieces in two stretches. -/
theorem follow_append (at_ : Location) (pieces rest : List String) :
    follow at_ (pieces ++ rest) = follow (follow at_ pieces) rest := List.foldl_append

/-- An empty piece or a dot leads nowhere else. -/
theorem next_of_isIdle (at_ : Location) {piece : String} (h : Path.isIdle piece = true) :
    next at_ piece = at_ := if_pos h

/-- A name leads to what it names in the folder. -/
theorem next_of_isNormal (at_ : Location) {name : String} (h : Path.IsNormal name) :
    next at_ name = at_ ++ [name] := by
  rw [next, h.not_isIdle, if_neg (by simp), if_neg h.ne_up]

/-- Pieces that are empty or dots lead nowhere else. -/
theorem follow_of_isIdle (at_ : Location) {pieces : List String}
    (h : ∀ piece ∈ pieces, Path.isIdle piece = true) : follow at_ pieces = at_ := by
  induction pieces with
  | nil => rfl
  | cons piece pieces ih =>
    rw [follow_cons, next_of_isIdle at_ (h piece List.mem_cons_self)]
    exact ih fun next hnext => h next (List.mem_cons_of_mem _ hnext)

/-- Trimming leaves out pieces that lead nowhere else. -/
theorem follow_of_trims (at_ : Location) {kept pieces : List String} (h : Path.Trims kept pieces) :
    follow at_ kept = follow at_ pieces := by
  obtain ⟨rest, rfl, hidle⟩ := h
  rw [follow_append, follow_of_isIdle _ hidle]

/-- Normal names lead one folder further each. -/
theorem follow_of_normal (at_ : Location) {names : List String}
    (h : ∀ name ∈ names, Path.IsNormal name) : follow at_ names = at_ ++ names := by
  induction names generalizing at_ with
  | nil => simp
  | cons name names ih =>
    rw [follow_cons, next_of_isNormal at_ (h name List.mem_cons_self),
      ih _ fun next hnext => h next (List.mem_cons_of_mem _ hnext), List.append_assoc,
      List.singleton_append]

/-- A name in a folder is where the path of the folder leads and one further. -/
theorem follow_join (at_ : Location) (p : Path) {name : String} (hname : Path.IsNormal name) :
    follow at_ (p.join name).pieces = follow at_ p.pieces ++ [name] := by
  rw [p.join_eq hname, follow_append, follow_of_trims at_ p.trims_stem, follow_cons, follow_nil,
    next_of_isNormal _ hname]

/-- Without going up, pieces lead through the names among them. -/
theorem follow_of_plain (at_ : Location) {pieces : List String} (h : ".." ∉ pieces) :
    follow at_ pieces = at_ ++ pieces.filter (!Path.isIdle ·) := by
  induction pieces generalizing at_ with
  | nil => simp
  | cons piece pieces ih =>
    rw [List.mem_cons, not_or] at h
    rw [follow_cons, ih _ h.2, next]
    by_cases hidle : Path.isIdle piece = true
    · rw [if_pos hidle, List.filter_cons_of_neg (by simp [hidle])]
    · rw [if_neg hidle, if_neg (Ne.symm h.1), List.filter_cons_of_pos (by simpa using hidle),
        List.append_assoc, List.singleton_append]

/-- Without going up, each beginning of the pieces leads to a beginning of where they lead. -/
theorem follow_isPrefix {pieces start : List String} (hplain : ".." ∉ pieces) (h : start <+: pieces)
    (at_ : Location) : follow at_ start <+: follow at_ pieces := by
  rw [follow_of_plain at_ hplain, follow_of_plain at_ fun hup => hplain (h.subset hup)]
  exact (List.prefix_append_right_inj at_).2 (h.filter _)

/-! ### The location of a path -/

/-- Where a path starts. -/
def baseOf (fs : FileSystem) (p : Path) : Location := if p.absolute then [] else fs.workingFolder

/-- The location that a path is about. -/
def placeOf (fs : FileSystem) (p : Path) : Location := follow (fs.baseOf p) p.pieces

/-- Whether a path comes past a location on the way to its own. -/
def Passes (fs : FileSystem) (p : Path) (place : Location) : Prop :=
  ∃ start, start <+: p.pieces ∧ follow (fs.baseOf p) start = place

/-- Where a path starts depends on the working folder only. -/
theorem baseOf_congr {fs fs' : FileSystem} (h : fs'.workingFolder = fs.workingFolder) {p q : Path}
    (habs : q.absolute = p.absolute) : fs'.baseOf q = fs.baseOf p := by
  rw [baseOf, baseOf, h, habs]

/-- What a path is about depends on the working folder only. -/
theorem placeOf_congr {fs fs' : FileSystem} (h : fs'.workingFolder = fs.workingFolder) (p : Path) :
    fs'.placeOf p = fs.placeOf p := by
  rw [placeOf, placeOf, baseOf_congr h rfl]

/-- What a path comes past depends on the working folder only. -/
theorem passes_congr {fs fs' : FileSystem} (h : fs'.workingFolder = fs.workingFolder) (p : Path) :
    fs'.Passes p = fs.Passes p := by
  funext place
  rw [Passes, Passes, baseOf_congr h rfl]

/-- A path is about the same location when it is trimmed. -/
@[simp] theorem placeOf_trimmed (fs : FileSystem) (p : Path) :
    fs.placeOf p.trimmed = fs.placeOf p :=
  follow_of_trims _ p.trims_trimPieces

/-- A name behind a path is about what it names there. -/
theorem placeOf_join (fs : FileSystem) (p : Path) {name : String} (hname : Path.IsNormal name) :
    fs.placeOf (p.join name) = fs.placeOf p ++ [name] := by
  rw [placeOf, follow_join _ p hname, baseOf_congr rfl (p.absolute_join hname), placeOf]

/-- Names between slashes lead below the folder of the path that they are joined to. -/
theorem placeOf_join_of_normal (fs : FileSystem) (p : Path) {text : String}
    (h : ∀ name ∈ Text.splitOn '/' text, Path.IsNormal name) :
    fs.placeOf (p.join text) = fs.placeOf p ++ Text.splitOn '/' text := by
  rw [placeOf, p.join_of_normal h, follow_append, follow_of_trims _ p.trims_stem,
    follow_of_normal _ h]
  rfl

namespace Passes

variable {fs : FileSystem} {p q : Path} {place : Location}

/-- A path comes past the location that it is about. -/
theorem placeOf (fs : FileSystem) (p : Path) : fs.Passes p (fs.placeOf p) :=
  ⟨p.pieces, List.prefix_refl _, rfl⟩

/-- A path comes past what its beginnings come past. -/
theorem of_isPrefix (hpasses : fs.Passes q place) (habs : q.absolute = p.absolute)
    (h : q.pieces <+: p.pieces) : fs.Passes p place := by
  obtain ⟨start, hstart, heq⟩ := hpasses
  exact ⟨start, hstart.trans h, by rw [← heq, baseOf_congr rfl habs]⟩

/-- Idle pieces at the end lead past nothing else. -/
theorem of_trims (hpasses : fs.Passes p place) (habs : q.absolute = p.absolute)
    (h : Path.Trims q.pieces p.pieces) : fs.Passes q place := by
  obtain ⟨start, hstart, rfl⟩ := hpasses
  rw [← baseOf_congr rfl habs]
  rcases List.prefix_or_prefix_of_prefix hstart h.isPrefix with hshort | ⟨idle, rfl⟩
  · exact ⟨start, hshort, rfl⟩
  · obtain ⟨rest, hrest, hidle⟩ := h
    refine ⟨q.pieces, List.prefix_refl _, follow_of_trims _ ⟨idle, rfl, fun piece hpiece => hidle piece ?_⟩⟩
    rw [hrest, List.prefix_append_right_inj] at hstart
    exact hstart.subset hpiece

/-- The path of a name in a folder comes past what that of the folder does. -/
theorem of_join {name : String} (hname : Path.IsNormal name) (h : fs.Passes (p.join name) place) :
    fs.Passes p place ∨ place = fs.placeOf (p.join name) := by
  obtain ⟨start, hstart, rfl⟩ := h
  have hbase := baseOf_congr (rfl : fs.workingFolder = fs.workingFolder) (p.absolute_join hname)
  rw [p.join_eq hname] at hstart
  rcases List.prefix_concat_iff.1 hstart with hall | hstart
  · refine .inr ?_
    rw [FileSystem.placeOf, hall, p.join_eq hname]
  · exact .inl ⟨start, hstart.trans p.trims_stem.isPrefix, by rw [hbase]⟩

/-- What the path of a folder comes past, that of a name in it does too. -/
theorem join {name : String} (hname : Path.IsNormal name) (h : fs.Passes p place) :
    fs.Passes (p.join name) place := by
  have hstem : fs.Passes ⟨p.absolute, p.stem⟩ place := h.of_trims rfl p.trims_stem
  exact hstem.of_isPrefix (p.absolute_join hname).symm ⟨[name], (p.pieces_join hname).symm⟩

/-- A plain path comes past the locations around its own. -/
theorem isPrefix (hp : p.IsPlain) (h : fs.Passes p place) : place <+: fs.placeOf p := by
  obtain ⟨start, hstart, rfl⟩ := h
  exact follow_isPrefix hp hstart _

end Passes

/-! ### Walking -/

/-- Whether the folders on the way from `at_` along `pieces` are there, and the names are short enough.
    The last name need not exist. -/
def Walkable (fs : FileSystem) (at_ : Location) : List String → Prop
  | [] => True
  | piece :: rest =>
    fs.entryAt? at_ = some .folder ∧ piece.utf8ByteSize ≤ nameLimit ∧ Walkable fs (next at_ piece) rest

/-- An empty piece or a dot is no longer than a name may be. -/
theorem utf8ByteSize_le_of_isIdle {piece : String} (h : Path.isIdle piece = true) :
    piece.utf8ByteSize ≤ nameLimit := by
  rw [Path.isIdle, Bool.or_eq_true, decide_eq_true_eq, decide_eq_true_eq] at h
  rcases h with rfl | rfl <;> decide

/-- **Walks.** Without links a walk ends where its pieces lead, if the way is there. -/
theorem walkWith_eq_ok_iff {fs : FileSystem} (hfs : fs.LinkFree) (followLast : Bool)
    (onLink : Location → List String → Except Fault Location) (pieces : List String)
    (at_ place : Location) :
    fs.walkWith followLast onLink at_ pieces = .ok place ↔
      place = follow at_ pieces ∧ fs.Walkable at_ pieces := by
  induction pieces generalizing at_ with
  | nil => simp [walkWith, Walkable, eq_comm]
  | cons piece rest ih =>
    rw [walkWith, Walkable, follow_cons]
    cases hat : fs.entryAt? at_ with
    | none => simp
    | some e =>
      cases e with
      | file content => simp
      | link target => exact absurd hat (hfs at_ target)
      | folder =>
        simp only [true_and]
        -- An idle piece stays where it is, and `..` goes up; both go on with the rest.
        by_cases hidle : Path.isIdle piece = true
        · rw [if_pos hidle, next_of_isIdle at_ hidle]
          simp only [utf8ByteSize_le_of_isIdle hidle, true_and]
          exact ih at_
        rw [if_neg hidle, next, if_neg hidle]
        by_cases hup : piece = ".."
        · have hshort : piece.utf8ByteSize ≤ nameLimit := by
            rw [hup]
            decide
          rw [if_pos hup, if_pos hup]
          simp only [hshort, true_and]
          exact ih at_.dropLast
        rw [if_neg hup, if_neg hup]
        by_cases hlong : nameLimit < piece.utf8ByteSize
        · rw [if_pos hlong]
          simp [Nat.not_le.2 hlong]
        · have hshort : piece.utf8ByteSize ≤ nameLimit := Nat.le_of_not_lt hlong
          rw [if_neg hlong]
          simp only [hshort, true_and]
          -- What stands at the next place decides whether the walk may go on.
          cases hnext : fs.entryAt? (at_ ++ [piece]) with
          | none =>
            cases rest with
            | nil => simp [Walkable, eq_comm]
            | cons after rest => simp [Walkable, hnext]
          | some e =>
            cases e with
            | link target => exact absurd hnext (hfs _ target)
            | folder => exact ih _
            | file content => exact ih _

/-- Following links makes no difference where there are none. -/
theorem walk_eq_ok_iff {fs : FileSystem} (hfs : fs.LinkFree) (followLast : Bool) (links : Nat)
    (pieces : List String) (at_ place : Location) :
    fs.walk followLast links at_ pieces = .ok place ↔
      place = follow at_ pieces ∧ fs.Walkable at_ pieces := by
  cases links with
  | zero => exact walkWith_eq_ok_iff hfs followLast _ pieces at_ place
  | succ links => exact walkWith_eq_ok_iff hfs followLast _ pieces at_ place

/-- A walk in two stretches. -/
theorem walkable_append {fs : FileSystem} {at_ : Location} {pieces rest : List String} :
    fs.Walkable at_ (pieces ++ rest) ↔ fs.Walkable at_ pieces ∧ fs.Walkable (follow at_ pieces) rest := by
  induction pieces generalizing at_ with
  | nil => simp [Walkable]
  | cons piece pieces ih => rw [List.cons_append, Walkable, Walkable, ih, follow_cons, and_assoc, and_assoc]

/-- A walk gets to its end if all names are short enough and each piece is followed from a folder. -/
theorem walkable_iff {fs : FileSystem} {at_ : Location} {pieces : List String} :
    fs.Walkable at_ pieces ↔ (∀ piece ∈ pieces, piece.utf8ByteSize ≤ nameLimit) ∧
      ∀ start piece, start ++ [piece] <+: pieces → fs.entryAt? (follow at_ start) = some .folder := by
  induction pieces generalizing at_ with
  | nil => simp [Walkable]
  | cons first pieces ih =>
    rw [Walkable, ih]
    constructor
    · rintro ⟨hfolder, hshort, hnames, hway⟩
      refine ⟨by simpa using ⟨hshort, hnames⟩, fun start piece hstart => ?_⟩
      -- The empty start asks for the folder itself; a longer one passes the first name.
      cases start with
      | nil => exact hfolder
      | cons n start =>
        rw [List.cons_append, List.cons_prefix_cons] at hstart
        rw [hstart.1]
        exact hway start piece hstart.2
    · rintro ⟨hshort, hway⟩
      refine ⟨hway [] first ⟨pieces, rfl⟩, hshort first List.mem_cons_self,
        fun piece hpiece => hshort piece (List.mem_cons_of_mem _ hpiece), fun start piece hstart => ?_⟩
      exact hway (first :: start) piece (by simpa using hstart)

/-! ### Locating -/

/-- Whether the system gets to the location of a path, which need not exist. -/
def Reachable (fs : FileSystem) (p : Path) : Prop :=
  p.IsAccepted ∧ fs.Walkable (fs.baseOf p) p.pieces

/-- A path that the system takes is walked from where it starts. -/
theorem locate_eq_ok_iff_walk {fs : FileSystem} {followLast : Bool} {p : Path} {place : Location} :
    fs.locate followLast p = .ok place ↔
      p.IsAccepted ∧ fs.walk followLast linkLimit (fs.baseOf p) p.pieces = .ok place := by
  rw [locate]
  -- Each refusal of the search is a field of `IsAccepted`, in the order of its tests.
  by_cases hnul : p.pieces.any (·.toList.contains '\x00') = true
  · have hnot : ¬ p.IsAccepted := by
      intro h
      obtain ⟨piece, hmem, hpiece⟩ := List.any_eq_true.1 hnul
      exact h.no_nul piece hmem (by simpa using hpiece)
    rw [if_pos hnul]
    simp [hnot]
  rw [if_neg hnul]
  by_cases hempty : p.text.isEmpty = true
  · have hnot : ¬ p.IsAccepted := fun h => h.nonempty (by simpa using hempty)
    rw [if_pos hempty]
    simp [hnot]
  rw [if_neg hempty]
  by_cases hlong : pathLimit < p.text.utf8ByteSize
  · have hnot : ¬ p.IsAccepted := fun h => absurd h.short (Nat.not_le.2 hlong)
    rw [if_pos hlong]
    simp [hnot]
  rw [if_neg hlong]
  have haccepted : p.IsAccepted := by
    refine ⟨?_, by simpa using hempty, Nat.le_of_not_lt hlong⟩
    intro piece hmem hpiece
    exact hnul (List.any_eq_true.2 ⟨piece, hmem, by simpa using hpiece⟩)
  exact (and_iff_right haccepted).symm

/-- **Locating.** A path leads to the location that it spells, if the system gets there. -/
theorem locate_eq_ok_iff {fs : FileSystem} (hfs : fs.LinkFree) (followLast : Bool) {p : Path}
    (place : Location) :
    fs.locate followLast p = .ok place ↔ place = fs.placeOf p ∧ fs.Reachable p := by
  rw [locate_eq_ok_iff_walk, walk_eq_ok_iff hfs, Reachable, placeOf]
  exact and_left_comm

/-- What locating a path gives: the one location it is about, or a fault. -/
theorem locate_cases {fs : FileSystem} (hfs : fs.LinkFree) (followLast : Bool) (p : Path) :
    (fs.Reachable p ∧ fs.locate followLast p = .ok (fs.placeOf p)) ∨
      (¬ fs.Reachable p ∧ ∃ fault, fs.locate followLast p = .error fault) := by
  have hlocate := locate_eq_ok_iff hfs followLast (p := p)
  by_cases hreach : fs.Reachable p
  · exact .inl ⟨hreach, (hlocate _).2 ⟨rfl, hreach⟩⟩
  · refine .inr ⟨hreach, ?_⟩
    cases hloc : fs.locate followLast p with
    | error fault => exact ⟨fault, rfl⟩
    | ok place => exact absurd ((hlocate place).1 hloc).2 hreach

/-! ### Looking -/

/-- A result that is no failure has a value. -/
theorem toBool_eq_true_iff {ε α : Type} {x : Except ε α} : x.toBool = true ↔ ∃ a, x = .ok a := by
  cases x <;> simp [Except.toBool]

section Looking

variable {fs : FileSystem} {p : Path}

/-- What is found at the location of a path. -/
theorem look_eq_ok_iff_locate {followLast : Bool} {e : Entry} :
    (do match fs.entryAt? (← fs.locate followLast p) with
        | some e => .ok e
        | none => .error .notFound : Except Fault Entry) = .ok e ↔
      ∃ place, fs.locate followLast p = .ok place ∧ fs.entryAt? place = some e := by
  cases hlocate : fs.locate followLast p with
  | error fault => simp [bind, Except.bind]
  | ok place =>
    simp only [bind, Except.bind, Except.ok.injEq, exists_eq_left']
    cases fs.entryAt? place <;> simp

/-- What stands at a path, a link included, stands where the path leads to. -/
theorem entry_eq_ok_iff_locate {e : Entry} :
    fs.entry p = .ok e ↔ ∃ place, fs.locate false p = .ok place ∧ fs.entryAt? place = some e :=
  look_eq_ok_iff_locate

/-- What stands behind a path, its last link followed, stands where the path leads to. -/
theorem stat_eq_ok_iff_locate {e : Entry} :
    fs.stat p = .ok e ↔ ∃ place, fs.locate true p = .ok place ∧ fs.entryAt? place = some e :=
  look_eq_ok_iff_locate

/-- A path is that of a folder if it leads to one. -/
theorem isFolder_iff_locate : fs.isFolder p = true ↔
    ∃ place, fs.locate true p = .ok place ∧ fs.entryAt? place = some .folder := by
  rw [← stat_eq_ok_iff_locate, isFolder]
  split <;> simp_all

/-- A path is occupied if something stands where it leads to, be it a link. -/
theorem occupied_iff_locate : fs.occupied p = true ↔
    ∃ place, fs.locate false p = .ok place ∧ fs.entryAt? place ≠ none := by
  rw [occupied, toBool_eq_true_iff]
  simp only [entry_eq_ok_iff_locate, Option.ne_none_iff_exists']
  exact ⟨fun ⟨e, place, h, he⟩ => ⟨place, h, e, he⟩, fun ⟨place, h, e, he⟩ => ⟨e, place, h, he⟩⟩

/-- A path leads to something if something stands there behind its last link. -/
theorem leads_iff_locate : fs.leads p = true ↔
    ∃ place, fs.locate true p = .ok place ∧ fs.entryAt? place ≠ none := by
  rw [leads, toBool_eq_true_iff]
  simp only [stat_eq_ok_iff_locate, Option.ne_none_iff_exists']
  exact ⟨fun ⟨e, place, h, he⟩ => ⟨place, h, e, he⟩, fun ⟨place, h, e, he⟩ => ⟨e, place, h, he⟩⟩

section LinkFree

variable (hfs : fs.LinkFree)
include hfs

/-- What is found where there are no links, whether or not a last one is followed. -/
theorem exists_locate_iff (followLast : Bool) (P : Option Entry → Prop) :
    (∃ place, fs.locate followLast p = .ok place ∧ P (fs.entryAt? place)) ↔
      fs.Reachable p ∧ P (fs.entryAt? (fs.placeOf p)) := by
  simp only [locate_eq_ok_iff hfs, and_assoc, exists_eq_left]

/-- Without links, what stands at a path is the entry at its location. -/
theorem entry_eq_ok_iff {e : Entry} :
    fs.entry p = .ok e ↔ fs.Reachable p ∧ fs.entryAt? (fs.placeOf p) = some e :=
  entry_eq_ok_iff_locate.trans (exists_locate_iff hfs false (· = some e))

/-- Without links, there is no difference between a path and what it leads to. -/
theorem stat_eq_ok_iff {e : Entry} :
    fs.stat p = .ok e ↔ fs.Reachable p ∧ fs.entryAt? (fs.placeOf p) = some e :=
  stat_eq_ok_iff_locate.trans (exists_locate_iff hfs true (· = some e))

/-- Without links, a path is that of a folder if one stands at its location. -/
theorem isFolder_iff :
    fs.isFolder p = true ↔ fs.Reachable p ∧ fs.entryAt? (fs.placeOf p) = some .folder :=
  isFolder_iff_locate.trans (exists_locate_iff hfs true (· = some .folder))

/-- Without links, a path is occupied if something stands at its location. -/
theorem occupied_iff :
    fs.occupied p = true ↔ fs.Reachable p ∧ fs.entryAt? (fs.placeOf p) ≠ none :=
  occupied_iff_locate.trans (exists_locate_iff hfs false (· ≠ none))

/-- Without links, a path leads to something exactly if something stands at it. -/
theorem leads_iff : fs.leads p = true ↔ fs.Reachable p ∧ fs.entryAt? (fs.placeOf p) ≠ none :=
  leads_iff_locate.trans (exists_locate_iff hfs true (· ≠ none))

/-- Without links there is nothing at a path that leads nowhere. -/
theorem occupied_eq_leads : fs.occupied p = fs.leads p := by
  rw [Bool.eq_iff_iff, occupied_iff hfs, leads_iff hfs]

end LinkFree

end Looking

end FileSystem

end Scaffold.Files
