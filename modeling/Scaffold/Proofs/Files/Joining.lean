import Scaffold.Files.Path
import Scaffold.Proofs.FileName
import Scaffold.Proofs.Text.Pieces
import Mathlib.Data.List.Basic
import Mathlib.Data.List.TakeWhile

namespace Scaffold

/-!
# Joining names to paths

A name that stands for an entry of a folder is put behind the pieces of a path as it is. What is lost or
trimmed at the end of a path is idle: empty pieces and dots.

* `Path.IsNormal` — texts that name an entry of a folder; `FileName.IsClean.isNormal`, that clean names do;
* `Path.Trims` — the beginnings of a path behind which all is idle;
* `Path.parent?_eq`, `Path.exists_of_fileName?` — the last piece of a path that is not idle;
* `Path.join_eq`, `Path.parent?_join` — the path of a name in a folder, and what is around it;
* `Path.IsPlain` — paths that do not go up.
-/

namespace Files.Path

/-! ### Normal names -/

/-- A text that is one component of a path and stands for an entry of a folder. -/
structure IsNormal (name : String) : Prop where
  nonempty : name ≠ ""
  ne_here : name ≠ "."
  ne_up : name ≠ ".."
  no_slash : '/' ∉ name.toList

/-- Whether a name is normal can be computed. -/
instance (name : String) : Decidable (IsNormal name) :=
  decidable_of_iff (name ≠ "" ∧ name ≠ "." ∧ name ≠ ".." ∧ '/' ∉ name.toList)
    ⟨fun ⟨h₁, h₂, h₃, h₄⟩ => ⟨h₁, h₂, h₃, h₄⟩, fun ⟨h₁, h₂, h₃, h₄⟩ => ⟨h₁, h₂, h₃, h₄⟩⟩

/-- A normal name is not passed over. -/
theorem IsNormal.not_isIdle {name : String} (h : IsNormal name) : isIdle name = false := by
  simp [isIdle, h.nonempty, h.ne_here]

/-- A normal name is a component. -/
theorem IsNormal.component? {name : String} (h : IsNormal name) :
    component? name = some (.name name) := by
  simp [Path.component?, h.not_isIdle, h.ne_up]

/-- A text that is not empty and has no slash in front is read as a relative path. -/
theorem ofText_of_relative {text : String} (hne : text ≠ "") (hslash : text.toList.head? ≠ some '/') :
    ofText text = ⟨false, Text.splitOn '/' text⟩ := by
  rw [ofText]
  split
  · rename_i htext
    exact absurd (String.toList_eq_nil_iff.1 htext) hne
  · rename_i htext
    simp [htext] at hslash
  · rename_i rest _ htext
    simp [htext] at hslash
  · rfl

/-- Normal names between slashes are read as the path of these names. -/
theorem ofText_of_normal {text : String}
    (h : ∀ name ∈ Text.splitOn '/' text, IsNormal name) :
    ofText text = ⟨false, Text.splitOn '/' text⟩ := by
  -- Else the text is empty or starts with a slash, and its first piece is empty.
  have hfirst : "" ∉ Text.splitOn '/' text := fun hmem => (h "" hmem).nonempty rfl
  refine ofText_of_relative ?_ ?_
  · rintro rfl
    exact hfirst (by decide)
  · intro hslash
    obtain ⟨rest, htext⟩ : ∃ rest, text.toList = '/' :: rest := List.head?_eq_some_iff.1 hslash
    simp [Text.splitOn, htext, Chars.splitOn] at hfirst

/-- A normal name has no slashes between which it would fall into pieces. -/
theorem IsNormal.splitOn_eq {name : String} (h : IsNormal name) :
    Text.splitOn '/' name = [name] := by
  rw [Text.splitOn, Chars.splitOn_of_notMem h.no_slash, List.map_singleton, String.ofList_toList]

/-! ### Beginnings of paths -/

/-- Behind the pieces that are kept, all is idle. -/
def Trims (kept pieces : List String) : Prop :=
  ∃ rest, pieces = kept ++ rest ∧ ∀ piece ∈ rest, isIdle piece = true

/-- What is kept is in front. -/
theorem Trims.isPrefix {kept pieces : List String} (h : Trims kept pieces) : kept <+: pieces := by
  obtain ⟨rest, rfl, _⟩ := h
  exact List.prefix_append _ _

/-- Trimming twice is trimming. -/
theorem Trims.trans {fewer kept pieces : List String} (h : Trims fewer kept) (h' : Trims kept pieces) :
    Trims fewer pieces := by
  obtain ⟨rest, rfl, hrest⟩ := h
  obtain ⟨idle, rfl, hidle⟩ := h'
  refine ⟨rest ++ idle, List.append_assoc _ _ _, fun piece hpiece => ?_⟩
  rcases List.mem_append.1 hpiece with h | h
  · exact hrest piece h
  · exact hidle piece h

/-- What is dropped from the end is idle. -/
theorem trims_dropWhile {q : String → Bool} (hq : ∀ piece, q piece = true → isIdle piece = true)
    (pieces : List String) : Trims (pieces.reverse.dropWhile q).reverse pieces := by
  refine ⟨(pieces.reverse.takeWhile q).reverse, ?_, fun piece hpiece => ?_⟩
  · rw [← List.reverse_append, List.takeWhile_append_dropWhile, List.reverse_reverse]
  · exact hq piece (List.mem_takeWhile_imp (List.mem_reverse.1 hpiece))

/-- The pieces that a name is put behind: an empty one at the end goes. -/
def stem (p : Path) : List String :=
  if p.pieces.getLast? = some "" then p.pieces.dropLast else p.pieces

/-- Only an empty piece is missing in front of a name that is put behind a path. -/
theorem stem_cases (p : Path) : p.pieces = p.stem ∨ p.pieces = p.stem ++ [""] := by
  rw [stem]
  split
  · rename_i hlast
    exact .inr (List.dropLast_append_getLast? "" hlast).symm
  · exact .inl rfl

/-- The stem of a path is what is kept of it. -/
theorem trims_stem (p : Path) : Trims p.stem p.pieces := by
  rcases p.stem_cases with h | h
  · exact ⟨[], by rw [List.append_nil, ← h], by simp⟩
  · exact ⟨[""], h, by simp [isIdle]⟩

/-- What trimming leaves is a beginning of the pieces, with idle ones behind it. -/
theorem trims_trimPieces (p : Path) : Trims p.trimPieces p.pieces := by
  obtain ⟨rest, hrest, hidle⟩ := trims_dropWhile (fun _ h => h) p.pieces
  rw [trimPieces]
  split
  · rename_i hnil
    rw [hnil, List.nil_append] at hrest
    split
    · rename_i hdot
      -- The path is a dot with idle pieces behind it.
      cases hpieces : p.pieces with
      | nil => simp [hpieces] at hdot
      | cons piece tail =>
        simp only [hpieces, List.head?_cons, Bool.and_eq_true, decide_eq_true_eq] at hdot
        rw [Option.some.inj hdot.2]
        refine ⟨tail, rfl, fun next hnext => hidle next ?_⟩
        rw [← hrest, hpieces]
        exact List.mem_cons_of_mem _ hnext
    · exact ⟨rest, by rw [List.nil_append, ← hrest], hidle⟩
  · exact ⟨rest, hrest, hidle⟩

/-- The path without idle pieces at its end. -/
def trimmed (p : Path) : Path := ⟨p.absolute, p.trimPieces⟩

/-- Trimming does not change where a path starts. -/
@[simp] theorem trimmed_absolute (p : Path) : p.trimmed.absolute = p.absolute := rfl

/-- A path has at least as many bytes as a beginning of it. -/
theorem utf8ByteSize_text_le {p q : Path} (habs : q.absolute = p.absolute)
    (h : q.pieces <+: p.pieces) : q.text.utf8ByteSize ≤ p.text.utf8ByteSize := by
  obtain ⟨rest, hrest⟩ := Chars.joinWith_isPrefix "/".toList (h.map String.toList)
  have htext : p.text = q.text ++ String.ofList rest := by
    rw [text, text, Text.joinWith, Text.joinWith, ← hrest, String.ofList_append, habs,
      String.append_assoc]
  rw [htext, String.utf8ByteSize_append]
  exact Nat.le_add_right _ _

/-- The empty path is not that of the root, and all its pieces are idle. -/
theorem isIdle_of_text_eq_empty {p : Path} (h : p.text = "") :
    p.absolute = false ∧ ∀ piece ∈ p.pieces, isIdle piece = true := by
  rw [text, String.append_eq_empty_iff] at h
  obtain ⟨hslash, hpieces⟩ := h
  refine ⟨?_, ?_⟩
  · by_contra habs
    rw [Bool.not_eq_false] at habs
    rw [if_pos habs] at hslash
    exact absurd hslash (by decide)
  -- The pieces join to nothing, so there is at most one, and it is empty.
  · have hjoin : Chars.joinWith "/".toList (p.pieces.map String.toList) = [] := by
      simpa [Text.joinWith] using hpieces
    cases hp : p.pieces with
    | nil => simp
    | cons piece rest =>
      rw [hp] at hjoin
      cases rest with
      | nil =>
        obtain rfl : piece = "" := by simpa [Chars.joinWith] using hjoin
        simp [isIdle]
      | cons next rest => simp [Chars.joinWith] at hjoin

/-- An empty piece at the end is trimmed first of all. -/
theorem trimPieces_stem (p : Path) : (⟨p.absolute, p.stem⟩ : Path).trimPieces = p.trimPieces := by
  rcases p.stem_cases with h | h
  · rw [trimPieces, trimPieces, h]
  · have hhead : p.stem.head? = some "." ↔ (p.stem ++ [""]).head? = some "." := by
      cases p.stem <;> simp
    rw [trimPieces, trimPieces, h]
    simp [isIdle, hhead]

/-- Trimming the stem is trimming the path. -/
theorem trimmed_stem (p : Path) : (⟨p.absolute, p.stem⟩ : Path).trimmed = p.trimmed := by
  rw [trimmed, trimPieces_stem]
  rfl

/-- A trimmed path does not end with a slash. -/
theorem getLast?_trimPieces (p : Path) : p.trimPieces.getLast? ≠ some "" := by
  have hidle := List.head?_dropWhile_not isIdle p.pieces.reverse
  rw [trimPieces]
  split
  · split <;> simp
  · intro hlast
    rw [List.getLast?_reverse] at hlast
    rw [hlast] at hidle
    cases hidle

/-! ### The last piece -/

/-- A piece that is not idle stands for something. -/
theorem component?_eq_some {piece : String} (h : isIdle piece = false) :
    component? piece = some (if piece = ".." then .up else .name piece) := by
  rw [component?, h, if_neg Bool.false_ne_true]

section LastPiece

variable {p : Path} {init idle : List String} {piece : String} (hpieces : p.pieces = init ++ piece :: idle)
  (hpiece : isIdle piece = false) (hidle : ∀ last ∈ idle, isIdle last = true)
include hpieces hpiece hidle

/-- Trimming goes back to the last piece that is not idle. -/
theorem trimPieces_eq : p.trimPieces = init ++ [piece] := by
  have hdrop : (p.pieces.reverse.dropWhile isIdle).reverse = init ++ [piece] := by
    rw [hpieces, List.reverse_append, List.reverse_cons, List.append_assoc, List.dropWhile_append_of_pos
      fun last hlast => hidle last (List.mem_reverse.1 hlast), List.singleton_append,
      List.dropWhile_cons_of_neg (by simp [hpiece]), List.reverse_cons, List.reverse_reverse]
  rw [trimPieces, hdrop]
  split
  · rename_i hnil
    simp at hnil
  · rfl

/-- The last piece that is not idle is the last component. -/
theorem getLast?_components : p.components.getLast? = some (if piece = ".." then .up else .name piece) := by
  -- Behind the last piece that counts stand idle ones, which are no components.
  have hrest : (p.pieces.filterMap Path.component?).getLast? =
      some (if piece = ".." then .up else .name piece) := by
    have hnone : idle.filterMap Path.component? = [] := by
      rw [List.filterMap_eq_nil_iff]
      intro last hlast
      rw [Path.component?, if_pos (hidle last hlast)]
    rw [hpieces, List.filterMap_append, List.filterMap_cons, component?_eq_some hpiece, hnone]
    exact List.getLast?_concat
  -- A root or a leading dot only comes in front of the components.
  rw [components]
  split
  · rw [List.getLast?_cons, hrest]
    rfl
  · split
    · rw [List.getLast?_cons, hrest]
      rfl
    · exact hrest

/-- The parent of a path is what is in front of its last piece, without what is idle. -/
theorem parent?_eq : p.parent? = some (⟨p.absolute, init⟩ : Path).trimmed := by
  rw [parent?, getLast?_components hpieces hpiece hidle, trimPieces_eq hpieces hpiece hidle,
    List.dropLast_concat]
  by_cases hup : piece = ".."
  · rw [if_pos hup]
    rfl
  · rw [if_neg hup]
    rfl

end LastPiece

/-- The name that a path ends with is its last piece that is not idle. -/
theorem exists_of_fileName? {p : Path} {name : String} (h : p.fileName? = some name) :
    ∃ init idle, p.pieces = init ++ name :: idle ∧ ∀ last ∈ idle, isIdle last = true := by
  obtain ⟨idle, hpieces, hidle⟩ := trims_dropWhile (q := isIdle) (fun _ h => h) p.pieces
  rcases List.eq_nil_or_concat (p.pieces.reverse.dropWhile isIdle).reverse with hnil | ⟨init, piece, hkept⟩
  · -- All pieces are idle, so that no name is among the components.
    rw [hnil, List.nil_append] at hpieces
    have hnone : p.pieces.filterMap Path.component? = [] := by
      rw [List.filterMap_eq_nil_iff]
      intro last hlast
      rw [Path.component?, if_pos (hidle last (hpieces ▸ hlast))]
    rw [fileName?, components, hnone] at h
    split at h
    · rename_i hlast
      split at hlast
      · cases hlast
      · split at hlast <;> cases hlast
    · cases h
  · rw [List.concat_eq_append] at hkept
    -- What is left when the idle pieces at the end are dropped ends with one that is not idle.
    have hpiece : isIdle piece = false := by
      have hhead := List.head?_dropWhile_not isIdle p.pieces.reverse
      rw [← List.getLast?_reverse, hkept, List.getLast?_concat] at hhead
      simpa using hhead
    rw [hkept, List.append_assoc, List.singleton_append] at hpieces
    rw [fileName?, getLast?_components hpieces hpiece hidle] at h
    split at h
    · rename_i hlast
      split at hlast
      · cases hlast
      · cases hlast
        cases h
        exact ⟨init, idle, hpieces, hidle⟩
    · cases h

/-- The parent of a path is a beginning of it. -/
theorem isPrefix_of_parent? {p parent : Path} (h : p.parent? = some parent) :
    parent.absolute = p.absolute ∧ parent.pieces <+: p.pieces := by
  rw [parent?] at h
  split at h
  · cases h
  · cases h
  · cases h
    refine ⟨rfl, (trims_trimPieces _).isPrefix.trans ?_⟩
    exact (List.dropLast_prefix _).trans p.trims_trimPieces.isPrefix

/-! ### Joining -/

/-- The path of what is some names below a path. -/
def below (p : Path) (way : List String) : Path := way.foldl join p

/-- Joining a relative path that is not empty puts it behind the pieces. -/
theorem join_of_relative (p : Path) {text : String} {rest : List String}
    (h : ofText text = ⟨false, rest⟩) (hne : rest ≠ []) :
    p.join text = ⟨p.absolute, p.stem ++ rest⟩ := by
  simp only [join, h, Bool.false_eq_true, if_false, stem]
  by_cases hlast : p.pieces.getLast? = some ""
  · simp [hlast, hne]
  · by_cases hnil : p.pieces = []
    · simp [hnil]
    · simp [hlast, hnil, hne]

/-- Joining normal names puts them behind the pieces. -/
theorem join_of_normal (p : Path) {text : String}
    (h : ∀ name ∈ Text.splitOn '/' text, IsNormal name) :
    p.join text = ⟨p.absolute, p.stem ++ Text.splitOn '/' text⟩ :=
  p.join_of_relative (ofText_of_normal h) (by simp [Text.splitOn, Chars.splitOn_ne_nil])

/-- Joining a normal name puts it behind the pieces. -/
theorem join_eq (p : Path) {name : String} (hname : IsNormal name) :
    p.join name = ⟨p.absolute, p.stem ++ [name]⟩ := by
  have hnames : ∀ piece ∈ Text.splitOn '/' name, IsNormal piece := by
    simpa [hname.splitOn_eq] using hname
  rw [p.join_of_normal hnames, hname.splitOn_eq]

section Join

variable (p : Path) {name : String} (hname : IsNormal name)
include hname

/-- A path with a name behind it starts where the path does. -/
theorem absolute_join : (p.join name).absolute = p.absolute := by
  rw [join_eq p hname]

/-- The name is the last piece. -/
theorem getLast?_pieces_join : (p.join name).pieces.getLast? = some name := by
  rw [join_eq p hname]
  simp

/-- A joined path ends with the name. -/
theorem pieces_join : (p.join name).pieces = p.stem ++ name :: [] := by
  rw [join_eq p hname]

/-- A path gets longer by a name. -/
theorem utf8ByteSize_text_lt_join : p.text.utf8ByteSize < (p.join name).text.utf8ByteSize := by
  -- The name takes the place of an empty last piece.
  have hchars : Chars.joinWith "/".toList ((p.stem ++ [name]).map String.toList) =
      Chars.joinWith "/".toList ((p.stem ++ [""]).map String.toList) ++ name.toList := by
    simpa using Chars.joinWith_concat "/".toList (p.stem.map String.toList) name.toList
  have htext : (p.join name).text = (⟨p.absolute, p.stem ++ [""]⟩ : Path).text ++ name := by
    rw [join_eq p hname]
    simp only [text, Text.joinWith, hchars, String.ofList_append, String.ofList_toList, String.append_assoc]
  -- The stem with an empty piece behind it is at least as long as the path was written.
  have hle : p.text.utf8ByteSize ≤ (⟨p.absolute, p.stem ++ [""]⟩ : Path).text.utf8ByteSize := by
    refine utf8ByteSize_text_le (p := ⟨p.absolute, p.stem ++ [""]⟩) rfl ?_
    rcases p.stem_cases with hstem | hstem
    · exact hstem ▸ List.prefix_append p.stem [""]
    · exact ⟨[], by rw [hstem, List.append_nil]⟩
  have hpos : 0 < name.utf8ByteSize :=
    Nat.pos_of_ne_zero fun hzero => hname.nonempty (String.utf8ByteSize_eq_zero_iff.1 hzero)
  rw [htext, String.utf8ByteSize_append]
  omega

/-- A path with a name behind it is not empty. -/
theorem text_join_ne_empty : (p.join name).text ≠ "" := by
  intro htext
  have hsuffix := Chars.isSuffix_joinWith_concat "/".toList (p.stem.map String.toList) name.toList
  rw [join_eq p hname, text, String.append_eq_empty_iff, Text.joinWith, List.map_append,
    List.map_singleton] at htext
  rw [show Chars.joinWith _ _ = [] by simpa using congrArg String.toList htext.2,
    List.suffix_nil] at hsuffix
  exact hname.nonempty (String.toList_eq_nil_iff.1 hsuffix)

/-- The name is the file name. -/
theorem fileName?_join : (p.join name).fileName? = some name := by
  rw [fileName?, getLast?_components (pieces_join p hname) hname.not_isIdle (by simp), if_neg hname.ne_up]

/-- The parent of a joined path is the path that the name was joined to, without what is idle. -/
theorem parent?_join : (p.join name).parent? = some p.trimmed := by
  rw [parent?_eq (pieces_join p hname) hname.not_isIdle (by simp), absolute_join p hname, p.trimmed_stem]

end Join

/-! ### Plain paths -/

/-- No piece of the path goes up. -/
def IsPlain (p : Path) : Prop := ".." ∉ p.pieces

/-- Whether a path is plain can be computed. -/
instance (p : Path) : Decidable p.IsPlain := inferInstanceAs (Decidable (".." ∉ p.pieces))

namespace IsPlain

variable {p : Path}

/-- The beginnings of a plain path are plain. -/
theorem of_isPrefix {q : Path} (hp : p.IsPlain) (h : q.pieces <+: p.pieces) : q.IsPlain :=
  fun hup => hp (h.subset hup)

/-- A plain path is plain when it is trimmed. -/
theorem trimmed (hp : p.IsPlain) : p.trimmed.IsPlain := hp.of_isPrefix p.trims_trimPieces.isPrefix

/-- A normal name behind a plain path. -/
theorem join (hp : p.IsPlain) {name : String} (hname : IsNormal name) : (p.join name).IsPlain := by
  rw [IsPlain, join_eq p hname]
  intro hup
  rcases List.mem_append.1 hup with h | h
  · exact hp (p.trims_stem.isPrefix.subset h)
  · exact hname.ne_up (List.mem_singleton.1 h).symm

end IsPlain

end Files.Path

/-! ### Clean names -/

/-- A clean file name is normal. -/
theorem FileName.IsClean.isNormal {name : String} (h : FileName.IsClean name) :
    Files.Path.IsNormal name where
  nonempty := h.nonempty
  ne_here := h.ne_here
  ne_up := h.ne_up
  no_slash hslash := h.valid _ hslash (by decide)

end Scaffold
