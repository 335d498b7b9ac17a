import Scaffold.Text.Lines
import Mathlib.Data.List.Basic

namespace Scaffold

/-!
# Pieces of a text

A text is cut into pieces at a separator, and pieces are joined to a text with the separator between them. The one
undoes the other, if the separator is in none of the pieces.

* `Chars.joinWith_splitOn`, `Chars.splitOn_joinWith` — joining what was cut, and cutting what was joined;
* `Chars.mem_of_mem_splitOn`, `Chars.notMem_of_mem_splitOn` — what is in a piece, and what is not;
* `Chars.lines_flatMap` — texts that are each ended by a line break are the lines of what they make together;
* `Chars.splitOn_replaceChar` — replacing a character in a text replaces it in each piece;
* `Chars.contains_iff` — texts that occur in a text.
-/

namespace Chars

/-- The first pieces are joined to a beginning of the text. -/
theorem joinWith_isPrefix (sep : List Char) {xs ys : List (List Char)} (h : xs <+: ys) :
    joinWith sep xs <+: joinWith sep ys := by
  -- The induction is on the shorter list, whose last piece may be followed by a separator.
  induction xs generalizing ys with
  | nil => exact List.nil_prefix
  | cons x xs ih =>
    obtain ⟨rest, rfl⟩ := h
    cases xs with
    | nil =>
      cases rest with
      | nil => exact List.prefix_refl _
      | cons y rest =>
        show x <+: x ++ sep ++ joinWith sep (y :: rest)
        rw [List.append_assoc]
        exact List.prefix_append _ _
    | cons x' xs =>
      show x ++ sep ++ joinWith sep (x' :: xs) <+:
        x ++ sep ++ joinWith sep (x' :: xs ++ rest)
      rw [List.prefix_append_right_inj]
      exact ih (List.prefix_append _ _)

/-- The last text is put behind what the others and an empty one make. -/
theorem joinWith_concat (sep : List Char) (xs : List (List Char)) (x : List Char) :
    joinWith sep (xs ++ [x]) = joinWith sep (xs ++ [[]]) ++ x := by
  induction xs with
  | nil => rfl
  | cons y xs ih =>
    have hjoin (z : List Char) : joinWith sep (y :: xs ++ [z]) = y ++ sep ++ joinWith sep (xs ++ [z]) := by
      cases xs <;> rfl
    rw [hjoin, hjoin, ih, List.append_assoc (y ++ sep)]

/-- Texts that are joined end with the last of them. -/
theorem isSuffix_joinWith_concat (sep : List Char) (xs : List (List Char)) (x : List Char) :
    x <:+ joinWith sep (xs ++ [x]) := by
  rw [joinWith_concat]
  exact List.suffix_append _ _

/-- A text without the separator is one piece. -/
theorem splitOn_of_notMem {sep : Char} {s : List Char} (h : sep ∉ s) :
    splitOn sep s = [s] := by
  induction s with
  | nil => rfl
  | cons c s ih =>
    rw [List.mem_cons, not_or] at h
    rw [splitOn, if_neg (Ne.symm h.1), ih h.2]

/-- Pieces with the separators between them are the text again. -/
theorem joinWith_splitOn (sep : Char) (s : List Char) :
    joinWith [sep] (splitOn sep s) = s := by
  induction s with
  | nil => rfl
  | cons c s ih =>
    obtain ⟨piece, pieces, hpieces⟩ := List.exists_cons_of_ne_nil (splitOn_ne_nil sep s)
    rw [splitOn, hpieces]
    -- The first piece goes on with the character, unless it is the separator.
    rw [hpieces] at ih
    split
    · rename_i hc
      simp [joinWith, hc, ih]
    · rw [← ih]
      cases pieces <;> simp [joinWith]

/-- Behind its last separator a text can be made longer without any new piece. -/
theorem splitOn_append_of_notMem {sep : Char} (s : List Char) {more : List Char}
    (h : sep ∉ more) :
    ∃ front last, splitOn sep s = front ++ [last] ∧
      splitOn sep (s ++ more) = front ++ [last ++ more] := by
  induction s with
  | nil => exact ⟨[], [], rfl, splitOn_of_notMem h⟩
  | cons c s ih =>
    obtain ⟨front, last, hs, hmore⟩ := ih
    rw [List.cons_append, splitOn, splitOn, hs, hmore]
    by_cases hc : c = sep
    · rw [if_pos hc, if_pos hc]
      exact ⟨[] :: front, last, rfl, rfl⟩
    · rw [if_neg hc, if_neg hc]
      -- The character goes to the first piece, which may be the last one.
      cases front with
      | nil => exact ⟨[], c :: last, rfl, rfl⟩
      | cons piece front => exact ⟨(c :: piece) :: front, last, rfl, rfl⟩

/-- The pieces on both sides of a separator. -/
theorem splitOn_append_cons (sep : Char) (s t : List Char) :
    splitOn sep (s ++ sep :: t) = splitOn sep s ++ splitOn sep t := by
  induction s with
  | nil => simp [splitOn]
  | cons c s ih =>
    obtain ⟨piece, pieces, hs⟩ := List.exists_cons_of_ne_nil (splitOn_ne_nil sep s)
    rw [List.cons_append, splitOn, splitOn, ih, hs]
    split <;> rfl

/-- A piece without the separator, in front of one. -/
theorem splitOn_append_sep {sep : Char} {piece : List Char} (h : sep ∉ piece) (rest : List Char) :
    splitOn sep (piece ++ sep :: rest) = piece :: splitOn sep rest := by
  rw [splitOn_append_cons, splitOn_of_notMem h]
  rfl

/-- Pieces without the separator are the pieces of the text that they are joined to. -/
theorem splitOn_joinWith {sep : Char} {pieces : List (List Char)} (hne : pieces ≠ [])
    (h : ∀ piece ∈ pieces, sep ∉ piece) : splitOn sep (joinWith [sep] pieces) = pieces := by
  -- The induction is on the pieces, each of which ends at its separator.
  induction pieces with
  | nil => exact absurd rfl hne
  | cons piece pieces ih =>
    have hpiece : sep ∉ piece := h piece List.mem_cons_self
    cases pieces with
    | nil => exact splitOn_of_notMem hpiece
    | cons next pieces =>
      have hrest := ih (List.cons_ne_nil next pieces) fun p hp => h p (List.mem_cons_of_mem _ hp)
      have hjoin : joinWith [sep] (piece :: next :: pieces) =
          piece ++ sep :: joinWith [sep] (next :: pieces) := by
        simp [joinWith]
      rw [hjoin, splitOn_append_sep hpiece, hrest]

/-- A text in front without the separator belongs to the first piece. -/
theorem splitOn_append_of_first {sep : Char} {front s first : List Char} {more : List (List Char)}
    (h : sep ∉ front) (hs : splitOn sep s = first :: more) :
    splitOn sep (front ++ s) = (front ++ first) :: more := by
  induction front with
  | nil => exact hs
  | cons c front ih =>
    rw [List.mem_cons, not_or] at h
    rw [List.cons_append, splitOn, if_neg (Ne.symm h.1), ih h.2]
    rfl

/-- The characters of a piece are characters of the text. -/
theorem mem_of_mem_splitOn {sep c : Char} {s piece : List Char} (hpiece : piece ∈ splitOn sep s)
    (hc : c ∈ piece) : c ∈ s := by
  -- The induction is on the text; its first character belongs to the first piece.
  induction s generalizing piece with
  | nil =>
    obtain rfl : piece = [] := by simpa [splitOn] using hpiece
    cases hc
  | cons d s ih =>
    obtain ⟨first, more, hs⟩ := List.exists_cons_of_ne_nil (splitOn_ne_nil sep s)
    rw [hs] at ih
    by_cases hd : d = sep
    · rw [splitOn, if_pos hd, hs] at hpiece
      rcases List.mem_cons.1 hpiece with rfl | hpiece
      · cases hc
      · exact List.mem_cons_of_mem _ (ih hpiece hc)
    · rw [splitOn, if_neg hd, hs] at hpiece
      rcases List.mem_cons.1 hpiece with rfl | hpiece
      · rcases List.mem_cons.1 hc with rfl | hc
        · exact List.mem_cons_self
        · exact List.mem_cons_of_mem _ (ih List.mem_cons_self hc)
      · exact List.mem_cons_of_mem _ (ih (List.mem_cons_of_mem _ hpiece) hc)

/-- The separator is in no piece. -/
theorem notMem_of_mem_splitOn {sep : Char} {s piece : List Char} (h : piece ∈ splitOn sep s) : sep ∉ piece := by
  -- A separator starts a new piece; any other character joins the first piece of what stands behind it.
  induction s generalizing piece with
  | nil =>
    obtain rfl : piece = [] := by simpa [splitOn] using h
    exact List.not_mem_nil
  | cons d s ih =>
    obtain ⟨first, more, hs⟩ := List.exists_cons_of_ne_nil (splitOn_ne_nil sep s)
    rw [hs] at ih
    by_cases hd : d = sep
    · rw [splitOn, if_pos hd, hs] at h
      rcases List.mem_cons.1 h with rfl | h
      · exact List.not_mem_nil
      · exact ih h
    · rw [splitOn, if_neg hd, hs] at h
      rcases List.mem_cons.1 h with rfl | h
      · rw [List.mem_cons, not_or]
        exact ⟨Ne.symm hd, ih List.mem_cons_self⟩
      · exact ih (List.mem_cons_of_mem _ h)

/-! ### Lines -/

/-- Pieces with a separator behind each of them, and the empty piece behind the last one. -/
theorem splitOn_flatMap {sep : Char} {pieces : List (List Char)} (h : ∀ piece ∈ pieces, sep ∉ piece) :
    splitOn sep (pieces.flatMap (· ++ [sep])) = pieces ++ [[]] := by
  induction pieces with
  | nil => rfl
  | cons piece pieces ih =>
    rw [List.forall_mem_cons] at h
    rw [List.flatMap_cons, List.append_assoc, List.singleton_append, splitOn_append_sep h.1, ih h.2,
      List.cons_append]

/-- A piece that does not end with a carriage return is a line as it is. -/
theorem closeLines_concat {pieces : List (List Char)} (h : ∀ piece ∈ pieces, piece.getLast? ≠ some '\r') :
    closeLines (pieces ++ [[]]) = pieces := by
  induction pieces with
  | nil => rfl
  | cons piece pieces ih =>
    rw [List.forall_mem_cons] at h
    have hrest : pieces ++ [[]] ≠ [] := List.concat_ne_nil [] pieces
    rw [List.cons_append, closeLines.eq_3 _ _ fun hnil => hrest hnil, ih h.2, stripReturn, if_neg h.1]

/-- Texts that are each ended by a line break are the lines of what they make together. -/
theorem lines_flatMap {pieces : List (List Char)} (hbreak : ∀ piece ∈ pieces, '\n' ∉ piece)
    (hreturn : ∀ piece ∈ pieces, piece.getLast? ≠ some '\r') :
    lines (pieces.flatMap (· ++ ['\n'])) = pieces := by
  rw [lines, splitOn_flatMap hbreak, closeLines_concat hreturn]

/-! ### Replacing a character -/

/-- A text without the character stays as it is. -/
theorem replaceChar_of_notMem {c : Char} (new : List Char) {s : List Char} (h : c ∉ s) :
    replaceChar c new s = s := by
  induction s with
  | nil => rfl
  | cons d s ih =>
    rw [List.mem_cons, not_or] at h
    rw [replaceChar, List.flatMap_cons, if_neg (Ne.symm h.1)]
    exact congrArg (d :: ·) (ih h.2)

/-- Replacing a character in a text replaces it in each piece. -/
theorem splitOn_replaceChar {sep c : Char} {new : List Char} (hc : c ≠ sep) (hnew : sep ∉ new) (s : List Char) :
    splitOn sep (replaceChar c new s) = (splitOn sep s).map (replaceChar c new) := by
  induction s with
  | nil => rfl
  | cons d s ih =>
    obtain ⟨first, more, hs⟩ := List.exists_cons_of_ne_nil (splitOn_ne_nil sep s)
    rw [hs, List.map_cons] at ih
    rw [replaceChar, List.flatMap_cons, ← replaceChar]
    -- A separator is not replaced, and nothing that is put in is one.
    by_cases hd : d = sep
    · rw [if_neg fun hdc => hc (hdc.symm.trans hd), List.singleton_append, splitOn, if_pos hd, ih, splitOn,
        if_pos hd, hs]
      rfl
    · have hfront : sep ∉ if d = c then new else [d] := by
        split
        · exact hnew
        · simpa using Ne.symm hd
      rw [splitOn_append_of_first hfront ih, splitOn, if_neg hd, hs]
      rfl

/-! ### Occurrences -/

/-- A piece occurs in a text if it is found there. -/
theorem contains_iff {piece s : List Char} : contains piece s = true ↔ piece <:+: s := by
  induction s with
  | nil => simp [contains]
  | cons c s ih => rw [contains, Bool.or_eq_true, List.isPrefixOf_iff_prefix, ih, List.infix_cons_iff]

end Chars

namespace Text

/-- Names with slashes between them are the text again. -/
theorem joinWith_splitOn (s : String) : joinWith "/" (splitOn '/' s) = s := by
  have hlists : String.toList ∘ String.ofList = id := by
    funext cs
    simp
  rw [joinWith, splitOn, List.map_map, hlists, List.map_id,
    show "/".toList = ['/'] from rfl, Chars.joinWith_splitOn, String.ofList_toList]

/-- A text is known by its pieces. -/
theorem splitOn_inj {sep : Char} {s t : String} (h : splitOn sep s = splitOn sep t) :
    s = t := by
  have hpieces : Chars.splitOn sep s.toList = Chars.splitOn sep t.toList := by
    refine List.map_injective_iff.2 ?_ h
    exact fun x y hxy => by simpa using congrArg String.toList hxy
  have hchars := congrArg (Chars.joinWith [sep]) hpieces
  rw [Chars.joinWith_splitOn, Chars.joinWith_splitOn] at hchars
  exact String.toList_inj.1 hchars

/-- Names without slashes are the names of the text that they are joined to. -/
theorem splitOn_joinWith {names : List String} (hne : names ≠ []) (h : ∀ name ∈ names, '/' ∉ name.toList) :
    splitOn '/' (joinWith "/" names) = names := by
  -- The pieces are compared as lists of characters.
  have hpieces : ∀ piece ∈ names.map String.toList, '/' ∉ piece := by
    intro piece hpiece
    obtain ⟨name, hname, rfl⟩ := List.mem_map.1 hpiece
    exact h name hname
  have hsplit := Chars.splitOn_joinWith (by simpa using hne) hpieces
  have hsep : "/".toList = ['/'] := rfl
  rw [splitOn, joinWith, String.toList_ofList, hsep, hsplit, List.map_map]
  have hid : String.ofList ∘ String.toList = id := funext fun s => String.ofList_toList
  rw [hid, List.map_id]

end Text

end Scaffold
