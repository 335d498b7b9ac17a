import Mathlib.Data.List.Forall2
import Scaffold.Proofs.Text.Ends
import Scaffold.Substitution

namespace Scaffold

/-!
# Code without its indentation

A block of code loses the indentation that its lines have in common. That is counted in bytes, while the blanks in
front of a line may be of any width: so what is cut off must be shown to end with a character, and to end in front of
what is not blank.

* `Chars.exists_append_of_dropBytes?` — bytes that are cut off are whole characters;
* `outdent`, `commonIndent` — what happens to one line, and what the lines have in common;
* `exists_blanks_outdent` — a line loses blanks only;
* `outdent_of_spaces` — a line behind spaces loses as many of them as the lines have in common;
* `dedentChars_outdents` — what happens to a block of code.
-/

namespace Chars

/-- A text that is not empty has a byte. -/
theorem byteLength_pos {s : List Char} (h : s ≠ []) : 0 < byteLength s := by
  cases s with
  | nil => exact absurd rfl h
  | cons c s =>
    rw [byteLength_cons]
    exact Nat.add_pos_left c.utf8Size_pos _

/-- The bytes of a text in front are those of whole characters. -/
theorem dropBytes?_append (front rest : List Char) :
    dropBytes? (byteLength front) (front ++ rest) = some rest := by
  induction front with
  | nil => exact dropBytes?.eq_1 rest
  | cons c front ih =>
    have hle : c.utf8Size ≤ byteLength (c :: front) := Nat.le_add_right _ _
    have hrest : byteLength (c :: front) - c.utf8Size = byteLength front := Nat.add_sub_cancel_left _ _
    rw [List.cons_append, dropBytes?, if_pos hle, hrest, ih]
    exact Nat.ne_of_gt (byteLength_pos (List.cons_ne_nil c front))

/-- Bytes that can be cut off are those of whole characters. -/
theorem exists_append_of_dropBytes? {n : Nat} {s rest : List Char} (h : dropBytes? n s = some rest) :
    ∃ front, s = front ++ rest ∧ byteLength front = n := by
  fun_induction dropBytes? n s with
  | case1 s => exact ⟨[], Option.some.inj h, rfl⟩
  | case2 n hn => cases h
  | case3 n c s hn hle ih =>
    obtain ⟨front, rfl, hfront⟩ := ih h
    refine ⟨c :: front, rfl, ?_⟩
    rw [byteLength_cons, hfront]
    omega
  | case4 n c s hn hgt => cases h

/-- Two texts are blank together if both are. -/
theorem allBlank_append {s t : List Char} : allBlank (s ++ t) = (allBlank s && allBlank t) := List.all_append

/-- Spaces are blank. -/
theorem allBlank_replicate_space (n : Nat) : allBlank (List.replicate n ' ') = true :=
  List.all_eq_true.2 fun c hc => by
    rw [List.eq_of_mem_replicate hc]
    rfl

/-- A beginning that is no longer than the blanks in front consists of blanks. -/
theorem allBlank_of_byteLength_le {front rest : List Char}
    (h : byteLength front ≤ byteLength ((front ++ rest).takeWhile isBlank)) : allBlank front = true := by
  -- Both `front` and the blanks of the line are beginnings of it, so one begins with the other.
  have hblanks : allBlank ((front ++ rest).takeWhile isBlank) = true := List.all_takeWhile
  rcases List.prefix_or_prefix_of_prefix (List.prefix_append front rest) (List.takeWhile_prefix isBlank) with
    hprefix | hprefix
  · obtain ⟨more, hmore⟩ := hprefix
    rw [← hmore, allBlank_append, Bool.and_eq_true] at hblanks
    exact hblanks.1
  · -- The blanks are no longer than the beginning either, so they are the same.
    obtain ⟨more, hmore⟩ := hprefix
    have hlength := congrArg byteLength hmore
    rw [byteLength_append] at hlength
    have hnil : more = [] := by
      by_contra hne
      have := byteLength_pos hne
      omega
    rwa [← hmore, hnil, List.append_nil]

end Chars

open Chars

/-! ### One line -/

/-- A line without its first bytes, or without its blanks in front if it has fewer bytes or a character would be cut
    in two. -/
def outdent (indent : Nat) (line : List Char) : List Char := (dropBytes? indent line).getD (trimStart line)

/-- A line loses blanks only, if it is blank or indented at least as far as it is moved. -/
theorem exists_blanks_outdent {indent : Nat} {line : List Char}
    (h : allBlank line = false → indent ≤ indentWidth line) :
    ∃ blanks, allBlank blanks = true ∧ line = blanks ++ outdent indent line := by
  rw [outdent]
  -- A line that is too short keeps nothing; otherwise as many bytes are cut off, all of them blanks.
  cases hdrop : dropBytes? indent line with
  | none => exact ⟨line.takeWhile isBlank, List.all_takeWhile, List.takeWhile_append_dropWhile.symm⟩
  | some rest =>
    obtain ⟨front, rfl, rfl⟩ := exists_append_of_dropBytes? hdrop
    refine ⟨front, ?_, rfl⟩
    cases hblank : allBlank (front ++ rest) with
    | true =>
      rw [allBlank_append, Bool.and_eq_true] at hblank
      exact hblank.1
    | false => exact allBlank_of_byteLength_le (h hblank)

/-- Behind spaces, the indentation of a text is the number of the spaces. -/
theorem indentWidth_replicate {text : List Char} (h : ∀ c ∈ text.head?, isBlank c = false) (n : Nat) :
    indentWidth (List.replicate n ' ' ++ text) = n := by
  have hnil : text.takeWhile isBlank = [] := by
    cases text with
    | nil => rfl
    | cons c text => exact List.takeWhile_cons_of_neg (by simp [h c rfl])
  have hspaces := List.all_eq_true.1 (allBlank_replicate_space n)
  rw [indentWidth, List.takeWhile_append_of_pos hspaces, hnil, List.append_nil, byteLength_replicate_space]

/-- A line behind spaces loses some of them, and keeps the others. -/
theorem outdent_of_spaces {indent : Nat} {line : List Char} (h : ∀ c ∈ line.takeWhile isBlank, c = ' ')
    (hle : indent ≤ indentWidth line) :
    line = List.replicate indent ' ' ++ outdent indent line ∧
      indent + indentWidth (outdent indent line) = indentWidth line := by
  -- Blanks that are spaces are counted by the width, so cutting bytes off is cutting spaces off.
  have hspaces : line.takeWhile isBlank = List.replicate (line.takeWhile isBlank).length ' ' :=
    List.eq_replicate_of_mem h
  have hwidth : indentWidth line = (line.takeWhile isBlank).length := by
    rw [indentWidth, hspaces, byteLength_replicate_space, List.length_replicate]
  have hline : line = List.replicate (indentWidth line) ' ' ++ trimStart line := by
    rw [hwidth, ← hspaces]
    exact List.takeWhile_append_dropWhile.symm
  obtain ⟨kept, hkept⟩ := Nat.exists_eq_add_of_le hle
  have hsplit : line = List.replicate indent ' ' ++ (List.replicate kept ' ' ++ trimStart line) := by
    rw [← List.append_assoc, ← List.replicate_add, ← hkept]
    exact hline
  have hdrop := dropBytes?_append (List.replicate indent ' ') (List.replicate kept ' ' ++ trimStart line)
  rw [← hsplit, byteLength_replicate_space] at hdrop
  have hout : outdent indent line = List.replicate kept ' ' ++ trimStart line := by
    rw [outdent, hdrop, Option.getD_some]
  rw [hout]
  refine ⟨hsplit, ?_⟩
  rw [indentWidth_replicate (head?_trimStart line), hkept]

/-! ### What lines have in common -/

/-- The least indentation of the lines that are not blank. -/
def commonIndent (lines : List (List Char)) : Nat :=
  (((lines.filter fun l => !allBlank l).map indentWidth).min?).getD 0

/-- Each line loses what all lines have in common. -/
theorem dedentLines_eq (lines : List (List Char)) :
    dedentLines lines = lines.map (outdent (commonIndent lines)) := rfl

section Lines

variable {lines : List (List Char)} {line : List Char}

/-- The lines that are not blank. -/
theorem mem_nonblank : line ∈ lines.filter (fun l => !allBlank l) ↔ line ∈ lines ∧ allBlank line = false := by
  simp

/-- No line has less indentation than what is common. -/
theorem commonIndent_le (hline : line ∈ lines) (h : allBlank line = false) :
    commonIndent lines ≤ indentWidth line :=
  List.min?_getD_le_of_mem (List.mem_map_of_mem (mem_nonblank.2 ⟨hline, h⟩))

/-- Some line has no more indentation than what all have in common. -/
theorem exists_indentWidth_eq (hline : line ∈ lines) (h : allBlank line = false) :
    ∃ first ∈ lines, allBlank first = false ∧ indentWidth first = commonIndent lines := by
  -- The minimum over the lines that are not blank is the width of one of them.
  cases hmin : ((lines.filter fun l => !allBlank l).map indentWidth).min? with
  | none =>
    rw [List.min?_eq_none_iff, List.map_eq_nil_iff] at hmin
    have hmem := mem_nonblank.2 ⟨hline, h⟩
    rw [hmin] at hmem
    cases hmem
  | some width =>
    obtain ⟨first, hfirst, hwidth⟩ := List.mem_map.1 (List.min?_mem hmin)
    obtain ⟨hmem, hnonblank⟩ := mem_nonblank.1 hfirst
    refine ⟨first, hmem, hnonblank, ?_⟩
    rw [commonIndent, hmin, hwidth, Option.getD_some]

end Lines

/-! ### Blocks of code -/

/-- **Code without its indentation.** Each line of the code is there again, without some of the blanks in front of it.
    If there are no blanks but spaces in front of the lines, all lines that are not blank lose the same number of
    spaces, and one of them, if there is any, ends up with no indentation. -/
theorem dedentChars_outdents (code : List Char) :
    dedentChars code = joinWith ['\n'] (dedentLines (lines code)) ∧
    List.Forall₂ (fun line outdented => ∃ blanks, allBlank blanks = true ∧ line = blanks ++ outdented)
      (lines code) (dedentLines (lines code)) ∧
    ((∀ line ∈ lines code, allBlank line = false → ∀ c ∈ line.takeWhile isBlank, c = ' ') →
      ∃ n, List.Forall₂ (fun line outdented => allBlank line = false → line = List.replicate n ' ' ++ outdented)
          (lines code) (dedentLines (lines code)) ∧
        ((∃ line ∈ lines code, allBlank line = false) →
          ∃ outdented ∈ dedentLines (lines code), allBlank outdented = false ∧ indentWidth outdented = 0)) := by
  refine ⟨rfl, ?_, fun hspaces => ⟨commonIndent (lines code), ?_, ?_⟩⟩
  · rw [dedentLines_eq, List.forall₂_map_right_iff, List.forall₂_same]
    exact fun line hline => exists_blanks_outdent (commonIndent_le hline)
  · rw [dedentLines_eq, List.forall₂_map_right_iff, List.forall₂_same]
    exact fun line hline h => (outdent_of_spaces (hspaces line hline h) (commonIndent_le hline h)).1
  · rintro ⟨line, hline, h⟩
    obtain ⟨first, hfirst, hnonblank, hwidth⟩ := exists_indentWidth_eq hline h
    obtain ⟨hsame, hkept⟩ := outdent_of_spaces (hspaces first hfirst hnonblank) (Nat.le_of_eq hwidth.symm)
    refine ⟨outdent (commonIndent (lines code)) first, List.mem_map_of_mem hfirst, ?_, by omega⟩
    rwa [hsame, allBlank_append, allBlank_replicate_space, Bool.true_and] at hnonblank

/-- Lines behind four and six spaces, and one without anything between them. -/
def spacedCode : List Char := "    a\n      b\n\n    c".toList

/-- Three lines lose the same number of spaces, and two of them have none left. -/
theorem dedentChars_outdents_spaced :
    (∀ line ∈ lines spacedCode, allBlank line = false → ∀ c ∈ line.takeWhile isBlank, c = ' ') ∧
    ∃ n, List.Forall₂ (fun line outdented => allBlank line = false → line = List.replicate n ' ' ++ outdented)
        (lines spacedCode) (dedentLines (lines spacedCode)) ∧
      ∃ outdented ∈ dedentLines (lines spacedCode), allBlank outdented = false ∧ indentWidth outdented = 0 := by
  have hall : ((lines spacedCode).all fun line => (line.takeWhile isBlank).all (· == ' ')) = true := by
    decide +kernel
  have hspaces : ∀ line ∈ lines spacedCode, allBlank line = false → ∀ c ∈ line.takeWhile isBlank, c = ' ' :=
    fun line hline _ c hc => eq_of_beq (List.all_eq_true.1 (List.all_eq_true.1 hall line hline) c hc)
  obtain ⟨n, hsame, hfirst⟩ := (dedentChars_outdents spacedCode).2.2 hspaces
  exact ⟨hspaces, n, hsame, hfirst (by decide +kernel)⟩

/-- The tab is one byte and the wide blank three, which cannot be cut behind the first one: the line loses all its
    blanks. -/
example : dedentChars "\tx\n\u3000y\n".toList = "x\ny".toList := by decide +kernel

end Scaffold
