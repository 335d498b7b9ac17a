import Scaffold.Proofs.Document.Untouched
import Scaffold.Proofs.Yaml.Literal

namespace Scaffold.Document

/-!
# Lines of literal blocks

A literal block is made of the lines of its text, each of them with its indentation; behind a line separator inside of
a line there is indentation, too. So the lines lie in a block scalar that is opened with less indentation, and the value
of each of them is that of the line of the text.

* `splitOn_literalBody` — the lines of a literal block;
* `insideBlock_literalBody` — they lie in the block scalar;
* `lineValue_literalBody`, `isQuiet_literalBody` — the values of the lines;
* `isQuiet_append_of_break`, `insideBlock_append` — a line that goes on behind a line separator.
-/

open Chars Yaml

/-- A line break of YAML is a blank. -/
theorem isBlank_of_isBreak {c : Char} (h : isBreak c = true) : isBlank c = true := by
  simp only [isBreak, Bool.or_eq_true, beq_iff_eq] at h
  rcases h with (((rfl | rfl) | rfl) | rfl) | rfl <;> decide

/-- No key has a line break in it. -/
theorem isKeyChar_of_isBreak {c : Char} (h : isBreak c = true) : isKeyChar c = false := by
  simp only [isBreak, Bool.or_eq_true, beq_iff_eq] at h
  rcases h with (((rfl | rfl) | rfl) | rfl) | rfl <;> decide +kernel

/-- Indentation is nothing but spaces. -/
theorem notMem_pad {c : Char} (hc : c ≠ ' ') (n : Nat) : c ∉ pad n :=
  fun h => hc (List.eq_of_mem_replicate h)

/-- Indentation does not change the value of a line. -/
theorem lineValue_pad (n : Nat) (s : List Char) : lineValue (pad n ++ s) = lineValue s := by
  induction n with
  | zero => rfl
  | succ n ih =>
    rw [pad, List.replicate_succ, List.cons_append, lineValue_blank (by decide)]
    exact ih

/-- Indentation does not make a line loud. -/
theorem isQuiet_pad (n : Nat) (s : List Char) : isQuiet (pad n ++ s) = isQuiet s := by
  rw [isQuiet, lineValue_pad, isQuiet]

/-! ### Lines -/

/-- At the start of a line there is indentation, but not in front of a line break. -/
theorem literalBody_true (n : Nat) (s : List Char) :
    literalBody n true s = (if s.head?.any (!isBreak ·) then pad n else []) ++ literalBody n false s := by
  cases s with
  | nil => rfl
  | cons c s =>
    rw [literalBody, literalBody]
    cases hc : isBreak c <;> simp [hc]

/-- The lines of a literal block are the lines of the text, each of them with its indentation. -/
theorem splitOn_literalBody (n : Nat) (s : List Char) :
    splitOn '\n' (literalBody n true s) = (splitOn '\n' s).map (literalBody n true) := by
  -- The first line may go on with one that has begun; all the others begin in the body.
  suffices h : ∀ (afterBreak : Bool) (first : List Char) (more : List (List Char)), splitOn '\n' s = first :: more →
      splitOn '\n' (literalBody n afterBreak s) = literalBody n afterBreak first :: more.map (literalBody n true) by
    obtain ⟨first, more, hs⟩ := List.exists_cons_of_ne_nil (splitOn_ne_nil '\n' s)
    rw [hs, h true first more hs, List.map_cons]
  induction s with
  | nil =>
    intro afterBreak first more hs
    obtain ⟨rfl, rfl⟩ : [] = first ∧ [] = more := by simpa [splitOn] using hs
    rfl
  | cons c s ih =>
    intro afterBreak first more hs
    obtain ⟨first', more', hs'⟩ := List.exists_cons_of_ne_nil (splitOn_ne_nil '\n' s)
    rw [splitOn, hs'] at hs
    -- A line feed ends the first line; any other character belongs to it.
    by_cases hline : c = '\n'
    · subst hline
      obtain ⟨rfl, rfl⟩ : [] = first ∧ first' :: more' = more := by simpa using hs
      rw [literalBody_of_break (by decide), splitOn, if_pos rfl, ih true first' more' hs']
      rfl
    · rw [if_neg hline] at hs
      obtain ⟨rfl, rfl⟩ : c :: first' = first ∧ more' = more := by simpa using hs
      have hstep (flag : Bool) : splitOn '\n' (c :: literalBody n flag s)
          = (c :: literalBody n flag first') :: more'.map (literalBody n true) := by
        rw [splitOn, if_neg hline, ih flag first' more' hs']
      rw [literalBody, literalBody]
      split
      · exact hstep true
      · refine splitOn_append_of_first ?_ (hstep false)
        split
        · exact notMem_pad (by decide) n
        · exact List.not_mem_nil

/-- A line of a literal block is blank or has its indentation. -/
theorem insideBlock_literalBody {parent n : Nat} (h : parent < n) (line : List Char) :
    insideBlock parent (literalBody n true line) = true := by
  rw [insideBlock_iff]
  -- The induction is on the line. A break in it counts as a blank, and the indentation comes behind it.
  induction line with
  | nil => exact .inl rfl
  | cons c line ih =>
    rw [literalBody]
    split
    · rename_i hbreak
      have hc := isBlank_of_isBreak hbreak
      rcases ih with hblank | hless
      · exact .inl (by simpa [allBlank, hc] using hblank)
      · refine .inr (Nat.lt_of_lt_of_le hless ?_)
        rw [indentation, indentation, List.takeWhile_cons_of_pos hc, byteLength_cons]
        exact Nat.le_add_left _ _
    · have hspaces : ∀ c ∈ pad n, isBlank c = true := fun c hc => by rw [List.eq_of_mem_replicate hc]; decide
      refine .inr (Nat.lt_of_lt_of_le h ?_)
      rw [if_pos rfl, indentation, List.takeWhile_append_of_pos hspaces, byteLength_append, pad,
        byteLength_replicate_space]
      exact Nat.le_add_right _ _

/-! ### Values of lines -/

/-- The indentation at its start does not change the value of a line. -/
theorem lineValue_literalBody_true (n : Nat) (s : List Char) :
    lineValue (literalBody n true s) = lineValue (literalBody n false s) := by
  rw [literalBody_true]
  split
  · exact lineValue_pad n _
  · rfl

/-- Behind the blanks at its start, a line of a literal block is the line of the text. -/
theorem dropWhile_isBlank_literalBody (n : Nat) (s : List Char) :
    (literalBody n false s).dropWhile isBlank = literalBody n false (s.dropWhile isBlank) := by
  have hspaces : ∀ c ∈ pad n, isBlank c = true := fun c hc => by rw [List.eq_of_mem_replicate hc]; decide
  -- In front of the first character there may be the indentation, which is blank.
  have htrue (s : List Char) : (literalBody n true s).dropWhile isBlank
      = (literalBody n false s).dropWhile isBlank := by
    rw [literalBody_true]
    split
    · exact List.dropWhile_append_of_pos hspaces
    · rfl
  -- The induction is on the blanks of the text, some of which are breaks.
  induction s with
  | nil => rfl
  | cons c s ih =>
    cases hbreak : isBreak c with
    | true =>
      have hc := isBlank_of_isBreak hbreak
      rw [literalBody_of_break hbreak, List.dropWhile_cons_of_pos hc, List.dropWhile_cons_of_pos hc, htrue, ih]
    | false =>
      rw [literalBody_of_no_break hbreak]
      cases hc : isBlank c with
      | true => rw [List.dropWhile_cons_of_pos hc, List.dropWhile_cons_of_pos hc, ih]
      | false =>
        rw [List.dropWhile_cons_of_neg (by simp [hc]), List.dropWhile_cons_of_neg (by simp [hc]),
          literalBody_of_no_break hbreak]

/-- The characters of a key are not indented, since no line break stands among them. -/
theorem dropWhile_isKeyChar_literalBody (n : Nat) (s : List Char) :
    (literalBody n false s).dropWhile isKeyChar = literalBody n false (s.dropWhile isKeyChar) := by
  induction s with
  | nil => rfl
  | cons c s ih =>
    cases hc : isKeyChar c with
    | true =>
      -- A break is no character of a key, so the key ends in front of it.
      have hbreak : isBreak c = false := by
        rw [Bool.eq_false_iff]
        intro hbreak
        rw [isKeyChar_of_isBreak hbreak] at hc
        cases hc
      rw [literalBody_of_no_break hbreak, List.dropWhile_cons_of_pos hc, List.dropWhile_cons_of_pos hc, ih]
    | false =>
      have hneg : ¬ isKeyChar c = true := by simp [hc]
      rw [literalBody, List.dropWhile_cons_of_neg hneg, literalBody]
      split <;> exact List.dropWhile_cons_of_neg hneg

/-- The value of a line of a literal block is that of the line of the text. -/
theorem lineValue_literalBody (n : Nat) (s : List Char) :
    lineValue (literalBody n false s) = literalBody n false (lineValue s) := by
  -- Whether the line begins in the body makes no difference to its value.
  have hflag (afterBreak : Bool) (s : List Char) :
      lineValue (literalBody n afterBreak s) = lineValue (literalBody n false s) := by
    cases afterBreak
    · rfl
    · exact lineValue_literalBody_true n s
  have hcons (c : Char) (s : List Char) :
      ∃ afterBreak, literalBody n false (c :: s) = c :: literalBody n afterBreak s := by
    cases hc : isBreak c
    · exact ⟨false, literalBody_of_no_break hc n s⟩
    · exact ⟨true, literalBody_of_break hc n false s⟩
  -- The induction follows the lead of the line: blanks, dashes, and the head of its value.
  induction s using lead_induction with
  | nil => rfl
  | blank c s hc ih =>
    obtain ⟨afterBreak, hs⟩ := hcons c s
    rw [hs, lineValue_blank hc, lineValue_blank hc, hflag, ih]
  | dash b s hb ih =>
    obtain ⟨afterBreak, hs⟩ := hcons b s
    rw [literalBody_of_no_break (by decide), hs, lineValue_dash hb, lineValue_dash hb, hflag, ih]
  | head c s hc hdash =>
    have hbreak : isBreak c = false := by
      rw [Bool.eq_false_iff]
      intro hbreak
      rw [isBlank_of_isBreak hbreak] at hc
      cases hc
    rw [literalBody_of_no_break hbreak, lineValue_of_head hc hdash,
      lineValue_of_head hc (by rwa [head?_literalBody])]
    cases hkey : Text.isAsciiLetter c || c = '_' with
    | false =>
      rw [leadingKey, leadingKey]
      simp only [hkey, Bool.false_eq_true, if_false, literalBody_of_no_break hbreak]
    | true =>
      have hrest := dropWhile_isKeyChar_literalBody n s
      -- With a colon behind it, the head is a key whose value is what counts.
      by_cases hcolon : ∃ behind, s.dropWhile isKeyChar = ':' :: behind
      · obtain ⟨behind, hbehind⟩ := hcolon
        rw [hbehind, literalBody_of_no_break (by decide)] at hrest
        rw [leadingKey_of_colon hkey hrest, leadingKey_of_colon hkey hbehind, isEmpty_takeWhile, isEmpty_takeWhile,
          head?_literalBody]
        split
        · exact (literalBody_of_no_break hbreak n s).symm
        · exact dropWhile_isBlank_literalBody n behind
      · have hno : ∀ behind, s.dropWhile isKeyChar ≠ ':' :: behind := not_exists.1 hcolon
        -- The body of a line has a colon where the line has one.
        have hno' : ∀ behind, (literalBody n false s).dropWhile isKeyChar ≠ ':' :: behind := by
          intro behind hbehind
          have hhead := head?_literalBody n (s.dropWhile isKeyChar)
          rw [← hrest, hbehind] at hhead
          obtain ⟨behind', hbehind'⟩ := List.head?_eq_some_iff.1 hhead.symm
          exact hno behind' hbehind'
        rw [leadingKey_of_no_colon hno, leadingKey_of_no_colon hno', literalBody_of_no_break hbreak]

/-- A line of a literal block is quiet if the line of the text is. -/
theorem isQuiet_literalBody (n : Nat) {line : List Char} (h : isQuiet line = true) :
    isQuiet (literalBody n true line) = true := by
  have hcut {c : Char} {s rest : List Char} (hc : isBreak c = false) (hs : literalBody n false s = c :: rest) :
      ∃ t, s = c :: t ∧ rest = literalBody n false t := by
    have hhead := head?_literalBody n s
    rw [hs] at hhead
    obtain ⟨t, rfl⟩ := List.head?_eq_some_iff.1 hhead.symm
    rw [literalBody_of_no_break hc] at hs
    exact ⟨t, rfl, (List.cons.inj hs).2.symm⟩
  rw [isQuiet, Bool.not_eq_true', Bool.eq_false_iff] at h ⊢
  rw [lineValue_literalBody_true, lineValue_literalBody]
  intro hstarts
  obtain ⟨m, p, d, rest, hs, hm, hp, hd⟩ := startsPlaceholder_iff.1 hstarts
  refine h (startsPlaceholder_iff.2 ?_)
  -- None of the characters that make a placeholder is a line break.
  obtain ⟨s₁, h₁, hs⟩ := hcut (by decide) hs
  obtain ⟨s₂, h₂, hs⟩ := hcut (by rcases hm with rfl | rfl <;> decide) hs.symm
  obtain ⟨s₃, h₃, hs⟩ := hcut (by rcases hp with rfl | rfl <;> decide) hs.symm
  obtain ⟨s₄, h₄, -⟩ := hcut (by rcases hd with rfl | rfl <;> decide) hs.symm
  exact ⟨m, p, d, s₄, by rw [h₁, h₂, h₃, h₄], hm, hp, hd⟩

/-! ### More text behind a line -/

/-- A line separator is a blank, so a line may go on behind one. -/
theorem isQuiet_append_of_break {s t : List Char} (hend : ∀ c ∈ s.getLast?, isBreak c = true)
    (hs : isQuiet s = true) (ht : isQuiet t = true) : isQuiet (s ++ t) = true := by
  rcases List.eq_nil_or_concat s with rfl | ⟨front, c, rfl⟩
  · exact ht
  · have hc : isBreak c = true := hend c (by simp)
    rw [List.concat_eq_append] at hs ⊢
    rw [List.append_assoc, List.singleton_append]
    exact isQuiet_append_blank (isBlank_of_isBreak hc) (isKeyChar_of_isBreak hc) (isQuiet_of_append hs) ht

/-- A line in a block scalar that goes on is in the block scalar still, unless it was blank so far. -/
theorem insideBlock_append {parent : Nat} {s t : List Char} (hs : insideBlock parent s = true)
    (ht : isQuiet t = true) : insideBlock parent (s ++ t) = true ∨ isQuiet (s ++ t) = true := by
  -- Either the line is blank, and takes what follows as its own, or it is indented enough.
  rcases insideBlock_iff.1 hs with hblank | hless
  · right
    clear hs
    induction s with
    | nil => exact ht
    | cons c s ih =>
      rw [allBlank, List.all_cons, Bool.and_eq_true] at hblank
      rw [List.cons_append, isQuiet_blank hblank.1]
      exact ih hblank.2
  · left
    have hle : indentation s ≤ indentation (s ++ t) := by
      rw [indentation, indentation, List.takeWhile_append]
      split
      -- Only blanks: what follows can add to the indentation.
      · rename_i hlength
        rw [(List.takeWhile_sublist isBlank).eq_of_length hlength, byteLength_append]
        exact Nat.le_add_right _ _
      · exact Nat.le_refl _
    exact insideBlock_iff.2 (.inr (Nat.lt_of_lt_of_le hless hle))

end Scaffold.Document
