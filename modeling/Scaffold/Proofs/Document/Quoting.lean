import Scaffold.Proofs.Document.Normal
import Scaffold.Proofs.Text.Ends

namespace Scaffold.Document

/-!
# Quotes around a placeholder

A line whose value starts with a placeholder is taken apart, and put together again with quotes around a piece of
it: the name, or the key, that starts with the placeholder. Nothing else of the line changes, except that blanks at
its end are lost.

* `splitLead_append`, `splitComment_append`, `splitKey_append` — the pieces are pieces of the line;
* `startsPlaceholder_iff` — what such a value starts with, none of which is cut off;
* `splitComment_closed`, `splitKey_closed` — a comment starts, and a key ends, where no brace is open;
* `quoteLine_parts`, `quoteLine_of_placeholder` — the line with its name in quotes.
-/

open Chars

/-! ### Pieces of a line -/

/-- Both parts together are the text. -/
theorem dashes_append (fuel : Nat) (s : List Char) : (dashes fuel s).1 ++ (dashes fuel s).2 = s := by
  -- The fuel bounds the dashes.
  induction fuel generalizing s with
  | zero => rfl
  | succ fuel ih =>
    unfold dashes
    split
    · rename_i rest
      simp only
      split
      · rfl
      · have hrest := ih (rest.dropWhile isBlank)
        simp only [List.cons_append, List.append_assoc]
        rw [hrest, List.takeWhile_append_dropWhile]
    · rfl

/-- Both parts together are the text. -/
theorem leadingKey_append (s : List Char) : (leadingKey s).1 ++ (leadingKey s).2 = s := by
  unfold leadingKey
  split
  · rfl
  -- Only a letter may start a key, which a colon ends.
  · rename_i c rest
    split
    · simp only
      split
      · rename_i behind hbehind
        split
        · rfl
        · simp only [List.cons_append, List.append_assoc, List.takeWhile_append_dropWhile, ← hbehind]
      · rfl
    · rfl

/-- What stands in front of the value, and the value. -/
theorem splitLead_append (line : List Char) : (splitLead line).1 ++ (splitLead line).2 = line := by
  have hkey := leadingKey_append (dashes line.length (line.dropWhile isBlank)).2
  have hdashes := dashes_append line.length (line.dropWhile isBlank)
  simp only [splitLead, List.append_assoc]
  rw [hkey, hdashes, List.takeWhile_append_dropWhile]

/-- Both parts together are the text. -/
theorem splitComment_append (depth : Nat) (afterBlank : Bool) (s : List Char) :
    (splitComment depth afterBlank s).1 ++ (splitComment depth afterBlank s).2 = s := by
  induction s generalizing depth afterBlank with
  | nil => rfl
  | cons c s ih =>
    rw [splitComment]
    split
    · rfl
    · exact congrArg (c :: ·) (ih _ _)

/-- Both parts together are the text. -/
theorem splitKey_append (depth : Nat) (s : List Char) : (splitKey depth s).1 ++ (splitKey depth s).2 = s := by
  induction s generalizing depth with
  | nil => rfl
  | cons c s ih =>
    rw [splitKey]
    split
    · rfl
    · exact congrArg (c :: ·) (ih _)

/-! ### Placeholders -/

/-- A placeholder starts with four characters. -/
theorem startsPlaceholder_iff {s : List Char} :
    startsPlaceholder s = true ↔ ∃ m p d rest, s = '\x7b' :: m :: p :: d :: rest ∧ (m = 'm' ∨ m = 'M') ∧
      (p = 'p' ∨ p = 'P') ∧ (d = '.' ∨ d = ':') := by
  unfold startsPlaceholder
  split
  -- Each of the four characters is tested by itself.
  · rename_i m p d rest
    simp only [Bool.and_eq_true, Bool.or_eq_true, beq_iff_eq, List.cons.injEq, true_and, and_assoc]
    constructor
    · rintro ⟨hm, hp, hd⟩
      exact ⟨m, p, d, rest, rfl, rfl, rfl, rfl, hm, hp, hd⟩
    · rintro ⟨_, _, _, _, rfl, rfl, rfl, -, hm, hp, hd⟩
      exact ⟨hm, hp, hd⟩
  · rename_i hother
    constructor
    · intro h
      cases h
    · rintro ⟨m, p, d, rest, rfl, -⟩
      exact absurd rfl (hother m p d rest)

/-- The brace of the placeholder is open, so that neither a comment nor the end of a key is seen in its start. -/
theorem startsPlaceholder_splitComment {s : List Char} (h : startsPlaceholder s = true) :
    startsPlaceholder (splitComment 0 false s).1 = true := by
  obtain ⟨m, p, d, rest, rfl, hm, hp, hd⟩ := startsPlaceholder_iff.1 h
  rw [startsPlaceholder_iff]
  refine ⟨m, p, d, (splitComment 1 (isBlank d) rest).1, ?_, hm, hp, hd⟩
  rcases hm with rfl | rfl <;> rcases hp with rfl | rfl <;> rcases hd with rfl | rfl <;> rfl

/-- A key behind which a colon is cut off starts with the placeholder still. -/
theorem startsPlaceholder_splitKey {s : List Char} (h : startsPlaceholder s = true) :
    startsPlaceholder (splitKey 0 s).1 = true := by
  obtain ⟨m, p, d, rest, rfl, hm, hp, hd⟩ := startsPlaceholder_iff.1 h
  rw [startsPlaceholder_iff]
  refine ⟨m, p, d, (splitKey 1 rest).1, ?_, hm, hp, hd⟩
  rcases hm with rfl | rfl <;> rcases hp with rfl | rfl <;> rcases hd with rfl | rfl <;> rfl

/-- A text that is trimmed at its end starts with the placeholder still. -/
theorem startsPlaceholder_trimEnd {s : List Char} (h : startsPlaceholder s = true) :
    startsPlaceholder (trimEnd s) = true := by
  obtain ⟨m, p, d, rest, rfl, hm, hp, hd⟩ := startsPlaceholder_iff.1 h
  -- The blanks at the end are behind the placeholder's start.
  have hblank : isBlank d = false := by
    rcases hd with rfl | rfl <;> decide
  have htrim : trimEnd ('\x7b' :: m :: p :: d :: rest) = '\x7b' :: m :: p :: d :: trimEnd rest := by
    simp only [trimEnd, dropEndWhile, List.reverse_cons, List.append_assoc]
    rw [List.dropWhile_append]
    split
    · rename_i hempty
      rw [List.isEmpty_iff.1 hempty]
      simp [hblank]
    · simp
  exact startsPlaceholder_iff.2 ⟨m, p, d, trimEnd rest, htrim, hm, hp, hd⟩

/-! ### Open braces -/

/-- The depth of braces behind a text, where closing braces without an opening one do not count. -/
def depthBehind (depth : Nat) (s : List Char) : Nat := s.foldl braceDepth depth

/-- The depth behind two texts. -/
theorem depthBehind_append (depth : Nat) (s t : List Char) :
    depthBehind depth (s ++ t) = depthBehind (depthBehind depth s) t := List.foldl_append

/-- Blanks do not change the depth. -/
theorem depthBehind_blanks (depth : Nat) {s : List Char} (h : allBlank s = true) : depthBehind depth s = depth := by
  -- A brace is no blank.
  induction s with
  | nil => rfl
  | cons c s ih =>
    rw [allBlank, List.all_cons, Bool.and_eq_true] at h
    have hopen : c ≠ '\x7b' := by
      rintro rfl
      cases h.1
    have hclose : c ≠ '\x7d' := by
      rintro rfl
      cases h.1
    rw [depthBehind, List.foldl_cons, braceDepth, if_neg hopen, if_neg hclose]
    exact ih h.2

/-- A comment starts where no brace is open. -/
theorem splitComment_closed {depth : Nat} {afterBlank : Bool} {s : List Char}
    (h : (splitComment depth afterBlank s).2 ≠ []) : depthBehind depth (splitComment depth afterBlank s).1 = 0 := by
  induction s generalizing depth afterBlank with
  | nil => exact absurd rfl h
  | cons c s ih =>
    rw [splitComment] at h ⊢
    split
    -- A comment starts outside of braces only.
    · rename_i hcomment
      simp only [Bool.and_eq_true, beq_iff_eq] at hcomment
      exact hcomment.1.2
    · rename_i hgo
      rw [if_neg hgo] at h
      exact ih h

/-- A key ends where no brace is open. -/
theorem splitKey_closed {depth : Nat} {s : List Char} (h : (splitKey depth s).2 ≠ []) :
    depthBehind depth (splitKey depth s).1 = 0 := by
  induction s generalizing depth with
  | nil => exact absurd rfl h
  | cons c s ih =>
    rw [splitKey] at h ⊢
    split
    -- A key ends outside of braces only.
    · rename_i hcolon
      simp only [Bool.and_eq_true, beq_iff_eq] at hcolon
      exact hcolon.1.2
    · rename_i hgo
      rw [if_neg hgo] at h
      exact ih h

/-! ### The line in quotes -/

/-- The pieces of a line with a placeholder at the start of its value, and the line with its name in quotes. Where
    something is behind the name, no brace is open. -/
theorem quoteLine_parts {line : List Char} (h : startsPlaceholder (splitLead line).2 = true) :
    ∃ key rest blanks, line = (splitLead line).1 ++ key ++ rest ++ blanks ∧ allBlank blanks = true ∧
      startsPlaceholder key = true ∧ (rest ≠ [] → depthBehind 0 key = 0) ∧
      quoteLine line = (splitLead line).1 ++ quote key ++ rest := by
  have hline := splitLead_append line
  rcases hcutLead : splitLead line with ⟨lead, body⟩
  rw [hcutLead] at h hline
  obtain ⟨blanks, hblanks, hbody⟩ := trimEnd_append body
  -- The value without the comment behind it, and the key of the value without the blanks at its end.
  have hcomment := splitComment_append 0 false (trimEnd body)
  have hcommentClosed := @splitComment_closed 0 false (trimEnd body)
  have hvalue := startsPlaceholder_splitComment (startsPlaceholder_trimEnd h)
  rcases hcutComment : splitComment 0 false (trimEnd body) with ⟨value, comment⟩
  rw [hcutComment] at hcomment hcommentClosed hvalue
  obtain ⟨gap, hgap, hvalueEnd⟩ := trimEnd_append value
  have hdrop : value.drop (trimEnd value).length = gap := by
    calc value.drop (trimEnd value).length = (trimEnd value ++ gap).drop (trimEnd value).length := by rw [hvalueEnd]
      _ = gap := List.drop_left
  have hkey := splitKey_append 0 (trimEnd value)
  have hkeyClosed := @splitKey_closed 0 (trimEnd value)
  have hstart := startsPlaceholder_splitKey (startsPlaceholder_trimEnd hvalue)
  rcases hcutKey : splitKey 0 (trimEnd value) with ⟨key, more⟩
  rw [hcutKey] at hkey hkeyClosed hstart
  -- Something follows the key, which ends only where all braces are closed.
  have hclosed : more ++ gap ++ comment ≠ [] → depthBehind 0 key = 0 := by
    intro hne
    by_cases hmore : more = []
    · -- Without a comment there would be no blanks to cut off the value, and nothing behind the key.
      have hcommentNe : comment ≠ [] := by
        rintro rfl
        rw [List.append_nil] at hcomment
        have htrimmed : trimEnd value = value := by
          obtain rfl : value = trimEnd body := by simpa using hcomment
          exact dropEndWhile_dropEndWhile (fun _ hc => hc) body
        rw [htrimmed] at hvalueEnd
        obtain rfl : gap = [] := by simpa using hvalueEnd
        exact hne (by rw [hmore]; rfl)
      have hzero := hcommentClosed hcommentNe
      rw [hmore, List.append_nil] at hkey
      rwa [← hvalueEnd, depthBehind_append, depthBehind_blanks _ hgap, ← hkey] at hzero
    · exact hkeyClosed hmore
  -- The parts that were cut off, put together again, are the line.
  refine ⟨key, more ++ gap ++ comment, blanks, ?_, hblanks, hstart, hclosed, ?_⟩
  · calc line = lead ++ (trimEnd body ++ blanks) := by rw [hbody, hline]
      _ = lead ++ ((((key ++ more) ++ gap) ++ comment) ++ blanks) := by rw [hkey, hvalueEnd, hcomment]
      _ = _ := by simp
  · simp only [quoteLine, hcutLead, h, hcutComment, hcutKey, hdrop, if_true, List.append_assoc]

/-- A line with a placeholder at the start of its value has quotes put around the name, or the key, that starts
    with this placeholder. What is in front of it and behind it stays, but for blanks at the end of the line. -/
theorem quoteLine_of_placeholder {line : List Char} (h : startsPlaceholder (splitLead line).2 = true) :
    ∃ key rest blanks, line = (splitLead line).1 ++ key ++ rest ++ blanks ∧ allBlank blanks = true ∧
      startsPlaceholder key = true ∧ quoteLine line = (splitLead line).1 ++ quote key ++ rest := by
  obtain ⟨key, rest, blanks, hline, hblanks, hstart, -, hquote⟩ := quoteLine_parts h
  exact ⟨key, rest, blanks, hline, hblanks, hstart, hquote⟩

end Scaffold.Document
