import Scaffold.FileName
import Scaffold.Proofs.Text.Ends

namespace Scaffold

/-!
# Sanitized names

What comes out of `FileName.sanitize`, whatever goes in: a name that stands for one entry of a folder.

* `FileName.sanitize_isClean` — every sanitized name is clean.
-/

namespace FileName

open Chars

/-- A name that stands for one entry of a folder on every file system: not empty, no dot entry,
    without characters that have a meaning in paths, and without blanks at its ends. -/
structure IsClean (name : String) : Prop where
  nonempty : name ≠ ""
  ne_here : name ≠ "."
  ne_up : name ≠ ".."
  valid : ∀ c ∈ name.toList, c ∉ invalidChars
  head_not_blank : ∀ c ∈ name.toList.head?, isBlank c = false
  last_not_blank : ∀ c ∈ name.toList.getLast?, isBlank c = false

theorem fallback_isClean : IsClean fallback where
  nonempty := by decide
  ne_here := by decide
  ne_up := by decide
  valid := by simp [fallback, invalidChars]
  head_not_blank := by
    intro c hc
    obtain rfl : 'U' = c := by simpa [fallback] using hc
    decide
  last_not_blank := by
    intro c hc
    obtain rfl : 'd' = c := by simpa [fallback] using hc
    decide

/-- The text with underscores for its invalid characters. -/
def replaced (s : List Char) : List Char := s.map fun c => if invalidChars.contains c then '_' else c

theorem not_invalid_of_mem_replaced {s : List Char} {c : Char} (hc : c ∈ replaced s) : c ∉ invalidChars := by
  obtain ⟨d, _, rfl⟩ := List.mem_map.1 hc
  show (if invalidChars.contains d then '_' else d) ∉ invalidChars
  by_cases hd : invalidChars.contains d
  · rw [if_pos hd]
    decide
  · rw [if_neg hd]
    simpa using hd

/-- What is cleaned is a beginning of the text that its blanks in front are taken from. -/
theorem clean_isPrefix (s : List Char) : clean s <+: trimStart (replaced s) :=
  ((dropEndWhile_isPrefix _ _).trans (dropEndWhile_isPrefix _ _)).trans (dropEndWhile_isPrefix _ _)

theorem not_invalid_of_mem_clean {s : List Char} {c : Char} (hc : c ∈ clean s) :
    c ∉ invalidChars :=
  not_invalid_of_mem_replaced ((List.dropWhile_suffix isBlank).subset ((clean_isPrefix s).subset hc))

theorem head?_clean (s : List Char) : ∀ c ∈ (clean s).head?, isBlank c = false := fun c hc =>
  head?_trimStart _ c (head?_of_isPrefix (clean_isPrefix s) c hc)

/-- **Sanitized names are clean.** The three checks at the end catch all that cleaning may leave of a
    name that is no entry of its own. -/
theorem sanitize_isClean (name : String) : IsClean (sanitize name) := by
  rw [sanitize]
  -- What is cleaned to nothing or to dots is replaced by the name that is always clean.
  by_cases h : clean name.toList = [] ∨ clean name.toList = ['.'] ∨ clean name.toList = ['.', '.']
  · have hb : (clean name.toList = [] || clean name.toList = ['.'] ||
        clean name.toList = ['.', '.']) = true := by
      simpa [or_assoc] using h
    simp only [hb, if_true]
    exact fallback_isClean
  · have hb : ¬ (clean name.toList = [] || clean name.toList = ['.'] ||
        clean name.toList = ['.', '.']) = true := by
      simpa [or_assoc] using h
    simp only [if_neg hb]
    rw [not_or, not_or] at h
    -- What is kept differs from each of the three names that are replaced.
    have hne : ∀ t : String, clean name.toList ≠ t.toList →
        String.ofList (clean name.toList) ≠ t := by
      rintro t ht rfl
      exact ht String.toList_ofList.symm
    exact {
      nonempty := hne "" h.1
      ne_here := hne "." h.2.1
      ne_up := hne ".." h.2.2
      valid := by
        intro c hc
        rw [String.toList_ofList] at hc
        exact not_invalid_of_mem_clean hc
      head_not_blank := by
        intro c hc
        rw [String.toList_ofList] at hc
        exact head?_clean _ c hc
      last_not_blank := by
        intro c hc
        rw [String.toList_ofList] at hc
        exact getLast?_dropEndWhile isBlank _ c hc }

end FileName

end Scaffold
