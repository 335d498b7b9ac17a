import Scaffold.Document.Normal
import Scaffold.Proofs.Text.Pieces

namespace Scaffold

/-!
# Texts with nothing to mend

A text without tabs, braces and the marks of block scalars is its own normal form.

* `Document.quoteLine_eq_self` — without a brace there is no placeholder to put quotes around;
* `Document.normalize_eq_self` — such a text stays as it is.
-/

namespace Document

open Chars

theorem mem_of_mem_dashes {c : Char} (fuel : Nat) {s : List Char} (h : c ∈ (dashes fuel s).2) : c ∈ s := by
  induction fuel generalizing s with
  | zero => exact h
  | succ fuel ih =>
    unfold dashes at h
    split at h
    · simp only at h
      split at h
      · exact h
      · exact List.mem_cons_of_mem _ ((List.dropWhile_suffix _).subset (ih h))
    · exact h

theorem mem_of_mem_leadingKey {c : Char} {s : List Char} (h : c ∈ (leadingKey s).2) : c ∈ s := by
  unfold leadingKey at h
  split at h
  · exact h
  · rename_i first rest
    split at h
    -- With a closing quote, the key ends behind the blanks and the colon that follow it.
    · simp only at h
      split at h
      · rename_i behind hbehind
        split at h
        · exact h
        · have hmem : c ∈ ':' :: behind := List.mem_cons_of_mem _ ((List.dropWhile_suffix _).subset h)
          rw [← hbehind] at hmem
          exact List.mem_cons_of_mem _ ((List.dropWhile_suffix _).subset hmem)
      · exact h
    · exact h

theorem mem_of_mem_splitLead {c : Char} {line : List Char} (h : c ∈ (splitLead line).2) : c ∈ line :=
  (List.dropWhile_suffix _).subset (mem_of_mem_dashes _ (mem_of_mem_leadingKey h))

theorem startsPlaceholder_of_notMem {s : List Char} (h : '\x7b' ∉ s) : startsPlaceholder s = false := by
  unfold startsPlaceholder
  split
  · exact absurd List.mem_cons_self h
  · rfl

/-- Without a brace there is no placeholder to put quotes around. -/
theorem quoteLine_eq_self {line : List Char} (h : '\x7b' ∉ line) : quoteLine line = line := by
  have hbody : startsPlaceholder (splitLead line).2 = false :=
    startsPlaceholder_of_notMem fun hmem => h (mem_of_mem_splitLead hmem)
  simp only [quoteLine, hbody, Bool.false_eq_true, if_false]

theorem opensBlockFrom_of_notMem (before : List Char) {line : List Char} (hbar : '|' ∉ line) (hfold : '>' ∉ line) :
    opensBlockFrom before line = false := by
  induction line generalizing before with
  | nil => rfl
  | cons c line ih =>
    rw [List.mem_cons, not_or] at hbar hfold
    have hc : (c == '|' || c == '>') = false := by
      simp [Ne.symm hbar.1, Ne.symm hfold.1]
    rw [opensBlockFrom, hc, ih _ hbar.2 hfold.2]
    rfl

theorem normalizeLines_eq_self {lines : List (List Char)}
    (h : ∀ line ∈ lines, opensBlock line = false ∧ quoteLine line = line) :
    normalizeLines none lines = lines := by
  induction lines with
  | nil => rfl
  | cons line lines ih =>
    obtain ⟨hopens, hquote⟩ := h line List.mem_cons_self
    rw [normalizeLines, hopens, hquote, ih fun l hl => h l (List.mem_cons_of_mem _ hl)]
    rfl

/-- **Nothing to mend.** A text without tabs, braces and the marks of block scalars is its own normal form. -/
theorem normalize_eq_self {text : String}
    (h : ∀ c ∈ ['\t', '\x7b', '|', '>'], c ∉ text.toList) : normalize text = text := by
  have htabs : expandTabs text.toList = text.toList :=
    replaceChar_of_notMem _ (h '\t' (by decide))
  have hlines : ∀ line ∈ splitOn '\n' text.toList, opensBlock line = false ∧ quoteLine line = line := by
    intro line hline
    -- A line has only characters of the text, so none of the four that normalization looks for.
    have hnot (c : Char) (hc : c ∈ ['\t', '\x7b', '|', '>']) : c ∉ line := fun hmem =>
      h c hc (mem_of_mem_splitOn hline hmem)
    exact ⟨opensBlockFrom_of_notMem [] (hnot '|' (by decide)) (hnot '>' (by decide)),
      quoteLine_eq_self (hnot '\x7b' (by decide))⟩
  rw [normalize, normalizeChars, htabs, normalizeLines_eq_self hlines, joinWith_splitOn]
  exact String.ofList_toList

end Document

end Scaffold
