import Scaffold.Proofs.Document.Lossless

namespace Scaffold.Document

/-!
# Normalizing again

A normalized document is its own normal form. A line in quotes has no placeholder at the start of its value any more,
since quotes do not belong to what stands in front of a value. It may happen that it seems to open a block scalar
now; then more lines are taken to be inside of one than before, and they stay as they are.

* `quoteLine_quoteLine` — a line is put in quotes once;
* `Covers` — what is remembered in one run takes all lines to be inside that the other run does;
* `normalizeLines_normalizeLines` — the two runs side by side;
* `normalize_normalize` — the normal form of a normal form.
-/

open Chars

/-- With its name in quotes, the value of a line does not start with a placeholder. -/
theorem startsPlaceholder_quoted {line more : List Char} :
    startsPlaceholder (splitLead ((splitLead line).1 ++ '\x27' :: more)).2 = false := by
  rw [Bool.eq_false_iff]
  intro hstarts
  have hbrace : '\x7b' ∉ (splitLead line).1 := notMem_splitLead (by decide)
  have hquote : '\x27' ∉ (splitLead ((splitLead line).1 ++ '\x27' :: more)).1 := notMem_splitLead (by decide)
  obtain ⟨m, p, d, rest, hbody, -⟩ := startsPlaceholder_iff.1 hstarts
  have hsplit := splitLead_append ((splitLead line).1 ++ '\x27' :: more)
  rw [hbody] at hsplit
  -- Either the quote would stand in front of the value, or the brace would.
  rcases List.append_eq_append_iff.1 hsplit with ⟨between, hlead, hvalue⟩ | ⟨between, hlead, hvalue⟩
  · cases between with
    | nil => simp at hvalue
    | cons c between =>
      rw [List.cons_append, List.cons.injEq] at hvalue
      refine hbrace ?_
      rw [hlead, ← hvalue.1]
      simp
  · cases between with
    | nil => simp at hvalue
    | cons c between =>
      rw [List.cons_append, List.cons.injEq] at hvalue
      refine hquote ?_
      rw [hlead, ← hvalue.1]
      simp

/-- A line is put in quotes once. -/
theorem quoteLine_quoteLine (line : List Char) : quoteLine (quoteLine line) = quoteLine line := by
  have hsame {l : List Char} (h : startsPlaceholder (splitLead l).2 = false) : quoteLine l = l := by
    simp only [quoteLine, h, Bool.false_eq_true, if_false]
  cases hstarts : startsPlaceholder (splitLead line).2 with
  | false => rw [hsame hstarts, hsame hstarts]
  | true =>
    obtain ⟨key, rest, -, -, -, -, hquote⟩ := quoteLine_of_placeholder hstarts
    refine hsame ?_
    rw [hquote, quote, List.append_assoc, List.cons_append, List.cons_append]
    exact startsPlaceholder_quoted

/-- What is remembered in the second run has no more indentation than what is in the first. -/
def Covers (again? first? : Option Nat) : Prop := ∀ parent ∈ first?, ∃ parent' ∈ again?, parent' ≤ parent

theorem Covers.inside {again? first? : Option Nat} (h : Covers again? first?) {line : List Char}
    (hline : first?.any (insideBlock · line) = true) : again?.any (insideBlock · line) = true := by
  obtain ⟨parent, hparent, hinside⟩ := (Option.any_eq_true _ _).1 hline
  obtain ⟨parent', hparent', hle⟩ := h parent hparent
  exact (Option.any_eq_true _ _).2 ⟨parent', hparent', insideBlock_of_le hle hinside⟩

/-- One line in both runs. The second run leaves it as the first one made it, and its memory still covers that of
    the first. -/
theorem Covers.step {again? first? : Option Nat} (h : Covers again? first?) (line : List Char) :
    normalizeLine again? (normalizeLine first? line) = normalizeLine first? line ∧
      Covers (blockBehind again? (normalizeLine first? line)) (blockBehind first? line) := by
  by_cases hinside : first?.any (insideBlock · line) = true
  · have hagain := h.inside hinside
    -- Inside a block the line is copied, now and again.
    rw [normalizeLine, normalizeLine, blockBehind, blockBehind]
    simp [hinside, hagain, h]
  · rw [Bool.not_eq_true] at hinside
    cases hopens : opensBlock line with
    | true =>
      have hline : normalizeLine first? line = line := by simp [normalizeLine, hopens]
      refine ⟨by rw [hline, normalizeLine, hopens, Bool.or_true, if_pos rfl], ?_⟩
      rw [hline, blockBehind_of_outside hinside, hopens, if_pos rfl]
      rintro parent hparent
      obtain rfl : indentation line = parent := by simpa using hparent
      rw [blockBehind]
      split
      · rename_i hagain
        -- A line that opens a block scalar is not blank, so it is inside because of its indentation.
        obtain ⟨parent', hparent', hless⟩ := (Option.any_eq_true _ _).1 hagain
        refine ⟨parent', hparent', ?_⟩
        rcases insideBlock_iff.1 hless with hblank | hless
        · rw [opensBlock_of_allBlank hblank] at hopens
          cases hopens
        · exact Nat.le_of_lt hless
      · exact ⟨indentation line, by simp, Nat.le_refl _⟩
    | false =>
      -- A line that opens nothing is quoted, which a second time changes nothing.
      have hline : normalizeLine first? line = quoteLine line := by simp [normalizeLine, hinside, hopens]
      have hnone : blockBehind first? line = none := by
        rw [blockBehind_of_outside hinside, hopens]
        rfl
      refine ⟨?_, by simp [Covers, hnone]⟩
      rw [hline, normalizeLine]
      split
      · rfl
      · exact quoteLine_quoteLine line

theorem normalizeLines_normalizeLines {again? first? : Option Nat} (h : Covers again? first?)
    (lines : List (List Char)) :
    normalizeLines again? (normalizeLines first? lines) = normalizeLines first? lines := by
  induction lines generalizing again? first? with
  | nil => rfl
  | cons line lines ih =>
    obtain ⟨hline, hcovers⟩ := h.step line
    rw [normalizeLines_cons, normalizeLines_cons, hline, ih hcovers]

/-- **Normalizing again.** A normalized document stays as it is. -/
theorem normalize_normalize (text : String) : normalize (normalize text) = normalize text := by
  have hlines := splitOn_normalizeChars text.toList
  have htabs : (normalizeLines none ((splitOn '\n' text.toList).map expandTabs)).map expandTabs =
      normalizeLines none ((splitOn '\n' text.toList).map expandTabs) := by
    rw [List.map_congr_left fun line hline => ?_, List.map_id]
    refine expandTabs_eq_self_iff.2 fun htab => ?_
    rcases mem_of_mem_normalizeLines hline htab with hquote | ⟨l, hl, htab⟩
    · cases hquote
    · obtain ⟨written, -, rfl⟩ := List.mem_map.1 hl
      exact not_mem_tab_expandTabs written htab
  have hagain : splitOn '\n' (normalizeChars (normalizeChars text.toList)) =
      splitOn '\n' (normalizeChars text.toList) := by
    rw [splitOn_normalizeChars, hlines, htabs, normalizeLines_normalizeLines (by simp [Covers])]
  have hchars := congrArg (joinWith ['\n']) hagain
  rw [joinWith_splitOn, joinWith_splitOn] at hchars
  rw [normalize, normalize, String.toList_ofList, hchars]

end Scaffold.Document
