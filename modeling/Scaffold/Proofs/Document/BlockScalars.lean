import Scaffold.Proofs.Document.Quoting

namespace Scaffold.Document

/-!
# Block scalars

Normalization goes through the lines of a document and remembers one number: the indentation of the line that
opened a block scalar, as long as it takes the lines to be inside. A block scalar ends, by the rules of YAML, at the
first line that is indented by less than its first line; for normalization it ends at the first line that is
indented by no more than the line that opened it. These lines differ in a sequence, where a dash stands in front of
the key that opens the block scalar.

* `normalizeLines_cons`, `normalizeLines_append` — normalization as a run over the lines;
* `blockAfter_of_inside` — lines inside a block scalar do not change what is remembered;
* `blockAfter_of_le` — lines that are indented by `k` or more open no block scalar that a line indented by less
  could be inside of;
* `normalize_behind_block` — what becomes of the first line behind a block scalar;
* `normalize_swallows` — a name that is not put in quotes.
-/

open Chars

/-! ### One line after the other -/

/-- What a line becomes. -/
def normalizeLine (block? : Option Nat) (line : List Char) : List Char :=
  if block?.any (insideBlock · line) || opensBlock line then line else quoteLine line

/-- The indentation that is remembered behind a line. -/
def blockBehind (block? : Option Nat) (line : List Char) : Option Nat :=
  if block?.any (insideBlock · line) then block?
  else if opensBlock line then some (indentation line) else none

/-- The indentation that is remembered behind all these lines. -/
def blockAfter (block? : Option Nat) (lines : List (List Char)) : Option Nat := lines.foldl blockBehind block?

theorem normalizeLines_cons (block? : Option Nat) (line : List Char) (lines : List (List Char)) :
    normalizeLines block? (line :: lines) =
      normalizeLine block? line :: normalizeLines (blockBehind block? line) lines := by
  rw [normalizeLines, normalizeLine, blockBehind]
  by_cases hinside : block?.any (insideBlock · line) = true
  · simp [hinside]
  · by_cases hopens : opensBlock line = true
    · simp [hinside, hopens]
    · simp [hinside, hopens]

theorem normalizeLines_append (block? : Option Nat) (lines more : List (List Char)) :
    normalizeLines block? (lines ++ more) =
      normalizeLines block? lines ++ normalizeLines (blockAfter block? lines) more := by
  induction lines generalizing block? with
  | nil => rfl
  | cons line lines ih =>
    rw [List.cons_append, normalizeLines_cons, normalizeLines_cons, ih]
    rfl

theorem blockAfter_append (block? : Option Nat) (lines more : List (List Char)) :
    blockAfter block? (lines ++ more) = blockAfter (blockAfter block? lines) more :=
  List.foldl_append

/-- A line outside of the block scalar is an ordinary line, and so are the lines behind it. -/
theorem normalizeLines_of_outside {block? : Option Nat} {line : List Char}
    (h : block?.any (insideBlock · line) = false) (lines : List (List Char)) :
    normalizeLines block? (line :: lines) = normalizeLines none (line :: lines) := by
  rw [normalizeLines, normalizeLines, h]
  rfl

theorem blockBehind_of_outside {block? : Option Nat} {line : List Char}
    (h : block?.any (insideBlock · line) = false) :
    blockBehind block? line = if opensBlock line then some (indentation line) else none := by
  rw [blockBehind, h]
  rfl

/-! ### Lines inside -/

/-- Lines inside a block scalar do not change what is remembered. -/
theorem blockAfter_of_inside {parent : Nat} {lines : List (List Char)}
    (h : ∀ line ∈ lines, insideBlock parent line = true) : blockAfter (some parent) lines = some parent := by
  induction lines with
  | nil => rfl
  | cons line lines ih =>
    have hstep : blockBehind (some parent) line = some parent := by
      simp [blockBehind, h line List.mem_cons_self]
    rw [blockAfter, List.foldl_cons, hstep]
    exact ih fun l hl => h l (List.mem_cons_of_mem _ hl)

/-- A line of blanks has no indicator in it. -/
theorem opensBlock_of_allBlank {line : List Char} (h : allBlank line = true) : opensBlock line = false := by
  have hnot (c : Char) (hc : isBlank c = false) : c ∉ line := by
    intro hmem
    rw [List.all_eq_true.1 h c hmem] at hc
    cases hc
  exact opensBlockFrom_of_notMem [] (hnot '|' (by decide)) (hnot '>' (by decide))

/-- Lines that are blank or indented by `k` or more leave no block scalar open that was opened by a line indented by
    less than `k`. -/
theorem blockAfter_of_le {k : Nat} {block? : Option Nat} (hblock : ∀ parent ∈ block?, k ≤ parent)
    {lines : List (List Char)} (h : ∀ line ∈ lines, allBlank line = true ∨ k ≤ indentation line) :
    ∀ parent ∈ blockAfter block? lines, k ≤ parent := by
  induction lines generalizing block? with
  | nil => exact hblock
  | cons line lines ih =>
    -- A line opens a block at its own indentation, which is at least `k`, or keeps the block it stands in.
    have hstep : ∀ parent ∈ blockBehind block? line, k ≤ parent := by
      intro parent hparent
      unfold blockBehind at hparent
      split at hparent
      · exact hblock parent hparent
      · split at hparent
        · rename_i hopens
          obtain rfl : indentation line = parent := Option.some.inj hparent
          rcases h line List.mem_cons_self with hblank | hle
          · rw [opensBlock_of_allBlank hblank] at hopens
            cases hopens
          · exact hle
        · cases hparent
    exact ih hstep fun l hl => h l (List.mem_cons_of_mem _ hl)

/-! ### The line behind -/

section Behind

variable {block? : Option Nat} {blanks inner rest : List (List Char)} {header first last : List Char}

/-- Behind the lines of a block scalar, by the rules of YAML, the line that opened it is what is remembered, if the
    first line is inside at all. If it is not, nothing is that the next line could be inside of. -/
theorem blockAfter_block (hopens : opensBlock header = true)
    (hfree : block?.any (insideBlock · header) = false) (hblanks : ∀ line ∈ blanks, allBlank line = true)
    (hfirst : allBlank first = false)
    (hinner : ∀ line ∈ inner, allBlank line = true ∨ indentation first ≤ indentation line) :
    if indentation header < indentation first then
      blockAfter block? (header :: (blanks ++ first :: inner)) = some (indentation header)
    else ∀ parent ∈ blockAfter block? (header :: (blanks ++ first :: inner)), indentation first ≤ parent := by
  -- The header opens its block, and the blank lines behind it stay inside.
  have hheader : blockBehind block? header = some (indentation header) := by
    rw [blockBehind_of_outside hfree, hopens]
    rfl
  have hfront : blockAfter block? (header :: (blanks ++ first :: inner)) =
      blockAfter (some (indentation header)) (first :: inner) := by
    rw [blockAfter, List.foldl_cons, hheader, ← blockAfter, blockAfter_append]
    rw [blockAfter_of_inside fun line hline => by simp [insideBlock, hblanks line hline]]
  rw [hfront]
  split
  · rename_i hless
    -- Every line of the contents is indented deeper than the header.
    refine blockAfter_of_inside fun line hline => ?_
    rcases List.mem_cons.1 hline with rfl | hline
    · simp [insideBlock, hless]
    · rcases hinner line hline with hblank | hle
      · simp [insideBlock, hblank]
      · simp [insideBlock, Nat.lt_of_lt_of_le hless hle]
  · rename_i hless
    -- The first line is outside; what it opens itself is indented as it is.
    have houtside : (some (indentation header)).any (insideBlock · first) = false := by
      simp [insideBlock, hfirst, Nat.le_of_not_lt hless]
    have hstart : ∀ parent ∈ blockBehind (some (indentation header)) first, indentation first ≤ parent := by
      intro parent hparent
      rw [blockBehind_of_outside houtside] at hparent
      split at hparent
      · exact Nat.le_of_eq (Option.some.inj hparent)
      · cases hparent
    exact blockAfter_of_le hstart hinner

/-- **Behind a block scalar.** Of a line that opens a block scalar take the first line behind it that is not blank,
    and the first one behind that which is indented by less: with this line the block scalar is over. If it is
    indented by no more than the line that opened the block scalar, it is an ordinary line, and a name with a
    placeholder at its start is put in quotes. If it is indented by more, it stays as it is, and the lines behind it
    are still taken to be inside. -/
theorem normalize_behind_block {text : List Char} {front : List (List Char)}
    (hlines : splitOn '\n' (expandTabs text) = front ++ header :: (blanks ++ first :: inner) ++ last :: rest)
    (hopens : opensBlock header = true)
    (hfree : (blockAfter none front).any (insideBlock · header) = false)
    (hblanks : ∀ line ∈ blanks, allBlank line = true) (hfirst : allBlank first = false)
    (hinner : ∀ line ∈ inner, allBlank line = true ∨ indentation first ≤ indentation line)
    (hlast : allBlank last = false) (hless : indentation last < indentation first) :
    normalizeChars text = joinWith ['\n']
      (normalizeLines none (front ++ header :: (blanks ++ first :: inner)) ++
        if indentation last ≤ indentation header then normalizeLines none (last :: rest)
        else last :: normalizeLines (some (indentation header)) rest) ∧
    (opensBlock last = false → startsPlaceholder (splitLead last).2 = true →
      ∃ key more blank, last = (splitLead last).1 ++ key ++ more ++ blank ∧ allBlank blank = true ∧
        startsPlaceholder key = true ∧
        normalizeLines none (last :: rest) =
          ((splitLead last).1 ++ quote key ++ more) :: normalizeLines none rest) := by
  refine ⟨?_, fun hplain hplaceholder => ?_⟩
  · have hblock := blockAfter_block hopens hfree hblanks hfirst hinner
    -- The lines behind the block are read with the block that its header and contents leave open.
    rw [normalizeChars, hlines, normalizeLines_append none, blockAfter_append]
    congr 2
    split at hblock
    · rename_i hinside
      rw [hblock]
      -- In the header's own block, `last` ends it unless it is indented deeper than the header's line.
      by_cases hle : indentation last ≤ indentation header
      · rw [if_pos hle]
        exact normalizeLines_of_outside (by simp [insideBlock, hlast, hle]) rest
      · rw [if_neg hle, normalizeLines]
        simp [insideBlock, Nat.lt_of_not_le hle]
    · rename_i hinside
      -- Inside an outer block the content is shallower than the header, so `last` is outside of both.
      have hle : indentation last ≤ indentation header := by omega
      rw [if_pos hle]
      refine normalizeLines_of_outside ?_ rest
      rw [Option.any_eq_false]
      intro parent hparent
      have hparent := hblock parent hparent
      have hnot : ¬ parent < indentation last := by omega
      simp [insideBlock, hlast, hnot]
  · obtain ⟨key, more, blank, hline, hblank, hkey, hquote⟩ := quoteLine_of_placeholder hplaceholder
    refine ⟨key, more, blank, hline, hblank, hkey, ?_⟩
    rw [← hquote, normalizeLines, hplain]
    rfl

end Behind

/-- An item with its content in front of a name in the next item. The name is put in quotes. -/
theorem normalize_behind_content :
    let front := ["- file: a.md".toList]
    let header := "  content: |".toList
    let first := "    \x7bmp:a\x7d".toList
    let inner := ["".toList, "     \x7bmp:b\x7d:".toList]
    let last := "- \x7bmp:x\x7d.md".toList
    let text := "- file: a.md\n  content: |\n    \x7bmp:a\x7d\n\n     \x7bmp:b\x7d:\n- \x7bmp:x\x7d.md".toList
    splitOn '\n' (expandTabs text) = front ++ header :: ([] ++ first :: inner) ++ last :: [] ∧
      opensBlock header = true ∧ (blockAfter none front).any (insideBlock · header) = false ∧
      allBlank first = false ∧
      (∀ line ∈ inner, allBlank line = true ∨ indentation first ≤ indentation line) ∧
      allBlank last = false ∧ indentation last < indentation first ∧
      normalizeChars text =
        joinWith ['\n'] (front ++ header :: first :: inner ++ ["- \x27\x7bmp:x\x7d.md\x27".toList]) := by
  intro front header first inner last text
  have hlines : splitOn '\n' (expandTabs text) = front ++ header :: ([] ++ first :: inner) ++ last :: [] := by
    decide
  have hopens : opensBlock header = true := by decide
  have hfree : (blockAfter none front).any (insideBlock · header) = false := by decide
  have hfirst : allBlank first = false := by decide
  have hinner : ∀ line ∈ inner, allBlank line = true ∨ indentation first ≤ indentation line := by decide
  have hlast : allBlank last = false := by decide
  have hless : indentation last < indentation first := by decide
  refine ⟨hlines, hopens, hfree, hfirst, hinner, hlast, hless, ?_⟩
  rw [(normalize_behind_block hlines hopens hfree (by simp) hfirst hinner hlast hless).1]
  decide

/-- **A name that is not put in quotes.** The content of the item ends with the line in front of the name, by the
    rules of YAML. In the other order the name is put in quotes. -/
theorem normalize_swallows :
    let header := "- content: |".toList
    let first := "    hi".toList
    let last := "  file: \x7bmp:title\x7d.md".toList
    let text := "- content: |\n    hi\n  file: \x7bmp:title\x7d.md"
    splitOn '\n' (expandTabs text.toList) = [header, first, last] ∧ opensBlock header = true ∧
      allBlank first = false ∧ allBlank last = false ∧ indentation last < indentation first ∧
      startsPlaceholder (splitLead last).2 = true ∧ normalize text = text ∧
      normalize "- file: \x7bmp:title\x7d.md\n  content: |\n    hi" =
        "- file: \x27\x7bmp:title\x7d.md\x27\n  content: |\n    hi" := by
  decide

end Scaffold.Document
