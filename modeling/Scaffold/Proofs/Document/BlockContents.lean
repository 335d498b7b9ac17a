import Scaffold.Proofs.Document.BlockScalars

namespace Scaffold.Document

/-!
# What is in a block scalar

Lines behind one that opens a block scalar are its content as long as they are blank or indented by more than that
line. Normalization quotes nothing in them. It replaces their tabs all the same, since it does so in the whole text
before it looks at lines; so they stay as they are written if they have no tabs, and not otherwise.

* `expandTabs_eq_self_iff`, `splitOn_expandTabs` — tabs are replaced in each line for itself;
* `splitOn_normalizeChars` — normalization goes from lines to lines, in their order;
* `blockAfter_opened` — behind a line that opens a block scalar, lines with more indentation are inside of one;
* `normalize_inside_block` — what becomes of a line inside;
* `normalize_expands_inside` — a line that does not stay as it is written.
-/

open Chars

/-! ### Tabs -/

/-- No tab is left. -/
theorem not_mem_tab_expandTabs (s : List Char) : '\t' ∉ expandTabs s := by
  intro h
  obtain ⟨c, -, hc⟩ := List.mem_flatMap.1 h
  split at hc
  · simp at hc
  · rename_i hne
    exact hne (List.mem_singleton.1 hc).symm

/-- Nothing changes if there is no tab. -/
theorem expandTabs_eq_self_iff {s : List Char} : expandTabs s = s ↔ '\t' ∉ s := by
  constructor
  · intro h
    rw [← h]
    exact not_mem_tab_expandTabs s
  · exact replaceChar_of_notMem _

/-- The tabs of each line are replaced by themselves. -/
theorem splitOn_expandTabs (text : List Char) :
    splitOn '\n' (expandTabs text) = (splitOn '\n' text).map expandTabs :=
  splitOn_replaceChar (by decide) (by decide) text

/-- A tab is a blank, and so are the spaces that it becomes. -/
theorem allBlank_expandTabs (s : List Char) : allBlank (expandTabs s) = allBlank s := by
  have hchar (c : Char) : (if c = '\t' then [' ', ' '] else [c]).all isBlank = isBlank c := by
    split
    · rename_i hc
      rw [hc]
      rfl
    · simp
  rw [allBlank, expandTabs, replaceChar, List.all_flatMap, allBlank]
  exact congrArg _ (funext hchar)

/-! ### Lines to lines -/

/-- There are as many lines as before. -/
theorem length_normalizeLines (block? : Option Nat) (lines : List (List Char)) :
    (normalizeLines block? lines).length = lines.length := by
  induction lines generalizing block? with
  | nil => rfl
  | cons line lines ih => rw [normalizeLines_cons, List.length_cons, List.length_cons, ih]

/-- Nothing but quotes is put into a line. -/
theorem mem_of_mem_quoteLine {c : Char} {line : List Char} (h : c ∈ quoteLine line) : c = '\x27' ∨ c ∈ line := by
  by_cases hplaceholder : startsPlaceholder (splitLead line).2 = true
  · obtain ⟨key, rest, blanks, hline, -, -, hquote⟩ := quoteLine_of_placeholder hplaceholder
    rw [hquote] at h
    -- Quoting adds marks in front, behind and before each mark of the name, and copies the rest.
    have hkey : c ∈ quote key → c = '\x27' ∨ c ∈ key := by
      intro hc
      simp only [quote, List.mem_append, List.mem_cons, List.not_mem_nil, or_false] at hc
      rcases hc with (rfl | hc) | rfl
      · exact .inl rfl
      · obtain ⟨d, hd, hcd⟩ := List.mem_flatMap.1 hc
        split at hcd
        · exact .inl (by simpa using hcd)
        · exact .inr (List.mem_singleton.1 hcd ▸ hd)
      · exact .inl rfl
    rw [hline]
    simp only [List.mem_append] at h ⊢
    tauto
  · rw [quoteLine] at h
    simp only [hplaceholder, Bool.false_eq_true, if_false] at h
    exact .inr h

/-- All characters of the lines but quotes were there before. -/
theorem mem_of_mem_normalizeLines {c : Char} {block? : Option Nat} {lines : List (List Char)} {line : List Char}
    (hline : line ∈ normalizeLines block? lines) (hc : c ∈ line) : c = '\x27' ∨ ∃ l ∈ lines, c ∈ l := by
  induction lines generalizing block? with
  | nil => cases hline
  | cons first lines ih =>
    rw [normalizeLines_cons] at hline
    rcases List.mem_cons.1 hline with rfl | hline
    -- The first line is either copied, being block content, or quoted.
    · have hfirst : c = '\x27' ∨ c ∈ first := by
        rw [normalizeLine] at hc
        split at hc
        · exact .inr hc
        · exact mem_of_mem_quoteLine hc
      exact hfirst.imp_right fun h => ⟨first, List.mem_cons_self, h⟩
    · rcases ih hline with hquote | ⟨l, hl, hcl⟩
      · exact .inl hquote
      · exact .inr ⟨l, List.mem_cons_of_mem _ hl, hcl⟩

/-- The lines of a normalized text are the lines of the text, each of them normalized. -/
theorem splitOn_normalizeChars (text : List Char) :
    splitOn '\n' (normalizeChars text) = normalizeLines none ((splitOn '\n' text).map expandTabs) := by
  rw [normalizeChars, splitOn_expandTabs]
  refine splitOn_joinWith (fun hnil => ?_) fun line hline hbreak => ?_
  · have hlength := length_normalizeLines none ((splitOn '\n' text).map expandTabs)
    rw [hnil, List.length_map] at hlength
    exact splitOn_ne_nil '\n' text (List.length_eq_zero_iff.1 hlength.symm)
  · rcases mem_of_mem_normalizeLines hline hbreak with hquote | ⟨l, hl, hbreak⟩
    · cases hquote
    · rw [← splitOn_expandTabs] at hl
      exact notMem_of_mem_splitOn hl hbreak

/-! ### Lines inside -/

/-- A line is inside if it is blank or indented by more than the line that opened the block scalar. -/
theorem insideBlock_iff {parent : Nat} {line : List Char} :
    insideBlock parent line = true ↔ allBlank line = true ∨ parent < indentation line := by
  rw [insideBlock, Bool.or_eq_true, decide_eq_true_eq]

/-- A line is inside of a block scalar that was opened further to the left, too. -/
theorem insideBlock_of_le {parent parent' : Nat} {line : List Char} (hle : parent' ≤ parent)
    (h : insideBlock parent line = true) : insideBlock parent' line = true := by
  rw [insideBlock_iff] at h ⊢
  exact h.imp_right (Nat.lt_of_le_of_lt hle)

/-- Behind a line that opens a block scalar, and lines with more indentation, what is remembered is that line or one
    with less indentation: it may be inside of a block scalar itself. -/
theorem blockAfter_opened (block? : Option Nat) {header : List Char} {between : List (List Char)}
    (hopens : opensBlock header = true) (hbetween : ∀ l ∈ between, insideBlock (indentation header) l = true) :
    ∃ parent ≤ indentation header, blockAfter block? (header :: between) = some parent := by
  -- A header outside every block opens its own; inside one it stays content of the shallower block.
  have hheader : ∃ parent ≤ indentation header, blockBehind block? header = some parent := by
    rw [blockBehind]
    split
    · rename_i hinside
      obtain ⟨parent, rfl, hparent⟩ := (Option.any_eq_true _ _).1 hinside
      refine ⟨parent, ?_, rfl⟩
      -- A blank line opens nothing, so the header is indented deeper than the block it stands in.
      rcases insideBlock_iff.1 hparent with hblank | hless
      · rw [opensBlock_of_allBlank hblank] at hopens
        cases hopens
      · exact Nat.le_of_lt hless
    · exact ⟨indentation header, Nat.le_refl _, rfl⟩
  obtain ⟨parent, hle, hparent⟩ := hheader
  refine ⟨parent, hle, ?_⟩
  rw [blockAfter, List.foldl_cons, hparent]
  exact blockAfter_of_inside fun l hl => insideBlock_of_le hle (hbetween l hl)

/-- **Inside a block scalar.** Take a line that opens a block scalar and lines behind it, each of them blank or
    indented by more, where a tab counts as two spaces. Normalization keeps the number of lines; and the last one of
    these is what it was with two spaces for each tab, so that it stays as it is if and only if it has no tab. -/
theorem normalize_inside_block {text : List Char} {front between rest : List (List Char)} {header line : List Char}
    (hlines : splitOn '\n' text = front ++ header :: between ++ line :: rest)
    (hopens : opensBlock (expandTabs header) = true)
    (hinside : ∀ l ∈ between ++ [line],
      allBlank l = true ∨ indentation (expandTabs header) < indentation (expandTabs l)) :
    (splitOn '\n' (normalizeChars text)).length = (splitOn '\n' text).length ∧
    (splitOn '\n' (normalizeChars text))[(front ++ header :: between).length]? = some (expandTabs line) ∧
    ((splitOn '\n' (normalizeChars text))[(front ++ header :: between).length]? = some line ↔ '\t' ∉ line) := by
  -- Expanding tabs keeps a blank line blank, so all lines in question are inside the header's block.
  have hall : ∀ l ∈ between ++ [line], insideBlock (indentation (expandTabs header)) (expandTabs l) = true := by
    intro l hl
    rw [insideBlock_iff, allBlank_expandTabs]
    exact hinside l hl
  have hbetween : ∀ l ∈ between.map expandTabs, insideBlock (indentation (expandTabs header)) l = true := by
    intro l hl
    obtain ⟨written, hwritten, rfl⟩ := List.mem_map.1 hl
    exact hall written (List.mem_append_left _ hwritten)
  have hget : (splitOn '\n' (normalizeChars text))[(front ++ header :: between).length]? =
      some (expandTabs line) := by
    -- The lines are those of the text with expanded tabs, and each is normalized into one line.
    have hsplit : (splitOn '\n' text).map expandTabs =
        front.map expandTabs ++ (expandTabs header :: between.map expandTabs) ++
          expandTabs line :: rest.map expandTabs := by
      rw [hlines]
      simp
    have hlength : (front ++ header :: between).length =
        (normalizeLines none (front.map expandTabs ++ (expandTabs header :: between.map expandTabs))).length := by
      rw [length_normalizeLines]
      simp
    -- What is remembered in front of the line is a line that it is inside of.
    obtain ⟨parent, hle, hparent⟩ :=
      blockAfter_opened (blockAfter none (front.map expandTabs)) hopens hbetween
    have hline := insideBlock_of_le hle (hall line (by simp))
    rw [splitOn_normalizeChars, hsplit, normalizeLines_append none, blockAfter_append, hparent, hlength,
      List.getElem?_append_right (Nat.le_refl _), Nat.sub_self, normalizeLines_cons, normalizeLine]
    simp [hline]
  refine ⟨?_, hget, ?_⟩
  · rw [splitOn_normalizeChars, length_normalizeLines, List.length_map]
  · rw [hget, Option.some.injEq, expandTabs_eq_self_iff]

/-- A line behind one that seems to open a block scalar inside of another, and behind an empty line. It starts with a
    placeholder and is indented with tabs. -/
theorem normalize_inside_block_nested :
    let front := ["- file: Makefile".toList]
    let header := "  content: |".toList
    let between := ["    \x7bmp:cc\x7d: |".toList, "".toList]
    let line := "\t\t\x7bmp:cc\x7d: main.c".toList
    let text := "- file: Makefile\n  content: |\n    \x7bmp:cc\x7d: |\n\n\t\t\x7bmp:cc\x7d: main.c\n- b".toList
    splitOn '\n' text = front ++ header :: between ++ line :: ["- b".toList] ∧
      opensBlock (expandTabs header) = true ∧
      (∀ l ∈ between ++ [line],
        allBlank l = true ∨ indentation (expandTabs header) < indentation (expandTabs l)) ∧
      (splitOn '\n' (normalizeChars text))[4]? = some "    \x7bmp:cc\x7d: main.c".toList := by
  intro front header between line text
  have hlines : splitOn '\n' text = front ++ header :: between ++ line :: ["- b".toList] := by decide
  have hopens : opensBlock (expandTabs header) = true := by decide
  have hinside : ∀ l ∈ between ++ [line],
      allBlank l = true ∨ indentation (expandTabs header) < indentation (expandTabs l) := by
    decide
  exact ⟨hlines, hopens, hinside, (normalize_inside_block hlines hopens hinside).2.1⟩

/-- **A tab in a block scalar.** The rule of a makefile is indented by more than the line that opens the block scalar,
    with its tab and without it. The tab is lost. -/
theorem normalize_expands_inside :
    let header := "  content: |".toList
    let target := "    all:".toList
    let recipe := "    \tcc main.c".toList
    let text := "- file: Makefile\n  content: |\n    all:\n    \tcc main.c".toList
    splitOn '\n' text = ["- file: Makefile".toList, header, target, recipe] ∧ opensBlock header = true ∧
      (∀ l ∈ [target, recipe], indentation header < indentation l ∧
        indentation (expandTabs header) < indentation (expandTabs l)) ∧
      splitOn '\n' (normalizeChars text) =
        ["- file: Makefile".toList, header, target, "      cc main.c".toList] := by
  decide

end Scaffold.Document
