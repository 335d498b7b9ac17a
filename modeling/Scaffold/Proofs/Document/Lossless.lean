import Scaffold.Proofs.Document.BlockContents
import Scaffold.Proofs.Placeholder.Braces

namespace Scaffold.Document

/-!
# What normalization keeps

A document goes through normalization line by line, and apart from tabs a line loses nothing but blanks at its end:
it stays as it is, or its name gets quotes, and both the line and the name can be told from what comes out. The
name ends where no brace is open, so a placeholder whose braces are balanced is never cut in two.

* `unquote`, `unquote_quote` — reading a name in quotes;
* `isLeadChar_of_mem_splitLead` — neither braces nor quotes stand in front of a value;
* `uncut_of_closed` — where a name ends with no brace open, no braced piece is cut;
* `Quotation` — how a line comes out with its name in quotes, `quoteLine_quotation`;
* `getElem?_normalizeLines` — what becomes of each line;
* `normalize_lossless` — what becomes of a document.
-/

open Chars Placeholder

/-! ### Quotes -/

/-- The text inside quotes with its doubled quotes made single, up to the quote that stands alone at the end. -/
def unquoteInside : List Char → Option (List Char)
  | ['\x27'] => some []
  | '\x27' :: '\x27' :: s => (unquoteInside s).map ('\x27' :: ·)
  | c :: s => if c = '\x27' then none else (unquoteInside s).map (c :: ·)
  | [] => none

/-- The text that stands between single quotes with its own quotes doubled. -/
def unquote : List Char → Option (List Char)
  | '\x27' :: s => unquoteInside s
  | _ => none

/-- What is put in quotes can be told from them. -/
theorem unquote_quote (s : List Char) : unquote (quote s) = some s := by
  rw [quote, List.cons_append, unquote]
  -- Each quote was doubled, and every other character stands for itself.
  induction s with
  | nil => rfl
  | cons c s ih =>
    rw [replaceChar, List.flatMap_cons, ← replaceChar]
    by_cases hc : c = '\x27'
    · subst hc
      have hstep (t : List Char) : unquoteInside ('\x27' :: '\x27' :: t) = (unquoteInside t).map ('\x27' :: ·) := rfl
      rw [if_pos rfl, List.append_assoc, List.cons_append, List.cons_append, List.nil_append, hstep, ih]
      rfl
    · rw [if_neg hc, List.append_assoc, List.singleton_append]
      have hstep (t : List Char) : unquoteInside (c :: t) = (unquoteInside t).map (c :: ·) := by
        rw [unquoteInside.eq_def]
        split <;> simp_all
      rw [hstep, ih]
      rfl

/-! ### In front of a value -/

/-- The characters of blanks, dashes and a key. -/
def isLeadChar (c : Char) : Bool := isBlank c || c == '-' || c == ':' || Text.isWord c

theorem isLeadChar_of_mem_dashes (fuel : Nat) {s : List Char} {c : Char} (h : c ∈ (dashes fuel s).1) :
    isLeadChar c = true := by
  -- The induction is on the fuel; what is passed are dashes and the blanks behind them.
  induction fuel generalizing s with
  | zero => cases h
  | succ fuel ih =>
    unfold dashes at h
    split at h
    · simp only at h
      split at h
      · cases h
      · rename_i rest hblanks
        simp only [List.cons_append, List.mem_cons, List.mem_append] at h
        rcases h with rfl | h | h
        · rfl
        · have hblank := List.all_eq_true.1 List.all_takeWhile c h
          simp [isLeadChar, hblank]
        · exact ih h
    · cases h

theorem isLeadChar_of_mem_leadingKey {s : List Char} {c : Char} (h : c ∈ (leadingKey s).1) : isLeadChar c = true := by
  unfold leadingKey at h
  split at h
  · cases h
  · rename_i first rest
    -- A key starts with a letter or an underscore, and has word characters and dashes in it.
    split at h
    · rename_i hfirst
      simp only at h
      split at h
      · rename_i behind hbehind
        split at h
        · cases h
        -- The first character, the key, the colon or the blanks behind it.
        · simp only [List.cons_append, List.mem_cons, List.mem_append] at h
          rcases h with rfl | h | rfl | h
          · have hword : Text.isWord c = true := by
              rw [Bool.or_eq_true, decide_eq_true_eq] at hfirst
              rcases hfirst with hletter | rfl
              · simp [Text.isWord, hletter]
              · rfl
            simp [isLeadChar, hword]
          · have hname := List.all_eq_true.1 List.all_takeWhile c h
            simp only [Bool.or_eq_true, beq_iff_eq] at hname
            rcases hname with hword | rfl
            · simp [isLeadChar, hword]
            · rfl
          · rfl
          · have hblank := List.all_eq_true.1 List.all_takeWhile c h
            simp [isLeadChar, hblank]
      · cases h
    · cases h

/-- What stands in front of a value has neither braces nor quotes. -/
theorem isLeadChar_of_mem_splitLead {line : List Char} {c : Char} (h : c ∈ (splitLead line).1) :
    isLeadChar c = true := by
  simp only [splitLead, List.mem_append] at h
  rcases h with (h | h) | h
  · have hblank := List.all_eq_true.1 List.all_takeWhile c h
    simp [isLeadChar, hblank]
  · exact isLeadChar_of_mem_dashes _ h
  · exact isLeadChar_of_mem_leadingKey h

theorem notMem_splitLead {line : List Char} {c : Char} (hc : isLeadChar c = false) : c ∉ (splitLead line).1 := by
  intro h
  rw [isLeadChar_of_mem_splitLead h] at hc
  cases hc

/-! ### Open braces -/

/-- A brace that closes an open one counts, and so does one that opens. -/
theorem braceDepth_eq {depth : Nat} {c : Char} (h : [c].count '\x7d' ≤ depth + [c].count '\x7b') :
    braceDepth depth c + [c].count '\x7d' = depth + [c].count '\x7b' := by
  by_cases hopen : c = '\x7b'
  · subst hopen
    rfl
  · by_cases hclose : c = '\x7d'
    · subst hclose
      exact Nat.sub_add_cancel h
    · simp [braceDepth, hopen, hclose]

/-- Where no more braces close than are open, each of them counts. -/
theorem depthBehind_of_le {depth : Nat} {s : List Char}
    (h : ∀ start, start <+: s → start.count '\x7d' ≤ depth + start.count '\x7b') :
    depthBehind depth s + s.count '\x7d' = depth + s.count '\x7b' := by
  -- The induction is on the text; on the way no more braces are closed than were opened.
  induction s generalizing depth with
  | nil => rfl
  | cons c s ih =>
    have hcons (mark : Char) (t : List Char) : ([c] ++ t).count mark = [c].count mark + t.count mark :=
      List.count_append
    simp only [List.singleton_append] at hcons
    have hfirst := braceDepth_eq (h [c] (by simp))
    -- What holds of every start of the text holds behind its first character, too.
    have hrest := @ih (braceDepth depth c) fun start hstart => by
      have hmore := h (c :: start) (by simpa using hstart)
      rw [hcons '\x7d' start, hcons '\x7b' start] at hmore
      omega
    have hstep : depthBehind depth (c :: s) = depthBehind (braceDepth depth c) s := rfl
    rw [hstep, hcons '\x7d' s, hcons '\x7b' s]
    omega

/-! ### A line with its name in quotes -/

/-- A piece with a brace at each end and balanced braces between them. -/
def IsBraced (piece : List Char) : Prop :=
  ∃ inner, IsBalanced inner ∧ piece = '\x7b' :: inner ++ ['\x7d']

/-- The line comes out with quotes around `key`, which is a piece of it, and without the blanks at its end. -/
structure Quotation (line out lead key rest : List Char) : Prop where
  line_eq : ∃ blanks, allBlank blanks = true ∧ line = lead ++ key ++ rest ++ blanks
  out_eq : out = lead ++ quote key ++ rest
  /-- Read without its quotes, the name is the one in the line. -/
  unquote_eq : unquote (quote key) = some key
  starts : startsPlaceholder key = true
  /-- Where something is behind the name, no brace is open. -/
  closed : rest ≠ [] → depthBehind 0 key = 0
  /-- A braced piece of the line is a piece of the name or of what is behind it. -/
  uncut : ∀ front piece behind, IsBraced piece → lead ++ key ++ rest = front ++ piece ++ behind →
    (∃ start ending, key = start ++ piece ++ ending ∧ front = lead ++ start ∧ behind = ending ++ rest) ∨
      ∃ start, rest = start ++ piece ++ behind ∧ front = lead ++ key ++ start

/-- Behind a beginning of a braced piece, but for all of it, a brace is open. -/
theorem depthBehind_of_braced {piece start ending : List Char} (hpiece : IsBraced piece)
    (hsplit : piece = start ++ ending) (hstart : start ≠ []) (hending : ending ≠ []) (depth : Nat) :
    0 < depthBehind depth start := by
  obtain ⟨inner, hinner, rfl⟩ := hpiece
  obtain ⟨c, start, rfl⟩ := List.exists_cons_of_ne_nil hstart
  rw [List.cons_append, List.cons_append, List.cons.injEq] at hsplit
  obtain ⟨rfl, hsplit⟩ := hsplit
  -- The beginning goes no further than the text between the braces.
  have hprefix : start <+: inner := by
    have hlength := congrArg List.length hsplit
    have hpos := List.length_pos_of_ne_nil hending
    simp only [List.length_append, List.length_singleton] at hlength
    exact List.prefix_of_prefix_length_le (hsplit ▸ List.prefix_append start ending) (List.prefix_append inner _)
      (by omega)
  have hcount := @depthBehind_of_le (depth + 1) start fun begin hbegin => by
    have hle := hinner.start_le begin (hbegin.trans hprefix)
    omega
  have hle := hinner.start_le start hprefix
  have hstep : depthBehind depth ('\x7b' :: start) = depthBehind (depth + 1) start := rfl
  rw [hstep]
  omega

/-- No braced piece is cut in two by what is in front of the name or behind it. -/
theorem uncut_of_closed {lead key rest front piece behind : List Char} (hlead : '\x7b' ∉ lead)
    (hclosed : rest ≠ [] → depthBehind 0 key = 0) (hpiece : IsBraced piece)
    (hline : lead ++ key ++ rest = front ++ piece ++ behind) :
    (∃ start ending, key = start ++ piece ++ ending ∧ front = lead ++ start ∧ behind = ending ++ rest) ∨
      ∃ start, rest = start ++ piece ++ behind ∧ front = lead ++ key ++ start := by
  have hbrace : ∃ more, piece = '\x7b' :: more := by
    obtain ⟨inner, -, rfl⟩ := hpiece
    exact ⟨_, rfl⟩
  obtain ⟨more, hmore⟩ := hbrace
  rw [List.append_assoc, List.append_assoc] at hline
  -- The piece does not start in what is in front of the name.
  have hfront : ∃ start, front = lead ++ start ∧ key ++ rest = start ++ (piece ++ behind) := by
    rcases List.append_eq_append_iff.1 hline with ⟨start, hstart, hrest⟩ | ⟨ending, hending, hrest⟩
    · exact ⟨start, hstart, hrest⟩
    · cases ending with
      | nil => exact ⟨[], by simpa using hending.symm, by simpa using hrest.symm⟩
      | cons c ending =>
        rw [hmore, List.cons_append, List.cons_append, List.cons.injEq] at hrest
        refine absurd ?_ hlead
        rw [hending, ← hrest.1]
        simp
  obtain ⟨start, rfl, hsplit⟩ := hfront
  -- The piece starts in the name or behind it; in the name it must also end there.
  rcases List.append_eq_append_iff.1 hsplit with ⟨start', hstart, hrest⟩ | ⟨more', hkey, hrest⟩
  · exact .inr ⟨start', by rw [hrest, List.append_assoc], by rw [hstart, List.append_assoc]⟩
  · rcases List.append_eq_append_iff.1 hrest with ⟨ending, hending, hbehind⟩ | ⟨left, hleft, hbehind⟩
    · exact .inl ⟨start, ending, by rw [hkey, hending, List.append_assoc], rfl, hbehind⟩
    · by_cases hwhole : left = []
      · subst hwhole
        refine .inl ⟨start, [], ?_, rfl, by simpa using hbehind.symm⟩
        rw [hkey, hleft]
        simp
      by_cases hnone : more' = []
      · subst hnone
        rw [List.append_nil] at hkey
        rw [List.nil_append] at hleft
        subst hleft hkey
        exact .inr ⟨[], by simpa using hbehind, by simp⟩
      · -- The name would end in the middle of the piece.
        have hopen := depthBehind_of_braced hpiece hleft hnone hwhole (depthBehind 0 start)
        have hrestne : rest ≠ [] := by
          rw [hbehind]
          simp [hwhole]
        have hzero := hclosed hrestne
        rw [hkey, depthBehind_append] at hzero
        omega

/-- A line with a placeholder at the start of its value has the name, or the key, that starts with this placeholder
    put in quotes, and loses no more than blanks at its end. -/
theorem quoteLine_quotation {line : List Char} (h : startsPlaceholder (splitLead line).2 = true) :
    ∃ lead key rest, Quotation line (quoteLine line) lead key rest := by
  obtain ⟨key, rest, blanks, hline, hblanks, hstart, hclosed, hquote⟩ := quoteLine_parts h
  exact ⟨(splitLead line).1, key, rest, ⟨blanks, hblanks, hline⟩, hquote, unquote_quote key, hstart, hclosed,
    fun front piece behind hpiece hsplit => uncut_of_closed (notMem_splitLead (by decide)) hclosed hpiece hsplit⟩

/-! ### Documents -/

/-- A line outside of block scalars that opens none, with a placeholder at the start of its value. -/
def isQuotable (block? : Option Nat) (line : List Char) : Bool :=
  !(block?.any (insideBlock · line) || opensBlock line) && startsPlaceholder (splitLead line).2

theorem normalizeLine_eq (block? : Option Nat) (line : List Char) :
    normalizeLine block? line = if isQuotable block? line then quoteLine line else line := by
  rw [normalizeLine, isQuotable]
  by_cases hstays : (block?.any (insideBlock · line) || opensBlock line) = true
  · simp [hstays]
  · by_cases hstarts : startsPlaceholder (splitLead line).2 = true
    · simp [hstays, hstarts]
    · have hsame : quoteLine line = line := by
        simp only [quoteLine, hstarts, Bool.false_eq_true, if_false]
      simp [hsame]

/-- What becomes of a line depends on the line and on the lines in front of it. -/
theorem getElem?_normalizeLines (block? : Option Nat) (lines : List (List Char)) (i : Nat) :
    (normalizeLines block? lines)[i]? = lines[i]?.map (normalizeLine (blockAfter block? (lines.take i))) := by
  induction lines generalizing block? i with
  | nil => rfl
  | cons line lines ih =>
    rw [normalizeLines_cons]
    cases i with
    | zero => rfl
    | succ i =>
      rw [List.getElem?_cons_succ, List.getElem?_cons_succ, List.take_succ_cons, ih]
      rfl

/-- **Nothing is lost.** A document keeps its number of lines. With two spaces for each tab, a line outside of block
    scalars with a placeholder at the start of its value comes out with the name that starts with it in quotes, from
    which the name can be read again, and with no braced placeholder cut in two; of such a line blanks at its end are
    lost, and nothing else. Any other line comes out as it is. -/
theorem normalize_lossless (text : String) :
    (splitOn '\n' (normalize text).toList).length = (splitOn '\n' text.toList).length ∧
    ∀ (i : Nat) (line : List Char), (splitOn '\n' (expandTabs text.toList))[i]? = some line →
      ∃ out, (splitOn '\n' (normalize text).toList)[i]? = some out ∧
        if isQuotable (blockAfter none ((splitOn '\n' (expandTabs text.toList)).take i)) line then
          ∃ lead key rest, Quotation line out lead key rest
        else out = line := by
  have hlines : splitOn '\n' (normalize text).toList = normalizeLines none (splitOn '\n' (expandTabs text.toList)) := by
    rw [normalize, String.toList_ofList, splitOn_normalizeChars, splitOn_expandTabs]
  refine ⟨?_, fun i line hline => ?_⟩
  · rw [hlines, length_normalizeLines, splitOn_expandTabs, List.length_map]
  · rw [hlines, getElem?_normalizeLines, hline]
    -- The line is normalized in the block in which it stands.
    refine ⟨_, rfl, ?_⟩
    rw [normalizeLine_eq]
    split
    · rename_i hquotable
      rw [isQuotable, Bool.and_eq_true] at hquotable
      exact quoteLine_quotation hquotable.2
    · rfl

/-- A document with a line in a block scalar, which keeps all but its tab, and a line behind it with a comment and
    with a placeholder whose code has a colon and a quote. -/
theorem normalize_lossless_mixed :
    let text := "- file: a.md\n  content: |\n\t\t\x7bmp:x\x7d: y\n- \x7bmp.py: it's['b: c'] \x7d: [d] # e \t"
    let line := "- \x7bmp.py: it's['b: c'] \x7d: [d] # e   ".toList
    (splitOn '\n' (normalize text).toList).length = 4 ∧
      (splitOn '\n' (expandTabs text.toList))[3]? = some line ∧
      ∃ out, (splitOn '\n' (normalize text).toList)[3]? = some out ∧
        ∃ lead key rest, Quotation line out lead key rest := by
  intro text line
  obtain ⟨hlength, hlines⟩ := normalize_lossless text
  -- The last line is outside of the block, and starts with a placeholder.
  have hline : (splitOn '\n' (expandTabs text.toList))[3]? = some line := by decide +kernel
  obtain ⟨out, hout, hquoted⟩ := hlines 3 line hline
  have hquotable : isQuotable (blockAfter none ((splitOn '\n' (expandTabs text.toList)).take 3)) line = true := by
    decide +kernel
  rw [if_pos hquotable] at hquoted
  have hfour : (splitOn '\n' text.toList).length = 4 := by decide +kernel
  exact ⟨hlength.trans hfour, hline, out, hout, hquoted⟩

end Scaffold.Document
