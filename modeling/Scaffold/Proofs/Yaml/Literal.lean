import Scaffold.Proofs.Yaml.Quoted

namespace Scaffold.Yaml

/-!
# Literal blocks

A literal block is read as the text that was written: its header tells the indentation where the first line does not,
and what becomes of the line breaks at the end; the lines between are read one by one, with the empty ones behind them.

* `readHeader_literalHeader` — what the header says;
* `readMargin_breaks`, `readMargin_line` — empty lines, and the indentation of the line behind them;
* `readBlockLines_content` — the lines up to the last line break;
* `readBlock_literal` — the block as a whole.
-/

/-! ### The header -/

/-- What the header of a text says about the line breaks at its end. -/
def chomping (s : List Char) : Chomping :=
  match s.reverse with
  | [] => .strip
  | [c] => if isBreak c then .keep else .strip
  | c :: d :: _ => if !isBreak c then .strip else if isBreak d then .keep else .clip

/-- Whether the header of a text gives the indentation. -/
def givesIndentation (s : List Char) : Bool := s.head?.any fun c => c == ' ' || isBreak c

/-- The header of a literal block: a bar, the indentation if it has to be given, and the sign. -/
theorem literalHeader_eq (s : List Char) :
    literalHeader s = '|' :: ((if givesIndentation s then ['2'] else [])
      ++ match chomping s with | .strip => ['-'] | .keep => ['+'] | .clip => []) := by
  rw [literalHeader, chomping, givesIndentation]
  cases hs : s.reverse with
  | nil => rfl
  | cons c before =>
    cases before with
    | nil => cases hc : isBreak c <;> simp [hc]
    | cons d before => cases hc : isBreak c <;> cases hd : isBreak d <;> simp [hc, hd]

/-- The header is read as what it says. -/
theorem readHeader_literalHeader (s rest : List Char) (i l k : Nat) :
    ∃ i', readHeader ⟨(literalHeader s).tail ++ '\n' :: rest, i, l, k⟩
      = .ok (chomping s, if givesIndentation s then some 2 else none, ⟨rest, i', l + 1, 0⟩) := by
  have hdigit : (some '2').filter Text.isAsciiDigit = some '2' ∧
      (some '\n').filter Text.isAsciiDigit = none := by decide
  have hblank (i l k : Nat) : (⟨'\n' :: rest, i, l, k⟩ : Cursor).skipBlanks = ⟨'\n' :: rest, i, l, k⟩ := by
    simp [Cursor.skipBlanks, Cursor.skipWhile, Cursor.readWhile, isSpaceOrTab, Chars.byteLength]
  have hskip (i l k : Nat) : (⟨'\n' :: rest, i, l, k⟩ : Cursor).skipBreak = ⟨rest, i + '\n'.utf8Size, l + 1, 0⟩ := rfl
  rw [literalHeader_eq, List.tail_cons]
  -- Behind the sign stand the indentation and the chomping, each given or left out, and the line break.
  cases givesIndentation s <;> cases chomping s <;>
    simp [readHeader, Cursor.peek, Cursor.skip, hdigit, bind, Except.bind, pure, Except.pure, hblank,
      Cursor.skipComment, isEdge, isSpaceOrTab, isBreak, hskip]

/-! ### Empty lines and indentation -/

/-- A line break that stands for itself. -/
def isOwnBreak (c : Char) : Bool := isPrintable c && isBreak c

/-- A break that stands for itself is read as itself. -/
theorem readBreak_of_isOwnBreak {b : Char} (hb : isOwnBreak b = true) (rest : List Char) (i l k : Nat) :
    (⟨b :: rest, i, l, k⟩ : Cursor).readBreak = ([b], ⟨rest, i + b.utf8Size, l + 1, 0⟩) := by
  rw [isOwnBreak, Bool.and_eq_true] at hb
  rcases Form.eq_of_isPrintable_of_isBreak hb.1 hb.2 with rfl | rfl | rfl <;> rfl

/-- A break that stands for itself is a break. -/
theorem isBreak_of_isOwnBreak {c : Char} (hc : isOwnBreak c = true) : isBreak c = true := by
  rw [isOwnBreak, Bool.and_eq_true] at hc
  exact hc.2

/-- The number of spaces that count as indentation. -/
def indentTaken (indent? : Option Nat) (spaces : Nat) : Nat := indent?.elim spaces (min spaces)

section Margin

variable {indent? : Option Nat} {n : Nat} {rest : List Char}
  (hn : indentTaken indent? ((List.replicate n ' ' ++ rest).takeWhile (· == ' ')).length = n)
  (hrest : ∀ c ∈ rest.head?, isBreak c = false ∧ c ≠ '\t')

include hn hrest

/-- The indentation of a line that is not empty. -/
theorem readMargin_line (fuel : Nat) (breaks : List Char) (endLine i l : Nat) :
    readMargin indent? (fuel + 1) ⟨breaks, 0, endLine⟩ ⟨List.replicate n ' ' ++ rest, i, l, 0⟩
      = .ok (⟨breaks, n, endLine⟩, ⟨rest, i + n, l, n⟩) := by
  have hskip := Cursor.skipN_append (List.replicate n ' ') rest i l 0
  rw [List.length_replicate, Chars.byteLength_replicate_space, Nat.zero_add] at hskip
  cases rest with
  | nil =>
    cases indent? <;> simp only [indentTaken, Option.elim] at hn <;>
      simp only [readMargin, Nat.sub_zero, hn, hskip] <;> simp [Cursor.peek]
  | cons c rest =>
    obtain ⟨hbreak, htab⟩ := hrest c rfl
    cases indent? <;> simp only [indentTaken, Option.elim] at hn <;>
      simp only [readMargin, Nat.sub_zero, hn, hskip] <;> simp [Cursor.peek, hbreak, htab]

/-- Empty lines, and the indentation of the line behind them. -/
theorem readMargin_breaks {bs : List Char} (hbs : ∀ c ∈ bs, isOwnBreak c = true) (fuel : Nat) (hfuel : bs.length < fuel)
    (breaks : List Char) (endLine i l : Nat) :
    ∃ endLine', readMargin indent? fuel ⟨breaks, 0, endLine⟩ ⟨bs ++ (List.replicate n ' ' ++ rest), i, l, 0⟩
      = .ok (⟨breaks ++ bs, n, endLine'⟩, ⟨rest, i + Chars.byteLength bs + n, l + bs.length, n⟩) := by
  -- The breaks of the empty lines that have been read stand in `breaks`.
  induction bs generalizing fuel breaks endLine i l with
  | nil =>
    obtain ⟨fuel, rfl⟩ : ∃ m, fuel = m + 1 := ⟨fuel - 1, by omega⟩
    refine ⟨endLine, ?_⟩
    rw [List.nil_append, readMargin_line hn hrest, List.append_nil]
    rfl
  | cons b bs ih =>
    obtain ⟨fuel, rfl⟩ : ∃ m, fuel = m + 1 := ⟨fuel - 1, by omega⟩
    have hb := hbs b List.mem_cons_self
    have hbreak : isBreak b = true ∧ b ≠ ' ' ∧ b ≠ '\t' := by
      rw [isOwnBreak, Bool.and_eq_true] at hb
      refine ⟨hb.2, ?_, ?_⟩
      · rintro rfl
        cases hb.2
      · rintro rfl
        cases hb.2
    obtain ⟨endLine', hread⟩ := ih (fun c hc => hbs c (List.mem_cons_of_mem _ hc)) fuel
      (by simp only [List.length_cons] at hfuel; omega) (breaks ++ [b]) (l + 1) (i + b.utf8Size) (l + 1)
    -- A break of an empty line is collected, and the margin of the next line is read.
    have hstep : readMargin indent? (fuel + 1) ⟨breaks, 0, endLine⟩
        ⟨b :: (bs ++ (List.replicate n ' ' ++ rest)), i, l, 0⟩
        = readMargin indent? fuel ⟨breaks ++ [b], 0, l + 1⟩
            ⟨bs ++ (List.replicate n ' ' ++ rest), i + b.utf8Size, l + 1, 0⟩ := by
      cases indent? <;>
        simp [readMargin, hbreak, Cursor.skipN, Cursor.peek, readBreak_of_isOwnBreak hb]
    refine ⟨endLine', ?_⟩
    rw [List.cons_append, hstep, hread, List.append_assoc, Chars.byteLength_cons, List.length_cons]
    simp only [List.singleton_append, Nat.add_assoc, Nat.add_comm 1]

end Margin

/-- Spaces in front of a text are spaces at its start. -/
theorem length_takeWhile_spaces (n : Nat) (rest : List Char) :
    ((List.replicate n ' ' ++ rest).takeWhile (· == ' ')).length = n + (rest.takeWhile (· == ' ')).length := by
  rw [List.takeWhile_append_of_pos (by simp), List.length_append, List.length_replicate]

/-- In a block no more indentation is taken than the block has. -/
theorem indentTaken_self (n : Nat) (rest : List Char) :
    indentTaken (some n) ((List.replicate n ' ' ++ rest).takeWhile (· == ' ')).length = n := by
  rw [length_takeWhile_spaces]
  exact Nat.min_eq_right (Nat.le_add_right n _)

/-- In front of a character that is no space, all the spaces are indentation. -/
theorem indentTaken_of_head? {indent? : Option Nat} {n : Nat} {rest : List Char} (hn : indent?.all (n ≤ ·) = true)
    (hrest : ∀ c ∈ rest.head?, c ≠ ' ') :
    indentTaken indent? ((List.replicate n ' ' ++ rest).takeWhile (· == ' ')).length = n := by
  have hzero : (rest.takeWhile (· == ' ')).length = 0 := by
    cases rest with
    | nil => rfl
    | cons c rest => simp [hrest c rfl]
  rw [length_takeWhile_spaces, hzero]
  cases indent? with
  | none => rfl
  | some m => exact Nat.min_eq_left (by simpa using hn)

/-! ### Lines -/

/-- A line break, behind which the indentation comes. -/
theorem literalBody_of_break {c : Char} (hc : isBreak c = true) (n : Nat) (afterBreak : Bool) (s : List Char) :
    literalBody n afterBreak (c :: s) = c :: literalBody n true s := by
  rw [literalBody, if_pos hc]

/-- Any other character. -/
theorem literalBody_of_no_break {c : Char} (hc : isBreak c = false) (n : Nat) (s : List Char) :
    literalBody n false (c :: s) = c :: literalBody n false s := by
  rw [literalBody, if_neg (by simp [hc])]
  rfl

/-- A body that does not start behind a line break starts as its text does. -/
theorem head?_literalBody (n : Nat) (s : List Char) : (literalBody n false s).head? = s.head? := by
  cases s with
  | nil => rfl
  | cons c s =>
    rw [literalBody]
    split <;> rfl

/-- Without a line break, the lines of a block have no indentation in them. -/
theorem literalBody_append (n : Nat) {w : List Char} (hw : ∀ c ∈ w, isBreak c = false) (t : List Char) :
    literalBody n false (w ++ t) = w ++ literalBody n false t := by
  induction w with
  | nil => rfl
  | cons c w ih =>
    rw [List.cons_append, literalBody_of_no_break (hw c List.mem_cons_self),
      ih fun d hd => hw d (List.mem_cons_of_mem _ hd), List.cons_append]

/-- The line breaks at the end stay as they are. -/
theorem literalBody_ending (n : Nat) (afterBreak : Bool) (s : List Char) {g : List Char}
    (hg : ∀ c ∈ g, isBreak c = true) : literalBody n afterBreak (s ++ g) = literalBody n afterBreak s ++ g := by
  -- Breaks are copied, so the claim for `s` follows character by character.
  induction s generalizing afterBreak with
  | nil =>
    show literalBody n afterBreak g = g
    induction g generalizing afterBreak with
    | nil => rfl
    | cons b g ih =>
      rw [literalBody_of_break (hg b List.mem_cons_self), ih fun c hc => hg c (List.mem_cons_of_mem _ hc)]
  | cons c s ih =>
    rw [List.cons_append, literalBody, literalBody, ih, ih]
    split <;> simp

/-- Behind line breaks there is indentation, in front of a line that is not empty. -/
theorem literalBody_breaks (n : Nat) {g : List Char} (hg : ∀ c ∈ g, isBreak c = true) {c : Char}
    (hc : isBreak c = false) (t : List Char) :
    literalBody n true (g ++ c :: t) = g ++ (pad n ++ literalBody n false (c :: t)) := by
  induction g with
  | nil => simp [literalBody, hc]
  | cons b g ih =>
    rw [List.cons_append, literalBody_of_break (hg b List.mem_cons_self),
      ih fun d hd => hg d (List.mem_cons_of_mem _ hd), List.cons_append]

/-- Behind a word and the line breaks behind it, the next line is indented. -/
theorem literalBody_gap (n : Nat) {w g : List Char} (hw : ∀ c ∈ w, isBreak c = false) (hne : g ≠ [])
    (hg : ∀ c ∈ g, isBreak c = true) {c : Char} (hc : isBreak c = false) (t : List Char) :
    literalBody n false (w ++ (g ++ c :: t)) = w ++ (g ++ (pad n ++ literalBody n false (c :: t))) := by
  obtain ⟨b, bs, rfl⟩ := List.exists_cons_of_ne_nil hne
  rw [literalBody_append n hw, List.cons_append, literalBody_of_break (hg b List.mem_cons_self),
    literalBody_breaks n (fun d hd => hg d (List.mem_cons_of_mem _ hd)) hc, List.cons_append]

/-- The lines of a block are at least as long as the text. -/
theorem length_le_literalBody (n : Nat) (afterBreak : Bool) (s : List Char) :
    s.length ≤ (literalBody n afterBreak s).length := by
  induction s generalizing afterBreak with
  | nil => exact Nat.zero_le _
  | cons c s ih =>
    have hfalse := ih false
    have htrue := ih true
    rw [literalBody]
    split <;> simp only [List.length_append, List.length_cons] <;> omega

/-- The lines of a block end as the text does. -/
theorem getLast?_literalBody (n : Nat) (afterBreak : Bool) (s : List Char) :
    (literalBody n afterBreak s).getLast? = s.getLast? := by
  induction s generalizing afterBreak with
  | nil => rfl
  | cons c s ih =>
    rw [literalBody, List.getLast?_cons]
    split
    · rw [List.getLast?_cons, ih]
    · rw [List.getLast?_append, List.getLast?_cons, ih]
      rfl

/-- A block is made of its text, of indentation and of the characters of the header. -/
theorem isPrintable_of_mem_literal (n : Nat) {s : List Char} (hs : ∀ c ∈ s, isPrintable c = true) :
    ∀ c ∈ literal n s, isPrintable c = true := by
  -- Between the breaks there is the indentation only.
  have hbody (afterBreak : Bool) (s : List Char) (hs : ∀ c ∈ s, isPrintable c = true) :
      ∀ c ∈ literalBody n afterBreak s, isPrintable c = true := by
    induction s generalizing afterBreak with
    | nil => simp [literalBody]
    | cons d s ih =>
      obtain ⟨hd, hs⟩ := List.forall_mem_cons.1 hs
      rw [literalBody]
      split
      · exact List.forall_mem_cons.2 ⟨hd, ih true hs⟩
      · refine List.forall_mem_append.2 ⟨fun c hc => ?_, List.forall_mem_cons.2 ⟨hd, ih false hs⟩⟩
        split at hc
        · rw [List.eq_of_mem_replicate hc]
          decide
        · cases hc
  have hheader : ∀ c ∈ literalHeader s, isPrintable c = true := by
    refine List.all_eq_true.1 ?_
    rw [literalHeader_eq]
    cases givesIndentation s <;> cases chomping s <;> decide
  rw [literal]
  exact List.forall_mem_append.2 ⟨hheader, List.forall_mem_cons.2 ⟨by decide, hbody true s hs⟩⟩

/-- A block ends as its text does. -/
theorem getLast?_literal (n : Nat) {s : List Char} (hne : s ≠ []) : (literal n s).getLast? = s.getLast? := by
  obtain ⟨c, hc⟩ := Option.ne_none_iff_exists'.1 (mt List.getLast?_eq_none_iff.1 hne)
  rw [literal, List.getLast?_append, List.getLast?_cons, getLast?_literalBody, hc]
  rfl

section Lines

variable {indent budget fuel : Nat} {acc lead empty : List Char} {afterBlank : Bool} {endLine i l : Nat}

/-- At another column, and at the end of the text, the block ends. -/
theorem readBlockLines_stop {n : Nat} {rest : List Char} (h : n ≠ indent ∨ rest = []) :
    readBlockLines true indent budget fuel acc lead empty afterBlank endLine ⟨rest, i, l, n⟩
      = .ok (acc, lead, empty, endLine, ⟨rest, i, l, n⟩) := by
  cases fuel with
  | zero => rfl
  | succ fuel =>
    -- Either the column is not the block's, or there is no line left.
    have hend : (decide (n = indent) && !(⟨rest, i, l, n⟩ : Cursor).atEnd) = false := by
      rcases h with h | rfl
      · simp [h]
      · simp [Cursor.atEnd]
    rw [readBlockLines]
    exact if_neg (by rw [hend]; exact Bool.false_ne_true)

variable {w : List Char} (hne : w ≠ []) (hw : ∀ c ∈ w, isBreak c = false)

include hne hw

/-- A line joins the block, with the line breaks in front of it. -/
theorem readBlockLines_line {tail : List Char} (htail : ∀ c ∈ tail.head?, isBreak c = true)
    {b : List Char} {c c' : Cursor}
    (hbreak : (⟨tail, i + Chars.byteLength w, l, indent + w.length⟩ : Cursor).readBreak = (b, c)) {margin : Margin}
    (hmargin : readMargin (some indent) budget { endLine := c.line } c = .ok (margin, c')) :
    readBlockLines true indent budget (fuel + 1) acc lead empty afterBlank endLine ⟨w ++ tail, i, l, indent⟩
      = readBlockLines true indent budget fuel (acc ++ (lead ++ empty) ++ w) b margin.breaks (w.head?.any isSpaceOrTab)
          margin.endLine c' := by
  have hread : (⟨w ++ tail, i, l, indent⟩ : Cursor).readWhile (fun _ => true)
      = (w, ⟨tail, i + Chars.byteLength w, l, indent + w.length⟩) := by
    -- A line is read up to its break.
    have hrun : (w ++ tail).takeWhile (fun x => true && !isBreak x) = w := by
      rw [List.takeWhile_append_of_pos (by simpa using hw)]
      cases tail with
      | nil => simp
      | cons d tail => simp [htail d rfl]
    simp only [Cursor.readWhile, hrun, List.drop_left]
  -- The line is at the indentation of the block, so it belongs to it.
  have hgo : (decide ((⟨w ++ tail, i, l, indent⟩ : Cursor).column = indent)
      && !(⟨w ++ tail, i, l, indent⟩ : Cursor).atEnd) = true := by
    simp [Cursor.atEnd, hne]
  rw [readBlockLines, if_pos hgo]
  simp only [hread, hbreak]
  show (readMargin (some indent) budget { endLine := c.line } c).bind _ = _
  rw [hmargin]
  have hpeek : (⟨w ++ tail, i, l, indent⟩ : Cursor).peek = w.head? := by
    obtain ⟨d, w, rfl⟩ := List.exists_cons_of_ne_nil hne
    rfl
  simp [Except.bind, hpeek]

/-- A line with line breaks behind it, in front of another line of the block or of what follows. -/
theorem readBlockLines_gap {b : Char} {bs : List Char} (hbs : ∀ c ∈ b :: bs, isOwnBreak c = true) {n : Nat}
    {rest : List Char} (hn : indentTaken (some indent) ((List.replicate n ' ' ++ rest).takeWhile (· == ' ')).length = n)
    (hrest : ∀ c ∈ rest.head?, isBreak c = false ∧ c ≠ '\t') (hbudget : bs.length < budget) :
    ∃ afterBlank' endLine' i', readBlockLines true indent budget (fuel + 1) acc lead empty afterBlank endLine
        ⟨w ++ (b :: bs ++ (List.replicate n ' ' ++ rest)), i, l, indent⟩
      = readBlockLines true indent budget fuel (acc ++ (lead ++ empty) ++ w) [b] bs afterBlank' endLine'
          ⟨rest, i', l + 1 + bs.length, n⟩ := by
  have hb := hbs b List.mem_cons_self
  have hbreak : isBreak b = true := by
    rw [isOwnBreak, Bool.and_eq_true] at hb
    exact hb.2
  -- The breaks behind the first one belong to the margin of the next line.
  obtain ⟨endLine', hmargin⟩ := readMargin_breaks hn hrest (fun c hc => hbs c (List.mem_cons_of_mem _ hc))
    budget hbudget [] (l + 1) (i + Chars.byteLength w + b.utf8Size) (l + 1)
  exact ⟨w.head?.any isSpaceOrTab, endLine', _,
    readBlockLines_line hne hw (by simpa using hbreak) (readBreak_of_isOwnBreak hb _ _ _ _) hmargin⟩

/-- The last line of the text. -/
theorem readBlockLines_last (hbudget : 0 < budget) :
    ∃ endLine', readBlockLines true indent budget (fuel + 1) acc lead empty afterBlank endLine ⟨w, i, l, indent⟩
      = .ok (acc ++ (lead ++ empty) ++ w, [], [], endLine', ⟨[], i + Chars.byteLength w, l, indent + w.length⟩) := by
  obtain ⟨budget, rfl⟩ : ∃ m, budget = m + 1 := ⟨budget - 1, by omega⟩
  -- At the end of the text there are no further lines.
  have hmargin : readMargin (some indent) (budget + 1) { endLine := l }
      ⟨[], i + Chars.byteLength w, l, indent + w.length⟩
      = .ok (⟨[], indent + w.length, l⟩, ⟨[], i + Chars.byteLength w, l, indent + w.length⟩) := by
    simp [readMargin, Cursor.skipN, Cursor.peek]
  have hline : readBlockLines true indent (budget + 1) (fuel + 1) acc lead empty afterBlank endLine
      ⟨w ++ [], i, l, indent⟩
      = readBlockLines true indent (budget + 1) fuel (acc ++ (lead ++ empty) ++ w) [] [] (w.head?.any isSpaceOrTab) l
          ⟨[], i + Chars.byteLength w, l, indent + w.length⟩ :=
    readBlockLines_line hne hw (by simp) (b := []) (c := ⟨[], i + Chars.byteLength w, l, indent + w.length⟩) rfl hmargin
  rw [List.append_nil, readBlockLines_stop (.inr rfl)] at hline
  exact ⟨_, hline⟩

/-- The last line of the text with the line breaks behind it, which may be followed by a line that is indented less. -/
theorem readBlockLines_ending {g : List Char} (hg : ∀ c ∈ g, isOwnBreak c = true) {m : Nat} (hm : m < indent)
    {rest : List Char} (hrest : ∀ c ∈ rest.head?, isBreak c = false ∧ c ≠ '\t' ∧ c ≠ ' ')
    (hend : g = [] → m = 0 ∧ rest = []) (hbudget : g.length < budget) :
    ∃ endLine' i' l' k', readBlockLines true indent budget (fuel + 1) acc lead empty afterBlank endLine
        ⟨w ++ (g ++ (List.replicate m ' ' ++ rest)), i, l, indent⟩
      = .ok (acc ++ (lead ++ empty) ++ w, g.take 1, g.drop 1, endLine', ⟨rest, i', l', k'⟩) ∧
      l ≤ l' ∧ (rest ≠ [] → k' = m) := by
  -- Without breaks the text ends here; otherwise the next line is indented too little.
  cases g with
  | nil =>
    obtain ⟨rfl, rfl⟩ := hend rfl
    obtain ⟨endLine', hread⟩ := readBlockLines_last hne hw hbudget
    simp only [List.replicate_zero, List.append_nil]
    exact ⟨endLine', _, l, _, hread, Nat.le_refl l, fun h => absurd rfl h⟩
  | cons b bs =>
    have hroom : bs.length < budget := by
      rw [List.length_cons] at hbudget
      omega
    have htaken : indentTaken (some indent) ((List.replicate m ' ' ++ rest).takeWhile (· == ' ')).length = m :=
      indentTaken_of_head? (by simpa using Nat.le_of_lt hm) fun c hc => (hrest c hc).2.2
    obtain ⟨afterBlank', endLine', i', hread⟩ := readBlockLines_gap hne hw hg htaken
      (fun c hc => ⟨(hrest c hc).1, (hrest c hc).2.1⟩) hroom
    refine ⟨endLine', i', l + 1 + bs.length, m, ?_, by omega, fun _ => rfl⟩
    -- The next line does not belong to the block.
    rw [hread, readBlockLines_stop (.inl (Nat.ne_of_lt hm))]
    rfl

end Lines

/-- What is behind line breaks in a text that does not end with one. -/
theorem exists_cons_of_gap {w g t : List Char} (hne : g ≠ []) (hg : ∀ c ∈ g, isBreak c = true)
    (hlast : ∀ c ∈ (w ++ (g ++ t)).getLast?, isBreak c = false) : ∃ c t', t = c :: t' := by
  cases t with
  | cons c t => exact ⟨c, t, rfl⟩
  | nil =>
    obtain ⟨b, hb⟩ := Option.ne_none_iff_exists'.1 (mt List.getLast?_eq_none_iff.1 hne)
    have hbreak := hg b (List.mem_of_getLast? hb)
    rw [hlast b (by rw [List.append_nil, List.getLast?_append, hb]; rfl)] at hbreak
    cases hbreak

/-- The lines of a block up to the last of its line breaks, which may be followed by a line that is indented less. -/
theorem readBlockLines_content {indent budget : Nat} {s : List Char} (hs : ∀ c ∈ s, isPrintable c = true) (hne : s ≠ [])
    (hfirst : ∀ c ∈ s.head?, isBreak c = false) (hlast : ∀ c ∈ s.getLast?, isBreak c = false) {g : List Char}
    (hg : ∀ c ∈ g, isOwnBreak c = true) {m : Nat} (hm : m < indent) {rest : List Char}
    (hrest : ∀ c ∈ rest.head?, isBreak c = false ∧ c ≠ '\t' ∧ c ≠ ' ') (hend : g = [] → m = 0 ∧ rest = [])
    (hbudget : s.length + g.length < budget) (fuel : Nat) (hfuel : s.length < fuel) (acc lead empty : List Char)
    (afterBlank : Bool) (endLine i l : Nat) :
    ∃ endLine' i' l' k', readBlockLines true indent budget fuel acc lead empty afterBlank endLine
        ⟨literalBody indent false s ++ (g ++ (List.replicate m ' ' ++ rest)), i, l, indent⟩
      = .ok (acc ++ (lead ++ empty) ++ s, g.take 1, g.drop 1, endLine', ⟨rest, i', l', k'⟩) ∧
      l ≤ l' ∧ (rest ≠ [] → k' = m) := by
  -- A line is read with the line breaks behind it, so the induction goes from one line to the next that is not empty.
  induction s using Chars.runs_induction isBreak generalizing fuel acc lead empty afterBlank endLine i l with
  | last w hw =>
    obtain ⟨fuel, rfl⟩ : ∃ m, fuel = m + 1 := ⟨fuel - 1, by omega⟩
    have hbody : literalBody indent false w = w := by
      have happend := literalBody_append indent hw []
      rwa [List.append_nil, literalBody, List.append_nil] at happend
    have hroom : g.length < budget := by omega
    rw [hbody]
    exact readBlockLines_ending hne hw hg hm hrest hend hroom
  | gap w g' rest' hw hgne hg' hrest' ih =>
    obtain ⟨fuel, rfl⟩ : ∃ m, fuel = m + 1 := ⟨fuel - 1, by omega⟩
    -- Behind the line breaks stands the next line, which starts with a character of its own.
    obtain ⟨c, t, rfl⟩ := exists_cons_of_gap hgne hg' hlast
    have hc : isBreak c = false := hrest' c rfl
    have htab : c ≠ '\t' := by
      rintro rfl
      exact absurd (hs '\t' (by simp)) (by decide)
    rw [literalBody_gap indent hw hgne hg' hc]
    obtain ⟨b, bs, rfl⟩ := List.exists_cons_of_ne_nil hgne
    have hwne : w ≠ [] := by
      rintro rfl
      simpa [hg' b List.mem_cons_self] using hfirst b rfl
    have howns : ∀ d ∈ b :: bs, isOwnBreak d = true := fun d hd => by
      rw [isOwnBreak, hs d (List.mem_append_right _ (List.mem_append_left _ hd)), hg' d hd]
      rfl
    simp only [List.length_append, List.length_cons] at hbudget hfuel
    have hroom : bs.length < budget := by omega
    -- The line and the breaks behind it are read, then the induction goes on with the next line.
    obtain ⟨afterBlank', endLine', i', hread⟩ := readBlockLines_gap hwne hw howns
      (indentTaken_self indent (literalBody indent false (c :: t) ++ (g ++ (List.replicate m ' ' ++ rest))))
      (fun d hd => by
        rw [List.head?_append, head?_literalBody] at hd
        obtain rfl : c = d := Option.some.inj hd
        exact ⟨hc, htab⟩) hroom
    obtain ⟨endLine'', i'', l'', k'', hread', hl, hk⟩ := ih
      (fun d hd => hs d (List.mem_append_right _ (List.mem_append_right _ hd))) (List.cons_ne_nil _ _) hrest'
      (fun d hd => hlast d (by rw [List.getLast?_append, List.getLast?_append, Option.mem_def.1 hd]; rfl))
      (by simp only [List.length_cons]; omega) fuel (by simp only [List.length_cons]; omega)
      (acc ++ (lead ++ empty) ++ w) [b] bs afterBlank' endLine' i' (l + 1 + bs.length)
    refine ⟨endLine'', i'', l'', k'', ?_, by omega, hk⟩
    simp only [pad, List.append_assoc] at hread hread' ⊢
    rw [hread, hread']
    simp

/-! ### The end of a block -/

/-- What is kept of the line breaks at the end of a block. -/
def chomp (c : Chomping) (text lead empty : List Char) : List Char :=
  let text := if c = .strip then text else text ++ lead
  if c = .keep then text ++ empty else text

section Chomp

variable {s g : List Char} (hlast : ∀ c ∈ s.getLast?, isBreak c = false) (hg : ∀ c ∈ g, isBreak c = true)

include hg

/-- Where two line breaks end a text, all are kept. -/
theorem chomping_keep (hlength : 2 ≤ g.length) : chomping (s ++ g) = .keep := by
  have hrev : ∀ c ∈ g.reverse, isBreak c = true := fun c hc => hg c (List.mem_reverse.1 hc)
  rw [← List.length_reverse] at hlength
  rw [chomping, List.reverse_append]
  match hg' : g.reverse with
  | [] => simp [hg'] at hlength
  | [c] => simp [hg'] at hlength
  | c :: d :: before => simp [hrev c (by simp [hg']), hrev d (by simp [hg'])]

/-- Line breaks that are all of a text are kept. -/
theorem chomping_breaks (hne : g ≠ []) : chomping g = .keep := by
  match g with
  | [] => exact absurd rfl hne
  | [b] => simp [chomping, hg b List.mem_cons_self]
  | b :: b' :: bs => exact chomping_keep (s := []) hg (by simp)

include hlast

/-- The text of a block is what its header says about the line breaks that end it, and line breaks behind a text
    without any are dropped. -/
theorem chomp_chomping (hne : s ≠ []) {ending : List Char} (hending : g ≠ [] → ending = []) :
    chomp (chomping (s ++ g)) s ((g ++ ending).take 1) ((g ++ ending).drop 1) = s ++ g := by
  obtain ⟨c, before, hs⟩ : ∃ c before, s.reverse = c :: before := by
    obtain ⟨c, before, hs⟩ := List.exists_cons_of_ne_nil (mt List.reverse_eq_nil_iff.1 hne)
    exact ⟨c, before, hs⟩
  have hc : isBreak c = false := hlast c (by rw [← List.head?_reverse, hs]; rfl)
  -- What is kept follows from the number of breaks behind the text: none, one, or more.
  match g with
  | [] =>
    have hstrip : chomping (s ++ []) = .strip := by
      rw [chomping, List.append_nil, hs]
      cases before <;> simp [hc]
    rw [hstrip, List.append_nil]
    rfl
  | [b] =>
    have hclip : chomping (s ++ [b]) = .clip := by
      rw [chomping, List.reverse_append, hs]
      simp [hg b List.mem_cons_self, hc]
    rw [hclip, hending (List.cons_ne_nil b [])]
    rfl
  | b :: b' :: bs =>
    rw [chomping_keep hg (by simp), hending (List.cons_ne_nil b _)]
    simp [chomp]

end Chomp

/-! ### Blocks -/

/-- The stages of reading a block. -/
theorem readBlock_of {o : Nat} {increment : Option Nat} {c c₁ c₂ c₃ : Cursor} {chomping : Chomping} {margin : Margin}
    {text lead empty : List Char} {indent endLine : Nat} (hheader : readHeader c = .ok (chomping, increment, c₁))
    (hmargin : readMargin (increment.map (o + ·)) (c.rest.length + 1) { endLine := c₁.line } c₁ = .ok (margin, c₂))
    (hindent : (increment.map (o + ·)).getD (max (max margin.widest (o + 1)) 1) = indent)
    (hlines : readBlockLines true indent (c.rest.length + 1) (c.rest.length + 1) [] [] margin.breaks false
      margin.endLine c₂ = .ok (text, lead, empty, endLine, c₃)) :
    readBlock true (some o) c = .ok (chomp chomping text lead empty, endLine, c₃) := by
  simp only [readBlock, hheader, Option.getD_some, hmargin, Option.map_some, hindent, hlines, bind, Except.bind]
  rfl

/-- What stands behind the bar of a literal block. -/
theorem tail_literal (n : Nat) (s : List Char) :
    (literal n s).tail = (literalHeader s).tail ++ '\n' :: literalBody n true s := by
  rw [literal, literalHeader_eq]
  rfl

section Block

variable {o : Nat} {m : Nat} (hm : m ≤ o) {rest : List Char}
  (hrest : ∀ c ∈ rest.head?, isBreak c = false ∧ c ≠ '\t' ∧ c ≠ ' ') (i l k : Nat)

include hm hrest

/-- A block of line breaks only. -/
theorem readBlock_breaks {s : List Char} (hs : ∀ c ∈ s, isOwnBreak c = true) (hne : s ≠ []) :
    ∃ endLine i' l', readBlock true (some o) ⟨(literal (o + 2) s).tail ++ (List.replicate m ' ' ++ rest), i, l, k⟩
        = .ok (s, endLine, ⟨rest, i', l', m⟩) ∧ l < l' := by
  have hbreaks : ∀ c ∈ s, isBreak c = true := fun c hc => isBreak_of_isOwnBreak (hs c hc)
  -- A text that starts with a break gives its indentation in the header.
  have hgives : givesIndentation s = true := by
    obtain ⟨b, bs, rfl⟩ := List.exists_cons_of_ne_nil hne
    simp [givesIndentation, hbreaks b List.mem_cons_self]
  -- Between the breaks there is nothing to be indented.
  have hbody : literalBody (o + 2) true s = s := literalBody_ending (o + 2) true [] hbreaks
  obtain ⟨i₁, hheader⟩ := readHeader_literalHeader s (s ++ (List.replicate m ' ' ++ rest)) i l k
  rw [hgives, if_pos rfl] at hheader
  have hless : m ≤ o + 2 := by omega
  have htaken : indentTaken (some (o + 2)) ((List.replicate m ' ' ++ rest).takeWhile (· == ' ')).length = m :=
    indentTaken_of_head? (by simpa using hless) fun c hc => (hrest c hc).2.2
  obtain ⟨endLine, hmargin⟩ := readMargin_breaks htaken (fun c hc => ⟨(hrest c hc).1, (hrest c hc).2.1⟩) hs
    (((literalHeader s).tail ++ '\n' :: (s ++ (List.replicate m ' ' ++ rest))).length + 1)
    (by simp only [List.length_append, List.length_cons]; omega) [] (l + 1) i₁ (l + 1)
  have hcolumn : m ≠ o + 2 ∨ rest = [] := .inl (by omega)
  refine ⟨endLine, i₁ + Chars.byteLength s + m, l + 1 + s.length, ?_, by omega⟩
  rw [tail_literal, hbody, List.append_assoc, List.cons_append,
    readBlock_of hheader hmargin rfl (readBlockLines_stop hcolumn), chomping_breaks hbreaks hne]
  rfl

end Block

/-- What stands behind the indicator of a block: the header, empty lines, and the lines from the first one that is not
    empty. -/
theorem tail_literal_content (n : Nat) {breaks s g : List Char} (hbreaks : ∀ c ∈ breaks, isBreak c = true)
    (hne : s ≠ []) (hfirst : ∀ c ∈ s.head?, isBreak c = false) (hg : ∀ c ∈ g, isBreak c = true) :
    (literal n (breaks ++ (s ++ g))).tail = (literalHeader (breaks ++ (s ++ g))).tail
      ++ '\n' :: (breaks ++ (List.replicate n ' ' ++ (literalBody n false s ++ g))) := by
  obtain ⟨c, t, rfl⟩ := List.exists_cons_of_ne_nil hne
  rw [tail_literal, List.cons_append, literalBody_breaks n hbreaks (hfirst c rfl), ← List.cons_append,
    literalBody_ending _ _ _ hg]
  rfl

/-- A text is made of line breaks only, or of a part that neither starts nor ends with one between line breaks. -/
theorem exists_content (s : List Char) : (∀ c ∈ s, isBreak c = true) ∨
    ∃ breaks content g, s = breaks ++ (content ++ g) ∧ content ≠ [] ∧ (∀ c ∈ breaks, isBreak c = true) ∧
      (∀ c ∈ content.head?, isBreak c = false) ∧ (∀ c ∈ content.getLast?, isBreak c = false) ∧
      ∀ c ∈ g, isBreak c = true := by
  -- The content ends where only breaks follow.
  obtain ⟨g, hg, hs⟩ := Chars.dropEndWhile_append isBreak (s.dropWhile isBreak)
  have hlast := Chars.getLast?_dropEndWhile isBreak (s.dropWhile isBreak)
  generalize Chars.dropEndWhile isBreak (s.dropWhile isBreak) = content at hs hlast
  have hsplit : s.takeWhile isBreak ++ (content ++ g) = s := by
    rw [hs]
    exact List.takeWhile_append_dropWhile
  have hfront : ∀ c ∈ s.takeWhile isBreak, isBreak c = true := List.all_eq_true.1 List.all_takeWhile
  by_cases hcontent : content = []
  · refine .inl fun c hc => ?_
    rw [← hsplit, hcontent, List.nil_append] at hc
    exact (List.mem_append.1 hc).elim (hfront c) (hg c)
  · refine .inr ⟨_, content, g, hsplit.symm, hcontent, hfront, fun c hc => ?_, hlast, hg⟩
    have hhead := List.head?_dropWhile_not isBreak s
    rw [← hs, List.head?_append, Option.mem_def.1 hc] at hhead
    simpa using hhead

/-! ### The choice of the indentation -/

/-- The indentation that the header of a text gives. -/
def increment? (s : List Char) : Option Nat := if givesIndentation s then some 2 else none

/-- The block of a text is indented by two, which the reader takes from the header or finds at the first line. -/
theorem getD_increment? (o : Nat) (s : List Char) :
    ((increment? s).map (o + ·)).getD (max (max (o + 2) (o + 1)) 1) = o + 2 := by
  rw [increment?]
  split
  · rfl
  · show max (max (o + 2) (o + 1)) 1 = o + 2
    omega

/-- The indentation is found at the first line that is not empty: where the header does not give it, neither a break
    nor a space stands in front of the text of this line. -/
theorem indentTaken_increment? (o : Nat) {breaks s t : List Char} {c : Char} (hbreaks : ∀ b ∈ breaks, isBreak b = true)
    (hs : s.head? = some c) (ht : t.head? = some c) :
    indentTaken ((increment? (breaks ++ s)).map (o + ·))
      ((List.replicate (o + 2) ' ' ++ t).takeWhile (· == ' ')).length = o + 2 := by
  rw [increment?]
  -- Either the header gives the indentation, or the first line shows it.
  split
  · exact indentTaken_self (o + 2) t
  · rename_i hgives
    -- The first line does not start with a space, or the header would give the indentation.
    refine indentTaken_of_head? rfl fun d hd => ?_
    rw [ht] at hd
    rintro rfl
    refine hgives ?_
    rw [givesIndentation, List.head?_append, hs, Option.some.inj hd]
    cases breaks with
    | nil => rfl
    | cons b breaks => simp [hbreaks b List.mem_cons_self]

/-! ### The ending of a block -/

/-- What is written behind a block whose text ends with the line breaks `g`, in front of a line that is indented by `m`
    spaces: a line break, unless there is one or nothing comes. -/
def EndsBlock (g ending : List Char) (m : Nat) (rest : List Char) : Prop :=
  ending = (if g = [] then ['\n'] else []) ∨ ending = [] ∧ m = 0 ∧ rest = []

namespace EndsBlock

variable {g ending rest : List Char} {m : Nat} (h : EndsBlock g ending m rest)

include h

/-- The breaks at the end of the text and the one behind the block stand for themselves. -/
theorem isOwnBreak (hg : ∀ c ∈ g, isOwnBreak c = true) : ∀ c ∈ g ++ ending, Yaml.isOwnBreak c = true := by
  refine List.forall_mem_append.2 ⟨hg, fun c hc => ?_⟩
  rcases h with rfl | ⟨rfl, -⟩
  · split at hc
    · rw [List.mem_singleton.1 hc]
      decide
    · cases hc
  · cases hc

/-- Without any break behind the last line, nothing follows the block. -/
theorem nothing_behind (hnil : g ++ ending = []) : m = 0 ∧ rest = [] := by
  obtain ⟨rfl, rfl⟩ := List.append_eq_nil_iff.1 hnil
  rcases h with hending | ⟨-, hlast⟩
  · cases hending
  · exact hlast

/-- Behind a text that ends with a break, none has to be written. -/
theorem eq_nil (hg : g ≠ []) : ending = [] := by
  rcases h with hending | ⟨hending, -⟩
  · rwa [if_neg hg] at hending
  · exact hending

/-- The text is what the header says about the lines and the breaks behind them. -/
theorem chomp_eq {breaks s : List Char} (hne : s ≠ []) (hlast : ∀ c ∈ s.getLast?, isBreak c = false)
    (hg : ∀ c ∈ g, isBreak c = true) :
    chomp (chomping (breaks ++ (s ++ g))) (breaks ++ s) ((g ++ ending).take 1) ((g ++ ending).drop 1)
      = breaks ++ (s ++ g) := by
  rw [← List.append_assoc]
  have hend : (breaks ++ s).getLast? = s.getLast? := by
    obtain ⟨c, hc⟩ := Option.ne_none_iff_exists'.1 (mt List.getLast?_eq_none_iff.1 hne)
    rw [List.getLast?_append, hc, Option.some_or]
  exact chomp_chomping (by rwa [hend]) hg (by simp [hne]) h.eq_nil

end EndsBlock

section Block

variable {o : Nat} {m : Nat} (hm : m ≤ o) {rest : List Char}
  (hrest : ∀ c ∈ rest.head?, isBreak c = false ∧ c ≠ '\t' ∧ c ≠ ' ') (i l k : Nat)

include hm hrest

/-- A block with a line that is not empty; `breaks` are the empty lines in front of it. -/
theorem readBlock_content {breaks s g ending : List Char} (hbreaks : ∀ c ∈ breaks, isOwnBreak c = true)
    (hs : ∀ c ∈ s, isPrintable c = true) (hne : s ≠ []) (hfirst : ∀ c ∈ s.head?, isBreak c = false)
    (hlast : ∀ c ∈ s.getLast?, isBreak c = false) (hg : ∀ c ∈ g, isOwnBreak c = true)
    (hending : EndsBlock g ending m rest) :
    ∃ endLine i' l' k', readBlock true (some o)
          ⟨(literal (o + 2) (breaks ++ (s ++ g))).tail ++ (ending ++ (List.replicate m ' ' ++ rest)), i, l, k⟩
        = .ok (breaks ++ (s ++ g), endLine, ⟨rest, i', l', k'⟩) ∧ l < l' ∧ (rest ≠ [] → k' = m) := by
  obtain ⟨c, t, rfl⟩ := List.exists_cons_of_ne_nil hne
  have hc : isBreak c = false := hfirst c rfl
  have htab : c ≠ '\t' := by
    rintro rfl
    exact absurd (hs '\t' List.mem_cons_self) (by decide)
  have hgbreaks : ∀ d ∈ g, isBreak d = true := fun d hd => isBreak_of_isOwnBreak (hg d hd)
  have hbreaks' : ∀ d ∈ breaks, isBreak d = true := fun d hd => isBreak_of_isOwnBreak (hbreaks d hd)
  -- The lines from the first one that is not empty, with what follows them.
  obtain ⟨lines, hlines⟩ : ∃ lines,
      literalBody (o + 2) false (c :: t) ++ ((g ++ ending) ++ (List.replicate m ' ' ++ rest)) = lines := ⟨_, rfl⟩
  have hhead : lines.head? = some c := by
    rw [← hlines, List.head?_append, head?_literalBody]
    rfl
  have hstart : ∀ d ∈ lines.head?, isBreak d = false ∧ d ≠ '\t' := by
    rw [hhead]
    rintro d ⟨⟩
    exact ⟨hc, htab⟩
  have hwhole : (literal (o + 2) (breaks ++ (c :: t ++ g))).tail ++ (ending ++ (List.replicate m ' ' ++ rest))
      = (literalHeader (breaks ++ (c :: t ++ g))).tail
        ++ '\n' :: (breaks ++ (List.replicate (o + 2) ' ' ++ lines)) := by
    rw [tail_literal_content _ hbreaks' hne hfirst hgbreaks, ← hlines]
    simp only [List.append_assoc, List.cons_append]
  obtain ⟨i₁, hheader⟩ := readHeader_literalHeader (breaks ++ (c :: t ++ g))
    (breaks ++ (List.replicate (o + 2) ' ' ++ lines)) i l k
  rw [← hwhole] at hheader
  -- The number of steps is bounded by the length of the text, which is enough for each part of it.
  have hlength : breaks.length + ((c :: t).length + (g ++ ending).length)
      < ((literal (o + 2) (breaks ++ (c :: t ++ g))).tail
        ++ (ending ++ (List.replicate m ' ' ++ rest))).length + 1 := by
    have hle := length_le_literalBody (o + 2) false (c :: t)
    rw [hwhole, ← hlines]
    simp only [List.length_append, List.length_cons] at hle ⊢
    omega
  generalize ((literal (o + 2) (breaks ++ (c :: t ++ g))).tail
    ++ (ending ++ (List.replicate m ' ' ++ rest))) = whole at hheader hlength ⊢
  have hempty : breaks.length < whole.length + 1 := by omega
  have hroom : (c :: t).length + (g ++ ending).length < whole.length + 1 := by omega
  have hfuel : (c :: t).length < whole.length + 1 := by omega
  have hless : m < o + 2 := by omega
  -- The lines are read from the indentation that the header gives or the first line shows.
  have htaken := indentTaken_increment? o hbreaks' (rfl : (c :: t ++ g).head? = some c) hhead
  obtain ⟨endLine, hmargin⟩ := readMargin_breaks htaken hstart hbreaks _ hempty [] (l + 1) i₁ (l + 1)
  obtain ⟨endLine', i₂, l₂, k₂, hread, hl, hk⟩ :=
    readBlockLines_content hs hne hfirst hlast (hending.isOwnBreak hg) hless hrest hending.nothing_behind hroom _ hfuel
      [] [] breaks false endLine (i₁ + Chars.byteLength breaks + (o + 2)) (l + 1 + breaks.length)
  rw [hlines] at hread
  refine ⟨endLine', i₂, l₂, k₂, ?_, by omega, hk⟩
  have hblock := readBlock_of hheader hmargin (getD_increment? o _) hread
  simp only [List.nil_append] at hblock
  rw [hblock, hending.chomp_eq hne hlast hgbreaks]

end Block

/-- **Literal blocks are read as they were written.** Behind a block there is nothing, or a line that is not indented by
    more than what is around; a text without a line break at its end has one written behind it then. -/
theorem readBlock_literal {o : Nat} {s : List Char} (hs : ∀ c ∈ s, isPrintable c = true) (hne : s ≠ []) {m : Nat}
    (hm : m ≤ o) {rest ending : List Char} (hrest : ∀ c ∈ rest.head?, isBreak c = false ∧ c ≠ '\t' ∧ c ≠ ' ')
    (hending : ending = (if s.getLast?.any isBreak then [] else ['\n']) ∨ ending = [] ∧ m = 0 ∧ rest = [])
    (i l k : Nat) :
    ∃ endLine i' l' k',
      readBlock true (some o) ⟨(literal (o + 2) s).tail ++ (ending ++ (List.replicate m ' ' ++ rest)), i, l, k⟩
        = .ok (s, endLine, ⟨rest, i', l', k'⟩) ∧ l < l' ∧ (rest ≠ [] → k' = m) := by
  have hown : ∀ c ∈ s, isBreak c = true → isOwnBreak c = true := fun c hc hbreak => by
    rw [isOwnBreak, hs c hc, hbreak]
    rfl
  -- A text of breaks only has no line whose indentation could be found.
  rcases exists_content s with hbreaks | ⟨breaks, content, g, rfl, hcontent, hbreaks, hfirst, hlast, hg⟩
  -- The text ends with a break, so none is written behind it.
  · obtain ⟨b, hb⟩ := Option.ne_none_iff_exists'.1 (mt List.getLast?_eq_none_iff.1 hne)
    have hany : s.getLast?.any isBreak = true := by
      rw [hb]
      exact hbreaks b (List.mem_of_getLast? hb)
    have hnone : ending = [] := by
      rcases hending with hending | ⟨hending, -⟩
      · rwa [if_pos hany] at hending
      · exact hending
    obtain ⟨endLine, i', l', hread, hl⟩ := readBlock_breaks hm hrest i l k (fun c hc => hown c hc (hbreaks c hc)) hne
    exact ⟨endLine, i', l', m, by rw [hnone]; exact hread, hl, fun _ => rfl⟩
  -- A break is written behind the content only if the text has none there.
  · have hends : EndsBlock g ending m rest := by
      refine hending.imp_left fun hending => ?_
      rw [hending, List.getLast?_append, List.getLast?_append]
      by_cases hnil : g = []
      · obtain ⟨c, hc⟩ := Option.ne_none_iff_exists'.1 (mt List.getLast?_eq_none_iff.1 hcontent)
        simp [hnil, hc, hlast c hc]
      · obtain ⟨b, hb⟩ := Option.ne_none_iff_exists'.1 (mt List.getLast?_eq_none_iff.1 hnil)
        simp [hnil, hb, hg b (List.mem_of_getLast? hb)]
    exact readBlock_content hm hrest i l k (fun c hc => hown c (by simp [hc]) (hbreaks c hc))
      (fun c hc => hs c (by simp [hc])) hcontent hfirst hlast (fun c hc => hown c (by simp [hc]) (hg c hc)) hends

end Scaffold.Yaml
