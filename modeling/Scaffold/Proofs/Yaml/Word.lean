import Scaffold.Yaml.ScalarToken
import Scaffold.Yaml.Scalar
import Scaffold.Proofs.Text.Ends

namespace Scaffold.Yaml

/-!
# Words as plain scalars

A word is what plain names are made of: letters, digits, dots, dashes and underscores, with a letter in front.
Nothing in it has a meaning in YAML, so a plain scalar goes from one word to the next, over blanks and over line
breaks, until a line is indented too little.

* `readPlain_line` — a word at the end of a line that is followed by one with less indentation is a scalar;
* `readPlainFrom_lines` — the lines that follow a word and are indented by more, dashes and all, belong to its scalar;
* `Scalar.resolve_of_letter` — a text with a letter in front is a text, unless it is a word for something else.
-/

/-- The characters of words. -/
def isWordChar (c : Char) : Bool := isNameChar c || c == '.'

/-- A word: characters of words with a letter in front. -/
def IsWord (w : List Char) : Prop := (w.head?.any Text.isAsciiLetter = true) ∧ ∀ c ∈ w, isWordChar c = true

/-- Whether a text is a word can be computed. -/
instance (w : List Char) : Decidable (IsWord w) :=
  decidable_of_iff (w.head?.any Text.isAsciiLetter = true ∧ w.all isWordChar = true) <| by
    rw [IsWord, List.all_eq_true]

/-! ### Characters -/

/-- Characters are different where a test tells them apart. -/
theorem ne_of_test {p : Char → Bool} {c d : Char} (hc : p c = true) (hd : p d = false) : c ≠ d := by
  rintro rfl
  rw [hc] at hd
  cases hd

/-- The characters of words are no blanks. -/
theorem isSpaceOrTab_of_isWordChar {c : Char} (h : isWordChar c = true) : isSpaceOrTab c = false := by
  simp [isSpaceOrTab, ne_of_test h (show isWordChar ' ' = false by decide),
    ne_of_test h (show isWordChar '\t' = false by decide)]

/-- The characters of words end no line. -/
theorem isBreak_of_isWordChar {c : Char} (h : isWordChar c = true) : isBreak c = false := by
  simp [isBreak, ne_of_test h (show isWordChar '\n' = false by decide),
    ne_of_test h (show isWordChar '\r' = false by decide),
    ne_of_test h (show isWordChar '\u0085' = false by decide),
    ne_of_test h (show isWordChar '\u2028' = false by decide),
    ne_of_test h (show isWordChar '\u2029' = false by decide)]

/-- The characters of words lie between the dash and the last small letter. -/
theorem bounds_of_isWordChar {c : Char} (h : isWordChar c = true) : 45 ≤ c.toNat ∧ c.toNat ≤ 122 := by
  simp only [isWordChar, isNameChar, Text.isAsciiLetter, Text.isAsciiUpper, Text.isAsciiLower,
    Text.isAsciiDigit, Bool.or_eq_true, Bool.and_eq_true, decide_eq_true_eq, beq_iff_eq, Char.le_def,
    UInt32.le_iff_toNat_le] at h
  simp only [Char.reduceVal, UInt32.reduceToNat] at h
  show 45 ≤ c.val.toNat ∧ c.val.toNat ≤ 122
  rcases h with ((((h | h) | h) | rfl) | rfl) | rfl
  · omega
  · omega
  · omega
  all_goals decide

/-- The characters of words are no blanks of any kind. -/
theorem isBlank_of_isWordChar {c : Char} (h : isWordChar c = true) : Chars.isBlank c = false := by
  obtain ⟨hlow, hhigh⟩ := bounds_of_isWordChar h
  have hne (d : Char) (hd : isWordChar d = false) : c ≠ d := ne_of_test h hd
  -- Word characters are visible, so none of them is in the ranges of blanks.
  have hcontrol : (decide ('\t' ≤ c) && decide (c ≤ '\r')) = false := by
    simp only [Bool.and_eq_false_iff, decide_eq_false_iff_not, Char.le_def, UInt32.le_iff_toNat_le]
    simp only [Char.reduceVal, UInt32.reduceToNat]
    right
    show ¬ c.toNat ≤ 13
    omega
  have hwide : (decide ('\u2000' ≤ c) && decide (c ≤ '\u200a')) = false := by
    simp only [Bool.and_eq_false_iff, decide_eq_false_iff_not, Char.le_def, UInt32.le_iff_toNat_le]
    simp only [Char.reduceVal, UInt32.reduceToNat]
    left
    show ¬ 8192 ≤ c.toNat
    omega
  rw [Chars.isBlank, hcontrol, hwide]
  simp [hne ' ' (by decide), hne '\u0085' (by decide), hne '\u00a0' (by decide), hne '\u1680' (by decide),
    hne '\u2028' (by decide), hne '\u2029' (by decide), hne '\u202f' (by decide), hne '\u205f' (by decide),
    hne '\u3000' (by decide)]

/-- Letters are characters of words. -/
theorem isWordChar_of_isAsciiLetter {c : Char} (h : Text.isAsciiLetter c = true) :
    isWordChar c = true := by
  simp [isWordChar, isNameChar, h]

/-- A word has a letter at its start. -/
theorem IsWord.exists_cons {w : List Char} (h : IsWord w) :
    ∃ c rest, w = c :: rest ∧ Text.isAsciiLetter c = true ∧ ∀ d ∈ w, isWordChar d = true := by
  obtain ⟨hletter, hchars⟩ := h
  cases w with
  | nil => cases hletter
  | cons c rest => exact ⟨c, rest, rfl, hletter, hchars⟩

/-! ### Words and gaps -/

/-- A word is read up to what ends it. -/
theorem readPlainWord_append {w : List Char} (hw : ∀ c ∈ w, isWordChar c = true) (tail : List Char)
    (htail : isEdge tail.head? = true) (fuel : Nat) (hfuel : w.length < fuel) (acc : List Char)
    (i l k : Nat) :
    readPlainWord false fuel acc ⟨w ++ tail, i, l, k⟩
      = .ok (acc.reverse ++ w, ⟨tail, i + Chars.byteLength w, l, k + w.length⟩) := by
  -- What has been read of the word stands in reverse in `acc`.
  induction w generalizing fuel acc i k with
  | nil =>
    obtain ⟨fuel, rfl⟩ : ∃ m, fuel = m + 1 := ⟨fuel - 1, by omega⟩
    cases tail with
    | nil => simp [readPlainWord, Cursor.peek, Chars.byteLength]
    | cons x tail =>
      have hx : (isSpaceOrTab x || isBreak x) = true := htail
      simp [readPlainWord, Cursor.peek, hx, Chars.byteLength]
  | cons c w ih =>
    obtain ⟨fuel, rfl⟩ : ∃ m, fuel = m + 1 := ⟨fuel - 1, by omega⟩
    have hc : isWordChar c = true := hw c List.mem_cons_self
    -- A colon is no word character.
    have hcolon : c ≠ ':' := ne_of_test hc (by decide)
    have hstep := ih (fun d hd => hw d (List.mem_cons_of_mem _ hd)) fuel
      (by simp only [List.length_cons] at hfuel; omega) (c :: acc) (i + c.utf8Size) (k + 1)
    simp only [readPlainWord, Cursor.peek, List.cons_append, List.head?_cons,
      isSpaceOrTab_of_isWordChar hc, isBreak_of_isWordChar hc, Bool.or_self, Bool.false_and, hcolon,
      decide_false, Bool.false_eq_true, if_false, Cursor.skip, hstep]
    have hcolumn : k + 1 + w.length = k + (w.length + 1) := by omega
    simp only [List.reverse_cons, List.append_assoc, List.singleton_append, List.length_cons,
      Chars.byteLength, List.foldr_cons, Nat.add_assoc i, hcolumn]

/-- The blanks that a line starts with are passed over. -/
theorem readGap_blanks (indent : Option Nat) (n : Nat) {rest : List Char}
    (hrest : ∀ c ∈ rest.head?, isSpaceOrTab c = false ∧ isBreak c = false) (fuel : Nat)
    (hfuel : n < fuel) {g : Gap} (hg : g.broken = true) (i l k : Nat) :
    readGap indent fuel g ⟨List.replicate n ' ' ++ rest, i, l, k⟩
      = .ok (g, ⟨rest, i + n, l, k + n⟩) := by
  -- Behind a line break the spaces leave no trace in the gap, only in the position.
  induction n generalizing fuel i k with
  | zero =>
    obtain ⟨fuel, rfl⟩ : ∃ m, fuel = m + 1 := ⟨fuel - 1, by omega⟩
    cases rest with
    | nil => simp [readGap, Cursor.peek]
    | cons c rest =>
      obtain ⟨hspace, hbreak⟩ := hrest c rfl
      simp [readGap, Cursor.peek, hspace, hbreak]
  | succ n ih =>
    obtain ⟨fuel, rfl⟩ : ∃ m, fuel = m + 1 := ⟨fuel - 1, by omega⟩
    have hstep := ih fuel (by omega) (i + 1) (k + 1)
    rw [show i + 1 + n = i + (n + 1) by omega, show k + 1 + n = k + (n + 1) by omega] at hstep
    have hspace : isSpaceOrTab ' ' = true := by decide
    have hsize : ' '.utf8Size = 1 := by decide
    simp only [readGap, Cursor.peek, List.replicate_succ, List.cons_append, List.head?_cons, hspace,
      if_true, hg, Bool.true_and, show ¬ (' ' = '\t') by decide, decide_false, Bool.false_and,
      Bool.false_eq_true, if_false, Cursor.skip, hsize, hstep]

/-- A line break and the blanks behind it are a gap. -/
theorem readGap_line (indent : Option Nat) (n : Nat) {rest : List Char}
    (hrest : ∀ c ∈ rest.head?, isSpaceOrTab c = false ∧ isBreak c = false) (fuel : Nat)
    (hfuel : n + 1 < fuel) (i l k : Nat) :
    readGap indent fuel {} ⟨'\n' :: (List.replicate n ' ' ++ rest), i, l, k⟩
      = .ok ({ broken := true, first := ['\n'] }, ⟨rest, i + 1 + n, l + 1, n⟩) := by
  obtain ⟨fuel, rfl⟩ : ∃ m, fuel = m + 1 := ⟨fuel - 1, by omega⟩
  -- Behind the break the spaces are skipped.
  have hstep := readGap_blanks indent n hrest fuel (by omega)
    (g := { broken := true, first := ['\n'] }) rfl (i + 1) (l + 1) 0
  have hspace : isSpaceOrTab '\n' = false := by decide
  have hbreak : isBreak '\n' = true := by decide
  have hread : (⟨'\n' :: (List.replicate n ' ' ++ rest), i, l, k⟩ : Cursor).readBreak
      = (['\n'], ⟨List.replicate n ' ' ++ rest, i + 1, l + 1, 0⟩) := by
    simp [Cursor.readBreak, hbreak, show ('\n' : Char).utf8Size = 1 by decide]
  simp only [readGap, Cursor.peek, List.head?_cons, hspace, Bool.false_eq_true, if_false, hbreak, if_true,
    hread, hstep, Nat.zero_add]

/-- Spaces on a line. -/
theorem readGap_spaces (indent : Option Nat) (n : Nat) {rest : List Char}
    (hrest : ∀ c ∈ rest.head?, (isSpaceOrTab c || isBreak c) = false) (fuel : Nat) (hfuel : n < fuel)
    (blanks : List Char) (i l k : Nat) :
    readGap indent fuel ⟨blanks, false, [], []⟩ ⟨List.replicate n ' ' ++ rest, i, l, k⟩
      = .ok (⟨blanks ++ List.replicate n ' ', false, [], []⟩, ⟨rest, i + n, l, k + n⟩) := by
  -- The spaces that have been read stand in `blanks`.
  induction n generalizing fuel blanks i k with
  | zero =>
    obtain ⟨fuel, rfl⟩ : ∃ m, fuel = m + 1 := ⟨fuel - 1, by omega⟩
    cases rest with
    | nil => simp [readGap, Cursor.peek]
    | cons c rest =>
      obtain ⟨hspace, hbreak⟩ := Bool.or_eq_false_iff.1 (hrest c rfl)
      simp [readGap, Cursor.peek, hspace, hbreak]
  | succ n ih =>
    obtain ⟨fuel, rfl⟩ : ∃ m, fuel = m + 1 := ⟨fuel - 1, by omega⟩
    have hspace : isSpaceOrTab ' ' = true := by decide
    have hstep : readGap indent (fuel + 1) ⟨blanks, false, [], []⟩ ⟨List.replicate (n + 1) ' ' ++ rest, i, l, k⟩
        = readGap indent fuel ⟨blanks ++ [' '], false, [], []⟩ ⟨List.replicate n ' ' ++ rest, i + 1, l, k + 1⟩ := by
      simp [readGap, Cursor.peek, List.replicate_succ, hspace, Cursor.skip, show ' '.utf8Size = 1 by decide]
    rw [hstep, ih fuel (by omega), List.append_assoc, Nat.add_right_comm, Nat.add_assoc i, Nat.add_right_comm k,
      Nat.add_assoc k]
    rfl

/-- A blank on the line is a gap. -/
theorem readGap_blank (indent : Option Nat) {rest : List Char}
    (hrest : ∀ c ∈ rest.head?, isSpaceOrTab c = false ∧ isBreak c = false) (fuel : Nat)
    (hfuel : 1 < fuel) (i l k : Nat) :
    readGap indent fuel {} ⟨' ' :: rest, i, l, k⟩
      = .ok ({ blanks := [' '] }, ⟨rest, i + 1, l, k + 1⟩) := by
  obtain ⟨fuel, rfl⟩ : ∃ m, fuel = m + 2 := ⟨fuel - 2, by omega⟩
  have hspace : isSpaceOrTab ' ' = true := by decide
  have hsize : ' '.utf8Size = 1 := by decide
  cases rest with
  | nil => simp [readGap, Cursor.peek, Cursor.skip, hspace, hsize]
  | cons c rest =>
    obtain ⟨hc, hbreak⟩ := hrest c rfl
    simp [readGap, Cursor.peek, Cursor.skip, hspace, hsize, hc, hbreak]

/-! ### Scalars -/

/-- Inside of a line there is no marker of a document. -/
theorem Cursor.atAnyMarker_of_column {c : Cursor} (h : 0 < c.column) : c.atAnyMarker = false := by
  simp [atAnyMarker, atMarker, Nat.ne_of_gt h]

section Run

variable {w : List Char} (hw : ∀ c ∈ w, isWordChar c = true) (hne : w ≠ []) (indent budget fuel : Nat)
  (p : Plain) (g : Gap) (i l : Nat) {k : Nat} (hk : 0 < k)

include hw hne hk

/-- A run of characters joins the scalar behind the gap in front of it. At the end of the text that is all. -/
theorem readPlainFrom_run (hbudget : w.length < budget) :
    readPlainFrom false indent budget (fuel + 1) p g ⟨w, i, l, k⟩
      = .ok (⟨p.text ++ g.text ++ w, l, false⟩,
          ⟨[], i + Chars.byteLength w, l, k + w.length⟩) := by
  obtain ⟨c, rest, rfl⟩ := List.exists_cons_of_ne_nil hne
  have hmarker : (⟨c :: rest, i, l, k⟩ : Cursor).atAnyMarker = false :=
    Cursor.atAnyMarker_of_column hk
  have hcomment : c ≠ '#' := ne_of_test (hw c List.mem_cons_self) (by decide)
  have hword := readPlainWord_append hw [] rfl budget hbudget [] i l k
  rw [List.reverse_nil, List.nil_append, List.append_nil] at hword
  rw [readPlainFrom, hmarker, hword]
  simp [Cursor.peek, hcomment, bind, Except.bind, Cursor.atEnd, isEdge, pure, Except.pure]

/-- A run of characters joins the scalar, and the gap behind it says whether the scalar goes on. -/
theorem readPlainFrom_run_cons {x : Char} {tail : List Char} (hx : isEdge (some x) = true)
    (hbudget : w.length < budget) :
    readPlainFrom false indent budget (fuel + 1) p g ⟨w ++ x :: tail, i, l, k⟩
      = (readGap (some indent) budget {}
          ⟨x :: tail, i + Chars.byteLength w, l, k + w.length⟩).bind fun (gap, c) =>
        if c.column < indent then .ok (⟨p.text ++ g.text ++ w, l, gap.broken⟩, c)
        else readPlainFrom false indent budget fuel ⟨p.text ++ g.text ++ w, l, false⟩ gap c := by
  obtain ⟨c, rest, rfl⟩ := List.exists_cons_of_ne_nil hne
  -- The word is not at the start of a line, so it is no marker.
  have hmarker : (⟨(c :: rest) ++ x :: tail, i, l, k⟩ : Cursor).atAnyMarker = false :=
    Cursor.atAnyMarker_of_column hk
  have hcomment : c ≠ '#' := ne_of_test (hw c List.mem_cons_self) (by decide)
  have hword := readPlainWord_append hw (x :: tail) hx budget hbudget [] i l k
  rw [List.reverse_nil, List.nil_append] at hword
  rw [readPlainFrom, hmarker, hword]
  simp [Cursor.peek, hcomment, bind, Except.bind, Cursor.atEnd, hx, pure, Except.pure]

end Run

/-- A word starts neither with a blank nor with a line break. -/
theorem IsWord.head?_append {w : List Char} (hw : IsWord w) (tail : List Char) :
    ∀ c ∈ (w ++ tail).head?, isSpaceOrTab c = false ∧ isBreak c = false := by
  obtain ⟨c, rest, rfl, hletter, -⟩ := hw.exists_cons
  intro d hd
  obtain rfl : c = d := by simpa using hd
  have hc := isWordChar_of_isAsciiLetter hletter
  exact ⟨isSpaceOrTab_of_isWordChar hc, isBreak_of_isWordChar hc⟩

/-- A word is not empty. -/
theorem IsWord.ne_nil {w : List Char} (hw : IsWord w) : w ≠ [] := by
  rintro rfl
  cases hw.1

/-- A word at the end of its line is a scalar if the next line is indented by no more than what is around. -/
theorem readPlain_line {w : List Char} (hw : IsWord w) {m n : Nat} (hmn : m ≤ n) {rest : List Char}
    (hrest : ∀ c ∈ rest.head?, isSpaceOrTab c = false ∧ isBreak c = false) (i l : Nat) {k : Nat}
    (hk : 0 < k) :
    readPlain false (some n) ⟨w ++ '\n' :: (List.replicate m ' ' ++ rest), i, l, k⟩
      = .ok (⟨w, l, true⟩, ⟨rest, i + Chars.byteLength w + 1 + m, l + 1, m⟩) := by
  have htail : isEdge (some '\n') = true := by decide
  have hgap := readGap_line (some (n + 1)) m hrest
    ((w ++ '\n' :: (List.replicate m ' ' ++ rest)).length + 1)
    (by simp only [List.length_append, List.length_cons, List.length_replicate]; omega)
    (i + Chars.byteLength w) l (k + w.length)
  -- The next line is not indented enough.
  have hstop : m < n + 1 := by omega
  rw [readPlain, Option.map_some, Option.getD_some,
    readPlainFrom_run_cons hw.2 hw.ne_nil _ _ _ _ _ _ _ hk htail
      (by simp only [List.length_append, List.length_cons]; omega)]
  simp only [hgap, Except.bind, hstop, if_true]
  simp [Gap.text]

/-- A word at the end of the text is a scalar. -/
theorem readPlain_last {w : List Char} (hw : IsWord w) (n i l : Nat) {k : Nat} (hk : 0 < k) :
    readPlain false (some n) ⟨w, i, l, k⟩
      = .ok (⟨w, l, false⟩, ⟨[], i + Chars.byteLength w, l, k + w.length⟩) := by
  rw [readPlain, readPlainFrom_run hw.2 hw.ne_nil _ _ _ _ _ _ _ hk (Nat.lt_succ_self _)]
  simp [Gap.text]

/-- Lines with a dash and a word, each behind its line break and with `n` blanks in front. -/
def dashedLines (n : Nat) (words : List (List Char)) : List Char :=
  words.flatMap fun w => '\n' :: (List.replicate n ' ' ++ '-' :: ' ' :: w)

/-- The words with a dash between blanks in front of each of them. -/
def dashedWords (words : List (List Char)) : List Char :=
  words.flatMap fun w => ' ' :: '-' :: ' ' :: w

/-- **Lines that belong to a scalar.** Outside of all collections, and in a list at the start of the line, the
    dashed lines below a word are nothing but more of its scalar if they are indented. -/
theorem readPlainFrom_lines {n : Nat} (hn : 0 < n) {words : List (List Char)}
    (hwords : ∀ w ∈ words, IsWord w) {w : List Char} (hw : IsWord w) (budget fuel : Nat)
    (hbudget : (w ++ dashedLines n words).length < budget) (hfuel : 2 * words.length < fuel)
    (p : Plain) (g : Gap) (i l : Nat) {k : Nat} (hk : 0 < k) :
    ∃ c : Cursor, readPlainFrom false 1 budget fuel p g ⟨w ++ dashedLines n words, i, l, k⟩
        = .ok (⟨p.text ++ g.text ++ w ++ dashedWords words, l + words.length, false⟩, c) ∧
      c.rest = [] ∧ c.line = l + words.length ∧ 0 < c.column := by
  induction words generalizing w fuel p g i l k with
  | nil =>
    obtain ⟨fuel, rfl⟩ : ∃ m, fuel = m + 1 := ⟨fuel - 1, by omega⟩
    refine ⟨⟨[], i + Chars.byteLength w, l, k + w.length⟩, ?_, rfl, rfl, by show 0 < k + w.length; omega⟩
    have hnone : dashedLines n [] = [] := rfl
    rw [hnone, List.append_nil] at hbudget ⊢
    rw [readPlainFrom_run hw.2 hw.ne_nil _ _ _ _ _ _ _ hk hbudget]
    simp [dashedWords]
  | cons w' words ih =>
    obtain ⟨fuel, rfl⟩ : ∃ m, fuel = m + 2 := ⟨fuel - 2, by simp only [List.length_cons] at hfuel; omega⟩
    have hw' : IsWord w' := hwords w' List.mem_cons_self
    have hlines : dashedLines n (w' :: words)
        = '\n' :: (List.replicate n ' ' ++ (['-'] ++ ' ' :: (w' ++ dashedLines n words))) := by
      simp [dashedLines]
    rw [hlines] at hbudget ⊢
    simp only [List.length_append, List.length_cons, List.length_replicate, List.length_nil] at hbudget
    have hbreak : isEdge (some '\n') = true := by decide
    have hblank : isEdge (some ' ') = true := by decide
    have hdash : ∀ c ∈ ['-'], isWordChar c = true := by
      intro c hc
      obtain rfl := List.mem_singleton.1 hc
      decide
    have hdash' : ∀ c ∈ (['-'] ++ ' ' :: (w' ++ dashedLines n words)).head?,
        isSpaceOrTab c = false ∧ isBreak c = false := by
      intro c hc
      obtain rfl : '-' = c := by simpa using hc
      decide
    -- The word and the gap to the next line; then the dash there, which is a word too, and the gap behind it.
    have hword : readPlainFrom false 1 budget (fuel + 2) p g
          ⟨w ++ '\n' :: (List.replicate n ' ' ++ (['-'] ++ ' ' :: (w' ++ dashedLines n words))), i, l, k⟩
        = readPlainFrom false 1 budget (fuel + 1) ⟨p.text ++ g.text ++ w, l, false⟩
            { broken := true, first := ['\n'] }
            ⟨['-'] ++ ' ' :: (w' ++ dashedLines n words), i + Chars.byteLength w + 1 + n, l + 1, n⟩ := by
      rw [readPlainFrom_run_cons hw.2 hw.ne_nil _ _ _ _ _ _ _ hk hbreak (by omega),
        readGap_line _ _ hdash' _ (by omega)]
      exact if_neg (by show ¬ n < 1; omega)
    have hnext : readPlainFrom false 1 budget (fuel + 1) ⟨p.text ++ g.text ++ w, l, false⟩
            { broken := true, first := ['\n'] }
            ⟨['-'] ++ ' ' :: (w' ++ dashedLines n words), i + Chars.byteLength w + 1 + n, l + 1, n⟩
        = readPlainFrom false 1 budget fuel ⟨p.text ++ g.text ++ w ++ [' '] ++ ['-'], l + 1, false⟩
            { blanks := [' '] }
            ⟨w' ++ dashedLines n words, i + Chars.byteLength w + 1 + n + Chars.byteLength ['-'] + 1, l + 1,
              n + ['-'].length + 1⟩ := by
      rw [readPlainFrom_run_cons hdash (by simp) _ _ _ _ _ _ _ hn hblank (by simp; omega),
        readGap_blank _ (hw'.head?_append _) _ (by omega)]
      have hinside : ¬ n + ['-'].length + 1 < 1 := by simp
      simp only [Except.bind, hinside, if_false]
      rfl
    obtain ⟨c, hread, hend, hline, hcolumn⟩ := ih (fun v hv => hwords v (List.mem_cons_of_mem _ hv)) hw'
      fuel (by simp only [List.length_append]; omega) (by simp only [List.length_cons] at hfuel; omega)
      ⟨p.text ++ g.text ++ w ++ [' '] ++ ['-'], l + 1, false⟩ { blanks := [' '] }
      (i + Chars.byteLength w + 1 + n + Chars.byteLength ['-'] + 1) (l + 1)
      (k := n + ['-'].length + 1) (by simp)
    refine ⟨c, ?_, hend, ?_, hcolumn⟩
    · have hgap : ({ blanks := [' '] } : Gap).text = [' '] := rfl
      have hline' : l + 1 + words.length = l + (w' :: words).length := by
        rw [List.length_cons]
        omega
      rw [hword, hnext, hread, hgap, hline']
      simp [dashedWords]
    · rw [hline, List.length_cons]
      omega

/-! ### What a text with a letter in front stands for -/

namespace Scalar

section Letter

variable {c : Char} (hc : Text.isAsciiLetter c = true)

include hc

/-- A letter is none of the characters in front of the capitals. -/
theorem le_toNat_of_letter : 65 ≤ c.toNat := by
  simp only [Text.isAsciiLetter, Text.isAsciiUpper, Text.isAsciiLower, Bool.or_eq_true, Bool.and_eq_true,
    decide_eq_true_eq, Char.le_def, UInt32.le_iff_toNat_le] at hc
  simp only [Char.reduceVal, UInt32.reduceToNat] at hc
  show 65 ≤ c.val.toNat
  omega

/-- A letter is no digit. -/
theorem isAsciiDigit_of_letter : Text.isAsciiDigit c = false := by
  have hbound := le_toNat_of_letter hc
  simp only [Text.isAsciiDigit, Bool.and_eq_false_iff, decide_eq_false_iff_not, Char.le_def,
    UInt32.le_iff_toNat_le]
  simp only [Char.reduceVal, UInt32.reduceToNat]
  right
  show ¬ c.toNat ≤ 57
  omega

/-- Letters are digits in larger bases only. -/
theorem digit?_of_letter : digit? 10 c = none := by
  have hbound := le_toNat_of_letter hc
  have hlower : 'a' ≤ c → 97 ≤ c.toNat := fun h => by
    simpa [Char.le_def, UInt32.le_iff_toNat_le] using h
  -- A letter is counted from 10 on.
  simp only [digit?, isAsciiDigit_of_letter hc, Bool.false_eq_true, if_false]
  split
  · rename_i h
    have hc' := hlower (by simpa using h : _ ∧ _).1
    simp only [Option.filter_some, decide_eq_true_eq, ite_eq_right_iff, reduceCtorEq, imp_false]
    omega
  · split
    · simp only [Option.filter_some, decide_eq_true_eq, ite_eq_right_iff, reduceCtorEq, imp_false]
      omega
    · rfl

/-- A text that starts with a letter is no integer. -/
theorem int?_of_letter (rest : List Char) : int? (c :: rest) = none := by
  have hplus : c ≠ '+' := ne_of_test hc (by decide)
  have hminus : c ≠ '-' := ne_of_test hc (by decide)
  have hzero : c ≠ '0' := ne_of_test hc (by decide)
  have hnatural : natural? 10 (c :: rest) = none := by
    simp [natural?, digit?_of_letter hc]
  have hmagnitude (bound : Nat) : magnitude? bound (c :: rest) = none := by
    simp [magnitude?, hzero, hnatural]
  simp [int?, unsigned?, negative?, hplus, hminus, hmagnitude]

/-- A text that starts with a letter is no floating-point number, by digits or by a word. -/
theorem float?_of_letter {s : String} {rest : List Char} (hs : s.toList = c :: rest) :
    float? s = none := by
  have hplus : c ≠ '+' := ne_of_test hc (by decide)
  have hpoint : c ≠ '.' := ne_of_test hc (by decide)
  -- The words for numbers that no digits write start with a point or a sign.
  have hword : ∀ t : String, t.toList.head?.any Text.isAsciiLetter = false → s ≠ t := by
    rintro t ht rfl
    rw [hs] at ht
    simp [hc] at ht
  have hdecimal : decimal? (c :: rest) = none := by
    simp [decimal?, isAsciiDigit_of_letter hc, hpoint]
  have hfinite : finite? (c :: rest) = none := by
    simp [finite?, ne_of_test hc (show Text.isAsciiLetter '-' = false by decide), hdecimal]
  simp only [float?, List.mem_cons, List.not_mem_nil, or_self, if_false, hs,
    hword ".inf" (by decide), hword ".Inf" (by decide), hword ".INF" (by decide),
    hword "+.inf" (by decide), hword "+.Inf" (by decide), hword "+.INF" (by decide),
    hword "-.inf" (by decide), hword "-.Inf" (by decide), hword "-.INF" (by decide),
    hword ".nan" (by decide), hword ".NaN" (by decide), hword ".NAN" (by decide)]
  simp [hplus, hfinite]

/-- A text with a letter in front is a text, unless it is a word for null or for a truth value. -/
theorem resolve_of_letter {s : String} {rest : List Char} (hs : s.toList = c :: rest)
    (hnull : isNullWord s = false) (hbool : boolWord? s = none) :
    resolve s = .value (.string s) := by
  have hempty : s.isEmpty = false := by
    rw [Bool.eq_false_iff, Ne, String.isEmpty_iff]
    rintro rfl
    cases hs
  have hint : int? s.toList = none := by
    rw [hs]
    exact int?_of_letter hc rest
  simp [resolve, hempty, hnull, hbool, hint, float?_of_letter hc hs]

end Letter

end Scalar

end Scaffold.Yaml
