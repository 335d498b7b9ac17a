import Scaffold.Yaml.Node
import Scaffold.Proofs.Yaml.Word

namespace Scaffold.Yaml

/-!
# Lists of words

A text with one dash and one word on each line, all indented alike, through the stages of reading: its tokens, its
events, its tree, its value. Where the first line has lost its indentation, the other lines belong to the scalar
that starts on it.

* `Scan.fetch_start`, `Scan.fetch_entry`, `Scan.fetch_line`, `Scan.fetch_last`, `Scan.fetch_end` — one step of the
  scanner each, at the places of such a text;
* `TokenStream.ofText_lines` — the tokens of a list, with the last line break or without it;
* `TokenStream.ofText_dashedLines` — the tokens where the first line is not indented and the others are;
* `parse_of_tokens` — what has the tokens of a list of texts is that list.
-/

/-! ### Steps of the scanner -/

/-- Blanks are skipped up to the first character that is none. -/
theorem Cursor.skipWhile_blanks {q : Char → Bool} (hq : q ' ' = true) (n : Nat) {x : Char}
    (hx : q x = false) (rest : List Char) (i l k : Nat) :
    (⟨List.replicate n ' ' ++ x :: rest, i, l, k⟩ : Cursor).skipWhile q = ⟨x :: rest, i + n, l, k + n⟩ := by
  -- The blanks are passed, and the character behind them is not.
  have hbreak : isBreak ' ' = false := by decide
  have hrun : (List.replicate n ' ' ++ x :: rest).takeWhile (fun y => q y && !isBreak y)
      = List.replicate n ' ' := by
    rw [List.takeWhile_append_of_pos (by simp [hq, hbreak])]
    simp [hx]
  simp [skipWhile, readWhile, hrun, Chars.byteLength_replicate_space]

/-- What a token may start with: a character that is no blank, no line break, no comment and no byte order mark. -/
def isTokenStart (c : Char) : Bool := !(isSpaceOrTab c || isBreak c || c == '#' || c == '\ufeff')

/-- A word starts a token. -/
theorem isTokenStart_of_isWordChar {c : Char} (h : isWordChar c = true) : isTokenStart c = true := by
  simp [isTokenStart, isSpaceOrTab_of_isWordChar h, isBreak_of_isWordChar h,
    ne_of_test h (show isWordChar '#' = false by decide), ne_of_test h (show isWordChar '\ufeff' = false by decide)]

namespace Scan

/-- The state in front of a line of a block list at column `n`, with nothing pending. -/
def inList (tokens : List Token) (n : Nat) (c : Cursor) : Scan :=
  { cursor := c, tokens := tokens, indent := some n, indents := [none], keys := [none], keyAllowed := true }

/-- The state behind a plain scalar in a block list at column `n`, where the text ends with it. -/
def behindLast (tokens : List Token) (n : Nat) (c : Cursor) (key? : Option PendingKey) : Scan :=
  { cursor := c, tokens := tokens, indent := some n, indents := [none], keys := [key?], keyAllowed := false }

/-- Blanks in front of a token are passed over. -/
theorem skipToToken_blanks (fuel n : Nat) {x : Char} (hx : isTokenStart x = true) (rest : List Char)
    (i l k : Nat) {s : Scan} (hs : s.cursor = ⟨List.replicate n ' ' ++ x :: rest, i, l, k⟩) :
    skipToToken (fuel + 1) s = { s with cursor := ⟨x :: rest, i + n, l, k + n⟩ } := by
  have hne (y : Char) (hy : isTokenStart y = false) : x ≠ y := ne_of_test hx hy
  have hbreak : isBreak x = false := by
    rw [isTokenStart, Bool.not_eq_true', Bool.or_eq_false_iff, Bool.or_eq_false_iff, Bool.or_eq_false_iff] at hx
    exact hx.1.1.2
  -- At the start of the text there may be a byte order mark, which is no start of a token.
  have hmark : s.cursor.peek ≠ some '\ufeff' := by
    rw [hs]
    cases n with
    | zero => simp [Cursor.peek, hne '\ufeff' (by decide)]
    | succ n => simp [Cursor.peek, List.replicate_succ]
  have hskip (tabs : Bool) : s.cursor.skipWhile (fun y => y == ' ' || (tabs && y == '\t'))
      = ⟨x :: rest, i + n, l, k + n⟩ := by
    rw [hs]
    exact Cursor.skipWhile_blanks rfl n (by simp [hne ' ' (by decide), hne '\t' (by decide)]) rest i l k
  simp only [skipToToken, decide_eq_false hmark, Bool.and_false, Bool.false_eq_true, if_false, hskip]
  simp [Cursor.skipComment, Cursor.peek, hne '#' (by decide), hbreak]

/-- The first dash of a text opens the list. -/
theorem fetch_start (n : Nat) (rest : List Char) :
    (start (List.replicate n ' ' ++ '-' :: ' ' :: rest)).fetch.bind dropStale
      = .ok (inList [⟨.blockEntry, 0, 0⟩, ⟨.blockSequenceStart, 0, 0⟩] n ⟨' ' :: rest, n + 1, 0, n + 1⟩) := by
  have hsize : '-'.utf8Size = 1 := by decide
  rw [fetch, skipToToken_blanks _ n (by decide) (' ' :: rest) 0 0 0 rfl]
  simp [start, inList, dropStale, bind, Except.bind, pure, Except.pure, unrollIndent, inFlow, unrollFrom, fetchHere,
    Cursor.peekAt, Cursor.peek, Cursor.atMarker, isEdge, isSpaceOrTab, fetchBlockEntry, openBlock, rollIndent,
    removeKey, pushMark, Cursor.skip, hsize, insert]

/-- The dash of a later line. -/
theorem fetch_entry (tokens : List Token) (n : Nat) (rest : List Char) (i l : Nat) :
    (inList tokens n ⟨'-' :: ' ' :: rest, i, l, n⟩).fetch.bind dropStale
      = .ok (inList (⟨.blockEntry, l, l⟩ :: tokens) n ⟨' ' :: rest, i + 1, l, n + 1⟩) := by
  have hsize : '-'.utf8Size = 1 := by decide
  rw [fetch, skipToToken_blanks _ 0 (by decide) (' ' :: rest) i l n rfl]
  simp [inList, dropStale, bind, Except.bind, pure, Except.pure, unrollIndent, inFlow, unrollFrom, fetchHere,
    Cursor.peekAt, Cursor.peek, Cursor.atMarker, isEdge, isSpaceOrTab, fetchBlockEntry, openBlock, rollIndent,
    removeKey, pushMark, Cursor.skip, hsize]

/-- A letter starts a scalar without quotes. -/
theorem startsPlain_of_letter (s : Scan) {x : Char} (hx : Text.isAsciiLetter x = true) (next : Option Char) :
    s.startsPlain x next = true := by
  -- Without a letter among the marks there is nothing to ask about what follows.
  have hmark : "-?:,[]\x7b\x7d#&*!|>\x27\"%@\x60".toList.contains x = false := by
    have hnone : "-?:,[]\x7b\x7d#&*!|>\x27\"%@\x60".toList.all (!Text.isAsciiLetter ·) = true := by decide
    rw [Bool.eq_false_iff, Ne, List.contains_iff_mem]
    intro hmem
    simpa [hx] using List.all_eq_true.1 hnone x hmem
  have hc := isWordChar_of_isAsciiLetter hx
  have hedge : isEdge (some x) = false := by
    rw [isEdge, isSpaceOrTab_of_isWordChar hc, isBreak_of_isWordChar hc, Bool.or_self]
  rw [startsPlain, hmark, hedge, Bool.or_self, Bool.not_false, Bool.true_or, Bool.true_or]

/-- In front of a word, a plain scalar is read. -/
theorem fetch_word (tokens : List Token) {n k : Nat} (hk : n < k) {w : List Char} (hw : IsWord w)
    (tail : List Char) (i l : Nat) :
    (inList tokens n ⟨' ' :: (w ++ tail), i, l, k⟩).fetch
      = (inList tokens n ⟨w ++ tail, i + 1, l, k + 1⟩).fetchPlain := by
  obtain ⟨c, rest, rfl, hletter, hchars⟩ := hw.exists_cons
  -- A letter is none of the indicators, so the word is a plain scalar.
  have hne (y : Char) (hy : Text.isAsciiLetter y = false) : c ≠ y := ne_of_test hletter hy
  rw [fetch, skipToToken_blanks _ 1 (isTokenStart_of_isWordChar (isWordChar_of_isAsciiLetter hletter)) (rest ++ tail)
    i l k rfl]
  simp [inList, dropStale, bind, Except.bind, pure, Except.pure, unrollIndent, inFlow, unrollFrom, fetchHere,
    Cursor.peek, Cursor.atMarker, startsPlain_of_letter _ hletter, show ¬ k + 1 < n by omega, hne '[' (by decide),
    hne ']' (by decide), hne '\x7b' (by decide), hne '\x7d' (by decide), hne ',' (by decide),
    hne '-' (by decide), hne '?' (by decide), hne ':' (by decide), hne '*' (by decide), hne '&' (by decide),
    hne '!' (by decide), hne '|' (by decide), hne '>' (by decide), hne '\x27' (by decide), hne '"' (by decide)]

/-- A line of a list below which another one starts, or nothing comes: the word is a scalar, and no key. -/
theorem fetch_line (tokens : List Token) {m n k : Nat} (hm : m ≤ n) (hk : n < k) {w : List Char} (hw : IsWord w)
    (rest : List Char) (hrest : ∀ c ∈ rest.head?, isSpaceOrTab c = false ∧ isBreak c = false) (i l : Nat) :
    (inList tokens n ⟨' ' :: (w ++ '\n' :: (List.replicate m ' ' ++ rest)), i, l, k⟩).fetch.bind dropStale
      = .ok (inList (⟨.scalar (.ofList w) .plain, l, l⟩ :: tokens) n
          ⟨rest, i + 1 + Chars.byteLength w + 1 + m, l + 1, m⟩) := by
  have hread := readPlain_line hw hm hrest (i + 1) l (k := k + 1) (by omega)
  -- The word stands to the right of the list, so it need not be a key.
  have hrequired : n ≠ k + 1 := by omega
  rw [fetch_word tokens hk hw _ i l]
  simp [fetchPlain, inList, saveKey, removeKey, inFlow, hread, bind, Except.bind, pure, Except.pure, dropStale,
    hrequired]

/-- At the end of the text there is nothing to skip. -/
theorem skipToToken_nil (fuel : Nat) {s : Scan} {i l k : Nat} (hs : s.cursor = ⟨[], i, l, k⟩) :
    skipToToken (fuel + 1) s = s := by
  obtain ⟨c, tokens, indent, indents, keys, allowed⟩ := s
  obtain rfl : c = ⟨[], i, l, k⟩ := hs
  simp [skipToToken, Cursor.peek, Cursor.skipWhile, Cursor.readWhile, Cursor.skipComment, Chars.byteLength]

/-- A pending key that need not be one may be given up, and nothing else happens. -/
theorem dropStale_of_optional {s : Scan} {key? : Option PendingKey} (hkeys : s.keys = [key?])
    (hkey : ∀ key ∈ key?, key.required = false) :
    ∃ key?', (∀ key ∈ key?', key.required = false) ∧ s.dropStale = .ok { s with keys := [key?'] } := by
  cases key? with
  | none => exact ⟨none, by simp, by simp [dropStale, hkeys, bind, Except.bind, pure, Except.pure]⟩
  | some key =>
    have hoptional := hkey key rfl
    -- A key that is stale is given up.
    by_cases hstale : (key.line < s.cursor.line || key.index + 1024 < s.cursor.index) = true
    · refine ⟨none, by simp, ?_⟩
      simp only [dropStale, hkeys, List.mapM_cons, List.mapM_nil, bind, Except.bind, hstale, if_true,
        hoptional, Bool.false_eq_true, if_false, pure, Except.pure]
    · refine ⟨some key, hkey, ?_⟩
      simp only [dropStale, hkeys, List.mapM_cons, List.mapM_nil, bind, Except.bind, hstale,
        Bool.false_eq_true, if_false, pure, Except.pure]

/-- The last scalar of a text, whatever lines it takes: it is no key. -/
theorem fetch_last (tokens : List Token) {n k : Nat} (hk : n < k) {w : List Char} (hw : IsWord w) (tail : List Char)
    (i l : Nat) {p : Plain} {c : Cursor}
    (hread : readPlain false (some n) ⟨w ++ tail, i + 1, l, k + 1⟩ = .ok (p, c)) (hbroken : p.broken = false) :
    ∃ key?, (∀ key ∈ key?, key.required = false) ∧
      (inList tokens n ⟨' ' :: (w ++ tail), i, l, k⟩).fetch.bind dropStale
        = .ok (behindLast (⟨.scalar (.ofList p.text) .plain, l, p.endLine⟩ :: tokens) n c key?) := by
  -- A key is required where a mapping could start, and that is not here.
  have hrequired : n ≠ k + 1 := by omega
  have hfetch : (inList tokens n ⟨' ' :: (w ++ tail), i, l, k⟩).fetch
      = .ok (behindLast (⟨.scalar (.ofList p.text) .plain, l, p.endLine⟩ :: tokens) n c
          (some ⟨false, tokens.length, i + 1, l, k + 1⟩)) := by
    rw [fetch_word _ hk hw]
    simp [fetchPlain, inList, behindLast, saveKey, removeKey, inFlow, hread, hbroken, bind, Except.bind, pure,
      Except.pure, hrequired]
  obtain ⟨key?, hkey, hstale⟩ := dropStale_of_optional
    (s := behindLast (⟨.scalar (.ofList p.text) .plain, l, p.endLine⟩ :: tokens) n c
      (some ⟨false, tokens.length, i + 1, l, k + 1⟩)) rfl (by simp)
  exact ⟨key?, hkey, by rw [hfetch]; exact hstale⟩

/-- At the end of the text the list is closed. -/
theorem fetch_end {s : Scan} {n i l k : Nat} {key? : Option PendingKey} (hcursor : s.cursor = ⟨[], i, l, k⟩)
    (hindent : s.indent = some n) (hindents : s.indents = [none]) (hkeys : s.keys = [key?])
    (hkey : ∀ key ∈ key?, key.required = false) (hk : k = 0 ∨ n ≤ k) :
    ∃ s', s.fetch.bind dropStale = .ok s' ∧
      s'.tokens = ⟨.streamEnd, if k = 0 then l else l + 1, if k = 0 then l else l + 1⟩
        :: ⟨.blockEnd, if k = 0 then l else l + 1, if k = 0 then l else l + 1⟩ :: s.tokens := by
  obtain ⟨key?', hkey', hstale⟩ := dropStale_of_optional hkeys hkey
  obtain ⟨c, tokens, indent, indents, keys, allowed⟩ := s
  obtain rfl : c = ⟨[], i, l, k⟩ := hcursor
  obtain rfl : indent = some n := hindent
  obtain rfl : indents = [none] := hindents
  rw [fetch, skipToToken_nil _ rfl, hstale]
  -- A pending key is given up, too.
  have hremove : ∀ s' : Scan, s'.keys = [key?'] → s'.removeKey = .ok { s' with keys := [none] } := by
    rintro ⟨c', tokens', indent', indents', keys', allowed'⟩ rfl
    cases key?' with
    | none => rfl
    | some key => simp [removeKey, hkey' key rfl]
  -- At the start of a line the list ends there, otherwise on the next one.
  by_cases hzero : k = 0
  · subst hzero
    by_cases hn : n = 0
    · simp [bind, Except.bind, pure, Except.pure, unrollIndent, inFlow, unrollFrom, fetchHere, Cursor.peek, fetchEnd,
        closeAll, hremove, push, dropStale, hn]
    · simp [bind, Except.bind, pure, Except.pure, unrollIndent, inFlow, unrollFrom, fetchHere, Cursor.peek, fetchEnd,
        closeAll, hremove, push, dropStale, Nat.pos_of_ne_zero hn]
  · have hn : ¬ k < n := by omega
    simp [bind, Except.bind, pure, Except.pure, unrollIndent, inFlow, unrollFrom, fetchHere, Cursor.peek, fetchEnd,
      closeAll, hremove, push, dropStale, hzero, hn]

end Scan

/-! ### Whole texts -/

/-- The characters of words, and the blanks and line breaks between them. -/
def isLineChar (c : Char) : Bool := isWordChar c || c == ' ' || c == '\n'

/-- The characters of the lines may stand in a text. -/
theorem isAllowed_of_isLineChar {c : Char} (h : isLineChar c = true) : isAllowed c = true := by
  simp only [isLineChar, Bool.or_eq_true, beq_iff_eq] at h
  -- A word character is printable; the blank and the dash are looked up.
  rcases h with (h | rfl) | rfl
  · obtain ⟨hlow, hhigh⟩ := bounds_of_isWordChar h
    have hprintable : (' ' ≤ c && c ≤ '~') = true := by
      simp only [Bool.and_eq_true, decide_eq_true_eq, Char.le_def, UInt32.le_iff_toNat_le]
      simp only [Char.reduceVal, UInt32.reduceToNat]
      show 32 ≤ c.toNat ∧ c.toNat ≤ 126
      omega
    simp only [isAllowed, hprintable, Bool.or_true, Bool.true_or]
  · decide
  · decide

/-- The characters of a word may stand in the lines. -/
theorem isLineChar_of_isWord {w : List Char} (hw : IsWord w) {c : Char} (hc : c ∈ w) : isLineChar c = true := by
  simp [isLineChar, hw.2 c hc]

/-- A plain scalar in a list, with the lines it starts and ends on. -/
structure FlatItem where
  text : String
  line : Nat
  endLine : Nat

/-- The tokens of the items of a list. -/
def flatTokens (items : List FlatItem) : List Token :=
  items.flatMap fun x => [⟨.blockEntry, x.line, x.line⟩, ⟨.scalar x.text .plain, x.line, x.endLine⟩]

/-- The tokens of a text that is a list of plain scalars and ends in front of line `l`. -/
def listTokens (items : List FlatItem) (l : Nat) : List Token :=
  ⟨.blockSequenceStart, 0, 0⟩ :: (flatTokens items ++ [⟨.blockEnd, l, l⟩, ⟨.streamEnd, l, l⟩])

/-- Words as items, one on each line. -/
def wordItems (l : Nat) : List (List Char) → List FlatItem
  | [] => []
  | w :: words => ⟨.ofList w, l, l⟩ :: wordItems (l + 1) words

/-- The texts of the items. -/
theorem map_text_wordItems (l : Nat) (words : List (List Char)) :
    (wordItems l words).map (·.text) = words.map String.ofList := by
  induction words generalizing l with
  | nil => rfl
  | cons w words ih => simp [wordItems, ih]

/-- The lines of a list, each with `n` blanks, a dash and a word. -/
def listLines (n : Nat) (words : List (List Char)) : List Char :=
  words.flatMap fun w => List.replicate n ' ' ++ '-' :: ' ' :: (w ++ ['\n'])

/-- The lines of a list are made of such characters. -/
theorem isLineChar_of_mem_dashedLines {n : Nat} {words : List (List Char)} (hwords : ∀ w ∈ words, IsWord w)
    {c : Char} (hc : c ∈ dashedLines n words) : isLineChar c = true := by
  obtain ⟨w, hw, hc⟩ := List.mem_flatMap.1 hc
  simp only [List.mem_append, List.mem_replicate, List.mem_cons] at hc
  rcases hc with rfl | ⟨-, rfl⟩ | rfl | rfl | hc
  case inr.inr.inr.inr => exact isLineChar_of_isWord (hwords w hw) hc
  all_goals decide

/-- So is what stands behind the first dash. -/
theorem isLineChar_of_mem_fromDash {n : Nat} {words : List (List Char)} (hwords : ∀ w ∈ words, IsWord w)
    {w : List Char} (hw : IsWord w) {c : Char} (hc : c ∈ '-' :: ' ' :: (w ++ dashedLines n words)) :
    isLineChar c = true := by
  simp only [List.mem_cons, List.mem_append] at hc
  rcases hc with rfl | rfl | hc | hc
  · decide
  · decide
  · exact isLineChar_of_isWord hw hc
  · exact isLineChar_of_mem_dashedLines hwords hc

/-- There are at least two characters for each item, so there are enough steps. -/
theorem two_mul_length_le (n : Nat) (words : List (List Char)) :
    2 * words.length ≤ (dashedLines n words).length := by
  induction words with
  | nil => exact Nat.le_refl 0
  | cons w words ih =>
    simp only [dashedLines, List.flatMap_cons, List.length_append, List.length_cons] at ih ⊢
    omega

/-- The line break in front of the list instead of behind it. -/
theorem cons_listLines (n : Nat) (words : List (List Char)) :
    '\n' :: listLines n words = dashedLines n words ++ ['\n'] := by
  induction words with
  | nil => rfl
  -- The line break in front of the first line moves behind the last one.
  | cons w words ih =>
    have hlines : listLines n (w :: words)
        = List.replicate n ' ' ++ '-' :: ' ' :: (w ++ '\n' :: listLines n words) := by
      simp [listLines]
    rw [hlines, ih]
    simp [dashedLines]

/-- A list starts with its first dash, and all but the last line break stand in front of a line. -/
theorem listLines_cons (n : Nat) (w : List Char) (words : List (List Char)) :
    listLines n (w :: words)
      = List.replicate n ' ' ++ '-' :: ' ' :: (w ++ (dashedLines n words ++ ['\n'])) := by
  rw [← cons_listLines]
  simp [listLines]

namespace TokenStream

open Scan

/-- One token more. -/
theorem read_succ {fuel : Nat} {s s' : Scan} (h : s.fetch.bind dropStale = .ok s') (hdone : s'.done = false) :
    read (fuel + 1) s = read fuel s' := by
  rw [read, h]
  exact if_neg (by rw [hdone]; exact Bool.false_ne_true)

/-- The last token. -/
theorem read_last {fuel : Nat} {s s' : Scan} (h : s.fetch.bind dropStale = .ok s') (hdone : s'.done = true) :
    read (fuel + 1) s = ⟨s'.tokens.reverse, none⟩ := by
  rw [read, h]
  exact if_pos hdone

/-- **Lines of a list.** Behind its dash each line is an item, on to the end of the text, with a line break
    there or without one. -/
theorem read_lines (n : Nat) {words : List (List Char)} (hwords : ∀ w ∈ words, IsWord w) {w : List Char}
    (hw : IsWord w) {ending : List Char} (hending : ending = [] ∨ ending = ['\n']) (fuel : Nat)
    (hfuel : 2 * words.length + 1 < fuel) (tokens : List Token) (i l : Nat) :
    read fuel (inList tokens n ⟨' ' :: (w ++ (dashedLines n words ++ ending)), i, l, n + 1⟩)
      = ⟨tokens.reverse ++ (⟨.scalar (.ofList w) .plain, l, l⟩ :: (flatTokens (wordItems (l + 1) words)
          ++ [⟨.blockEnd, l + 1 + words.length, l + 1 + words.length⟩,
            ⟨.streamEnd, l + 1 + words.length, l + 1 + words.length⟩])), none⟩ := by
  -- Each further word takes two steps, one up to its dash and one for the word; what has been read is in `tokens`.
  induction words generalizing w fuel tokens i l with
  | nil =>
    obtain ⟨fuel, rfl⟩ : ∃ m, fuel = m + 2 := ⟨fuel - 2, by omega⟩
    -- Behind the last word there may be a break.
    rcases hending with rfl | rfl
    · obtain ⟨key?, hkey, hword⟩ := fetch_last tokens (Nat.lt_succ_self n) hw [] i l
        (p := ⟨w, l, false⟩) (by rw [List.append_nil]; exact readPlain_last hw n (i + 1) l (by omega)) rfl
      obtain ⟨s, hs, hlast⟩ := fetch_end
        (s := behindLast _ n ⟨[], i + 1 + Chars.byteLength w, l, n + 1 + 1 + w.length⟩ key?) rfl rfl rfl rfl hkey
        (.inr (by omega))
      have hnone : dashedLines n [] ++ [] = [] := rfl
      rw [hnone, read_succ hword rfl, read_last hs (by rw [done, hlast]; rfl), hlast]
      simp [behindLast, flatTokens, wordItems]
    · have hline := fetch_line tokens (Nat.zero_le n) (Nat.lt_succ_self n) hw [] (by simp) i l
      obtain ⟨s, hs, hlast⟩ := fetch_end
        (s := inList (⟨.scalar (.ofList w) .plain, l, l⟩ :: tokens) n
          ⟨[], i + 1 + Chars.byteLength w + 1 + 0, l + 1, 0⟩) rfl rfl rfl rfl (by simp) (.inl rfl)
      have hbreak : dashedLines n [] ++ ['\n'] = '\n' :: (List.replicate 0 ' ' ++ []) := rfl
      rw [hbreak, read_succ hline rfl, read_last hs (by rw [done, hlast]; rfl), hlast]
      simp [inList, flatTokens, wordItems]
  | cons w' words ih =>
    obtain ⟨fuel, rfl⟩ : ∃ m, fuel = m + 2 := ⟨fuel - 2, by simp only [List.length_cons] at hfuel; omega⟩
    -- The next word is on a line of its own, behind a dash.
    have hlines : dashedLines n (w' :: words) ++ ending
        = '\n' :: (List.replicate n ' ' ++ '-' :: ' ' :: (w' ++ (dashedLines n words ++ ending))) := by
      simp [dashedLines]
    have hline := fetch_line tokens (Nat.le_refl n) (Nat.lt_succ_self n) hw
      ('-' :: ' ' :: (w' ++ (dashedLines n words ++ ending))) (by simp; decide) i l
    have hentry := fetch_entry (⟨.scalar (.ofList w) .plain, l, l⟩ :: tokens) n
      (w' ++ (dashedLines n words ++ ending)) (i + 1 + Chars.byteLength w + 1 + n) (l + 1)
    have hrest := ih (fun v hv => hwords v (List.mem_cons_of_mem _ hv)) (hwords w' List.mem_cons_self) fuel
      (by simp only [List.length_cons] at hfuel; omega)
      (⟨.blockEntry, l + 1, l + 1⟩ :: ⟨.scalar (.ofList w) .plain, l, l⟩ :: tokens)
      (i + 1 + Chars.byteLength w + 1 + n + 1) (l + 1)
    have hlast : l + 1 + 1 + words.length = l + 1 + (w' :: words).length := by
      rw [List.length_cons]
      omega
    rw [hlines, read_succ hline rfl, read_succ hentry rfl, hrest, hlast]
    simp [flatTokens, wordItems]

/-- A text that is a list of words has the tokens of that list, with a line break at its end or without one. -/
theorem ofText_lines (n : Nat) {words : List (List Char)} (hwords : ∀ w ∈ words, IsWord w) {w : List Char}
    (hw : IsWord w) {ending : List Char} (hending : ending = [] ∨ ending = ['\n']) :
    ofText (List.replicate n ' ' ++ '-' :: ' ' :: (w ++ (dashedLines n words ++ ending)))
      = ⟨listTokens (wordItems 0 (w :: words)) (words.length + 1), none⟩ := by
  -- The scanner refuses a text with other characters.
  have hallowed :
      (List.replicate n ' ' ++ '-' :: ' ' :: (w ++ (dashedLines n words ++ ending))).all isAllowed = true := by
    rw [List.all_eq_true]
    intro c hc
    simp only [List.mem_append, List.mem_replicate, List.mem_cons] at hc
    rcases hc with ⟨-, rfl⟩ | rfl | rfl | hc | hc | hc
    · decide
    · decide
    · decide
    · exact isAllowed_of_isLineChar (isLineChar_of_isWord hw hc)
    · exact isAllowed_of_isLineChar (isLineChar_of_mem_dashedLines hwords hc)
    · rcases hending with rfl | rfl
      · cases hc
      · obtain rfl : c = '\n' := by simpa using hc
        decide
  -- Each line has two tokens, and at least as many characters.
  have hfuel : 2 * words.length + 1
      < (List.replicate n ' ' ++ '-' :: ' ' :: (w ++ (dashedLines n words ++ ending))).length + 1 := by
    have hlength := two_mul_length_le n words
    simp only [List.length_append, List.length_cons]
    omega
  rw [ofText, if_pos hallowed, read_succ (fetch_start n _) rfl, read_lines n hwords hw hending _ hfuel]
  simp [listTokens, flatTokens, wordItems, Nat.add_comm]

/-- A text whose first dash stands at the start of the line, and the other ones do not, is a list of one item. -/
theorem ofText_dashedLines {n : Nat} (hn : 0 < n) {words : List (List Char)} (hwords : ∀ w ∈ words, IsWord w)
    {w : List Char} (hw : IsWord w) :
    ofText ('-' :: ' ' :: (w ++ dashedLines n words))
      = ⟨listTokens [⟨.ofList (w ++ dashedWords words), 0, words.length⟩] (words.length + 1), none⟩ := by
  have hallowed : ('-' :: ' ' :: (w ++ dashedLines n words)).all isAllowed = true := by
    rw [List.all_eq_true]
    exact fun c hc => isAllowed_of_isLineChar (isLineChar_of_mem_fromDash hwords hw hc)
  -- The lines behind the first one are indented more, so they belong to its scalar.
  obtain ⟨c, hread, hend, hline, hcolumn⟩ := readPlainFrom_lines hn hwords hw
    ((w ++ dashedLines n words).length + 1) ((w ++ dashedLines n words).length + 1) (Nat.lt_succ_self _)
    (by
      have hlength := two_mul_length_le n words
      rw [List.length_append]
      omega)
    ⟨[], 0, false⟩ {} 2 0 (k := 2) (by decide)
  have hplain : readPlain false (some 0) ⟨w ++ dashedLines n words, 2, 0, 2⟩
      = .ok (⟨w ++ dashedWords words, words.length, false⟩, c) := by
    simpa [readPlain, Gap.text] using hread
  obtain ⟨rest, i, l, k⟩ := c
  obtain rfl : rest = [] := hend
  obtain rfl : l = words.length := hline.trans (Nat.zero_add _)
  obtain ⟨key?, hkey, hword⟩ := fetch_last [⟨.blockEntry, 0, 0⟩, ⟨.blockSequenceStart, 0, 0⟩] Nat.zero_lt_one hw
    (dashedLines n words) 1 0 hplain rfl
  obtain ⟨s, hs, hlast⟩ := fetch_end (s := behindLast _ 0 _ key?) rfl rfl rfl rfl hkey (.inr (Nat.zero_le k))
  have hk : k ≠ 0 := Nat.ne_of_gt hcolumn
  rw [ofText, if_pos hallowed]
  show read (_ + 2) (start (List.replicate 0 ' ' ++ '-' :: ' ' :: (w ++ dashedLines n words))) = _
  rw [List.length_cons, read_succ (fetch_start 0 _) rfl, read_succ hword rfl,
    read_last hs (by rw [done, hlast]; rfl), hlast]
  simp [behindLast, listTokens, flatTokens, hk]

end TokenStream

/-! ### The value of a list -/

/-- The event that reads an item. -/
def FlatItem.event (x : FlatItem) : Event := ⟨.scalar none none x.text .plain, x.line⟩

/-- The node of an item. -/
def FlatItem.node (x : FlatItem) : Node := .scalar none x.text .plain x.line

namespace EventStream

/-- The events of the items and of the end of the list. -/
theorem collect_flatTokens (items : List FlatItem) (fuel l : Nat) (hfuel : items.length + 2 ≤ fuel)
    (events : List Event) (handles : List (String × Tag)) :
    collect fuel events
        ⟨flatTokens items ++ [⟨.blockEnd, l, l⟩, ⟨.streamEnd, l, l⟩], none, handles, .blockSequenceEntry,
          [.documentEnd]⟩
      = ⟨events.reverse ++ (items.map FlatItem.event ++ [⟨.sequenceEnd, l⟩]), none, false, false⟩ := by
  -- The induction is on the items, each of which is one event.
  induction items generalizing fuel events with
  | nil =>
    obtain ⟨fuel, rfl⟩ : ∃ m, fuel = m + 2 := ⟨fuel - 2, by omega⟩
    simp [collect, flatTokens, Grammar.step, Grammar.blockSequenceEntry, Grammar.withToken, Grammar.advance,
      Grammar.pop, Grammar.documentEnd, hasMore]
  | cons x items ih =>
    obtain ⟨fuel, rfl⟩ : ∃ m, fuel = m + 1 := ⟨fuel - 1, by omega⟩
    have hstep : (⟨flatTokens (x :: items) ++ [⟨.blockEnd, l, l⟩, ⟨.streamEnd, l, l⟩], none, handles,
          .blockSequenceEntry, [.documentEnd]⟩ : Grammar).step
        = .event x.event ⟨flatTokens items ++ [⟨.blockEnd, l, l⟩, ⟨.streamEnd, l, l⟩], none, handles,
          .blockSequenceEntry, [.documentEnd]⟩ := rfl
    rw [collect, hstep]
    simp only [ih fuel (by simp only [List.length_cons] at hfuel; omega)]
    simp

/-- There are two tokens for each item. -/
theorem length_flatTokens (items : List FlatItem) : (flatTokens items).length = 2 * items.length := by
  induction items with
  | nil => rfl
  | cons x items ih =>
    simp only [flatTokens, List.flatMap_cons, List.length_append, List.length_cons, List.length_nil] at ih ⊢
    omega

/-- The events of a list. -/
theorem ofTokens_listTokens (items : List FlatItem) (l : Nat) :
    ofTokens ⟨listTokens items l, none⟩
      = ⟨⟨.sequenceStart none none, 0⟩ :: (items.map FlatItem.event ++ [⟨.sequenceEnd, l⟩]), none, false, false⟩ := by
  have hfuel : items.length + 2 ≤ 4 * (listTokens items l).length + 7 := by
    simp only [listTokens, List.length_cons, List.length_append, length_flatTokens]
    omega
  have hcollect := collect_flatTokens items _ l hfuel [⟨.sequenceStart none none, 0⟩] Grammar.defaultHandles
  exact hcollect

end EventStream

/-- Without aliases and anchors all events are linked. -/
theorem LinkedEvent.link_flat (items : List FlatItem) (l position : Nat) :
    ∃ linked, link [] position none (items.map FlatItem.event ++ [⟨.sequenceEnd, l⟩]) = (linked, none) ∧
      linked.map (·.event) = items.map FlatItem.event ++ [⟨.sequenceEnd, l⟩] := by
  induction items generalizing position with
  | nil => exact ⟨[⟨⟨.sequenceEnd, l⟩, position⟩], rfl, rfl⟩
  | cons x items ih =>
    obtain ⟨linked, hlink, hevents⟩ := ih (position + 1)
    refine ⟨⟨x.event, position⟩ :: linked, ?_, by simp [hevents]⟩
    rw [List.map_cons, List.cons_append, link]
    simp [FlatItem.event, hlink]

namespace Node

/-- The nodes of the items. -/
theorem readItems_flat (src : Source) (items : List FlatItem) (l : Nat) {linked : List LinkedEvent}
    (hlinked : linked.map (·.event) = items.map FlatItem.event ++ [⟨.sequenceEnd, l⟩]) (fuel room : Nat)
    (hfuel : items.length + 1 < fuel) (aliases : Nat) :
    readItems src fuel room linked aliases = ⟨items.map FlatItem.node, [], aliases⟩ := by
  -- The induction is on the items, each of which is one scalar.
  induction items generalizing linked fuel with
  | nil =>
    obtain ⟨fuel, rfl⟩ : ∃ m, fuel = m + 1 := ⟨fuel - 1, by omega⟩
    obtain ⟨e, rfl, he⟩ : ∃ e, linked = [e] ∧ e.event = ⟨.sequenceEnd, l⟩ := by
      simpa [List.map_eq_cons_iff] using hlinked
    simp [readItems, he]
  | cons x items ih =>
    obtain ⟨fuel, rfl⟩ : ∃ m, fuel = m + 2 := ⟨fuel - 2, by simp only [List.length_cons] at hfuel; omega⟩
    obtain ⟨e, rest, rfl, he, hrest⟩ : ∃ e rest, linked = e :: rest ∧ e.event = x.event ∧
        rest.map (·.event) = items.map FlatItem.event ++ [⟨.sequenceEnd, l⟩] := by
      simpa [List.map_eq_cons_iff] using hlinked
    have hitems := ih hrest (fuel + 1) (by simp only [List.length_cons] at hfuel; omega)
    simp [readItems, readNode, he, FlatItem.event, hitems, FlatItem.node]

/-- The tree of a list. -/
theorem ofEvents_flat (items : List FlatItem) (l : Nat) :
    ofEvents ⟨⟨.sequenceStart none none, 0⟩ :: (items.map FlatItem.event ++ [⟨.sequenceEnd, l⟩]), none, false, false⟩
      = .sequence none (items.map FlatItem.node) 0 := by
  obtain ⟨linked, hlink, hevents⟩ := LinkedEvent.link_flat items l 1
  have hlength : linked.length = items.length + 1 := by
    simpa using congrArg List.length hevents
  have hlinked : LinkedEvent.link [] 0 none
      (⟨.sequenceStart none none, 0⟩ :: (items.map FlatItem.event ++ [⟨.sequenceEnd, l⟩]))
      = (⟨⟨.sequenceStart none none, 0⟩, 0⟩ :: linked, none) := by
    rw [LinkedEvent.link]
    simp [hlink]
  -- There is fuel for all of them.
  obtain ⟨fuel, hfuel⟩ : ∃ m, (depthLimit + 2) * ((⟨⟨.sequenceStart none none, 0⟩, 0⟩ :: linked).length + 2) = m + 1 :=
    ⟨(depthLimit + 2) * ((⟨⟨.sequenceStart none none, 0⟩, 0⟩ :: linked).length + 2) - 1, by
      simp only [depthLimit]; omega⟩
  have hroom : items.length + 1 < fuel := by
    simp only [depthLimit, List.length_cons, hlength] at hfuel
    omega
  simp only [ofEvents, hlinked, hfuel, readNode, Bool.false_eq_true, if_false]
  rw [if_neg (by decide), readItems_flat _ items l hevents fuel _ hroom]

/-- Items whose text is that of a string are read as strings. -/
theorem readAll_flat (how : Reading) {items : List FlatItem}
    (hitems : ∀ x ∈ items, Scalar.resolve x.text = .value (.string x.text)) :
    readAll how (items.map FlatItem.node) = .ok (items.map fun x => .string x.text) := by
  induction items with
  | nil => rfl
  | cons x items ih =>
    have hx := hitems x List.mem_cons_self
    have hrest := ih fun y hy => hitems y (List.mem_cons_of_mem _ hy)
    simp [readAll, read, FlatItem.node, wrapTag, scalarValue, hx, hrest, bind, Except.bind, pure, Except.pure]

end Node

/-- **Lists of texts.** What has the tokens of a list of plain scalars is the list of their texts, if none of
    them stands for something else. -/
theorem parse_of_tokens {text : String} {items : List FlatItem} {l : Nat}
    (htokens : TokenStream.ofText text.toList = ⟨listTokens items l, none⟩)
    (hitems : ∀ x ∈ items, Scalar.resolve x.text = .value (.string x.text)) :
    parse text = .ok (.sequence (items.map fun x => .string x.text)) := by
  -- All items are texts, so what they resolve to is what they say.
  have hvalue : Node.value (.sequence none (items.map FlatItem.node) 0)
      = .ok (.sequence (items.map fun x => .string x.text)) := by
    simp [Node.value, Node.read, Node.wrapTag, Node.readAll_flat ⟨true, true⟩ hitems, Except.map]
  simp only [parse, parseWith, htokens, EventStream.ofTokens_listTokens, Node.ofEvents_flat, hvalue]
  rfl

end Scaffold.Yaml
