import Scaffold.Proofs.Yaml.Forms
import Scaffold.Proofs.Text.Ends
import Mathlib.Data.Bool.AllAny

namespace Scaffold.Yaml

/-!
# Plain scalars

A text that may stand without quotes is read as it is, word by word and over the spaces between the words, up to the
colon behind a key, to a line that is indented too little, or to the end of the text.

* `PlainBody` — what makes a text readable without quotes, also in the middle of a scalar;
* `PlainBody.readPlain_key`, `PlainBody.readPlain_line`, `PlainBody.readPlain_last` — the three ends of a scalar;
* `plainFits_of_plainAllowed`, `plainFits_int` — what is written without quotes fits.
-/

/-! ### Texts without quotes -/

/-- A text, or what is left of it behind a gap, that is read without quotes. -/
structure PlainBody (s : List Char) : Prop where
  ne : s ≠ []
  printable : ∀ c ∈ s, isPrintable c = true
  inline : ∀ c ∈ s, isBreak c = false
  first : ∀ c ∈ s.head?, c ≠ ' ' ∧ c ≠ '#'
  last : ∀ c ∈ s.getLast?, c ≠ ' '
  colon : ∀ u v, s = u ++ ':' :: v → isEdge v.head? = false
  hash : ∀ u v, s ≠ u ++ ' ' :: '#' :: v

/-- A text that may stand without quotes at the start of a token. -/
structure PlainFits (s : List Char) : Prop extends PlainBody s where
  start : ∀ c ∈ s.head?, c ∉ "#,[]\x7b\x7d&*!|>\x27\"%@\x60".toList
  sign : ∀ c v, s = c :: v → c = '?' ∨ c = ':' ∨ c = '-' → isEdge v.head? = false
  marker : ∀ c ∈ s.head?, c = '-' ∨ c = '.' → ¬ [c, c, c] <+: s

/-- What is left behind a gap. -/
theorem PlainBody.behind_gap {w g rest : List Char} (h : PlainBody (w ++ (g ++ rest))) (hg : g ≠ [])
    (hspaces : ∀ c ∈ g, c = ' ') (hrest : ∀ c ∈ rest.head?, c ≠ ' ') : PlainBody rest where
  ne hnil := by
    obtain ⟨c, hc⟩ := Option.ne_none_iff_exists'.1 (mt List.getLast?_eq_none_iff.1 hg)
    refine h.last c ?_ (hspaces c (List.mem_of_getLast? hc))
    rw [hnil, List.append_nil, List.getLast?_append, hc]
    rfl
  printable c hc := h.printable c (List.mem_append_right w (List.mem_append_right g hc))
  inline c hc := h.inline c (List.mem_append_right w (List.mem_append_right g hc))
  -- A hash behind a blank would have started a comment.
  first c hc := by
    refine ⟨hrest c hc, ?_⟩
    rintro rfl
    obtain ⟨rest, rfl⟩ := List.head?_eq_some_iff.1 hc
    have hlast := List.dropLast_concat_getLast hg
    rw [hspaces _ (List.getLast_mem hg)] at hlast
    refine h.hash (w ++ g.dropLast) rest ?_
    rw [← hlast]
    simp
  last c hc := h.last c (by rw [List.getLast?_append, List.getLast?_append, Option.mem_def.1 hc]; rfl)
  colon u v huv := h.colon (w ++ (g ++ u)) v (by rw [huv, List.append_assoc, List.append_assoc])
  hash u v huv := h.hash (w ++ (g ++ u)) v (by rw [huv, List.append_assoc, List.append_assoc])

/-! ### Words -/

/-- The text ends a word of a plain scalar. -/
def EndsPlainWord (tail : List Char) : Prop :=
  ∀ (fuel : Nat) (acc : List Char) (i l k : Nat),
    readPlainWord false (fuel + 1) acc ⟨tail, i, l, k⟩ = .ok (acc.reverse, ⟨tail, i, l, k⟩)

/-- A word ends in front of a blank, a line break and the end of the text. -/
theorem endsPlainWord_of_edge {tail : List Char} (h : isEdge tail.head? = true) : EndsPlainWord tail := by
  intro fuel acc i l k
  cases tail with
  | nil => simp [readPlainWord, Cursor.peek]
  | cons x tail =>
    have hx : (isSpaceOrTab x || isBreak x) = true := h
    simp [readPlainWord, Cursor.peek, hx]

/-- A word ends in front of a colon with a blank behind it. -/
theorem endsPlainWord_colon {y : Char} (hy : isEdge (some y) = true) (behind : List Char) :
    EndsPlainWord (':' :: y :: behind) := by
  intro fuel acc i l k
  have hcolon : isSpaceOrTab ':' = false ∧ isBreak ':' = false := by decide
  simp [readPlainWord, Cursor.peek, Cursor.peekAt, hcolon, hy]

/-- Characters of a word are read up to what ends the word, with the colons that have no blank behind them. -/
theorem readPlainWord_run {w tail : List Char} (hw : ∀ c ∈ w, isSpaceOrTab c = false ∧ isBreak c = false)
    (hcolon : ∀ u v, w = u ++ ':' :: v → isEdge (v ++ tail).head? = false) (htail : EndsPlainWord tail) (fuel : Nat)
    (hfuel : w.length < fuel) (acc : List Char) (i l k : Nat) :
    readPlainWord false fuel acc ⟨w ++ tail, i, l, k⟩
      = .ok (acc.reverse ++ w, ⟨tail, i + Chars.byteLength w, l, k + w.length⟩) := by
  -- The induction is on the word, whose end is decided by what follows it.
  induction w generalizing fuel acc i k with
  | nil =>
    obtain ⟨fuel, rfl⟩ : ∃ m, fuel = m + 1 := ⟨fuel - 1, by omega⟩
    rw [List.nil_append, htail, List.append_nil]
    rfl
  | cons c w ih =>
    obtain ⟨fuel, rfl⟩ : ∃ m, fuel = m + 1 := ⟨fuel - 1, by omega⟩
    obtain ⟨hspace, hbreak⟩ := hw c List.mem_cons_self
    -- A colon belongs to the word if something stands directly behind it.
    have hnext : c = ':' → isEdge (w ++ tail).head? = false := fun hc => hcolon [] w (by rw [hc, List.nil_append])
    have hstep : readPlainWord false (fuel + 1) acc ⟨c :: (w ++ tail), i, l, k⟩
        = readPlainWord false fuel (c :: acc) ⟨w ++ tail, i + c.utf8Size, l, k + 1⟩ := by
      have hgo : (decide (c = ':') && isEdge (c :: (w ++ tail))[1]?) = false := by
        rw [Bool.and_eq_false_imp, decide_eq_true_eq]
        intro hc
        rw [← hnext hc, List.getElem?_cons_succ, ← List.head?_eq_getElem?]
      simp only [readPlainWord, Cursor.peek, Cursor.peekAt, List.head?_cons, hspace, hbreak, hgo, Bool.or_self,
        Bool.false_and, Bool.false_eq_true, if_false, Cursor.skip]
    rw [List.cons_append, hstep, ih (fun d hd => hw d (List.mem_cons_of_mem _ hd))
      (fun u v huv => hcolon (c :: u) v (by rw [huv, List.cons_append])) fuel
      (by simp only [List.length_cons] at hfuel; omega)]
    simp only [List.reverse_cons, List.append_assoc, List.singleton_append, Chars.byteLength_cons, List.length_cons,
      Nat.add_assoc, Nat.add_comm 1]

/-! ### Scalars -/

/-- Reading a plain scalar behind one of its words. -/
def behindWord (indent budget fuel : Nat) (p : Plain) (after : Cursor) : Except Fault (Plain × Cursor) :=
  if isEdge after.peek && !after.atEnd then
    (readGap (some indent) budget {} after).bind fun (g, c) =>
      if c.column < indent then .ok ({ p with broken := g.broken }, c) else readPlainFrom false indent budget fuel p g c
  else .ok (p, after)

/-- A word joins the scalar, with the gap in front of it. -/
theorem readPlainFrom_word {indent budget fuel : Nat} {p : Plain} {g : Gap} {c after : Cursor} {word : List Char}
    (hmarker : c.atAnyMarker = false) (hhash : c.peek ≠ some '#') (hne : word ≠ [])
    (hword : readPlainWord false budget [] c = .ok (word, after)) :
    readPlainFrom false indent budget (fuel + 1) p g c
      = behindWord indent budget fuel ⟨p.text ++ g.text ++ word, after.line, false⟩ after := by
  have hempty : word.isEmpty = false := by simpa using hne
  rw [readPlainFrom, hmarker, if_neg (by simpa using hhash)]
  show (readPlainWord false budget [] c).bind _ = _
  rw [hword]
  simp [bind, Except.bind, pure, Except.pure, hempty, behindWord]

/-- The only blank in a scalar without quotes is the space. -/
theorem PlainBody.isSpaceOrTab_eq {s : List Char} (hs : PlainBody s) {c : Char} (hc : c ∈ s) :
    isSpaceOrTab c = (c == ' ') :=
  Form.isSpaceOrTab_of_isPrintable (hs.printable c hc)

/-- A scalar without quotes starts with no blank, line break or hash. -/
theorem PlainBody.head?_append {s : List Char} (hs : PlainBody s) (tail : List Char) :
    ∀ c ∈ (s ++ tail).head?, isSpaceOrTab c = false ∧ isBreak c = false ∧ c ≠ '#' := by
  obtain ⟨d, rest, rfl⟩ := List.exists_cons_of_ne_nil hs.ne
  rintro c ⟨⟩
  have hd : d ∈ d :: rest := List.mem_cons_self
  have hfirst := hs.first d rfl
  exact ⟨by rw [hs.isSpaceOrTab_eq hd]; simpa using hfirst.1, hs.inline d hd, hfirst.2⟩

/-- A text without quotes is read up to the end of its last word. Behind the gaps in it the column is to the right of
    what is around. -/
theorem PlainBody.readPlainFrom {s tail : List Char} (hs : PlainBody s) (htail : EndsPlainWord tail)
    {indent budget : Nat} (hbudget : s.length < budget) (fuel : Nat) (hfuel : s.length < fuel) (p : Plain) (g : Gap)
    (i l k : Nat) (hindent : indent ≤ k + 1) (hmarker : (⟨s ++ tail, i, l, k⟩ : Cursor).atAnyMarker = false) :
    ∃ fuel', Yaml.readPlainFrom false indent budget fuel p g ⟨s ++ tail, i, l, k⟩
      = behindWord indent budget fuel' ⟨p.text ++ g.text ++ s, l, false⟩
          ⟨tail, i + Chars.byteLength s, l, k + s.length⟩ := by
  -- A hash at the start would be a comment.
  have hhash (s : List Char) (hs : PlainBody s) (tail : List Char) (i l k : Nat) :
      (⟨s ++ tail, i, l, k⟩ : Cursor).peek ≠ some '#' :=
    fun hpeek => (hs.head?_append tail '#' hpeek).2.2 rfl
  -- The induction is on the gaps of the text, which are runs of spaces.
  induction s using Chars.runs_induction (· == ' ') generalizing fuel p g i k with
  | last w hw =>
    obtain ⟨fuel, rfl⟩ : ∃ m, fuel = m + 1 := ⟨fuel - 1, by omega⟩
    have hword := readPlainWord_run (w := w)
        (fun c hc => ⟨by rw [hs.isSpaceOrTab_eq hc]; exact hw c hc, hs.inline c hc⟩)
      (fun u v huv => by
        have hedge := hs.colon u v huv
        -- A colon at the end of the text would have an edge behind it.
        cases v with
        | nil => cases hedge
        | cons d v => exact hedge) htail budget hbudget [] i l k
    exact ⟨fuel, readPlainFrom_word hmarker (hhash w hs tail i l k) hs.ne hword⟩
  | gap w g' rest hw hne hg hrest ih =>
    obtain ⟨n, rfl⟩ : ∃ n, g' = List.replicate n ' ' :=
      ⟨g'.length, List.eq_replicate_iff.2 ⟨rfl, fun c hc => beq_iff_eq.1 (hg c hc)⟩⟩
    obtain ⟨n, rfl⟩ : ∃ m, n = m + 1 := ⟨n - 1, by have : n ≠ 0 := fun h => hne (by rw [h]; rfl); omega⟩
    obtain ⟨fuel, rfl⟩ : ∃ m, fuel = m + 1 := ⟨fuel - 1, by omega⟩
    have hbehind : PlainBody rest := hs.behind_gap hne (fun c hc => beq_iff_eq.1 (hg c hc))
      fun c hc => by simpa using hrest c hc
    -- Without a word the text would start with a blank.
    have hwne : w ≠ [] := by
      rintro rfl
      exact (hs.first ' ' rfl).1 rfl
    have hwpos : 0 < w.length := List.length_pos_iff.2 hwne
    simp only [List.length_append, List.length_replicate] at hbudget hfuel
    have hword := @readPlainWord_run w (List.replicate (n + 1) ' ' ++ (rest ++ tail))
      (fun c hc => ⟨by rw [hs.isSpaceOrTab_eq (List.mem_append_left _ hc)]; exact hw c hc,
        hs.inline c (List.mem_append_left _ hc)⟩)
      (fun u v huv => by
        have hedge := hs.colon u (v ++ (List.replicate (n + 1) ' ' ++ rest)) (by rw [huv]; simp)
        cases v with
        | nil => cases hedge
        | cons d v => exact hedge) (endsPlainWord_of_edge rfl) budget (by omega) [] i l k
    have hgap := @readGap_spaces (some indent) (n + 1) (rest ++ tail)
      (fun c hc => Bool.or_eq_false_iff.2 ⟨(hbehind.head?_append tail c hc).1, (hbehind.head?_append tail c hc).2.1⟩)
      budget (by omega) [] (i + Chars.byteLength w) l (k + w.length)
    obtain ⟨fuel', hread⟩ := ih hbehind (by omega) fuel (by omega) ⟨p.text ++ g.text ++ w, l, false⟩
      ⟨List.replicate (n + 1) ' ', false, [], []⟩ (i + Chars.byteLength w + (n + 1)) (k + w.length + (n + 1)) (by omega)
      (Cursor.atAnyMarker_of_column (by show 0 < k + w.length + (n + 1); omega))
    refine ⟨fuel', ?_⟩
    have hmarker' := hmarker
    rw [List.append_assoc, List.append_assoc] at hmarker' ⊢
    rw [readPlainFrom_word hmarker' (by simpa only [List.append_assoc] using hhash _ hs tail i l k) hwne hword]
    -- The next word is on the same line, so it is indented enough.
    have hinside : ¬ k + w.length + (n + 1) < indent := by omega
    rw [behindWord, if_pos (by rfl), hgap]
    show (if k + w.length + (n + 1) < indent then _ else _) = _
    rw [if_neg hinside, List.nil_append]
    show Yaml.readPlainFrom false indent budget fuel ⟨p.text ++ g.text ++ w, l, false⟩
      ⟨List.replicate (n + 1) ' ', false, [], []⟩ _ = _
    rw [hread]
    simp only [Gap.text, Bool.false_eq_true, if_false, List.append_assoc, Chars.byteLength_append,
      Chars.byteLength_replicate_space, List.length_append, List.length_replicate, Nat.add_assoc]

section Ends

variable {s : List Char} (hs : PlainBody s) (outer? : Option Nat) (i l k : Nat) (houter : outer?.all (· ≤ k) = true)

include hs houter

/-- **A scalar without quotes is read up to its end.** What is left is to look behind its last word. -/
theorem PlainBody.readPlain_eq {tail : List Char} (htail : EndsPlainWord tail)
    (hmarker : (⟨s ++ tail, i, l, k⟩ : Cursor).atAnyMarker = false) :
    ∃ fuel', readPlain false outer? ⟨s ++ tail, i, l, k⟩
      = behindWord ((outer?.map (· + 1)).getD 0) ((s ++ tail).length + 1) fuel' ⟨s, l, false⟩
          ⟨tail, i + Chars.byteLength s, l, k + s.length⟩ := by
  have hindent : (outer?.map (· + 1)).getD 0 ≤ k + 1 := by
    cases outer? with
    | none => exact Nat.zero_le _
    | some o => exact Nat.succ_le_succ (by simpa using houter)
  have hlength : s.length < (s ++ tail).length + 1 := by
    rw [List.length_append]
    omega
  exact hs.readPlainFrom htail hlength _ hlength ⟨[], l, false⟩ {} i l k hindent hmarker

/-- A text without quotes with a colon behind it. -/
theorem PlainBody.readPlain_key {y : Char} (hy : isEdge (some y) = true) (behind : List Char)
    (hmarker : (⟨s ++ ':' :: y :: behind, i, l, k⟩ : Cursor).atAnyMarker = false) :
    readPlain false outer? ⟨s ++ ':' :: y :: behind, i, l, k⟩
      = .ok (⟨s, l, false⟩, ⟨':' :: y :: behind, i + Chars.byteLength s, l, k + s.length⟩) := by
  obtain ⟨fuel, hread⟩ := hs.readPlain_eq outer? i l k houter (endsPlainWord_colon hy behind) hmarker
  rw [hread]
  rfl

/-- A text without quotes at the end of its line, with a line below that is not indented by more than what is around. -/
theorem PlainBody.readPlain_line {m : Nat} (hm : outer?.any (m ≤ ·) = true) {rest : List Char}
    (hrest : ∀ c ∈ rest.head?, isSpaceOrTab c = false ∧ isBreak c = false)
    (hmarker : (⟨s ++ '\n' :: (List.replicate m ' ' ++ rest), i, l, k⟩ : Cursor).atAnyMarker = false) :
    readPlain false outer? ⟨s ++ '\n' :: (List.replicate m ' ' ++ rest), i, l, k⟩
      = .ok (⟨s, l, true⟩, ⟨rest, i + Chars.byteLength s + 1 + m, l + 1, m⟩) := by
  obtain ⟨fuel, hread⟩ := hs.readPlain_eq outer? i l k houter (endsPlainWord_of_edge rfl) hmarker
  have hgap := readGap_line (some ((outer?.map (· + 1)).getD 0)) m hrest
    ((s ++ '\n' :: (List.replicate m ' ' ++ rest)).length + 1)
    (by simp only [List.length_append, List.length_cons, List.length_replicate]; omega)
    (i + Chars.byteLength s) l (k + s.length)
  -- The next line is not indented enough for the text to go on.
  have hstop : m < (outer?.map (· + 1)).getD 0 := by
    cases outer? with
    | none => cases hm
    | some o => exact Nat.lt_succ_of_le (by simpa using hm)
  rw [hread, behindWord, if_pos (by rfl), hgap]
  exact if_pos hstop

/-- A text without quotes at the end of the text. -/
theorem PlainBody.readPlain_last (hmarker : (⟨s, i, l, k⟩ : Cursor).atAnyMarker = false) :
    readPlain false outer? ⟨s, i, l, k⟩ = .ok (⟨s, l, false⟩, ⟨[], i + Chars.byteLength s, l, k + s.length⟩) := by
  obtain ⟨fuel, hread⟩ := hs.readPlain_eq outer? i l k houter (@endsPlainWord_of_edge [] rfl)
    (by rwa [List.append_nil])
  rw [List.append_nil] at hread
  rw [hread]
  rfl

end Ends

/-! ### What is written without quotes -/

/-- What is allowed without quotes can be read without quotes. -/
theorem plainFits_of_plainAllowed {s : List Char} (hne : s ≠ []) (h : (Form.traits s).plainAllowed = true) :
    PlainFits s := by
  simp only [Form.traits, Bool.not_eq_true', Bool.or_eq_false_iff] at h
  obtain ⟨⟨⟨⟨⟨hhead, hlast⟩, hprintable, -⟩, hbreak⟩, hdashes, hdots⟩, hindicator⟩ := h
  -- Every character of the text stands between two others, or at an end, and is no indicator there.
  have hneighbour (u : List Char) (c : Char) (v : List Char) (huv : s = u ++ c :: v) :
      Neighbours.isIndicator ⟨u.getLast?, c, v.head?⟩ = false := by
    have hmem := Form.mem_neighbours none u c v
    rw [Option.or_none, ← huv] at hmem
    exact Bool.not_eq_true _ ▸ List.any_eq_false.1 hindicator _ hmem
  -- The first character has no neighbour in front, so it is judged as a sign.
  have hstart (c : Char) (v : List Char) (hs : s = c :: v) :
      c ∉ "#,[]\x7b\x7d&*!|>\x27\"%@\x60".toList ∧ (c = '?' ∨ c = ':' ∨ c = '-' → isEdge v.head? = false) := by
    have hfirst := hneighbour [] c v hs
    simp only [Neighbours.isIndicator, List.getLast?_nil, Bool.or_eq_false_iff] at hfirst
    refine ⟨fun hmem => ?_, fun hc => ?_⟩
    · rw [List.contains_iff_mem.2 hmem] at hfirst
      cases hfirst.1
    · rcases hc with rfl | rfl | rfl <;> exact hfirst.2
  have hblank : isBreak ' ' = false := by decide
  exact
    { ne := hne
      printable := fun c hc => by simpa using List.any_eq_false.1 hprintable c hc
      inline := fun c hc => by simpa using List.any_eq_false.1 hbreak c hc
      first := by
        rintro c hc
        obtain ⟨v, hs⟩ := List.head?_eq_some_iff.1 hc
        refine ⟨?_, ?_⟩
        · rintro rfl
          simp [hs] at hhead
        · rintro rfl
          exact (hstart '#' v hs).1 (by decide)
      last := by
        rintro c hc rfl
        simp [Option.mem_def.1 hc] at hlast
      colon := fun u v huv => by
        -- A colon at the start is a sign; any other one has a character in front of it.
        cases hu : u.getLast? with
        | none =>
          rw [List.getLast?_eq_none_iff.1 hu, List.nil_append] at huv
          exact (hstart ':' v huv).2 (.inr (.inl rfl))
        | some b =>
          have hcolon := hneighbour u ':' v huv
          simpa [Neighbours.isIndicator, hu] using hcolon
      -- A blank in front of a hash would make it a comment.
      hash := fun u v huv => by
        have hhash := hneighbour (u ++ [' ']) '#' v (by rw [huv, List.append_assoc]; rfl)
        rw [List.getLast?_concat] at hhash
        cases hhash
      start := fun c hc => by
        obtain ⟨v, hs⟩ := List.head?_eq_some_iff.1 hc
        exact (hstart c v hs).1
      sign := fun c v hs => (hstart c v hs).2
      marker := by
        rintro c - (rfl | rfl) hprefix
        · exact absurd (List.isPrefixOf_iff_prefix.2 hprefix) (by rw [hdashes]; exact Bool.false_ne_true)
        · exact absurd (List.isPrefixOf_iff_prefix.2 hprefix) (by rw [hdots]; exact Bool.false_ne_true) }

/-- Letters and digits have no meaning of their own. -/
theorem isEdge_of_isAsciiDigit {c : Char} (hc : Text.isAsciiDigit c = true) : isEdge (some c) = false := by
  have hword : isWordChar c = true := by rw [isWordChar, isNameChar, hc]; simp
  rw [isEdge, isSpaceOrTab_of_isWordChar hword, isBreak_of_isWordChar hword, Bool.or_self]

/-- Digits, with a minus sign or without. -/
theorem plainFits_digits {sign digits : List Char} (hsign : sign = [] ∨ sign = ['-']) (hne : digits ≠ [])
    (hdigits : ∀ c ∈ digits, Text.isAsciiDigit c = true) : PlainFits (sign ++ digits) := by
  -- A number is made of word characters without a dot.
  have hmem : ∀ c ∈ sign ++ digits, isWordChar c = true ∧ c ≠ '.' := by
    intro c hc
    rcases List.mem_append.1 hc with hc | hc
    · rcases hsign with rfl | rfl
      · cases hc
      · obtain rfl := List.mem_singleton.1 hc
        decide
    · have hdigit := hdigits c hc
      exact ⟨by rw [isWordChar, isNameChar, hdigit]; simp, ne_of_test hdigit (by decide)⟩
  have hnot (d : Char) (hd : isWordChar d = false) : d ∉ sign ++ digits := fun h => ne_of_test (hmem d h).1 hd rfl
  -- A minus is followed by a digit.
  have hsecond (c : Char) (v : List Char) (hcv : sign ++ digits = c :: v) (hc : c = '-') :
      ∃ d ∈ v.head?, Text.isAsciiDigit d = true := by
    obtain ⟨d, ds, rfl⟩ := List.exists_cons_of_ne_nil hne
    have hd := hdigits d List.mem_cons_self
    rcases hsign with rfl | rfl
    · obtain ⟨rfl, -⟩ := List.cons_eq_cons.1 hcv
      exact absurd hc (ne_of_test hd (by decide))
    · obtain ⟨-, rfl⟩ := List.cons_eq_cons.1 hcv
      exact ⟨d, rfl, hd⟩
  exact
    { ne := by simp [hne]
      printable := fun c hc => by
        obtain ⟨hlow, hhigh⟩ := bounds_of_isWordChar (hmem c hc).1
        have hvisible : (decide (' ' ≤ c) && decide (c ≤ '~')) = true := by
          simp only [Bool.and_eq_true, decide_eq_true_eq, Char.le_def, UInt32.le_iff_toNat_le]
          exact ⟨Nat.le_trans (by decide) hlow, Nat.le_trans hhigh (by decide)⟩
        simp [isPrintable, hvisible]
      inline := fun c hc => isBreak_of_isWordChar (hmem c hc).1
      first := fun c hc => by
        have hc := List.mem_of_mem_head? hc
        exact ⟨fun h => hnot ' ' (by decide) (h ▸ hc), fun h => hnot '#' (by decide) (h ▸ hc)⟩
      last := fun c hc h => hnot ' ' (by decide) (h ▸ List.mem_of_getLast? hc)
      colon := fun u v huv => absurd (by rw [huv]; simp) (hnot ':' (by decide))
      hash := fun u v huv => hnot '#' (by decide) (by rw [huv]; simp)
      start := fun c hc hmark => by
        have hword : ∀ d ∈ "#,[]\x7b\x7d&*!|>\x27\"%@\x60".toList, isWordChar d = false :=
          List.all_iff_forall_prop.1 (by decide)
        exact hnot c (hword c hmark) (List.mem_of_mem_head? hc)
      sign := fun c v hcv hc => by
        have hc : c = '-' := by
          rcases hc with rfl | rfl | hc
          · exact absurd (by rw [hcv]; exact List.mem_cons_self) (hnot '?' (by decide))
          · exact absurd (by rw [hcv]; exact List.mem_cons_self) (hnot ':' (by decide))
          · exact hc
        obtain ⟨d, hd, hdigit⟩ := hsecond c v hcv hc
        rw [Option.mem_def.1 hd]
        exact isEdge_of_isAsciiDigit hdigit
      marker := fun c hc hcases hprefix => by
        have hc' : c = '-' := hcases.resolve_right (hmem c (List.mem_of_mem_head? hc)).2
        obtain ⟨v, hv⟩ := hprefix
        obtain ⟨d, hd, hdigit⟩ := hsecond c ([c, c] ++ v) hv.symm hc'
        obtain rfl : c = d := Option.some.inj hd
        exact ne_of_test hdigit (show Text.isAsciiDigit '-' = false by decide) hc' }

/-- The text of an integer is written without quotes. -/
theorem plainFits_int (i : Int) : PlainFits (toString i).toList := by
  by_cases hi : 0 ≤ i
  · rw [Scalar.toList_toString_nonneg hi]
    exact plainFits_digits (.inl rfl) Nat.toDigits_ne_nil fun _ => isAsciiDigit_of_mem_toDigits
  · rw [Scalar.toList_toString_neg (by omega)]
    exact plainFits_digits (.inr rfl) Nat.toDigits_ne_nil fun _ => isAsciiDigit_of_mem_toDigits

end Scaffold.Yaml
