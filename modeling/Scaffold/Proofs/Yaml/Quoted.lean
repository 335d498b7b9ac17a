import Scaffold.Proofs.Yaml.Forms
import Scaffold.Proofs.Text.Ends

namespace Scaffold.Yaml

/-!
# Quoted scalars

A text between quotes is read as it was before it was written: single quotes double the quotes inside, double quotes
escape what could not stand there. Both leave spaces as they are, so reading goes from word to word, over gaps; in
single quotes a line separator is a gap too, with the indentation written behind it.

* `hexNumber?_hexDigits` — a number written with hexadecimal digits is read as that number;
* `Escapes.codes` — an escaped character is read as that character;
* `readQuoted_doubleQuoted`, `readQuoted_singleQuoted` — quoted texts are read as they were.
-/

/-! ### Moving the cursor -/

/-- Skipping as many characters as a text has, none of them a line break, leads behind the text. -/
theorem Cursor.skipN_append (s rest : List Char) (i l k : Nat) :
    Cursor.skipN s.length ⟨s ++ rest, i, l, k⟩ = ⟨rest, i + Chars.byteLength s, l, k + s.length⟩ := by
  induction s generalizing i k with
  | nil => rfl
  | cons c s ih =>
    rw [List.length_cons, Cursor.skipN]
    show Cursor.skipN s.length ⟨s ++ rest, i + c.utf8Size, l, k + 1⟩ = _
    rw [ih, Chars.byteLength_cons, Nat.add_assoc, Nat.add_assoc k, Nat.add_comm 1]

/-! ### Visible characters -/

/-- The visible characters of ASCII, and the space. -/
def isVisible (c : Char) : Bool := ' ' ≤ c && c ≤ '~'

/-- A visible character of ASCII takes one byte. -/
theorem utf8Size_of_isVisible {c : Char} (h : isVisible c = true) : c.utf8Size = 1 := by
  simp only [isVisible, Bool.and_eq_true, decide_eq_true_eq] at h
  exact Char.utf8Size_eq_one_iff.2 (UInt32.le_trans h.2 (by decide))

/-- A visible character may stand in a scalar as it is. -/
theorem isPrintable_of_isVisible {c : Char} (h : isVisible c = true) : isPrintable c = true := by
  rw [isVisible] at h
  simp [isPrintable, h]

/-- A visible character ends no line. -/
theorem isBreak_of_isVisible {c : Char} (h : isVisible c = true) : isBreak c = false := by
  rw [Bool.eq_false_iff]
  intro hbreak
  simp only [isBreak, Bool.or_eq_true, beq_iff_eq] at hbreak
  rcases hbreak with (((rfl | rfl) | rfl) | rfl) | rfl <;> cases h

/-- A text of visible characters has as many bytes as characters. -/
theorem byteLength_of_isVisible {s : List Char} (h : ∀ c ∈ s, isVisible c = true) : Chars.byteLength s = s.length := by
  induction s with
  | nil => rfl
  | cons c s ih =>
    rw [Chars.byteLength_cons, utf8Size_of_isVisible (h c List.mem_cons_self),
      ih fun d hd => h d (List.mem_cons_of_mem _ hd), Nat.add_comm, List.length_cons]

/-! ### Hexadecimal digits -/

/-- Capital letters for the digits from ten on. -/
def capitalDigit (c : Char) : Char := if 'a' ≤ c then Char.ofNat (c.toNat - 32) else c

/-- A digit that is written as a capital is read as what it stands for. -/
theorem hexDigit?_capitalDigit {d : Nat} (hd : d < 16) : hexDigit? (capitalDigit (Nat.digitChar d)) = some d := by
  revert d
  decide

/-- The last digit counts once, those in front of it sixteen times as much. -/
theorem hexNumber?_append (digits : List Char) (d : Char) :
    hexNumber? (digits ++ [d]) = (hexNumber? digits).bind fun n => (hexDigit? d).map (16 * n + ·) := by
  rw [hexNumber?, List.foldlM_append, hexNumber?]
  cases List.foldlM (fun n c => (hexDigit? c).map (16 * n + ·)) 0 digits with
  | none => rfl
  | some n =>
    show ((hexDigit? d).map (16 * n + ·) >>= fun x => some x) = _
    cases hexDigit? d <;> rfl

/-- The digits of a number are read as the number. -/
theorem hexNumber?_toDigits (n : Nat) : hexNumber? ((Nat.toDigits 16 n).map capitalDigit) = some n := by
  induction n using Nat.strongRecOn with
  | _ n ih =>
    -- The last digit stands behind the digits of the quotient.
    rw [Nat.toDigits_eq_if (by decide)]
    by_cases hsmall : n < 16
    · rw [if_pos hsmall]
      simp [hexNumber?, hexDigit?_capitalDigit hsmall]
    · have hlast : n % 16 < 16 := Nat.mod_lt n (by decide)
      rw [if_neg hsmall, List.map_append, List.map_cons, List.map_nil, hexNumber?_append, ih (n / 16) (by omega),
        Option.bind_some, hexDigit?_capitalDigit hlast, Option.map_some]
      congr 1
      omega

/-- A number written with hexadecimal digits is read as that number. -/
theorem hexNumber?_hexDigits (width n : Nat) : hexNumber? (hexDigits width n) = some n := by
  have hzeros (m : Nat) (digits : List Char) :
      hexNumber? (List.replicate m '0' ++ digits) = hexNumber? digits := by
    induction m with
    | zero => rfl
    | succ m ih =>
      have hzero : hexDigit? '0' = some 0 := by decide
      rw [List.replicate_succ, List.cons_append, hexNumber?, List.foldlM_cons, hzero]
      exact ih
  exact (hzeros _ _).trans (hexNumber?_toDigits n)

/-- There are as many digits as are asked for, if the number is small enough. -/
theorem length_hexDigits {width n : Nat} (hwidth : 0 < width) (hn : n < Nat.pow 16 width) :
    (hexDigits width n).length = width := by
  have hlength : (Nat.toDigits 16 n).length ≤ width := (Nat.length_toDigits_le_iff (by decide) hwidth).2 hn
  simp only [hexDigits, List.length_append, List.length_replicate, List.length_map]
  omega

/-- Digits are visible characters. -/
theorem isVisible_of_mem_hexDigits {width n : Nat} : ∀ c ∈ hexDigits width n, isVisible c = true := by
  have hdigit {d : Nat} (hd : d < 16) : isVisible (capitalDigit (Nat.digitChar d)) = true := by
    revert d
    decide
  have hdigits : ∀ c ∈ (Nat.toDigits 16 n).map capitalDigit, isVisible c = true := by
    -- A number has its digits in front of its last one; `Nat.toDigits` is taken apart at the end.
    induction n using Nat.strongRecOn with
    | _ n ih =>
      rw [Nat.toDigits_eq_if (by decide)]
      by_cases hsmall : n < 16
      · rw [if_pos hsmall]
        simpa using hdigit hsmall
      · rw [if_neg hsmall, List.map_append]
        intro c hc
        rcases List.mem_append.1 hc with hc | hc
        · exact ih (n / 16) (by omega) c hc
        · obtain rfl := List.mem_singleton.1 hc
          exact hdigit (Nat.mod_lt n (by decide))
  intro c hc
  rcases List.mem_append.1 hc with hc | hc
  -- The width is filled up with zeros.
  · rw [List.eq_of_mem_replicate hc]
    decide
  · exact hdigits c hc

/-- A character written as its code. -/
theorem readCode_hexDigits {width : Nat} (hwidth : 0 < width) {c : Char} (hc : c.toNat < Nat.pow 16 width)
    (rest : List Char) (i l k : Nat) : readCode width ⟨hexDigits width c.toNat ++ rest, i, l, k⟩
      = .ok (c, ⟨rest, i + Chars.byteLength (hexDigits width c.toNat), l, k + width⟩) := by
  have hlength := length_hexDigits hwidth hc
  have htake : (hexDigits width c.toNat ++ rest).take width = hexDigits width c.toNat := by
    rw [List.take_left' hlength]
  -- The code of a character is no surrogate and in the range of Unicode.
  have hvalid : ((0xD800 ≤ c.toNat && c.toNat ≤ 0xDFFF) || 0x10FFFF < c.toNat) = false := by
    have hc := c.valid
    have hnat : c.val.toNat = c.toNat := rfl
    rw [UInt32.isValidChar, Nat.isValidChar, hnat] at hc
    rw [Bool.or_eq_false_iff, Bool.and_eq_false_iff]
    simp only [decide_eq_false_iff_not]
    omega
  have hskip := Cursor.skipN_append (hexDigits width c.toNat) rest i l k
  rw [hlength] at hskip
  simp only [readCode, htake, hlength, if_true, hexNumber?_hexDigits, hvalid, Bool.false_eq_true, if_false, hskip,
    Char.ofNat_toNat]

/-! ### Escapes -/

/-- How a character is written between double quotes: as it is, with a letter that names it, or as its code. -/
inductive Escapes (c : Char) : List Char → Prop where
  | self (hprintable : isPrintable c = true) (hbreak : isBreak c = false) (hquote : c ≠ '"') (hslash : c ≠ '\\') :
      Escapes c [c]
  | name {e : Char} (he : isVisible e = true) (h : escape? e = some (.inl c)) : Escapes c ['\\', e]
  | code {e : Char} {width : Nat} (he : isVisible e = true) (h : escape? e = some (.inr width)) (hwidth : 0 < width)
      (hbound : c.toNat < Nat.pow 16 width) (hroom : width + 2 ≤ 4 * c.utf8Size) :
      Escapes c ('\\' :: e :: hexDigits width c.toNat)

/-- What is written for a character between double quotes is read as the character. -/
theorem escapes_escape (c : Char) : Escapes c (escape c) := by
  -- The forms are chosen by the size in UTF-8, which bounds the code.
  have htoNat : c.val.toNat = c.toNat := rfl
  have hone := @Char.utf8Size_eq_one_iff c
  have htwo := @Char.utf8Size_eq_two_iff c
  have hthree := @Char.utf8Size_eq_three_iff c
  have hfour := @Char.utf8Size_eq_four_iff c
  have hsize := c.utf8Size_eq
  rw [UInt32.le_iff_toNat_le, htoNat] at hone
  rw [UInt32.lt_iff_toNat_lt, UInt32.le_iff_toNat_le, htoNat] at htwo hthree
  rw [UInt32.lt_iff_toNat_lt, htoNat] at hfour
  simp at hone htwo hthree hfour
  unfold escape
  split
  case h_15 =>
    rename_i hzero hbell hback htab hline hvertical hform hreturn hescape hquote hslash hnext hseparator hparagraph
    split
    case isTrue hprintable =>
      refine .self hprintable ?_ hquote hslash
      simp [isBreak, show c ≠ '\n' from hline, show c ≠ '\r' from hreturn, show c ≠ '\u0085' from hnext,
        show c ≠ '\u2028' from hseparator, show c ≠ '\u2029' from hparagraph]
    case isFalse =>
      -- A code is written with two, four or eight digits, whichever holds it first.
      have hpow : Nat.pow 16 2 = 256 ∧ Nat.pow 16 4 = 65536 ∧ Nat.pow 16 8 = 4294967296 := by decide
      split
      case isTrue hbound => exact .code (by decide) rfl (by decide) (by omega) (by omega)
      case isFalse hlow =>
        split
        case isTrue hbound => exact .code (by decide) rfl (by decide) (by omega) (by omega)
        case isFalse hlow =>
          have hvalid := c.valid
          rw [UInt32.isValidChar, Nat.isValidChar, htoNat] at hvalid
          exact .code (by decide) rfl (by decide) (by omega) (by omega)
  -- What is left are the characters that have a name.
  all_goals exact .name (by decide) rfl

/-! ### Words between quotes -/

/-- Between quotes the text `code` stands for the character `c`. -/
def Codes (single : Bool) (code : List Char) (c : Char) : Prop :=
  ∀ (fuel : Nat) (acc rest : List Char) (i l k : Nat), readWord single (fuel + 1) acc ⟨code ++ rest, i, l, k⟩
    = readWord single fuel (c :: acc) ⟨rest, i + Chars.byteLength code, l, k + code.length⟩

/-- An escape of one character. -/
theorem codes_of_escape? {e c : Char} (hbreak : isBreak e = false) (h : escape? e = some (.inl c)) :
    Codes false ['\\', e] c := by
  intro fuel acc rest i l k
  have hslash : isSpaceOrTab '\\' = false ∧ isBreak '\\' = false := by decide
  simp [readWord, Cursor.peek, Cursor.peekAt, hslash, hbreak, h, Cursor.skipN, Cursor.skip, Chars.byteLength,
    Nat.add_assoc]

/-- A character that is written as its code. -/
theorem codes_of_width {e : Char} {width : Nat} (hbreak : isBreak e = false) (h : escape? e = some (.inr width))
    (hwidth : 0 < width) {c : Char} (hc : c.toNat < Nat.pow 16 width) :
    Codes false ('\\' :: e :: hexDigits width c.toNat) c := by
  intro fuel acc rest i l k
  have hread := readCode_hexDigits hwidth hc rest (i + '\\'.utf8Size + e.utf8Size) l (k + 1 + 1)
  have hlength := length_hexDigits hwidth hc
  have hslash : isSpaceOrTab '\\' = false ∧ isBreak '\\' = false := by decide
  have hnext : ('\\' :: e :: hexDigits width c.toNat ++ rest)[1]? = some e := rfl
  have hskip : (⟨'\\' :: e :: hexDigits width c.toNat ++ rest, i, l, k⟩ : Cursor).skipN 2
      = ⟨hexDigits width c.toNat ++ rest, i + '\\'.utf8Size + e.utf8Size, l, k + 1 + 1⟩ := rfl
  -- The cursor behind the digits has passed the whole escape.
  have hcursor : (⟨rest, i + '\\'.utf8Size + e.utf8Size + Chars.byteLength (hexDigits width c.toNat), l,
      k + 1 + 1 + width⟩
        : Cursor)
      = ⟨rest, i + Chars.byteLength ('\\' :: e :: hexDigits width c.toNat), l,
          k + ('\\' :: e :: hexDigits width c.toNat).length⟩ := by
    rw [Chars.byteLength_cons, Chars.byteLength_cons, List.length_cons, List.length_cons, hlength]
    simp only [Cursor.mk.injEq, true_and]
    omega
  rw [readWord, Cursor.peek, Cursor.peekAt, hnext, hskip]
  simp [hslash, hbreak, h, hread, hcursor]

/-- A character that is written as it is. -/
theorem codes_self {single : Bool} {c : Char} (hspace : isSpaceOrTab c = false) (hbreak : isBreak c = false)
    (hquote : c ≠ (if single then '\x27' else '"')) (hescape : single = true ∨ c ≠ '\\') : Codes single [c] c := by
  intro fuel acc rest i l k
  cases single with
  | true =>
    have hc : c ≠ '\x27' := by simpa using hquote
    simp [readWord, Cursor.peek, hspace, hbreak, hc, Cursor.skip, Chars.byteLength]
  | false =>
    have hc : c ≠ '"' := by simpa using hquote
    have hc' : c ≠ '\\' := by simpa using hescape
    simp [readWord, Cursor.peek, hspace, hbreak, hc, hc', Cursor.skip, Chars.byteLength]

/-- An escape is code for its character. -/
theorem Escapes.codes {c : Char} {code : List Char} (h : Escapes c code) (hc : c ≠ ' ') : Codes false code c := by
  cases h with
  | self hprintable hline hquote hslash =>
    refine codes_self ?_ hline hquote (.inr hslash)
    rw [Form.isSpaceOrTab_of_isPrintable hprintable]
    simpa using hc
  | name he h => exact codes_of_escape? (isBreak_of_isVisible he) h
  | code he h hwidth hbound _ => exact codes_of_width (isBreak_of_isVisible he) h hwidth hbound

/-- An escaped character is read as that character. -/
theorem codes_escape {c : Char} (hc : c ≠ ' ') : Codes false (escape c) c := (escapes_escape c).codes hc

/-- A code starts with a character that is neither a blank nor a line break. -/
theorem Codes.exists_cons {single : Bool} {code : List Char} {c : Char} (h : Codes single code c) :
    ∃ d rest, code = d :: rest ∧ (isSpaceOrTab d || isBreak d) = false := by
  -- Else the word would end in front of it.
  have hread := h 1 [] [] 0 0 0
  cases code with
  | nil => simp [readWord, Cursor.peek] at hread
  | cons d rest =>
    refine ⟨d, rest, rfl, ?_⟩
    cases hgap : isSpaceOrTab d || isBreak d with
    | false => rfl
    | true => simp [readWord, Cursor.peek, hgap] at hread

/-- The text ends a word. -/
def EndsWord (single : Bool) (tail : List Char) : Prop :=
  ∀ (fuel : Nat) (acc : List Char) (i l k : Nat),
    readWord single (fuel + 1) acc ⟨tail, i, l, k⟩ = .ok (acc.reverse, false, ⟨tail, i, l, k⟩)

/-- Behind a blank or a line break, a word of a quoted scalar ends. -/
theorem endsWord_gap (single : Bool) {x : Char} (hx : (isSpaceOrTab x || isBreak x) = true) (tail : List Char) :
    EndsWord single (x :: tail) := by
  intro fuel acc i l k
  simp [readWord, Cursor.peek, hx]

/-- The quotation mark of a kind of scalar. -/
def quoteMark (single : Bool) : Char := if single then '\x27' else '"'

/-- The closing quote ends a word; behind a single one there must be no other. -/
theorem endsWord_quote (single : Bool) {behind : List Char} (h : single = true → behind.head? ≠ some '\x27') :
    EndsWord single (quoteMark single :: behind) := by
  intro fuel acc i l k
  have hquote : isSpaceOrTab (quoteMark single) = false ∧ isBreak (quoteMark single) = false := by
    cases single <;> decide
  cases single with
  | true =>
    -- In single quotes, a second quote behind the first would be a quote in the text.
    have hnext : behind[0]? ≠ some '\x27' := by
      rw [← List.head?_eq_getElem?]
      exact h rfl
    simp only [quoteMark, if_true] at hquote
    simp [readWord, Cursor.peek, Cursor.peekAt, quoteMark, hquote.1, hquote.2, hnext]
  | false =>
    simp only [quoteMark, Bool.false_eq_true, if_false] at hquote
    simp [readWord, Cursor.peek, quoteMark, hquote.1, hquote.2]

/-- A word is read up to what ends it. -/
theorem readWord_flatMap {single : Bool} {code : Char → List Char} {w : List Char}
    (hw : ∀ c ∈ w, Codes single (code c) c) {tail : List Char} (htail : EndsWord single tail) (fuel : Nat)
    (hfuel : w.length < fuel) (acc : List Char) (i l k : Nat) :
    readWord single fuel acc ⟨w.flatMap code ++ tail, i, l, k⟩
      = .ok (acc.reverse ++ w, false,
          ⟨tail, i + Chars.byteLength (w.flatMap code), l, k + (w.flatMap code).length⟩) := by
  -- The induction is on the text; each character costs one step of the fuel.
  induction w generalizing fuel acc i k with
  | nil =>
    obtain ⟨fuel, rfl⟩ : ∃ m, fuel = m + 1 := ⟨fuel - 1, by omega⟩
    rw [List.flatMap_nil, List.nil_append, htail]
    simp [Chars.byteLength]
  | cons c w ih =>
    obtain ⟨fuel, rfl⟩ : ∃ m, fuel = m + 1 := ⟨fuel - 1, by omega⟩
    rw [List.flatMap_cons, List.append_assoc, hw c List.mem_cons_self,
      ih (fun d hd => hw d (List.mem_cons_of_mem _ hd)) fuel (by simp only [List.length_cons] at hfuel; omega),
      Chars.byteLength_append, List.length_append, Nat.add_assoc, Nat.add_assoc]
    simp

/-! ### Gaps between quotes -/

/-- The line separators that a scalar keeps. -/
def isSeparator (c : Char) : Bool := c == '\u2028' || c == '\u2029'

/-- A line separator ends a line and is no blank of YAML. -/
theorem isBreak_of_isSeparator {c : Char} (hc : isSeparator c = true) : isSpaceOrTab c = false ∧ isBreak c = true := by
  rw [isSeparator, Bool.or_eq_true, beq_iff_eq, beq_iff_eq] at hc
  rcases hc with rfl | rfl <;> decide

/-- A line separator is read as itself. -/
theorem readBreak_separator {b : Char} (hb : isSeparator b = true) (rest : List Char) (i l k : Nat) :
    (⟨b :: rest, i, l, k⟩ : Cursor).readBreak = ([b], ⟨rest, i + b.utf8Size, l + 1, 0⟩) := by
  rw [isSeparator, Bool.or_eq_true, beq_iff_eq, beq_iff_eq] at hb
  rcases hb with rfl | rfl <;> rfl

/-- Further line separators, and the indentation of the line behind them. -/
theorem readGap_separators (n : Nat) {rest : List Char}
    (hrest : ∀ c ∈ rest.head?, (isSpaceOrTab c || isBreak c) = false) {bs : List Char}
    (hbs : ∀ c ∈ bs, isSeparator c = true) (fuel : Nat) (hfuel : bs.length + n < fuel) (first later : List Char)
    (i l : Nat) :
    readGap none fuel ⟨[], true, first, later⟩ ⟨bs ++ (List.replicate n ' ' ++ rest), i, l, 0⟩
      = .ok (⟨[], true, first, later ++ bs⟩, ⟨rest, i + Chars.byteLength bs + n, l + bs.length, n⟩) := by
  -- The separators that have been read stand in `later`.
  induction bs generalizing fuel later i l with
  | nil =>
    rw [List.nil_append, readGap_blanks none n (fun c hc => Bool.or_eq_false_iff.1 (hrest c hc)) fuel
      (by simpa using hfuel) rfl]
    simp [Chars.byteLength]
  | cons b bs ih =>
    obtain ⟨fuel, rfl⟩ : ∃ m, fuel = m + 1 := ⟨fuel - 1, by omega⟩
    obtain ⟨hspace, hb⟩ := isBreak_of_isSeparator (hbs b List.mem_cons_self)
    -- A separator is kept as it is, and the next line is looked at.
    have hstep : readGap none (fuel + 1) ⟨[], true, first, later⟩
        ⟨b :: (bs ++ (List.replicate n ' ' ++ rest)), i, l, 0⟩
        = readGap none fuel ⟨[], true, first, later ++ [b]⟩
            ⟨bs ++ (List.replicate n ' ' ++ rest), i + b.utf8Size, l + 1, 0⟩ := by
      simp [readGap, Cursor.peek, hspace, hb, readBreak_separator (hbs b List.mem_cons_self)]
    rw [List.cons_append, hstep, ih (fun d hd => hbs d (List.mem_cons_of_mem _ hd)) fuel
      (by simp only [List.length_cons] at hfuel; omega), List.append_assoc, Chars.byteLength_cons, Nat.add_assoc i,
      List.length_cons, Nat.add_assoc l, Nat.add_comm 1]
    rfl

/-- A gap with line separators. -/
theorem readGap_separator (n : Nat) {rest : List Char}
    (hrest : ∀ c ∈ rest.head?, (isSpaceOrTab c || isBreak c) = false) {b : Char} {bs : List Char}
    (hbs : ∀ c ∈ b :: bs, isSeparator c = true) (fuel : Nat) (hfuel : bs.length + n + 1 < fuel) (i l k : Nat) :
    readGap none fuel {} ⟨b :: bs ++ (List.replicate n ' ' ++ rest), i, l, k⟩
      = .ok (⟨[], true, [b], bs⟩, ⟨rest, i + Chars.byteLength (b :: bs) + n, l + (b :: bs).length, n⟩) := by
  obtain ⟨fuel, rfl⟩ : ∃ m, fuel = m + 1 := ⟨fuel - 1, by omega⟩
  obtain ⟨hspace, hb⟩ := isBreak_of_isSeparator (hbs b List.mem_cons_self)
  -- The first break starts the gap, the others are counted, and the blanks of the last line are passed over.
  have hstep : readGap none (fuel + 1) {} ⟨b :: (bs ++ (List.replicate n ' ' ++ rest)), i, l, k⟩
      = readGap none fuel ⟨[], true, [b], []⟩ ⟨bs ++ (List.replicate n ' ' ++ rest), i + b.utf8Size, l + 1, 0⟩ := by
    simp [readGap, Cursor.peek, hspace, hb, readBreak_separator (hbs b List.mem_cons_self)]
  rw [List.cons_append, hstep, readGap_separators n hrest (fun d hd => hbs d (List.mem_cons_of_mem _ hd)) fuel
    (by omega), Chars.byteLength_cons, Nat.add_assoc i, List.length_cons, Nat.add_assoc l, Nat.add_comm 1]
  rfl

/-! ### From quote to quote -/

/-- The text `written` between quotes is read as the text `meant`: a word, or a word with a gap and more text behind
    it. -/
inductive Quotes (single : Bool) (code : Char → List Char) : (meant written : List Char) → Prop where
  | word {w : List Char} (hw : ∀ c ∈ w, Codes single (code c) c) : Quotes single code w (w.flatMap code)
  | spaces {w meant written : List Char} (hw : ∀ c ∈ w, Codes single (code c) c) {n : Nat} (hn : 0 < n)
      (hwritten : ∀ c ∈ written.head?, (isSpaceOrTab c || isBreak c) = false) (h : Quotes single code meant written) :
      Quotes single code (w ++ (List.replicate n ' ' ++ meant)) (w.flatMap code ++ (List.replicate n ' ' ++ written))
  | separators {w meant written : List Char} (hw : ∀ c ∈ w, Codes single (code c) c) {b : Char} {bs : List Char}
      (hbs : ∀ c ∈ b :: bs, isSeparator c = true) {n : Nat} (hn : 0 < n)
      (hwritten : ∀ c ∈ written.head?, (isSpaceOrTab c || isBreak c) = false) (h : Quotes single code meant written) :
      Quotes single code (w ++ (b :: bs ++ meant)) (w.flatMap code ++ (b :: bs ++ (List.replicate n ' ' ++ written)))

section Rounds

variable {single : Bool} {budget fuel : Nat} {acc text word : List Char} {i l k : Nat}

/-- A round that reads a word, behind the first column, where no document marker can be. -/
theorem readQuotedFrom_round (hk : 0 < k) (htext : text ≠ []) {c : Cursor}
    (hword : readWord single budget [] ⟨text, i, l, k⟩ = .ok (word, false, c)) :
    readQuotedFrom single budget (fuel + 1) acc ⟨text, i, l, k⟩
      = if c.peek = some (quoteMark single) then .ok (acc ++ word, c.skip)
        else (readGap none budget {} c).bind fun (gap, c) =>
          readQuotedFrom single budget fuel (acc ++ word ++ gap.text) c := by
  have hmarker : (⟨text, i, l, k⟩ : Cursor).atAnyMarker = false := by
    simp [Cursor.atAnyMarker, Cursor.atMarker, Nat.ne_of_gt hk]
  have hend : (⟨text, i, l, k⟩ : Cursor).atEnd = false := by simpa [Cursor.atEnd] using htext
  rw [readQuotedFrom, hmarker, hend, if_neg Bool.false_ne_true, if_neg Bool.false_ne_true, hword]
  rfl

/-- The last round ends with the closing quote. -/
theorem readQuotedFrom_last (hk : 0 < k) (htext : text ≠ []) {behind : List Char} {i' l' k' : Nat}
    (hword : readWord single budget [] ⟨text, i, l, k⟩ = .ok (word, false, ⟨quoteMark single :: behind, i', l', k'⟩)) :
    readQuotedFrom single budget (fuel + 1) acc ⟨text, i, l, k⟩ = .ok (acc ++ word, ⟨behind, i' + 1, l', k' + 1⟩) := by
  have hsize : (quoteMark single).utf8Size = 1 := by cases single <;> decide
  rw [readQuotedFrom_round hk htext hword, if_pos (by rfl)]
  show Except.ok (acc ++ word, (⟨behind, i' + (quoteMark single).utf8Size, l', k' + 1⟩ : Cursor)) = _
  rw [hsize]

/-- Another round goes on behind a gap. -/
theorem readQuotedFrom_gap (hk : 0 < k) (htext : text ≠ []) {x : Char} {rest : List Char} {i' l' k' : Nat}
    (hx : (isSpaceOrTab x || isBreak x) = true)
    (hword : readWord single budget [] ⟨text, i, l, k⟩ = .ok (word, false, ⟨x :: rest, i', l', k'⟩)) {gap : Gap}
    {c : Cursor} (hgap : readGap none budget {} ⟨x :: rest, i', l', k'⟩ = .ok (gap, c)) :
    readQuotedFrom single budget (fuel + 1) acc ⟨text, i, l, k⟩
      = readQuotedFrom single budget fuel (acc ++ word ++ gap.text) c := by
  have hquote : x ≠ quoteMark single := by
    rintro rfl
    cases single <;> cases hx
  rw [readQuotedFrom_round hk htext hword, if_neg (by simpa [Cursor.peek] using hquote), hgap]
  rfl

end Rounds

/-- Behind a gap, the text goes on with another word or with the closing quote. -/
theorem head?_append_quoteMark {written : List Char}
    (hwritten : ∀ c ∈ written.head?, (isSpaceOrTab c || isBreak c) = false) (single : Bool) (behind : List Char) :
    ∀ c ∈ (written ++ quoteMark single :: behind).head?, (isSpaceOrTab c || isBreak c) = false := by
  cases written with
  | nil =>
    rintro c ⟨⟩
    cases single <;> rfl
  | cons d written => exact hwritten

/-- The code of a text is at least as long as the text. -/
theorem length_le_flatMap {single : Bool} {code : Char → List Char} {w : List Char}
    (hw : ∀ c ∈ w, Codes single (code c) c) : w.length ≤ (w.flatMap code).length := by
  induction w with
  | nil => exact Nat.le_refl 0
  | cons c w ih =>
    have htail := ih fun d hd => hw d (List.mem_cons_of_mem _ hd)
    obtain ⟨d, rest, hcode, -⟩ := (hw c List.mem_cons_self).exists_cons
    rw [List.flatMap_cons, hcode]
    simp only [List.length_cons, List.length_append]
    omega

/-- A text between quotes is read up to and with the closing one. It ends on the line where it starts, unless there is
    a line separator in it. -/
theorem Quotes.read {single : Bool} {code : Char → List Char} {meant written : List Char}
    (h : Quotes single code meant written) {behind : List Char} (hbehind : single = true → behind.head? ≠ some '\x27')
    {budget : Nat} (hbudget : written.length < budget) (fuel : Nat) (hfuel : written.length < fuel) (acc : List Char)
    (i l k : Nat) (hk : 0 < k) :
    ∃ l' k', readQuotedFrom single budget fuel acc ⟨written ++ quoteMark single :: behind, i, l, k⟩
        = .ok (acc ++ meant, ⟨behind, i + Chars.byteLength written + 1, l', k'⟩) ∧
      l ≤ l' ∧ (meant.any isBreak = false → l' = l ∧ k < k') := by
  -- The induction is on how the text was written: words, and the gaps between them.
  induction h generalizing fuel acc i l k with
  | word hw =>
    obtain ⟨fuel, rfl⟩ : ∃ m, fuel = m + 1 := ⟨fuel - 1, by omega⟩
    have hlength := length_le_flatMap hw
    have hword := readWord_flatMap hw (endsWord_quote single hbehind) budget (by omega) [] i l k
    exact ⟨l, _, readQuotedFrom_last hk (by simp) hword, Nat.le_refl l, fun _ => ⟨rfl, by omega⟩⟩
  | @spaces w meant written hw n hn hwritten _ ih =>
    obtain ⟨fuel, rfl⟩ : ∃ m, fuel = m + 1 := ⟨fuel - 1, by omega⟩
    obtain ⟨n, rfl⟩ : ∃ m, n = m + 1 := ⟨n - 1, by omega⟩
    have hlength := length_le_flatMap hw
    simp only [List.length_append, List.length_replicate] at hbudget hfuel
    obtain ⟨l', k', hread, hl, hline⟩ := ih (by omega) fuel (by omega) (acc ++ w ++ List.replicate (n + 1) ' ')
      (i + Chars.byteLength (w.flatMap code) + (n + 1)) l (k + (w.flatMap code).length + (n + 1)) (by omega)
    have hword := readWord_flatMap hw (endsWord_gap single (x := ' ') (by decide)
      (List.replicate n ' ' ++ (written ++ quoteMark single :: behind))) budget (by omega) [] i l k
    have hgap := readGap_spaces none (n + 1) (head?_append_quoteMark hwritten single behind) budget (by omega) []
      (i + Chars.byteLength (w.flatMap code)) l (k + (w.flatMap code).length)
    -- A gap of spaces stays on its line and means itself.
    refine ⟨l', k', ?_, hl, fun hbreak => ?_⟩
    · rw [List.append_assoc, List.append_assoc, List.replicate_succ, List.cons_append,
        readQuotedFrom_gap hk (by simp) (by decide) hword hgap, List.reverse_nil, List.nil_append]
      show readQuotedFrom single budget fuel (acc ++ w ++ List.replicate (n + 1) ' ') _ = _
      rw [hread, ← List.replicate_succ]
      simp only [Chars.byteLength_append, Chars.byteLength_replicate_space, List.append_assoc, Nat.add_assoc]
    · simp only [List.any_append, Bool.or_eq_false_iff] at hbreak
      obtain ⟨hl', hk'⟩ := hline hbreak.2.2
      exact ⟨hl', by omega⟩
  | @separators w meant written hw b bs hbs n hn hwritten _ ih =>
    obtain ⟨fuel, rfl⟩ : ∃ m, fuel = m + 1 := ⟨fuel - 1, by omega⟩
    have hlength := length_le_flatMap hw
    have hb := (isBreak_of_isSeparator (hbs b List.mem_cons_self)).2
    simp only [List.length_append, List.length_replicate, List.length_cons] at hbudget hfuel
    obtain ⟨l', k', hread, hl, -⟩ := ih (by omega) fuel (by omega) (acc ++ w ++ b :: bs)
      (i + Chars.byteLength (w.flatMap code) + Chars.byteLength (b :: bs) + n) (l + (b :: bs).length) n hn
    have hword := readWord_flatMap hw (endsWord_gap single (x := b) (by rw [hb, Bool.or_true])
      (bs ++ (List.replicate n ' ' ++ (written ++ quoteMark single :: behind)))) budget (by omega) [] i l k
    have hgap := readGap_separator n (head?_append_quoteMark hwritten single behind) hbs budget (by omega)
      (i + Chars.byteLength (w.flatMap code)) l (k + (w.flatMap code).length)
    -- A gap that starts with a separator means all of its breaks; a line feed would mean a space.
    have hkept : (⟨[], true, [b], bs⟩ : Gap).text = b :: bs := by
      have hb : ¬ [b] = ['\n'] := by
        intro hline
        have hseparator := hbs b List.mem_cons_self
        rw [List.singleton_inj.1 hline] at hseparator
        cases hseparator
      rw [Gap.text, if_pos rfl, if_neg hb]
      rfl
    refine ⟨l', k', ?_, by omega, fun hbreak => ?_⟩
    · rw [List.append_assoc, List.append_assoc, List.append_assoc,
        List.cons_append, readQuotedFrom_gap hk (by simp) (by rw [hb, Bool.or_true]) hword hgap, hkept,
        List.reverse_nil, List.nil_append, hread]
      simp only [Chars.byteLength_append, Chars.byteLength_replicate_space, List.append_assoc, Nat.add_assoc]
    -- A text with a gap of this kind has a break in it.
    · simp [hb] at hbreak

/-! ### Double quotes -/

/-- Characters that stand for themselves are their own code. -/
theorem flatMap_replicate_of_self {code : Char → List Char} {c : Char} (h : code c = [c]) (n : Nat) :
    (List.replicate n c).flatMap code = List.replicate n c := by
  induction n with
  | zero => rfl
  | succ n ih => rw [List.replicate_succ, List.flatMap_cons, h, ih, List.singleton_append]

/-- What is written between double quotes stands for the text. -/
theorem quotes_escape (s : List Char) : Quotes false escape s (s.flatMap escape) := by
  have hcodes {w : List Char} (hw : ∀ c ∈ w, (c == ' ') = false) : ∀ c ∈ w, Codes false (escape c) c :=
    fun c hc => codes_escape (by simpa using hw c hc)
  -- Words are the characters between the spaces, which stand for themselves.
  induction s using Chars.runs_induction (· == ' ') with
  | last w hw => exact .word (hcodes hw)
  | gap w g rest hw hne hg hrest ih =>
    obtain ⟨n, rfl⟩ : ∃ n, g = List.replicate n ' ' := ⟨g.length, List.eq_replicate_iff.2 ⟨rfl, by simpa using hg⟩⟩
    have hspaces : (List.replicate n ' ').flatMap escape = List.replicate n ' ' :=
      flatMap_replicate_of_self (by decide) n
    rw [List.flatMap_append, List.flatMap_append, hspaces]
    refine .spaces (hcodes hw) (Nat.pos_of_ne_zero fun hn => hne (by rw [hn]; rfl)) (fun c hc => ?_) ih
    -- What is written behind the spaces starts with no blank.
    cases rest with
    | nil => cases hc
    | cons d rest =>
      obtain ⟨e, code, hcode, hgap⟩ := (codes_escape (by simpa using hrest d rfl)).exists_cons
      rw [List.flatMap_cons, hcode] at hc
      obtain rfl : e = c := by simpa using hc
      exact hgap

/-! ### Single quotes -/

/-- A character between single quotes. -/
def double (c : Char) : List Char := if c = '\x27' then ['\x27', '\x27'] else [c]

/-- Between single quotes, a character stands for itself, or a quote is doubled. -/
theorem codes_double {c : Char} (hspace : isSpaceOrTab c = false) (hbreak : isBreak c = false) :
    Codes true (double c) c := by
  rw [double]
  split
  case isTrue hquote =>
    subst hquote
    intro fuel acc rest i l k
    simp [readWord, Cursor.peek, Cursor.peekAt, hspace, hbreak, Cursor.skipN, Cursor.skip, Chars.byteLength,
      Nat.add_assoc]
  case isFalse hquote => exact codes_self hspace hbreak hquote (.inl rfl)

/-- Without a line break, what stands between single quotes has no indentation in it. -/
theorem singleBody_append (n : Nat) {w : List Char} (hw : ∀ c ∈ w, isBreak c = false) (t : List Char) :
    singleBody n false (w ++ t) = w.flatMap double ++ singleBody n false t := by
  induction w with
  | nil => rfl
  | cons c w ih =>
    have htail := ih fun d hd => hw d (List.mem_cons_of_mem _ hd)
    rw [List.cons_append, singleBody, if_neg (by simp [hw c List.mem_cons_self]), htail, List.flatMap_cons]
    simp [double]

/-- Without line breaks, the text between single quotes is its characters with the quotes doubled. -/
theorem singleBody_of_no_break (n : Nat) {s : List Char} (hs : ∀ c ∈ s, isBreak c = false) :
    singleBody n false s = s.flatMap double := by
  have happend := singleBody_append n hs []
  rwa [List.append_nil, singleBody, if_neg Bool.false_ne_true, List.append_nil] at happend

/-- Behind line breaks there is indentation. -/
theorem singleBody_breaks (n : Nat) {b : Char} {bs : List Char} (hbs : ∀ c ∈ b :: bs, isBreak c = true)
    {t : List Char} (ht : ∀ c ∈ t.head?, isBreak c = false) :
    singleBody n false (b :: bs ++ t) = b :: bs ++ (pad n ++ singleBody n false t) := by
  -- Behind the first break nothing is added until the line starts.
  have hbehind (bs : List Char) (hbs : ∀ c ∈ bs, isBreak c = true) :
      singleBody n true (bs ++ t) = bs ++ (pad n ++ singleBody n false t) := by
    induction bs with
    | nil =>
      cases t with
      | nil => simp [singleBody]
      | cons c t => simp [singleBody, ht c rfl]
    | cons c bs ih =>
      have htail := ih fun d hd => hbs d (List.mem_cons_of_mem _ hd)
      rw [List.cons_append, singleBody, if_pos (hbs c List.mem_cons_self), htail, List.cons_append]
  rw [List.cons_append, singleBody, if_pos (hbs b List.mem_cons_self),
    hbehind bs fun c hc => hbs c (List.mem_cons_of_mem _ hc), List.cons_append]

/-- A text that may stand between single quotes. -/
structure SingleFits (s : List Char) : Prop where
  printable : ∀ c ∈ s, isPrintable c = true
  line : '\n' ∉ s
  spaceBreak : Form.NoPair (· == ' ') isBreak s
  breakSpace : Form.NoPair isBreak (· == ' ') s

/-- The end of a text that fits between single quotes fits, too. -/
theorem SingleFits.right {t s : List Char} (h : SingleFits (t ++ s)) : SingleFits s where
  printable c hc := h.printable c (List.mem_append_right t hc)
  line hmem := h.line (List.mem_append_right t hmem)
  spaceBreak := h.spaceBreak.right
  breakSpace := h.breakSpace.right

/-- The only breaks that fit between single quotes are line separators. -/
theorem SingleFits.isSeparator {s : List Char} (h : SingleFits s) {c : Char} (hc : c ∈ s) (hbreak : isBreak c = true) :
    isSeparator c = true := by
  rcases Form.eq_of_isPrintable_of_isBreak (h.printable c hc) hbreak with rfl | rfl | rfl
  · exact absurd hc h.line
  · rfl
  · rfl

/-- What is written between single quotes stands for the text. -/
theorem quotes_singleBody {n : Nat} (hn : 0 < n) {s : List Char} (hs : SingleFits s) :
    Quotes true double s (singleBody n false s) := by
  have hsplit {c : Char} (hgap : (c == ' ' || isBreak c) = false) : (c == ' ') = false ∧ isBreak c = false :=
    Bool.or_eq_false_iff.1 hgap
  have hcode {c : Char} (hprintable : isPrintable c = true) (hgap : (c == ' ' || isBreak c) = false) :
      Codes true (double c) c :=
    codes_double (by rw [Form.isSpaceOrTab_of_isPrintable hprintable]; exact (hsplit hgap).1) (hsplit hgap).2
  -- The induction is on the gaps of the text, which are runs of spaces or breaks.
  induction s using Chars.runs_induction (fun c => c == ' ' || isBreak c) with
  | last w hw =>
    rw [singleBody_of_no_break n fun c hc => (hsplit (hw c hc)).2]
    exact .word fun c hc => hcode (hs.printable c hc) (hw c hc)
  | gap w g rest hw hne hg hrest ih =>
    have hrestFits : SingleFits rest := hs.right.right
    have hcodes : ∀ c ∈ w, Codes true (double c) c := fun c hc =>
      hcode (hs.printable c (List.mem_append_left _ hc)) (hw c hc)
    -- The next word does not start with a blank, nor does its code.
    have hwritten : ∀ c ∈ (singleBody n false rest).head?, (isSpaceOrTab c || isBreak c) = false := by
      intro c hc
      cases rest with
      | nil => cases hc
      | cons d rest =>
        obtain ⟨e, code, hd, hgap⟩ := (hcode (hrestFits.printable d List.mem_cons_self) (hrest d rfl)).exists_cons
        rw [← List.singleton_append, singleBody_append n (by simpa using (hsplit (hrest d rfl)).2), List.flatMap_cons,
          hd] at hc
        obtain rfl : e = c := by simpa using hc
        exact hgap
    obtain ⟨b, bs, rfl⟩ := List.exists_cons_of_ne_nil hne
    have hb := hg b List.mem_cons_self
    have hbs : ∀ c ∈ bs, c == ' ' ∨ isBreak c = true := fun c hc => by
      simpa using hg c (List.mem_cons_of_mem _ hc)
    rw [singleBody_append n fun c hc => (hsplit (hw c hc)).2]
    -- The gap is a run of spaces or a run of breaks, since no pair of the two is allowed.
    rw [Bool.or_eq_true] at hb
    rcases hb with hb | hb
    · -- A space, and then only spaces.
      have hall := Form.NoPair.all hs.spaceBreak.right hb hbs
      obtain ⟨m, hm⟩ : ∃ m, b :: bs = List.replicate m ' ' := ⟨(b :: bs).length,
        List.eq_replicate_iff.2 ⟨rfl, List.forall_mem_cons.2 ⟨beq_iff_eq.1 hb, fun c hc => beq_iff_eq.1 (hall c hc)⟩⟩⟩
      have hspaces : singleBody n false (List.replicate m ' ' ++ rest)
          = List.replicate m ' ' ++ singleBody n false rest := by
        rw [singleBody_append n (by simp [isBreak]), flatMap_replicate_of_self (by decide)]
      rw [hm, hspaces]
      exact .spaces hcodes (Nat.pos_of_ne_zero fun h => by rw [h] at hm; cases hm) hwritten (ih hrestFits)
    · -- A line separator, and then only separators.
      have hall := Form.NoPair.all hs.breakSpace.right hb fun c hc => (hbs c hc).symm
      have hbreaks : ∀ c ∈ b :: bs, isBreak c = true := List.forall_mem_cons.2 ⟨hb, hall⟩
      rw [singleBody_breaks n hbreaks fun c hc => (hsplit (hrest c hc)).2]
      exact .separators hcodes (fun c hc => hs.right.isSeparator (List.mem_append_left _ hc) (hbreaks c hc)) hn hwritten
        (ih hrestFits)

/-! ### Quoted texts -/

/-- A quoted text is read as what it means, whatever stands behind it; behind a single quote there must be no other. -/
theorem Quotes.readQuoted {single : Bool} {code : Char → List Char} {meant written : List Char}
    (h : Quotes single code meant written) (behind : List Char) (hbehind : single = true → behind.head? ≠ some '\x27')
    (i l k : Nat) :
    ∃ l' k', Yaml.readQuoted single ⟨quoteMark single :: (written ++ quoteMark single :: behind), i, l, k⟩
        = .ok (meant, ⟨behind, i + (Chars.byteLength written + 2), l', k'⟩) ∧
      l ≤ l' ∧ (meant.any isBreak = false → l' = l ∧ k < k') := by
  have hsize : (quoteMark single).utf8Size = 1 := by cases single <;> decide
  -- The budget and the fuel are both the number of characters that are left.
  have hbudget : written.length < (quoteMark single :: (written ++ quoteMark single :: behind)).length + 1 := by
    simp only [List.length_cons, List.length_append]
    omega
  obtain ⟨l', k', hread, hl, hline⟩ := h.read hbehind hbudget _ hbudget [] (i + (quoteMark single).utf8Size) l (k + 1)
    (Nat.succ_pos k)
  refine ⟨l', k', ?_, hl, fun hbreak => ⟨(hline hbreak).1, by have := (hline hbreak).2; omega⟩⟩
  show readQuotedFrom single _ _ [] ⟨written ++ quoteMark single :: behind, i + (quoteMark single).utf8Size, l, k + 1⟩
      = _
  rw [hread, hsize, show i + 1 + Chars.byteLength written + 1 = i + (Chars.byteLength written + 2) by omega]
  rfl

/-- A text in double quotes is read as it was. -/
theorem readQuoted_doubleQuoted (s behind : List Char) (i l k : Nat) :
    ∃ l' k', readQuoted false ⟨doubleQuoted s ++ behind, i, l, k⟩
        = .ok (s, ⟨behind, i + Chars.byteLength (doubleQuoted s), l', k'⟩) ∧
      l ≤ l' ∧ (s.any isBreak = false → l' = l ∧ k < k') := by
  have hread := (quotes_escape s).readQuoted behind nofun i l k
  have hsize : Chars.byteLength (doubleQuoted s) = Chars.byteLength (s.flatMap escape) + 2 := by
    rw [doubleQuoted, Chars.byteLength_append, Chars.byteLength_cons]
    show 1 + _ + 1 = _
    omega
  rw [hsize, doubleQuoted, List.cons_append, List.cons_append, List.append_assoc]
  exact hread

/-- A text in single quotes is read as it was. -/
theorem readQuoted_singleQuoted {n : Nat} (hn : 0 < n) {s : List Char} (hs : SingleFits s) {behind : List Char}
    (hbehind : behind.head? ≠ some '\x27') (i l k : Nat) :
    ∃ l' k', readQuoted true ⟨singleQuoted n s ++ behind, i, l, k⟩
        = .ok (s, ⟨behind, i + Chars.byteLength (singleQuoted n s), l', k'⟩) ∧
      l ≤ l' ∧ (s.any isBreak = false → l' = l ∧ k < k') := by
  have hread := (quotes_singleBody hn hs).readQuoted behind (fun _ => hbehind) i l k
  -- The quotes add two bytes, one on either side.
  have hsize : Chars.byteLength (singleQuoted n s) = Chars.byteLength (singleBody n false s) + 2 := by
    rw [singleQuoted, Chars.byteLength_append, Chars.byteLength_cons]
    show 1 + _ + 1 = _
    omega
  rw [hsize, singleQuoted, List.cons_append, List.cons_append, List.append_assoc]
  exact hread


/-! ### What quoted texts are made of -/

/-- An escape is made of printable characters and has no line break. -/
theorem Escapes.printable {c : Char} {code : List Char} (h : Escapes c code) :
    ∀ d ∈ code, isPrintable d = true ∧ isBreak d = false := by
  have hvisible {d : Char} (hd : isVisible d = true) : isPrintable d = true ∧ isBreak d = false :=
    ⟨isPrintable_of_isVisible hd, isBreak_of_isVisible hd⟩
  have hslash : isPrintable '\\' = true ∧ isBreak '\\' = false := by decide
  cases h with
  | self hprintable hbreak => simpa using ⟨hprintable, hbreak⟩
  | name he => simpa using ⟨hslash, hvisible he⟩
  | code he =>
    simp only [List.forall_mem_cons]
    exact ⟨hslash, hvisible he, fun d hd => hvisible (isVisible_of_mem_hexDigits d hd)⟩

/-- An escape takes at most four times the room of its character. -/
theorem Escapes.byteLength_le {c : Char} {code : List Char} (h : Escapes c code) :
    Chars.byteLength code ≤ 4 * c.utf8Size := by
  have hpos := c.utf8Size_pos
  have hslash : '\\'.utf8Size = 1 := by decide
  cases h with
  | self => rw [Chars.byteLength_cons]; show c.utf8Size + 0 ≤ _; omega
  | name he =>
    rw [Chars.byteLength_cons, Chars.byteLength_cons, utf8Size_of_isVisible he, hslash]
    show 1 + (1 + 0) ≤ _
    omega
  | code he h hwidth hbound hroom =>
    -- The size of a character in UTF-8 has room for its digits, four bytes for each of its own.
    rw [Chars.byteLength_cons, Chars.byteLength_cons, byteLength_of_isVisible isVisible_of_mem_hexDigits,
      length_hexDigits hwidth hbound, utf8Size_of_isVisible he, hslash]
    omega

/-- A character takes at most four times as many bytes between double quotes, apart from the quotes. -/
theorem byteLength_doubleQuoted_le (s : List Char) :
    Chars.byteLength (doubleQuoted s) ≤ 4 * Chars.byteLength s + 2 := by
  -- No character needs more than four bytes for each of its own.
  have hbody : Chars.byteLength (s.flatMap escape) ≤ 4 * Chars.byteLength s := by
    induction s with
    | nil => exact Nat.le_refl 0
    | cons c s ih =>
      have hc := (escapes_escape c).byteLength_le
      rw [List.flatMap_cons, Chars.byteLength_append, Chars.byteLength_cons]
      omega
  rw [doubleQuoted, Chars.byteLength_append, Chars.byteLength_cons]
  show 1 + _ + 1 ≤ _
  omega

/-- Without a line break, quotes are all that is added. -/
theorem byteLength_singleQuoted_le (n : Nat) {s : List Char} (hs : ∀ c ∈ s, isBreak c = false) :
    Chars.byteLength (singleQuoted n s) ≤ 2 * Chars.byteLength s + 2 := by
  have hsize : Chars.byteLength (s.flatMap double) ≤ 2 * Chars.byteLength s := by
    clear hs
    induction s with
    | nil => exact Nat.le_refl 0
    | cons c s ih =>
      have hc : Chars.byteLength (double c) ≤ 2 * c.utf8Size := by
        -- Only the quote is doubled.
        rw [double]
        split
        · rename_i hquote
          rw [hquote]
          decide
        · show c.utf8Size + 0 ≤ _
          omega
      rw [List.flatMap_cons, Chars.byteLength_append, Chars.byteLength_cons]
      omega
  rw [singleQuoted, Chars.byteLength_append, Chars.byteLength_cons, singleBody_of_no_break n hs]
  show 1 + _ + 1 ≤ _
  omega

/-- What stands between single quotes is made of the text, of quotes and of indentation. -/
theorem mem_of_mem_singleQuoted {n : Nat} {s : List Char} {c : Char} (h : c ∈ singleQuoted n s) :
    c = '\x27' ∨ c = ' ' ∨ c ∈ s := by
  -- What is written for the body is a quote, the indentation or a character of the text.
  have hbody (afterBreak : Bool) (s : List Char) (h : c ∈ singleBody n afterBreak s) :
      c = '\x27' ∨ c = ' ' ∨ c ∈ s := by
    induction s generalizing afterBreak with
    | nil =>
      rw [singleBody] at h
      split at h
      · exact .inr (.inl (List.eq_of_mem_replicate h))
      · cases h
    | cons d s ih =>
      have htail (afterBreak : Bool) (h : c ∈ singleBody n afterBreak s) : c = '\x27' ∨ c = ' ' ∨ c ∈ d :: s :=
        (ih afterBreak h).imp_right fun h => h.imp_right (List.mem_cons_of_mem d)
      rw [singleBody] at h
      split at h
      · rcases List.mem_cons.1 h with rfl | h
        · exact .inr (.inr List.mem_cons_self)
        · exact htail true h
      · simp only [List.mem_append] at h
        rcases h with (h | h) | h
        · split at h
          · exact .inr (.inl (List.eq_of_mem_replicate h))
          · cases h
        · split at h
          · exact .inl (by simpa using h)
          · exact .inr (.inr (by rw [List.mem_singleton.1 h]; exact List.mem_cons_self))
        · exact htail false h
  simp only [singleQuoted, List.cons_append, List.mem_cons, List.mem_append, List.not_mem_nil, or_false] at h
  rcases h with h | h | h
  · exact .inl h
  · exact hbody false s h
  · exact .inl h

/-- Between double quotes there are printable characters and no line breaks. -/
theorem isPrintable_of_mem_doubleQuoted {s : List Char} {c : Char} (h : c ∈ doubleQuoted s) :
    isPrintable c = true ∧ isBreak c = false := by
  simp only [doubleQuoted, List.cons_append, List.mem_cons, List.mem_append, List.mem_flatMap, List.not_mem_nil,
    or_false] at h
  rcases h with rfl | ⟨d, -, h⟩ | rfl
  · decide
  · exact (escapes_escape d).printable c h
  · decide

end Scaffold.Yaml
