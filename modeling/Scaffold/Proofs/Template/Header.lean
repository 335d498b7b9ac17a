import Scaffold.Template.Session
import Scaffold.Proofs.Template.Scanning

namespace Scaffold.Template

/-!
# The header of a session

The import that stands in front of all code of a session, as tokens.

* `isName` — a name as tags have them;
* `headerTokens`, `scanned_header` — the tokens of the header, in front of those of the code;
* `IsSheltered`, `scanned_sheltered` — code whose tokens do not depend on what stands in front of it on its first
  line.
-/

namespace TokenList

/-! ### Names -/

/-- A letter or an underscore, and then letters, digits and underscores. -/
def isName : List Char → Bool
  | [] => false
  | c :: s => isWordStart c && s.all isWordPart

/-- A word goes on with the characters that it may start with. -/
theorem isWordPart_of_isWordStart {c : Char} (h : isWordStart c = true) : isWordPart c = true := by
  simp [isWordPart, h]

/-- A character that a name may start with is none of the characters with a meaning in tags. -/
theorem ne_of_isWordStart {c d : Char} (h : isWordStart c = true) (hd : isWordStart d = false) : c ≠ d := by
  rintro rfl
  rw [h] at hd
  cases hd

/-- A word starts with no blank. -/
theorem isAsciiSpace_of_isWordStart {c : Char} (h : isWordStart c = true) : isAsciiSpace c = false := by
  have hne {d : Char} (hd : isWordStart d = false) : c ≠ d := ne_of_isWordStart h hd
  unfold isAsciiSpace
  simp [hne (d := ' ') (by decide), hne (d := '\t') (by decide), hne (d := '\n') (by decide),
    hne (d := '\r') (by decide), hne (d := '\x0c') (by decide)]

/-- A word starts with no symbol. -/
theorem ofOne?_of_isWordStart {c : Char} (h : isWordStart c = true) : Symbol.ofOne? c = none := by
  unfold Symbol.ofOne?
  split
  case h_20 => rfl
  all_goals exact absurd h (by decide)

/-- A word starts with no symbol of two characters. -/
theorem ofTwo?_of_isWordStart {c : Char} (h : isWordStart c = true) (d : Char) : Symbol.ofTwo? c d = none := by
  unfold Symbol.ofTwo?
  split
  case h_7 => rfl
  all_goals exact absurd h (by decide)

/-- A word starts with no sign of a mark. -/
theorem ofHead_of_isWordStart {c : Char} (h : isWordStart c = true) (s : List Char) :
    Trim.ofHead (c :: s) = .default := by
  unfold Trim.ofHead
  split
  · rename_i heq
    cases heq
    exact absurd h (by decide)
  · rename_i heq
    cases heq
    exact absurd h (by decide)
  · rfl

/-- A word does not start with a closing mark. -/
theorem closing?_of_isWordStart {c : Char} (h : isWordStart c = true) (region : Region) (s : List Char) :
    closing? region (c :: s) = none := by
  unfold closing?
  rw [ofHead_of_isWordStart h]
  dsimp only [Trim.width]
  rw [List.drop_zero]
  -- The first character would have to be a sign of the end.
  split
  · rename_i heq
    cases heq
    exact absurd h (by decide)
  · rename_i heq
    cases heq
    exact absurd h (by decide)
  · rfl

/-- What a name is read as. -/
theorem literalStep_name {template : String} {s : Source} {c : Char} (h : isWordStart c = true) :
    literalStep template s c =
      .ok (.word (.ofList (s.rest.takeWhile isWordPart)), s.skipWhile isWordPart) := by
  have hne {d : Char} (hd : isWordStart d = false) : c ≠ d := ne_of_isWordStart h hd
  -- A digit is no letter.
  have hdigit : Text.isAsciiDigit c = false := by
    cases hc : Text.isAsciiDigit c with
    | false => rfl
    | true =>
      simp only [Text.isAsciiDigit, Bool.and_eq_true, decide_eq_true_eq, Char.le_def, UInt32.le_iff_toNat_le] at hc
      simp only [isWordStart, Text.isAsciiLetter, Text.isAsciiUpper, Text.isAsciiLower, Bool.or_eq_true,
        Bool.and_eq_true, decide_eq_true_eq, Char.le_def, UInt32.le_iff_toNat_le] at h
      have hnine : '9'.val.toNat = 57 := rfl
      have hA : 'A'.val.toNat = 65 := rfl
      have ha : 'a'.val.toNat = 97 := rfl
      rcases h with (h | h) | rfl
      · omega
      · omega
      · exact absurd hc.2 (by decide)
  unfold literalStep
  rw [if_neg (by simp [hne (d := '"') (by decide), hne (d := '\x27') (by decide)]), if_neg (by simp [hdigit]),
    if_pos h]

/-! ### Steps inside a tag -/

/-- Behind characters that are no breaks, with something else than blanks in front of them on the line, nothing
    has changed but what is left. -/
theorem move_of_no_break {rest passed rest' : List Char} {line : Nat} (h : passed.any isBreak = false) :
    (⟨rest, line, false⟩ : Source).move passed rest' = ⟨rest', line, false⟩ := by
  have hcount : passed.count '\n' = 0 := by
    rw [List.count_eq_zero]
    exact fun hmem => absurd h (by rw [Bool.not_eq_false, List.any_eq_true]; exact ⟨'\n', hmem, rfl⟩)
  -- A break is the only character that makes a line fresh, and there is none.
  have hfresh : passed.foldl (fun fresh c => isBreak c || (fresh && Chars.isBlank c)) false = false := by
    clear hcount
    induction passed with
    | nil => rfl
    | cons c passed ih =>
      rw [List.any_cons, Bool.or_eq_false_iff] at h
      rw [List.foldl_cons, h.1]
      exact ih h.2
  rw [Source.move, hcount, hfresh, Nat.add_zero]

/-- A word has no line break in it. -/
theorem isBreak_of_isWordPart {c : Char} (h : isWordPart c = true) : isBreak c = false := by
  cases hc : isBreak c with
  | false => rfl
  | true =>
    simp only [isBreak, Bool.or_eq_true, decide_eq_true_eq] at hc
    rcases hc with rfl | rfl
    · exact absurd h (by decide)
    · exact absurd h (by decide)

section Inside

variable {template : String} {line : Nat} {rest : List Char}

/-- A blank in front of a token is skipped. -/
theorem skipWhile_blank {c : Char} (h : isAsciiSpace c = false) :
    (⟨' ' :: c :: rest, line, false⟩ : Source).skipWhile isAsciiSpace = ⟨c :: rest, line, false⟩ := by
  rw [Source.skipWhile, List.takeWhile_cons_of_pos (by decide), List.takeWhile_cons_of_neg (by simp [h]),
    List.dropWhile_cons_of_pos (by decide), List.dropWhile_cons_of_neg (by simp [h])]
  exact move_of_no_break (by decide)

/-- A name behind a blank. -/
theorem scanned_name {w : List Char} (hw : isName w = true) (hend : rest.head?.all (!isWordPart ·) = true)
    (region : Region) (depth : Int) :
    scanned template (.inside region depth) ⟨' ' :: (w ++ rest), line, false⟩ =
      prepend [⟨.word (.ofList w), line⟩] (scanned template (.inside region depth) ⟨rest, line, false⟩) := by
  obtain ⟨c, s, rfl⟩ := List.exists_cons_of_ne_nil (l := w) (by rintro rfl; cases hw)
  rw [isName, Bool.and_eq_true] at hw
  obtain ⟨hstart, hparts⟩ := hw
  have hpart := isWordPart_of_isWordStart hstart
  have hall : ∀ d ∈ c :: s, isWordPart d = true := by
    rintro d (_ | ⟨_, hd⟩)
    · exact hpart
    · exact List.all_eq_true.1 hparts d hd
  -- The word goes on as long as there are parts of words.
  have htake : ((c :: s) ++ rest).takeWhile isWordPart = c :: s := by
    rw [List.takeWhile_append_of_pos hall]
    cases rest with
    | nil => simp
    | cons d rest => rw [List.takeWhile_cons_of_neg (by simpa using hend), List.append_nil]
  have hdrop : ((c :: s) ++ rest).dropWhile isWordPart = rest := by
    rw [List.dropWhile_append_of_pos hall]
    cases rest with
    | nil => rfl
    | cons d rest => rw [List.dropWhile_cons_of_neg (by simpa using hend)]
  refine scanned_of_step ?_
  have hafter : (⟨(c :: s) ++ rest, line, false⟩ : Source).skipWhile isWordPart = ⟨rest, line, false⟩ := by
    rw [Source.skipWhile, htake, hdrop]
    refine move_of_no_break (List.any_eq_false.2 fun d hd => ?_)
    rw [isBreak_of_isWordPart (hall d hd)]
    exact Bool.false_ne_true
  rw [step, insideStep, List.cons_append, skipWhile_blank (isAsciiSpace_of_isWordStart hstart)]
  -- No sign of two characters starts with a letter.
  have htwo : (s ++ rest).head?.bind (Symbol.ofTwo? c) = none := by
    cases s ++ rest with
    | nil => rfl
    | cons d _ => exact ofTwo?_of_isWordStart hstart d
  rw [List.cons_append] at htake hafter
  simp only [closing?_of_isWordStart hstart, ite_self, htwo, ofOne?_of_isWordStart hstart,
    literalStep_name hstart, htake, hafter]
  rfl

/-- A comma and a blank between two names. -/
theorem scanned_comma (region : Region) (depth : Int) :
    scanned template (.inside region depth) ⟨',' :: ' ' :: rest, line, false⟩ =
      prepend [⟨.symbol .comma, line⟩] (scanned template (.inside region depth) ⟨' ' :: rest, line, false⟩) := by
  refine scanned_of_step ?_
  -- There is no blank in front of the comma.
  have hspace : (⟨',' :: ' ' :: rest, line, false⟩ : Source).skipWhile isAsciiSpace =
      ⟨',' :: ' ' :: rest, line, false⟩ := by
    rw [Source.skipWhile, List.takeWhile_cons_of_neg (by decide), List.dropWhile_cons_of_neg (by decide)]
    exact move_of_no_break (by decide)
  have hclosed : closing? region (',' :: ' ' :: rest) = none := by cases region <;> rfl
  have hskip : (⟨',' :: ' ' :: rest, line, false⟩ : Source).skip 1 = ⟨' ' :: rest, line, false⟩ :=
    move_of_no_break (by simp [isBreak])
  rw [step, insideStep, hspace]
  simp only [hclosed, ite_self, hskip]
  simp [Symbol.ofTwo?, Symbol.ofOne?, Symbol.nesting]

/-- The end of a tag. -/
theorem scanned_closeTag : scanned template (.inside .tag 0) ⟨' ' :: '%' :: '\x7d' :: rest, line, false⟩ =
    prepend [⟨.closeTag, line⟩] (scanned template .outside (⟨rest, line, false⟩ : Source).skipBreak) := by
  refine scanned_of_step ?_
  have hclosed : closing? .tag ('%' :: '\x7d' :: rest) = some (.default, rest) := rfl
  -- What was passed are the two characters of the end.
  have hmove : (⟨'%' :: '\x7d' :: rest, line, false⟩ : Source).move
      (('%' :: '\x7d' :: rest).take (('%' :: '\x7d' :: rest).length - rest.length)) rest = ⟨rest, line, false⟩ := by
    refine move_of_no_break ?_
    -- The end of a tag has two characters.
    have htake : ('%' :: '\x7d' :: rest).length - rest.length = 2 := by
      simp only [List.length_cons]
      omega
    rw [htake]
    simp [isBreak]
  rw [step, insideStep, skipWhile_blank (by decide)]
  simp only [if_true, hclosed, hmove]
  rfl

end Inside

/-! ### The header -/

/-- Names with commas between them. -/
def nameTokens : List String → List Located
  | [] => []
  | name :: names => ⟨.word name, 1⟩ :: names.flatMap fun name => [⟨.symbol .comma, 1⟩, ⟨.word name, 1⟩]

/-- The import of names from the preamble. -/
def headerTokens (names : List String) : List Located :=
  [⟨.openTag, 1⟩, ⟨.word "from", 1⟩, ⟨.string Session.preambleName, 1⟩, ⟨.word "import", 1⟩]
    ++ nameTokens names ++ [⟨.closeTag, 1⟩]

/-- No tokens in front. -/
@[simp] theorem prepend_nil (l : TokenList) : prepend [] l = l := rfl

/-- Tokens in front of tokens. -/
theorem prepend_prepend (ts us : List Located) (l : TokenList) :
    prepend ts (prepend us l) = prepend (ts ++ us) l := by
  rw [prepend, prepend, prepend, List.append_assoc]

section Header

variable {template : String} {rest : List Char}

/-- More names behind the first one. -/
theorem scanned_moreNames {names : List String} (h : ∀ name ∈ names, isName name.toList = true)
    (hend : rest.head?.all (!isWordPart ·) = true) :
    scanned template (.inside .tag 0)
        ⟨names.flatMap (fun name => ',' :: ' ' :: name.toList) ++ rest, 1, false⟩ =
      prepend (names.flatMap fun name => [⟨.symbol .comma, 1⟩, ⟨.word name, 1⟩])
        (scanned template (.inside .tag 0) ⟨rest, 1, false⟩) := by
  induction names with
  | nil => rfl
  | cons name names ih =>
    -- A name is followed by a comma, or by what follows the last one.
    have hnext : (names.flatMap (fun name => ',' :: ' ' :: name.toList) ++ rest).head?.all (!isWordPart ·) = true := by
      cases names with
      | nil => exact hend
      | cons other names => rfl
    rw [List.flatMap_cons, List.flatMap_cons, List.append_assoc, List.cons_append, List.cons_append, scanned_comma,
      scanned_name (h name List.mem_cons_self) hnext, ih fun other hother => h other (List.mem_cons_of_mem _ hother),
      prepend_prepend, prepend_prepend, String.ofList_toList]
    rfl

/-- Texts with a separator between them. -/
theorem joinWith_cons (sep piece : List Char) (pieces : List (List Char)) :
    Chars.joinWith sep (piece :: pieces) = piece ++ pieces.flatMap (sep ++ ·) := by
  induction pieces generalizing piece with
  | nil => simp [Chars.joinWith]
  | cons other pieces ih =>
    rw [Chars.joinWith, ih, List.flatMap_cons, List.append_assoc, List.append_assoc]
    exact List.cons_ne_nil _ _

/-- A text without backslashes stands for itself. -/
theorem unescapeFrom_of_notMem {s : List Char} (h : '\\' ∉ s) : Literal.unescapeFrom none s = some s := by
  induction s with
  | nil =>
    rw [Literal.unescapeFrom]
    rfl
  | cons c s ih =>
    rw [List.mem_cons, not_or] at h
    have hne : c ≠ '\\' := fun heq => h.1 heq.symm
    rw [Literal.unescapeFrom]
    · simp [ih h.2]
    all_goals (intros; simp_all)

/-- The first tokens of the header. -/
theorem scanned_from : scanned template .outside
      ⟨"\x7b% from \"__preamble__\" import".toList ++ rest, 1, true⟩ =
    prepend [⟨.openTag, 1⟩, ⟨.word "from", 1⟩, ⟨.string Session.preambleName, 1⟩]
      (scanned template (.inside .tag 0) ⟨" import".toList ++ rest, 1, false⟩) := by
  have hopen : step template .outside ⟨"\x7b% from \"__preamble__\" import".toList ++ rest, 1, true⟩ =
      .ok ⟨[⟨.openTag, 1⟩], some (.inside .tag 0, ⟨" from \"__preamble__\" import".toList ++ rest, 1, false⟩)⟩ := rfl
  have hstring : step template (.inside .tag 0) ⟨" \"__preamble__\" import".toList ++ rest, 1, false⟩ =
      .ok ⟨[⟨.string Session.preambleName, 1⟩], some (.inside .tag 0, ⟨" import".toList ++ rest, 1, false⟩)⟩ := by
    -- The preamble's name has no escape in it.
    have hquoted : Literal.takeQuoted '"' ("__preamble__\" import".toList ++ rest) =
        some (Session.preambleName.toList, " import".toList ++ rest) := rfl
    have hspace : (⟨" \"__preamble__\" import".toList ++ rest, 1, false⟩ : Source).skipWhile isAsciiSpace =
        ⟨"\"__preamble__\" import".toList ++ rest, 1, false⟩ := skipWhile_blank (by decide)
    have hmove : (⟨"\"__preamble__\" import".toList ++ rest, 1, false⟩ : Source).move
        (("\"__preamble__\" import".toList ++ rest).take
          (("\"__preamble__\" import".toList ++ rest).length - (" import".toList ++ rest).length))
        (" import".toList ++ rest) = ⟨" import".toList ++ rest, 1, false⟩ := by
      refine move_of_no_break ?_
      -- Behind the string there is the import.
      have htake : ("\"__preamble__\" import".toList ++ rest).length - (" import".toList ++ rest).length = 14 := by
        rw [List.length_append, List.length_append, Nat.add_sub_add_right]
        rfl
      rw [htake]
      have hfront : ("\"__preamble__\" import".toList ++ rest).take 14 = "\"__preamble__\"".toList := rfl
      rw [hfront]
      decide
    have hliteral : literalStep template ⟨"\"__preamble__\" import".toList ++ rest, 1, false⟩ '"' =
        .ok (.string Session.preambleName, ⟨" import".toList ++ rest, 1, false⟩) := by
      have hdrop : ("\"__preamble__\" import".toList ++ rest).drop 1 = "__preamble__\" import".toList ++ rest := rfl
      have hplain : Literal.unescape Session.preambleName.toList = some Session.preambleName := by
        rw [Literal.unescape, unescapeFrom_of_notMem (by decide), Option.map_some, String.ofList_toList]
      unfold literalStep
      rw [if_pos (by decide)]
      simp only [hdrop, hquoted, hplain, hmove]
    rw [step, insideStep, hspace]
    have hclosed : closing? .tag ("\"__preamble__\" import".toList ++ rest) = none := rfl
    have hcons : "\"__preamble__\" import".toList ++ rest = '"' :: ("__preamble__\" import".toList ++ rest) := rfl
    simp only [if_true, hclosed]
    rw [hcons] at hliteral ⊢
    simp only [hliteral]
    rfl
  -- The parts of the header are scanned one after the other.
  rw [scanned_of_step hopen]
  have hfrom : scanned template (.inside .tag 0) ⟨" from \"__preamble__\" import".toList ++ rest, 1, false⟩ =
      prepend [⟨.word "from", 1⟩]
        (scanned template (.inside .tag 0) ⟨" \"__preamble__\" import".toList ++ rest, 1, false⟩) :=
    scanned_name (w := "from".toList) (by decide) rfl .tag 0
  rw [hfrom, scanned_of_step hstring, prepend_prepend, prepend_prepend]
  rfl

/-- **The header.** The tokens of the header stand in front of those of the code, whose first line is not fresh. -/
theorem scanned_header {names : List String} (hne : names ≠ []) (h : ∀ name ∈ names, isName name.toList = true) :
    scanned template .outside
        ⟨(Session.tag ("from \"" ++ Session.preambleName ++ "\" import " ++ Text.joinWith ", " names)).toList ++ rest,
          1, true⟩ =
      prepend (headerTokens names) (scanned template .outside (⟨rest, 1, false⟩ : Source).skipBreak) := by
  obtain ⟨name, names, rfl⟩ := List.exists_cons_of_ne_nil hne
  -- The header is written out as a list of characters, with one name in front of the others.
  have hchars : (Session.tag ("from \"" ++ Session.preambleName ++ "\" import "
      ++ Text.joinWith ", " (name :: names))).toList ++ rest =
      "\x7b% from \"__preamble__\" import".toList ++ (' ' :: (name.toList ++
        (names.flatMap (fun name => ',' :: ' ' :: name.toList) ++ (' ' :: '%' :: '\x7d' :: rest)))) := by
    have hjoin : (Text.joinWith ", " (name :: names)).toList =
        name.toList ++ names.flatMap fun name => ',' :: ' ' :: name.toList := by
      rw [Text.joinWith, String.toList_ofList, List.map_cons, joinWith_cons, List.flatMap_map]
      rfl
    simp only [Session.tag, Session.preambleName, String.toList_append, hjoin, List.append_assoc]
    rfl
  have hmore : (names.flatMap (fun name => ',' :: ' ' :: name.toList)
      ++ (' ' :: '%' :: '\x7d' :: rest)).head?.all (!isWordPart ·) = true := by
    cases names with
    | nil => rfl
    | cons other names => rfl
  -- Behind the word there is a blank, so it is the keyword.
  have himport {rest : List Char} : scanned template (.inside .tag 0) ⟨" import".toList ++ (' ' :: rest), 1, false⟩ =
      prepend [⟨.word "import", 1⟩] (scanned template (.inside .tag 0) ⟨' ' :: rest, 1, false⟩) :=
    scanned_name (w := "import".toList) (by decide) rfl .tag 0
  rw [hchars, scanned_from, himport, scanned_name (h name List.mem_cons_self) hmore,
    scanned_moreNames (fun other hother => h other (List.mem_cons_of_mem _ hother)) rfl, scanned_closeTag]
  simp only [prepend_prepend, String.ofList_toList]
  rfl

end Header

/-! ### The seam -/

/-- Whether the tokens of code are the same behind other code on its first line: it starts with no line break, which
    a tag in front would take, and no tag or comment takes blanks that the code starts with. -/
def isSheltered (code : List Char) : Bool :=
  let (lead, rest) := splitAtMark code
  code.head?.all (!isBreak ·) &&
    (lead.isEmpty || lead.any (fun c => isBreak c || !Chars.isBlank c) ||
      match region? rest with
      | none | some .value => true
      | some _ => Trim.ofHead (rest.drop 2) != .default)

/-- Behind a break or something that is no blank, it does not matter what is in front. -/
theorem fresh_congr {lead : List Char} (h : lead.any (fun c => isBreak c || !Chars.isBlank c) = true)
    (fresh fresh' : Bool) :
    lead.foldl (fun fresh c => isBreak c || (fresh && Chars.isBlank c)) fresh =
      lead.foldl (fun fresh c => isBreak c || (fresh && Chars.isBlank c)) fresh' := by
  induction lead generalizing fresh fresh' with
  | nil => cases h
  | cons c lead ih =>
    rw [List.foldl_cons, List.foldl_cons]
    by_cases hc : (isBreak c || !Chars.isBlank c) = true
    -- A break, or what is no blank, decides whether the line is fresh.
    · have hsame : (isBreak c || (fresh && Chars.isBlank c)) = (isBreak c || (fresh' && Chars.isBlank c)) := by
        rw [Bool.or_eq_true, Bool.not_eq_true'] at hc
        rcases hc with hc | hc <;> simp [hc]
      rw [hsame]
    · rw [List.any_cons, Bool.or_eq_true, or_iff_right hc] at h
      exact ih h _ _

/-- What follows a mark does not depend on what is in front of it. -/
theorem skip_mark {rest : List Char} {region : Region} (h : region? rest = some region) (line n : Nat)
    (fresh fresh' : Bool) :
    (⟨rest, line, fresh⟩ : Source).skip (2 + n) = (⟨rest, line, fresh'⟩ : Source).skip (2 + n) := by
  obtain ⟨c, s, rfl⟩ : ∃ c s, rest = '\x7b' :: c :: s := by
    unfold region? at h
    split at h
    · exact ⟨_, _, rfl⟩
    · exact ⟨_, _, rfl⟩
    · exact ⟨_, _, rfl⟩
    · cases h
  -- The first character of a mark is skipped in any case.
  have htake : ('\x7b' :: c :: s).take (2 + n) = '\x7b' :: (c :: s).take (1 + n) := by
    rw [show 2 + n = (1 + n) + 1 by omega, List.take_succ_cons]
  have hmark (fresh : Bool) : (isBreak '\x7b' || (fresh && Chars.isBlank '\x7b')) = false := by
    have hblank : Chars.isBlank '\x7b' = false := by decide
    rw [hblank, Bool.and_false]
    rfl
  simp only [Source.skip, Source.move, htake, List.foldl_cons, hmark]

/-- Whether blanks are kept in front of a mark depends on the line in front of it, but not behind it. -/
theorem atMark_congr (template : String) {region : Region} (trim : Trim) {rest : List Char}
    (h : region? rest = some region) (line : Nat) (fresh fresh' : Bool) :
    atMark template region trim ⟨rest, line, fresh⟩ = atMark template region trim ⟨rest, line, fresh'⟩ := by
  unfold atMark
  rw [skip_mark h line trim.width fresh fresh']

/-- **The seam.** The tokens of sheltered code are the same behind a tag on its first line. -/
theorem scanned_sheltered {template : String} {code : List Char} (h : isSheltered code = true) (line : Nat) :
    scanned template .outside (⟨code, line, false⟩ : Source).skipBreak =
      scanned template .outside ⟨code, line, true⟩ := by
  rw [isSheltered] at h
  dsimp only at h
  rw [Bool.and_eq_true] at h
  obtain ⟨hbreak, hlead⟩ := h
  -- The code does not start with a break.
  have hskip : (⟨code, line, false⟩ : Source).skipBreak = ⟨code, line, false⟩ := by
    unfold Source.skipBreak
    split
    · rename_i heq
      rw [show code = _ from heq] at hbreak
      exact absurd hbreak (by simp [isBreak])
    · rename_i heq
      rw [show code = _ from heq] at hbreak
      exact absurd hbreak (by simp [isBreak])
    · rename_i heq
      rw [show code = _ from heq] at hbreak
      exact absurd hbreak (by simp [isBreak])
    · rfl
  have hstep : step template .outside ⟨code, line, false⟩ = step template .outside ⟨code, line, true⟩ := by
    rw [step, step, outsideStep, outsideStep]
    dsimp only
    split
    · rfl
    · rename_i region hregion
      -- Behind the mark it does not matter any more whether the line was fresh.
      have hat := atMark_congr template (Trim.ofHead ((splitAtMark code).2.drop 2)) hregion
        (line + (splitAtMark code).1.count '\n')
        ((splitAtMark code).1.foldl (fun fresh c => isBreak c || (fresh && Chars.isBlank c)) false)
        ((splitAtMark code).1.foldl (fun fresh c => isBreak c || (fresh && Chars.isBlank c)) true)
      dsimp only [Source.move]
      -- The text in front of the mark is stripped of blanks only, and only in front of a tag or a comment.
      have htext : leadText region (Trim.ofHead ((splitAtMark code).2.drop 2))
            ((splitAtMark code).1.foldl (fun fresh c => isBreak c || (fresh && Chars.isBlank c)) false)
            (splitAtMark code).1 =
          leadText region (Trim.ofHead ((splitAtMark code).2.drop 2))
            ((splitAtMark code).1.foldl (fun fresh c => isBreak c || (fresh && Chars.isBlank c)) true)
            (splitAtMark code).1 := by
        rw [Bool.or_eq_true, Bool.or_eq_true, hregion] at hlead
        rcases hlead with (hempty | hany) | hmark
        · rw [List.isEmpty_iff.1 hempty]
          unfold leadText
          split
          · rfl
          · rfl
          · simp [stripLine, Chars.dropEndWhile]
        · rw [fresh_congr hany false true]
        · unfold leadText
          split
          · rfl
          · rfl
          · rename_i htrim
            cases region with
            | value => rfl
            | tag => simp [htrim] at hmark
            | comment => simp [htrim] at hmark
      rw [htext, hat]
  rw [hskip, scanned, scanned, scan, scan, hstep]

/-- What is taken off the end of a text is taken off the end of what stands last in it. -/
theorem dropLast_if_append {front s : List Char} {c : Char} (h : front.getLast? ≠ some c) :
    (if (front ++ s).getLast? = some c then (front ++ s).dropLast else front ++ s) =
      front ++ (if s.getLast? = some c then s.dropLast else s) := by
  by_cases hs : s = []
  · subst hs
    simp [h]
  · have hlast : (front ++ s).getLast? = s.getLast? := by
      rw [List.getLast?_append, List.getLast?_eq_some_getLast hs]
      rfl
    rw [hlast, List.dropLast_append_of_ne_nil hs]
    split <;> rfl

/-- The line break at the end of a text is that of its last part. -/
theorem withoutLastBreak_append {front s : List Char} (hn : front.getLast? ≠ some '\n')
    (hr : front.getLast? ≠ some '\r') : withoutLastBreak (front ++ s) = front ++ withoutLastBreak s := by
  unfold withoutLastBreak
  rw [dropLast_if_append hn, dropLast_if_append hr]

/-- **Tokens behind the header.** Behind the header of a session, sheltered code has its own tokens. -/
theorem ofSource_header {template : String} {names : List String} (hne : names ≠ [])
    (hnames : ∀ name ∈ names, isName name.toList = true) {code : String}
    (h : isSheltered (withoutLastBreak code.toList) = true) :
    ofSource template (Session.tag ("from \"" ++ Session.preambleName ++ "\" import "
        ++ Text.joinWith ", " names) ++ code) = prepend (headerTokens names) (ofSource template code) := by
  have hlast : (Session.tag ("from \"" ++ Session.preambleName ++ "\" import "
      ++ Text.joinWith ", " names)).toList.getLast? = some '\x7d' := by
    rw [Session.tag, String.toList_append, List.getLast?_append]
    rfl
  rw [ofSource_eq, ofSource_eq, String.toList_append, withoutLastBreak_append (by rw [hlast]; decide)
    (by rw [hlast]; decide), scanned_header hne hnames, scanned_sheltered h]

end TokenList

end Scaffold.Template
