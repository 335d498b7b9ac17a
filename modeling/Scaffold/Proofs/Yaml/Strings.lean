import Scaffold.Proofs.Yaml.Data
import Scaffold.Proofs.Yaml.Inline
import Scaffold.Proofs.Yaml.Literal

namespace Scaffold.Yaml

/-!
# Written strings

Whatever form a string is written in, it is read as one token with that string, where a value may stand. Behind the
string there is nothing, or a line that is not indented by more than what is around.

* `Follows` — what may stand behind a written value, and what is read there;
* `Inline.value`, `literal_value` — values on a line, and literal blocks;
* `writeString_value` — strings in whatever form;
* `writeString_key` — strings on a line as keys.
-/

/-! ### The forms of a string -/

/-- A string that is written without quotes can be read without quotes. -/
theorem plainFits_of_choose {s : String} (h : Form.choose s = .plain) : PlainFits s.toList := by
  refine plainFits_of_plainAllowed (fun hnil => ?_) (Form.of_choose_plain h).2.2
  have hempty : Form.choose "" ≠ .plain := by decide
  rw [String.toList_eq_nil_iff.1 hnil] at h
  exact hempty h

/-- A string that is written between single quotes can be read between them. -/
theorem singleFits_of_choose {s : String} (h : Form.choose s = .single) : SingleFits s.toList := by
  obtain ⟨hline, hsingle⟩ := Form.of_choose_single h
  simp only [Form.traits, Bool.not_eq_true', Bool.or_eq_false_iff] at hsingle
  obtain ⟨⟨hprintable, hspaceBreak⟩, hbreakSpace⟩ := hsingle
  exact
    { printable := fun c hc => by simpa using List.any_eq_false.1 hprintable c hc
      line := hline
      spaceBreak := Form.noPair_of_hasPair hspaceBreak
      breakSpace := Form.noPair_of_hasPair hbreakSpace }

/-- A string that is written as a literal block is printable. -/
theorem isPrintable_of_choose_literal {s : String} (h : Form.choose s = .literal) :
    ∀ c ∈ s.toList, isPrintable c = true := by
  have hliteral := (Form.of_choose_literal h).2
  simp only [Form.traits, Bool.not_eq_true', Bool.or_eq_false_iff] at hliteral
  intro c hc
  simpa using List.any_eq_false.1 hliteral.1.1 c hc

/-- A string that is not a literal block is written on one line, or between quotes. -/
theorem inline_writeString {n : Nat} (hn : 0 < n) {s : String} (h : Form.choose s ≠ .literal) :
    Inline (Form.choose s).style s.toList (writeString n s) := by
  rw [writeString]
  split
  case h_1 hform =>
    rw [hform]
    exact .plain (plainFits_of_choose hform)
  case h_2 hform =>
    rw [hform]
    exact .quoted (isQuotation_singleQuoted hn (singleFits_of_choose hform))
  case h_3 hform =>
    rw [hform]
    exact .quoted (isQuotation_doubleQuoted s.toList)
  case h_4 hform => exact absurd hform h

/-! ### What stands behind a value -/

/-- A written value with what stands behind it: nothing, or a line at a column. -/
def followed (text : List Char) : Option (Nat × List Char) → List Char
  | none => text
  | some (m, next) => text ++ newLine m text ++ next

/-- Behind a value in the collections at `stack` there is nothing, or a line that is not indented by more than the
    innermost of them, and tokens of these kinds are read there. -/
inductive Follows (stack : List Nat) : Option (Nat × List Char) → List TokenKind → Prop where
  | stop : Follows stack none (List.replicate stack.length .blockEnd ++ [.streamEnd])
  | line {m : Nat} {x : Char} {rest : List Char} {kinds : List TokenKind} (hm : stack.head?.any (m ≤ ·) = true)
      (hx : isTokenStart x = true) (h : Scan.ReadsAt stack true (x :: rest) m kinds) :
      Follows stack (some (m, x :: rest)) kinds

/-- What stands behind a value stands behind the collection that ends with it. -/
theorem Follows.close {stack : List Nat} {next? : Option (Nat × List Char)} {kinds : List TokenKind}
    (h : Follows stack next? kinds) {column : Nat} (hcolumn : stack.head?.all (· < column) = true) :
    Follows (column :: stack) next? (.blockEnd :: kinds) := by
  -- What follows is indented less than the collection, so it closes it as well.
  cases h with
  | stop => exact .stop
  | @line m x rest kinds hm hx h =>
    have hless : m < column := by
      cases hhead : stack.head? with
      | none => rw [hhead] at hm; cases hm
      | some o =>
        rw [hhead] at hm hcolumn
        exact Nat.lt_of_le_of_lt (by simpa using hm) (by simpa using hcolumn)
    exact .line (by simpa using Nat.le_of_lt hless) hx (h.close hless hx)

/-- Behind a text that does not end with a line break. -/
theorem followed_of_last {text : List Char} (hlast : ∀ c ∈ text.getLast?, isBreak c = false)
    (next? : Option (Nat × List Char)) :
    followed text next? = text ++ next?.elim [] fun next => '\n' :: (List.replicate next.1 ' ' ++ next.2) := by
  cases next? with
  | none => exact (List.append_nil text).symm
  | some next =>
    -- The text does not end with a break, so one is written behind it.
    have hnone : text.getLast?.any isBreak = false := by
      cases hc : text.getLast? with
      | none => rfl
      | some c => exact hlast c hc
    obtain ⟨m, next⟩ := next
    simp [followed, newLine, hnone, pad]

/-- What follows a text, its last part aside. -/
theorem followed_append (text : List Char) {more : List Char} (hmore : more ≠ []) (next? : Option (Nat × List Char)) :
    followed (text ++ more) next? = text ++ followed more next? := by
  cases next? with
  | none => rfl
  | some next =>
    obtain ⟨c, hc⟩ := Option.ne_none_iff_exists'.1 (mt List.getLast?_eq_none_iff.1 hmore)
    simp [followed, newLine, List.getLast?_append, hc]

/-- What follows on a line of its own may be read from the end of the line in front of it. -/
theorem Follows.readsBehind {stack : List Nat} {next? : Option (Nat × List Char)} {kinds : List TokenKind}
    (h : Follows stack next? kinds) :
    Scan.ReadsBehind stack (next?.elim [] fun next => '\n' :: (List.replicate next.1 ' ' ++ next.2)) kinds := by
  cases h with
  | stop => exact Scan.ReadsBehind.stop stack
  | line _ hx h => exact Scan.ReadsBehind.line _ hx h

/-! ### Strings as values -/

section Values

open Scan

/-- In front of a bar, a literal block is read. -/
theorem Scan.fetchHere_literal {tokens : List Token} {stack : List Nat} {allowed : Bool} (rest : List Char)
    (i l k : Nat) : (block tokens stack none allowed ⟨'|' :: rest, i, l, k⟩).fetchHere
      = (block tokens stack none allowed ⟨'|' :: rest, i, l, k⟩).fetchBlock true := by
  simp [fetchHere, Cursor.peek, Cursor.atMarker]

variable {stack : List Nat} {next? : Option (Nat × List Char)} {kinds : List TokenKind}
  (hnext : Follows stack next? kinds) {allowed : Bool} {k : Nat}

include hnext

/-- A scalar on a line. -/
theorem Inline.value {style : ScalarStyle} {s written : List Char} (h : Inline style s written)
    (hk : stack.head?.all (· < k) = true) :
    ReadsAt stack allowed (followed written next?) k (.scalar (.ofList s) style :: kinds) := by
  cases hnext with
  | stop => exact h.value_last hk
  | line hm hx hread =>
    rw [followed_of_last h.getLast?]
    exact h.value_line hk hm hx hread

/-- A literal block. -/
theorem literal_value {o : Nat} (ho : stack.head? = some o) (hk : o < k) {s : List Char}
    (hs : ∀ c ∈ s, isPrintable c = true) (hne : s ≠ []) :
    ReadsAt stack allowed (followed (literal (o + 2) s) next?) k (.scalar (.ofList s) .literal :: kinds) := by
  have hle : stack.head?.all (· ≤ k) = true := by simpa [ho] using Nat.le_of_lt hk
  -- The block starts with its sign.
  have hbar (rest : List Char) : '|' :: ((literal (o + 2) s).tail ++ rest) = literal (o + 2) s ++ rest := by
    rw [literal, literalHeader_eq]
    rfl
  -- Either the text ends here, or a line follows.
  cases hnext with
  | stop =>
    have hread := @readBlock_literal o s hs hne 0 (Nat.zero_le o) [] [] (by simp) (.inr ⟨rfl, rfl, rfl⟩)
    have hend := hbar []
    rw [List.append_nil, List.append_nil] at hend
    show ReadsAt stack allowed (literal (o + 2) s) k _
    rw [← hend]
    refine ReadsAt.token (by decide) hle (by simp) (by simp) (fun tokens i l => ?_) (ReadsBehind.stop stack)
    obtain ⟨endLine, i', l', k', hblock, hl, -⟩ := hread (i + '|'.utf8Size) l (k + 1)
    simp only [List.replicate_zero, List.append_nil] at hblock
    refine ⟨none, true, i', l', k', endLine, isLoose_none l', ?_⟩
    rw [fetchHere_literal, fetchBlock_block (by rw [ho]; exact hblock)]
  -- The line that follows is not indented more than what is around the block.
  | @line m x rest kinds hm hx hread' =>
    have hmo : m ≤ o := by simpa [ho] using hm
    have hrest : ∀ c ∈ (x :: rest).head?, isBreak c = false ∧ c ≠ '\t' ∧ c ≠ ' ' := by
      rintro c ⟨⟩
      simp only [isTokenStart, isSpaceOrTab, Bool.not_eq_true', Bool.or_eq_false_iff, beq_eq_false_iff_ne] at hx
      exact ⟨hx.1.1.2, hx.1.1.1.2, hx.1.1.1.1⟩
    have hread := readBlock_literal hs hne hmo hrest (.inl rfl)
    have hline : followed (literal (o + 2) s) (some (m, x :: rest))
        = '|' :: ((literal (o + 2) s).tail ++ ((if s.getLast?.any isBreak then [] else ['\n'])
            ++ (List.replicate m ' ' ++ x :: rest))) := by
      rw [hbar, followed, newLine, getLast?_literal (o + 2) hne, pad]
      simp
    rw [hline]
    refine ReadsAt.tokenLine (by decide) hle (by simp) ?_ (fun tokens i l => ?_) hread'
    · simp only [List.length_cons, List.length_append]
      omega
    · obtain ⟨endLine, i', l', k', hblock, hl, hk'⟩ := hread (i + '|'.utf8Size) l (k + 1)
      obtain rfl := hk' (List.cons_ne_nil x rest)
      refine ⟨none, i', l', endLine, isLoose_none l, hl, ?_⟩
      rw [fetchHere_literal, fetchBlock_block (by rw [ho]; exact hblock)]

/-- **Strings as values.** A written string is read as one token with that string. -/
theorem writeString_value {o : Nat} (ho : stack.head? = some o) (hk : o < k) (s : String) :
    ReadsAt stack allowed (followed (writeString (o + 2) s) next?) k (.scalar s (Form.choose s).style :: kinds) := by
  have hless : stack.head?.all (· < k) = true := by simpa [ho] using hk
  -- A literal block has a reader of its own; all other forms are on one line or between marks.
  by_cases hform : Form.choose s = .literal
  · have hne : s.toList ≠ [] := List.ne_nil_of_mem (Form.of_choose_literal hform).1
    have hread : ReadsAt stack allowed (followed (literal (o + 2) s.toList) next?) k _ :=
      literal_value hnext ho hk (isPrintable_of_choose_literal hform) hne
    rw [String.ofList_toList] at hread
    rw [writeString, hform]
    exact hread
  · have hread : ReadsAt stack allowed (followed (writeString (o + 2) s) next?) k _ :=
      Inline.value hnext (inline_writeString (Nat.succ_pos (o + 1)) hform) hless
    rwa [String.ofList_toList] at hread

end Values

/-! ### Strings as keys -/

/-- A key in front of its colon is on one line, and not too long for the scanner. -/
theorem inline_of_isSimpleKey {s : String} (h : (Value.string s).isSimpleKey = true) {n : Nat} (hn : 0 < n) :
    Inline (Form.choose s).style s.toList (writeString n s) ∧ s.toList.any isBreak = false ∧
      Chars.byteLength (writeString n s) ≤ 1024 := by
  simp only [Value.isSimpleKey, Bool.and_eq_true, Bool.not_eq_true', decide_eq_true_eq] at h
  obtain ⟨hline, hsize⟩ := h
  have hbreaks : ∀ c ∈ s.toList, isBreak c = false := by simpa using List.any_eq_false.1 hline
  rw [← Chars.byteLength_toList] at hsize
  -- A key without breaks is no literal block.
  have hform : Form.choose s ≠ .literal := fun hform =>
    absurd (hbreaks '\n' (Form.of_choose_literal hform).1) (by decide)
  refine ⟨inline_writeString hn hform, hline, ?_⟩
  -- In no form a character is written with more than four bytes for each of its own.
  rw [writeString]
  split
  · omega
  · have := byteLength_singleQuoted_le n hbreaks
    omega
  · have := byteLength_doubleQuoted_le s.toList
    omega
  · contradiction

/-- **Strings as keys.** A string with a colon behind it is a key, if it may stand in front of its colon. -/
theorem writeString_key {s : String} (h : (Value.string s).isSimpleKey = true) {n : Nat} (hn : 0 < n) {stack : List Nat}
    {k : Nat} (hk : stack.head?.all (· ≤ k) = true) {y : Char} (hy : isEdge (some y) = true) {behind : List Char}
    {kinds : List TokenKind}
    (hread : ∀ k', k < k' → Scan.ReadsAt (Scan.opened stack k) false (y :: behind) k' kinds) :
    Scan.ReadsAt stack true (writeString n s ++ ':' :: y :: behind) k
      (Scan.openedKinds stack k .blockMappingStart
        ++ .key :: .scalar s (Form.choose s).style :: .value :: kinds) := by
  obtain ⟨hinline, hline, hsize⟩ := inline_of_isSimpleKey h hn
  have hkey := hinline.key hsize hline hk hy hread
  rwa [String.ofList_toList] at hkey

/-! ### What strings are made of -/

/-- A string is printable in whatever form it is written. -/
theorem isPrintable_of_mem_writeString (n : Nat) (s : String) : ∀ c ∈ writeString n s, isPrintable c = true := by
  rw [writeString]
  split
  case h_1 hform => exact (plainFits_of_choose hform).printable
  -- Quotes and spaces are added, all others are characters of the text.
  case h_2 hform =>
    intro c hc
    rcases mem_of_mem_singleQuoted hc with rfl | rfl | hc
    · decide
    · decide
    · exact (singleFits_of_choose hform).printable c hc
  case h_3 => exact fun c hc => (isPrintable_of_mem_doubleQuoted hc).1
  case h_4 hform => exact isPrintable_of_mem_literal n (isPrintable_of_choose_literal hform)

/-- A written string starts as a token does. -/
theorem exists_writeString (n : Nat) (s : String) : ∃ x rest, writeString n s = x :: rest ∧ isTokenStart x = true := by
  rw [writeString]
  split
  case h_1 hform =>
    have hs := plainFits_of_choose hform
    obtain ⟨x, w, hw⟩ := List.exists_cons_of_ne_nil hs.ne
    rw [hw] at hs
    exact ⟨x, w, hw, hs.isTokenStart⟩
  case h_2 => exact ⟨'\x27', _, rfl, by decide⟩
  case h_3 => exact ⟨'"', _, rfl, by decide⟩
  case h_4 => exact ⟨'|', _, by rw [literal, literalHeader_eq]; rfl, by decide⟩

end Scaffold.Yaml
