import Scaffold.Document.Items
import Scaffold.Proofs.Document.LiteralLines
import Scaffold.Proofs.Yaml.Depth
import Scaffold.Proofs.Yaml.Writing

namespace Scaffold.Document

/-!
# Written collections as documents

The text of a collection is read as that collection, if normalization leaves it alone. It does so line by line: dashes,
keys and what is in quotes do not look like a value that starts with a placeholder, and the lines of a literal block
lie in a block scalar, as long as normalization knows the header of the block.

* `parse_of_normalize` — a document whose normal form is the text of a collection;
* `Place`, `Front` — what stands on a line in front of a token, and in front of the blank and the value behind it;
* `IsCalm`, `IsCalm.newLine` — texts that are left alone, one behind the other, also on a line that a line separator
  does not end for normalization;
* `isTame`, `isCalmBehind_of_isTame` — data that normalization leaves alone where it is written;
* `parse_plainText`, `parse_plainText_ne` — the collections that are read as themselves, and some that are not.
-/

open Chars Yaml

/-! ### Reading -/

/-- A text with another character is not blank. -/
theorem not_allBlank_of_mem {c : Char} {s : List Char} (hmem : c ∈ s) (hc : isBlank c = false) :
    allBlank s = false := by
  rw [Bool.eq_false_iff]
  intro h
  rw [List.all_eq_true.1 h c hmem] at hc
  cases hc

/-- The text of a collection has a mark in it. -/
theorem allBlank_write {v : Value} (h : v.isCollection = true) : allBlank v.write = false := by
  match v with
  | .sequence [] => exact not_allBlank_of_mem (c := '[') (by simp [Value.write]) (by decide)
  | .sequence [v] => exact not_allBlank_of_mem (c := '-') (by simp [Value.write, Value.writeItems]) (by decide)
  | .sequence (v :: w :: items) =>
    exact not_allBlank_of_mem (c := '-') (by simp [Value.write, Value.writeItems]) (by decide)
  | .mapping [] => exact not_allBlank_of_mem (c := '\x7b') (by simp [Value.write]) (by decide)
  | .mapping ((key, v) :: entries) =>
    refine not_allBlank_of_mem (c := ':') ?_ (by decide)
    rw [Value.write]
    cases entries <;> simp [Value.writeEntries]

/-- A document whose normal form is the text of a collection is that collection. -/
theorem parse_of_normalize {text : String} {v : Value} (hv : IsData Node.depthLimit v)
    (hcollection : v.isCollection = true) (h : normalize text = .ofList v.write) : parse text = .ok v := by
  have hblank : Text.allBlank (.ofList v.write) = false := by
    rw [Text.allBlank, String.toList_ofList, allBlank_write hcollection]
  simp only [parse, h, hblank, Bool.false_eq_true, if_false, parse_write hv hcollection]

/-! ### Starts of lines -/

/-- The start of a line in front of a token of a collection at column `col`. What is quiet may stand behind it; it is
    sheltered if normalization sees the line start there, too. -/
structure Place (sheltered : Bool) (col : Nat) (front : List Char) : Prop where
  quiet (s : List Char) (hline : '\n' ∉ s) (hs : isQuiet s = true) : IsUntouched (front ++ s)
  shelter (h : sheltered = true) : '\n' ∉ front ∧ indentation front ≤ col

/-- The start of a line in front of the blank and the value behind an indicator of a collection at column `col`. A
    literal block is sheltered there if normalization sees that it is one. -/
structure Front (sheltered : Bool) (col : Nat) (front : List Char) : Prop where
  untouched : IsUntouched front
  value (s : List Char) (hline : '\n' ∉ s) (hs : isQuiet s = true) : IsUntouched (front ++ ' ' :: s)
  shelter (h : sheltered = true) :
    '\n' ∉ front ∧ indentation front ≤ col ∧ (front.getLast? = some ':' ∨ front.getLast? = some '-')

/-- What stands behind a character that is no blank does not change the indentation. -/
theorem indentation_append_of_not_blank (front : List Char) {c : Char} (hc : isBlank c = false) (s : List Char) :
    indentation (front ++ c :: s) = indentation front := by
  rw [indentation, (dropWhile_append_of_neg hc front s).2, indentation]

/-- The indentation at the column of the collection. -/
theorem place_pad (sheltered : Bool) (col : Nat) : Place sheltered col (pad col) where
  quiet s hline hs := by
    refine isUntouched_of_isQuiet ?_ (by rw [isQuiet_pad, hs])
    simp [notMem_pad (c := '\n') (by decide) col, hline]
  shelter _ := by
    have hspace : isBlank ' ' = true := by decide
    have hpad : indentation (pad col) = col := by
      rw [indentation, pad, List.takeWhile_replicate, if_pos hspace, byteLength_replicate_space]
    exact ⟨notMem_pad (by decide) col, Nat.le_of_eq hpad⟩

section Place

variable {sheltered : Bool} {col : Nat} {front : List Char}

/-- A mark of one character that starts no value. -/
theorem Place.mark (h : Place sheltered col front) (mark : Char) (hblank : isBlank mark = false)
    (hline : mark ≠ '\n') (hquiet : ∀ s, isQuiet s = true → isQuiet (mark :: ' ' :: s) = true)
    (hend : isQuiet [mark] = true) : Front (sheltered && (mark == ':' || mark == '-')) col (front ++ [mark]) where
  untouched := h.quiet [mark] (by simpa using Ne.symm hline) hend
  value s hs hs' := by
    rw [List.append_assoc]
    exact h.quiet _ (by simp [Ne.symm hline, hs]) (hquiet s hs')
  shelter hmark := by
    rw [Bool.and_eq_true] at hmark
    obtain ⟨hfront, hle⟩ := h.shelter hmark.1
    rw [indentation_append_of_not_blank front hblank, List.getLast?_concat]
    exact ⟨by simpa [hfront] using Ne.symm hline, hle, by simpa using hmark.2⟩

/-- The dash of an item. -/
theorem Place.dash (h : Place sheltered col front) : Front sheltered col (front ++ ['-']) := by
  have hdash := h.mark '-' (by decide) (by decide) (fun s hs => by rwa [isQuiet_dash (by decide)]) (by decide)
  simpa using hdash

/-- No literal block is sheltered behind a question mark. -/
theorem Place.question (h : Place sheltered col front) : Front false col (front ++ ['?']) := by
  have hquestion := h.mark '?' (by decide) (by decide)
    (fun _ _ => isQuiet_of_mark (by decide) (by decide) (by decide) (by decide) _) (by decide)
  simpa using hquestion

/-- The colon of a value behind a question mark. -/
theorem Place.colon (h : Place sheltered col front) : Front sheltered col (front ++ [':']) := by
  have hcolon := h.mark ':' (by decide) (by decide)
    (fun _ _ => isQuiet_of_mark (by decide) (by decide) (by decide) (by decide) _) (by decide)
  simpa using hcolon

/-- A key with its colon. -/
theorem Place.key {key : List Char} (h : Place sheltered col front) (hline : '\n' ∉ key)
    (hquiet : isQuiet (key ++ [':']) = true) :
    Front (sheltered && !key.head?.any isBlank) col (front ++ key ++ [':']) where
  untouched := by
    rw [List.append_assoc]
    exact h.quiet _ (by simp [hline]) hquiet
  value s hs hs' := by
    rw [List.append_assoc, List.append_assoc]
    exact h.quiet _ (by simp [hline, hs]) (isQuiet_key hquiet hs')
  shelter hshelter := by
    rw [Bool.and_eq_true] at hshelter
    obtain ⟨hfront, hle⟩ := h.shelter hshelter.1
    -- An unusual blank at the start of the key would count as indentation.
    have hhead : ∃ c rest, key ++ [':'] = c :: rest ∧ isBlank c = false := by
      cases key with
      | nil => exact ⟨':', [], rfl, by decide⟩
      -- The colon is there also when the key is empty.
      | cons c key => exact ⟨c, key ++ [':'], rfl, by simpa using hshelter.2⟩
    obtain ⟨c, rest, hkey, hc⟩ := hhead
    refine ⟨by simp [hfront, hline], ?_, .inl (by simp)⟩
    rw [List.append_assoc, hkey, indentation_append_of_not_blank front hc]
    exact hle

/-- Behind a colon or a dash, nothing belongs to the indentation of the line. -/
theorem Front.indentation_append (h : Front true col front) (s : List Char) : indentation (front ++ s) ≤ col := by
  obtain ⟨-, hle, hlast⟩ := h.shelter rfl
  obtain ⟨before, c, rfl, hc⟩ : ∃ before c, front = before ++ [c] ∧ isBlank c = false := by
    rcases hlast with hlast | hlast <;> obtain ⟨before, rfl⟩ := List.getLast?_eq_some_iff.1 hlast
    · exact ⟨before, ':', rfl, by decide⟩
    · exact ⟨before, '-', rfl, by decide⟩
  rw [indentation_append_of_not_blank before hc] at hle
  rwa [List.append_assoc, List.singleton_append, indentation_append_of_not_blank before hc]

/-- Behind a blank there is a place for a collection that is not on a line of its own. -/
theorem Front.place (h : Front sheltered col front) : Place sheltered (col + 2) (front ++ [' ']) where
  quiet s hline hs := by
    rw [List.append_assoc]
    exact h.value s hline hs
  shelter hshelter := by
    subst hshelter
    exact ⟨by simpa using (h.shelter rfl).1, Nat.le_add_right_of_le (h.indentation_append [' '])⟩

end Place

/-! ### Texts one behind the other -/

/-- Whether a text ends with a line separator. The writer starts no line of its own for what is behind it, and
    normalization does not see that one starts. -/
def endsMidLine (text : List Char) : Bool := text.getLast?.any fun c => isBreak c && c != '\n'

/-- A text ends with the end of its last part. -/
theorem getLast?_append_of_ne_nil (s : List Char) {t : List Char} (ht : t ≠ []) :
    (s ++ t).getLast? = t.getLast? := by
  obtain ⟨c, hc⟩ := Option.ne_none_iff_exists'.1 (mt List.getLast?_eq_none_iff.1 ht)
  rw [List.getLast?_append, hc]
  rfl

/-- A text ends as its last part does. -/
theorem endsMidLine_append (s : List Char) {t : List Char} (ht : t ≠ []) :
    endsMidLine (s ++ t) = endsMidLine t := by
  rw [endsMidLine, getLast?_append_of_ne_nil s ht, endsMidLine]

/-- A text that normalization leaves alone, also with a quiet text behind it on the same line, if there may be one: if
    `midLine` holds, the text may end with a line separator. -/
structure IsCalm (midLine : Bool) (text : List Char) : Prop where
  untouched : IsUntouched text
  ends (h : endsMidLine text = true) : midLine = true
  join (h : endsMidLine text = true) (s : List Char) (hline : '\n' ∉ s) (hs : isQuiet s = true) :
    IsUntouched (text ++ s)

/-- A text that does not end with a line separator. -/
theorem isCalm_of_ends {text : List Char} (h : IsUntouched text) (hends : endsMidLine text = false) (midLine : Bool) :
    IsCalm midLine text where
  untouched := h
  ends hmid := by
    rw [hends] at hmid
    cases hmid
  join hmid := by
    rw [hends] at hmid
    cases hmid

/-- A text on lines of its own, behind a text that is left alone. -/
theorem IsCalm.append_line {midLine : Bool} {s text : List Char} (htext : IsCalm midLine text) (hne : text ≠ [])
    (hs : IsUntouched s) : IsCalm midLine (s ++ '\n' :: text) where
  untouched := hs.append_line htext.untouched
  ends hmid := by
    rw [List.append_cons, endsMidLine_append _ hne] at hmid
    exact htext.ends hmid
  join hmid t hline ht := by
    rw [List.append_cons, endsMidLine_append _ hne] at hmid
    rw [List.append_assoc, List.cons_append]
    exact hs.append_line (htext.join hmid t hline ht)

/-- What follows a text in a collection at column `m`, wherever its line starts. -/
theorem IsCalm.newLine {midLine midLine' : Bool} {front text more : List Char} {m : Nat}
    (htext : IsCalm midLine (front ++ text)) (hne : text ≠ [])
    (hmore : ∀ place, Place (!midLine) m place → IsCalm midLine' (place ++ more)) (hmne : more ≠ []) :
    IsCalm midLine' (front ++ (text ++ newLine m text ++ more)) := by
  have hline : IsCalm midLine' (pad m ++ more) := hmore _ (place_pad _ m)
  have hlne : pad m ++ more ≠ [] := by simp [hmne]
  rw [Yaml.newLine]
  split
  -- The text ends with a break, so none is written behind it.
  · rename_i hbreak
    obtain ⟨c, hc, hcbreak⟩ := (Option.any_eq_true _ _).1 hbreak
    rw [← getLast?_append_of_ne_nil front hne] at hc
    by_cases hc' : c = '\n'
    · -- The text ends its line itself.
      subst hc'
      obtain ⟨before, hbefore⟩ := List.getLast?_eq_some_iff.1 hc
      have huntouched := htext.untouched
      rw [hbefore] at huntouched
      have hsplit : front ++ (text ++ ([] ++ pad m) ++ more) = before ++ '\n' :: (pad m ++ more) := by
        rw [List.nil_append, List.append_assoc, ← List.append_assoc, hbefore]
        simp
      rw [hsplit]
      exact hline.append_line hlne huntouched.of_append_line
    · -- The line goes on, so nothing is sheltered behind the text.
      have hmid : endsMidLine (front ++ text) = true := by
        rw [endsMidLine, hc]
        simp [hcbreak, hc']
      have hplace : Place (!midLine) m (front ++ text ++ pad m) := by
        refine ⟨fun s hs hs' => ?_, fun hshelter => ?_⟩
        · rw [List.append_assoc]
          refine htext.join hmid _ ?_ (by rw [isQuiet_pad, hs'])
          simp [notMem_pad (c := '\n') (by decide) m, hs]
        · rw [htext.ends hmid] at hshelter
          cases hshelter
      have hcalm := hmore _ hplace
      simpa using hcalm
  -- The text does not end its line, so a break is written behind it.
  · have hsplit : front ++ (text ++ (['\n'] ++ pad m) ++ more) = (front ++ text) ++ '\n' :: (pad m ++ more) := by
      simp
    rw [hsplit]
    exact hline.append_line hlne htext.untouched

/-! ### Strings -/

/-- A literal block that normalization leaves alone: its lines lie in a block scalar that normalization knows, or start
    with no placeholder. -/
def isTameLiteral (sheltered : Bool) (s : List Char) : Bool :=
  (sheltered && behindIndicator (literalHeader s).tail) || (splitOn '\n' s).all isQuiet

/-- A string that normalization leaves alone when it is written. -/
def isTameString (sheltered : Bool) (s : String) : Bool :=
  match Form.choose s with
  | .plain => isQuiet s.toList
  | .single | .double => true
  | .literal => isTameLiteral sheltered s.toList

/-- Whether the text of a string ends with a line separator. -/
def stringEndsMidLine (s : String) : Bool := Form.choose s == .literal && endsMidLine s.toList

/-- A line with a scalar on it. -/
theorem Front.scalar {sheltered : Bool} {col : Nat} {front s : List Char} (h : Front sheltered col front)
    (hline : '\n' ∉ s) (hquiet : isQuiet s = true) (hlast : ∀ c ∈ s.getLast?, isBreak c = false) (midLine : Bool) :
    IsCalm midLine (front ++ ' ' :: s) := by
  refine isCalm_of_ends (h.value s hline hquiet) ?_ midLine
  rw [endsMidLine_append _ (List.cons_ne_nil _ _), endsMidLine, List.getLast?_cons]
  cases hs : s.getLast? with
  | none => decide
  | some c => simp [hlast c hs]

/-- The header of a literal block. -/
theorem exists_literalHeader (s : List Char) : ∃ behind, literalHeader s = '|' :: behind ∧ '\n' ∉ behind := by
  refine ⟨_, literalHeader_eq s, ?_⟩
  rw [List.mem_append, not_or]
  exact ⟨by split <;> decide, by split <;> decide⟩

/-- A literal block, with a quiet text behind it, if a line separator ends its last line. -/
theorem Front.isUntouched_literal {sheltered : Bool} {col : Nat} {front s t : List Char}
    (h : Front sheltered col front) (hs : isTameLiteral sheltered s = true) (hline : '\n' ∉ t)
    (ht : isQuiet t = true) (hjoin : t = [] ∨ ∀ c ∈ s.getLast?, isBreak c = true) :
    IsUntouched (front ++ ' ' :: literal (col + 2) s ++ t) := by
  rw [isTameLiteral, Bool.or_eq_true, Bool.and_eq_true] at hs
  obtain ⟨behind, hbehind, hbehindLine⟩ := exists_literalHeader s
  obtain ⟨lines, last, hbody, hmore⟩ := splitOn_append_of_notMem (literalBody (col + 2) true s) hline
  have htext : front ++ ' ' :: Yaml.literal (col + 2) s ++ t
      = (front ++ ' ' :: '|' :: behind) ++ '\n' :: (literalBody (col + 2) true s ++ t) := by
    rw [Yaml.literal, hbehind]
    simp
  -- Each line of the block is a line of the string with the indentation in front.
  have hsource : ∀ l ∈ lines ++ [last], ∃ l' ∈ splitOn '\n' s, literalBody (col + 2) true l' = l := fun l hl => by
    rw [← hbody, splitOn_literalBody] at hl
    exact List.mem_map.1 hl
  -- The text behind goes on with the last line of the block.
  have hlast (hquiet : isQuiet last = true) : isQuiet (last ++ t) = true := by
    rcases hjoin with rfl | hbreak
    · rwa [List.append_nil]
    · refine isQuiet_append_of_break (fun c hc => ?_) hquiet ht
      have hsuffix : last <:+ literalBody (col + 2) true s := by
        rw [← joinWith_splitOn '\n' (literalBody (col + 2) true s), hbody]
        exact isSuffix_joinWith_concat ['\n'] lines last
      have hend : (literalBody (col + 2) true s).getLast? = last.getLast? := by
        obtain ⟨before, hbefore⟩ := hsuffix
        rw [← hbefore, getLast?_append_of_ne_nil before (by rintro rfl; cases hc)]
      rw [getLast?_literalBody] at hend
      exact hbreak c (by rwa [hend])
  rw [htext]
  -- The block is sheltered by a header that is known as one, or every line of it is quiet by itself.
  rcases hs with ⟨rfl, hknown⟩ | hquiet
  · obtain ⟨hfront, -, hmark⟩ := h.shelter rfl
    rw [hbehind, List.tail_cons] at hknown
    have hopens : opensBlock (front ++ ' ' :: '|' :: behind) = true := by
      refine opensBlock_of_mark (fun c hc => ?_) ?_ hknown
      · rcases hmark with hmark | hmark <;> rw [hmark] at hc <;> cases hc
        · exact .inl rfl
        · exact .inr rfl
      · rintro rfl
        rcases hmark with hmark | hmark <;> cases hmark
    -- The lines are indented deeper than the header's line.
    have hinside : ∀ l ∈ lines ++ [last], insideBlock (indentation (front ++ ' ' :: '|' :: behind)) l = true := by
      intro l hl
      obtain ⟨l', -, rfl⟩ := hsource l hl
      exact insideBlock_literalBody (Nat.lt_of_le_of_lt (h.indentation_append _) (by omega)) l'
    have hsplit : splitOn '\n' ((front ++ ' ' :: '|' :: behind) ++ '\n' :: (literalBody (col + 2) true s ++ t))
        = (front ++ ' ' :: '|' :: behind) :: (lines ++ [last ++ t]) := by
      rw [splitOn_append_sep (by simp [hfront, hbehindLine]), hmore]
    exact isUntouched_block hsplit hopens (fun l hl => hinside l (List.mem_append_left _ hl))
      (insideBlock_append (hinside last (List.mem_append_right _ (List.mem_singleton_self last))) ht)
  · have hlines : ∀ l ∈ lines ++ [last], isQuiet l = true := fun l hl => by
      obtain ⟨l', hl', rfl⟩ := hsource l hl
      exact isQuiet_literalBody (col + 2) (List.all_eq_true.1 hquiet l' hl')
    have hheader := h.value ('|' :: behind) (by simp [hbehindLine])
      (isQuiet_of_mark (by decide) (by decide) (by decide) (by decide) behind)
    refine hheader.append_line (isUntouched_of_lines fun l hl => ?_)
    rw [hmore, List.mem_append, List.mem_singleton] at hl
    rcases hl with hl | rfl
    · exact hlines l (List.mem_append_left _ hl)
    · exact hlast (hlines last (List.mem_append_right _ (List.mem_singleton_self last)))

/-- A literal block. -/
theorem Front.literal {sheltered : Bool} {col : Nat} {front s : List Char} (h : Front sheltered col front)
    (hne : s ≠ []) (hs : isTameLiteral sheltered s = true) :
    IsCalm (endsMidLine s) (front ++ ' ' :: literal (col + 2) s) := by
  have hends : endsMidLine (front ++ ' ' :: Yaml.literal (col + 2) s) = endsMidLine s := by
    have hlne : Yaml.literal (col + 2) s ≠ [] := by simp [Yaml.literal]
    rw [List.append_cons, endsMidLine_append _ hlne, endsMidLine, getLast?_literal (col + 2) hne, endsMidLine]
  refine ⟨?_, fun hmid => by rwa [← hends], fun hmid t hline ht => ?_⟩
  · have hnone := h.isUntouched_literal hs (List.not_mem_nil (a := '\n')) (by decide) (.inl rfl)
    rwa [List.append_nil] at hnone
  · rw [hends, endsMidLine, Option.any_eq_true] at hmid
    obtain ⟨c, hc, hbreak⟩ := hmid
    refine h.isUntouched_literal hs hline ht (.inr fun d hd => ?_)
    obtain rfl := Option.mem_unique hc hd
    exact (Bool.and_eq_true _ _ ▸ hbreak).1

/-- What starts with a quote does not start with a placeholder. -/
theorem isQuiet_quoteMark {written : List Char} (h : written.head? = some '\x27' ∨ written.head? = some '"')
    (more : List Char) : isQuiet (written ++ more) = true := by
  rcases h with h | h <;> obtain ⟨rest, rfl⟩ := List.head?_eq_some_iff.1 h <;>
    exact isQuiet_of_mark (by decide) (by decide) (by decide) (by decide) (rest ++ more)

/-- A string in quotes starts with a quote. -/
theorem head?_writeString {s : String} (n : Nat) (h : Form.choose s = .single ∨ Form.choose s = .double) :
    (writeString n s).head? = some '\x27' ∨ (writeString n s).head? = some '"' := by
  rw [writeString]
  rcases h with h | h <;> rw [h]
  · exact .inl rfl
  · exact .inr rfl

/-- A scalar that is no literal block is on one line. -/
theorem notMem_writeString {s : String} (n : Nat) (h : Form.choose s ≠ .literal) : '\n' ∉ writeString n s := by
  rw [writeString]
  split
  case h_1 hform => exact (Form.of_choose_plain hform).1
  case h_2 hform =>
    intro hmem
    rcases mem_of_mem_singleQuoted hmem with hc | hc | hc
    · cases hc
    · cases hc
    · exact (Form.of_choose_single hform).1 hc
  case h_3 => exact fun hmem => absurd (isPrintable_of_mem_doubleQuoted hmem).2 (by decide)
  case h_4 hform => exact absurd hform h

/-- A string, in whatever form. -/
theorem Front.string {sheltered : Bool} {col : Nat} {front : List Char} (h : Front sheltered col front) {s : String}
    (hs : isTameString sheltered s = true) :
    IsCalm (stringEndsMidLine s) (front ++ ' ' :: writeString (col + 2) s) := by
  have hscalar (hform : Form.choose s ≠ .literal) (hquiet : isQuiet (writeString (col + 2) s) = true) :
      IsCalm (stringEndsMidLine s) (front ++ ' ' :: writeString (col + 2) s) :=
    h.scalar (notMem_writeString _ hform) hquiet (inline_writeString (Nat.succ_pos (col + 1)) hform).getLast? _
  -- A quotation mark starts no placeholder, whatever stands between the marks.
  have hquoted (hform : Form.choose s = .single ∨ Form.choose s = .double) :
      IsCalm (stringEndsMidLine s) (front ++ ' ' :: writeString (col + 2) s) := by
    have hquiet := isQuiet_quoteMark (head?_writeString (col + 2) hform) []
    rw [List.append_nil] at hquiet
    exact hscalar (by rcases hform with hform | hform <;> rw [hform] <;> decide) hquiet
  cases hform : Form.choose s with
  | plain =>
    refine hscalar (by rw [hform]; decide) ?_
    rw [isTameString, hform] at hs
    rw [writeString, hform]
    exact hs
  | single => exact hquoted (.inl hform)
  | double => exact hquoted (.inr hform)
  -- A literal block has lines of its own, which the header shelters or which are quiet.
  | literal =>
    have hends : stringEndsMidLine s = endsMidLine s.toList := by simp [stringEndsMidLine, hform]
    rw [isTameString, hform] at hs
    rw [writeString, hform, hends]
    exact h.literal (List.ne_nil_of_mem (Form.of_choose_literal hform).1) hs

/-! ### Keys -/

/-- A key that normalization leaves alone when it is written. Behind a question mark it knows no block scalars. -/
def isTameKey (key : String) : Bool :=
  if (Value.string key).isSimpleKey then Form.choose key != .plain || isQuiet (key.toList ++ [':'])
  else isTameString false key

/-- Whether a literal block behind the key is sheltered. Behind a key on the same line, it must be indented by more than
    that line, as normalization measures it: an unusual blank at the start of the key counts. Behind a question mark,
    the value has a line of its own, unless the key ends with a line separator. -/
def sheltersValue (sheltered : Bool) (key : String) : Bool :=
  if (Value.string key).isSimpleKey then
    sheltered && !(Form.choose key == .plain && key.toList.head?.any isBlank)
  else !stringEndsMidLine key

/-- A key in front of its colon. -/
theorem Place.simpleKey {sheltered : Bool} {col : Nat} {front : List Char} (h : Place sheltered col front)
    {key : String} (hsimple : (Value.string key).isSimpleKey = true) (hkey : isTameKey key = true) :
    Front (sheltersValue sheltered key) col (front ++ writeString (col + 2) key ++ [':']) := by
  obtain ⟨-, hline, -⟩ := inline_of_isSimpleKey hsimple (Nat.succ_pos (col + 1))
  -- A key on one line is no literal block, since that has a line break in it.
  have hliteral : Form.choose key ≠ .literal := fun hform => by
    have hnone := List.any_eq_false.1 hline '\n' (Form.of_choose_literal hform).1
    exact hnone (by decide)
  have hquoted (hform : Form.choose key = .single ∨ Form.choose key = .double) :
      Front (sheltersValue sheltered key) col (front ++ writeString (col + 2) key ++ [':']) := by
    have hhead := head?_writeString (col + 2) hform
    -- A quotation mark is no blank, so a quoted key shelters its value as the column does.
    have hshelters : (sheltered && !(writeString (col + 2) key).head?.any isBlank) = sheltersValue sheltered key := by
      have hplain : Form.choose key ≠ .plain := by rcases hform with hform | hform <;> rw [hform] <;> decide
      rcases hhead with hhead | hhead <;> rw [hhead] <;> simp [sheltersValue, hsimple, hplain, isBlank]
    rw [← hshelters]
    exact h.key (notMem_writeString _ (by rcases hform with hform | hform <;> rw [hform] <;> decide))
      (isQuiet_quoteMark hhead [':'])
  cases hform : Form.choose key with
  | plain =>
    have hwritten : writeString (col + 2) key = key.toList := by rw [writeString, hform]
    have hshelters : (sheltered && !key.toList.head?.any isBlank) = sheltersValue sheltered key := by
      simp [sheltersValue, hsimple, hform]
    rw [isTameKey, if_pos hsimple, hform] at hkey
    rw [hwritten, ← hshelters]
    exact h.key (Form.of_choose_plain hform).1 (by simpa using hkey)
  | single => exact hquoted (.inl hform)
  | double => exact hquoted (.inr hform)
  | literal => exact absurd hform hliteral

/-! ### Values -/

mutual

/-- Whether the text of the value ends with a line separator. -/
def valueEndsMidLine : Value → Bool
  | .string s => stringEndsMidLine s
  | .sequence items => itemsEndMidLine items
  | .mapping entries => entriesEndMidLine entries
  | .tagged _ v => valueEndsMidLine v
  | .null | .bool _ | .number _ => false

/-- Whether the text of the items ends with a line separator: that of the last one. -/
def itemsEndMidLine : List Value → Bool
  | [] => false
  | v :: items => if items.isEmpty then valueEndsMidLine v else itemsEndMidLine items

/-- Whether the text of the entries ends with a line separator: that of the last value. -/
def entriesEndMidLine : List (Value × Value) → Bool
  | [] => false
  | (_, v) :: entries => if entries.isEmpty then valueEndsMidLine v else entriesEndMidLine entries

end

mutual

/-- A value whose strings normalization leaves alone where they are written. Under a key, a collection starts on a
    line of its own. -/
def isTame (slot : Value.Slot) (sheltered : Bool) : Value → Bool
  | .string s => isTameString sheltered s
  | .sequence items => areTame (slot == .field || sheltered) items
  | .mapping entries => entriesAreTame (slot == .field || sheltered) entries
  | .tagged _ v => isTame slot sheltered v
  | .null | .bool _ | .number _ => true

/-- Items, the first of which starts at a place that may be sheltered. -/
def areTame (sheltered : Bool) : List Value → Bool
  | [] => true
  | v :: items => isTame .item sheltered v && areTame (!valueEndsMidLine v) items

/-- Entries, the first of which starts at a place that may be sheltered. -/
def entriesAreTame (sheltered : Bool) : List (Value × Value) → Bool
  | [] => true
  | (.string key, v) :: entries =>
    isTameKey key && isTame (Value.fieldSlot key) (sheltersValue sheltered key) v &&
      entriesAreTame (!valueEndsMidLine v) entries
  | (_, v) :: entries => isTame .field sheltered v && entriesAreTame (!valueEndsMidLine v) entries

end

/-- Behind an indicator, the text of the value is left alone. -/
def IsCalmBehind (slot : Value.Slot) (sheltered : Bool) (v : Value) : Prop :=
  ∀ (col : Nat) (front : List Char), Front sheltered col front →
    IsCalm (valueEndsMidLine v) (front ++ v.writeNode slot col none)

/-- A string behind an indicator. -/
theorem isCalmBehind_string {sheltered : Bool} {s : String} (slot : Value.Slot)
    (hs : isTameString sheltered s = true) : IsCalmBehind slot sheltered (.string s) := by
  intro col front hfront
  have hwritten : (Value.string s).writeNode slot col none = ' ' :: writeString (col + 2) s := by
    rw [Value.writeNode]
    rfl
  rw [hwritten, valueEndsMidLine]
  exact hfront.string hs

/-- A word without a brace. -/
theorem isCalmBehind_word (slot : Value.Slot) (sheltered : Bool) {v : Value} {s : List Char} (hs : PlainFits s)
    (hbrace : '\x7b' ∉ s) (hwritten : ∀ slot col, v.writeNode slot col none = ' ' :: s) :
    IsCalmBehind slot sheltered v := by
  intro col front hfront
  have hline : '\n' ∉ s := fun hmem => by
    have hbreak := hs.inline '\n' hmem
    exact absurd hbreak (by decide)
  rw [hwritten]
  exact hfront.scalar hline (isQuiet_of_notMem hbrace) (fun c hc => hs.inline c (List.mem_of_getLast? hc)) _

/-- The brackets of an empty collection. -/
theorem isCalmBehind_brackets (slot : Value.Slot) (sheltered : Bool) {v : Value} {s : List Char}
    (hs : s = ['[', ']'] ∨ s = ['\x7b', '\x7d']) (hwritten : ∀ slot col, v.writeNode slot col none = ' ' :: s) :
    IsCalmBehind slot sheltered v := by
  intro col front hfront
  rw [hwritten]
  rcases hs with rfl | rfl <;> exact hfront.scalar (by decide) (by decide) (by rintro c ⟨⟩; decide) _

/-- The items of a sequence. -/
theorem isCalm_writeItems {sheltered : Bool} {col : Nat} {front : List Char} (hfront : Place sheltered col front)
    {items : List Value} (hne : items ≠ []) (htame : areTame sheltered items = true)
    (hitems : ∀ v ∈ items, ∀ sheltered, isTame .item sheltered v = true → IsCalmBehind .item sheltered v) :
    IsCalm (itemsEndMidLine items) (front ++ Value.writeItems col items) := by
  induction items generalizing sheltered front with
  | nil => exact absurd rfl hne
  | cons v items ih =>
    rw [areTame, Bool.and_eq_true] at htame
    obtain ⟨hv, hitems⟩ := List.forall_mem_cons.1 hitems
    have hitem := hv sheltered htame.1 col (front ++ ['-']) hfront.dash
    rw [List.append_assoc, List.singleton_append] at hitem
    rw [Value.writeItems, itemsEndMidLine]
    split
    -- The last item ends the list; behind any other one the next line begins at the same place.
    · exact hitem
    · rename_i hmore
      have hne : items ≠ [] := by simpa using hmore
      exact hitem.newLine (List.cons_ne_nil _ _) (fun place hplace => ih hplace hne htame.2 hitems)
        (Value.startsToken_writeItems col hne).ne_nil

/-- An entry of a mapping. -/
theorem isCalm_writeEntry {sheltered : Bool} {col : Nat} {front : List Char} (hfront : Place sheltered col front)
    {key : String} {v : Value} (hkey : isTameKey key = true)
    (hv : IsCalmBehind (Value.fieldSlot key) (sheltersValue sheltered key) v) :
    IsCalm (valueEndsMidLine v) (front ++ Value.writeEntry col key v) := by
  rw [Value.writeEntry]
  cases hsimple : (Value.string key).isSimpleKey with
  | true =>
    -- The key stands in front of its colon, on one line.
    have hvalue := hv col _ (hfront.simpleKey hsimple hkey)
    rw [List.append_assoc, List.append_assoc, List.singleton_append] at hvalue
    rw [if_pos rfl]
    exact hvalue
  | false =>
    -- The key stands behind a question mark, and the colon has a line of its own.
    have hshelters : sheltersValue sheltered key = !stringEndsMidLine key := by simp [sheltersValue, hsimple]
    rw [isTameKey, hsimple, if_neg Bool.false_ne_true] at hkey
    have hquestion := hfront.question.string hkey
    rw [List.append_assoc, List.singleton_append] at hquestion
    have hcolon (place : List Char) (hplace : Place (!stringEndsMidLine key) col place) :
        IsCalm (valueEndsMidLine v) (place ++ ':' :: v.writeNode (Value.fieldSlot key) col none) := by
      rw [← hshelters] at hplace
      have hvalue := hv col _ hplace.colon
      rwa [List.append_assoc, List.singleton_append] at hvalue
    rw [if_neg Bool.false_ne_true]
    have hkeyLine : IsCalm (stringEndsMidLine key) (front ++ Value.complexKey col key) := hquestion
    exact hkeyLine.newLine (List.cons_ne_nil _ _) hcolon (List.cons_ne_nil _ _)

/-- The entries of a mapping. -/
theorem isCalm_writeEntries {sheltered : Bool} {col : Nat} {front : List Char} (hfront : Place sheltered col front)
    {fields : List (String × Value)} (hne : fields ≠ [])
    (htame : entriesAreTame sheltered (Value.entriesOf fields) = true)
    (hfields : ∀ f ∈ fields, ∀ slot sheltered, isTame slot sheltered f.2 = true → IsCalmBehind slot sheltered f.2) :
    IsCalm (entriesEndMidLine (Value.entriesOf fields)) (front ++ Value.writeEntries col (Value.entriesOf fields)) := by
  -- The induction is on the fields. Where an entry ends decides how the next one is sheltered.
  induction fields generalizing sheltered front with
  | nil => exact absurd rfl hne
  | cons f fields ih =>
    obtain ⟨key, v⟩ := f
    obtain ⟨hv, hfields⟩ := List.forall_mem_cons.1 hfields
    have hcons : Value.entriesOf ((key, v) :: fields) = (.string key, v) :: Value.entriesOf fields := rfl
    rw [hcons, entriesAreTame, Bool.and_eq_true, Bool.and_eq_true] at htame
    have hentry := isCalm_writeEntry hfront htame.1.1 (hv _ _ htame.1.2)
    have hempty : (Value.entriesOf fields).isEmpty = fields.isEmpty := List.isEmpty_map
    rw [Value.writeEntries_cons, hcons, entriesEndMidLine, hempty]
    split
    · exact hentry
    · rename_i hmore
      have hne : fields ≠ [] := by simpa using hmore
      exact hentry.newLine (Value.startsToken_writeEntry col key v).ne_nil
        (fun place hplace => ih hplace hne htame.2 hfields) (Value.startsToken_writeEntries col hne).ne_nil

/-- Behind an indicator, the text of tame data is left alone. -/
theorem isCalmBehind_of_isTame {n : Nat} {v : Value} (hv : IsData n v) {slot : Value.Slot} {sheltered : Bool}
    (h : isTame slot sheltered v = true) : IsCalmBehind slot sheltered v := by
  -- The cases follow the data; scalars stand on the line of their indicator.
  induction hv generalizing slot sheltered with
  | null =>
    exact isCalmBehind_word slot sheltered (s := "null".toList) (plainFits_of_plainAllowed (by decide) (by decide))
      (by decide) fun _ _ => by rw [Value.writeNode]; rfl
  | bool b =>
    refine isCalmBehind_word slot sheltered (s := (toString b).toList) ?_ (by cases b <;> decide)
      fun _ _ => by rw [Value.writeNode]; rfl
    cases b <;> exact plainFits_of_plainAllowed (by decide) (by decide)
  | @int _ i =>
    refine isCalmBehind_word slot sheltered (s := (toString i).toList) (plainFits_int i) (fun hmem => ?_)
      fun _ _ => by rw [Value.writeNode]; rfl
    rcases Scalar.eq_or_isAsciiDigit_of_mem_toString hmem with hc | hc <;> cases hc
  | string s =>
    rw [isTame] at h
    exact isCalmBehind_string slot h
  | @sequence n items hitems ih =>
    -- An empty sequence is a pair of brackets.
    by_cases hne : items = []
    · subst hne
      exact isCalmBehind_brackets slot sheltered (.inl rfl) fun slot col => (Value.writeNode_nil slot col).1
    · rw [isTame] at h
      intro col front hfront
      rw [Value.writeNode_sequence slot col hne, valueEndsMidLine]
      split
      -- Under a key, the items start on a line of their own.
      · rename_i hfield
        rw [hfield] at h
        have hitems := isCalm_writeItems (place_pad _ col) hne h fun v hv _ => ih v hv
        exact hitems.append_line (by simp [(Value.startsToken_writeItems col hne).ne_nil]) hfront.untouched
      -- Elsewhere the first item stands behind the indicator.
      · rename_i hfield
        rw [beq_eq_false_iff_ne.2 hfield, Bool.false_or] at h
        have hitems := isCalm_writeItems hfront.place hne h fun v hv _ => ih v hv
        rwa [List.append_assoc] at hitems
  | @mapping n fields hkeys hfields ih =>
    -- An empty mapping is a pair of brackets.
    by_cases hne : fields = []
    · subst hne
      exact isCalmBehind_brackets slot sheltered (.inr rfl) fun slot col => (Value.writeNode_nil slot col).2
    · have hentries : Value.entriesOf fields ≠ [] := by simpa [Value.entriesOf] using hne
      rw [isTame] at h
      intro col front hfront
      show IsCalm (entriesEndMidLine (Value.entriesOf fields))
        (front ++ (Value.mapping (Value.entriesOf fields)).writeNode slot col none)
      rw [Value.writeNode_mapping slot col hentries]
      split
      -- Under a key, the entries start on a line of their own.
      · rename_i hfield
        rw [hfield] at h
        have hcalm := isCalm_writeEntries (place_pad _ (col + 2)) hne h fun f hf _ _ => ih f hf
        exact hcalm.append_line (by simp [(Value.startsToken_writeEntries (col + 2) hne).ne_nil]) hfront.untouched
      · rename_i hfield
        rw [beq_eq_false_iff_ne.2 hfield, Bool.false_or] at h
        have hcalm := isCalm_writeEntries hfront.place hne h fun f hf _ _ => ih f hf
        rwa [List.append_assoc] at hcalm

/-! ### Documents -/

/-- Normalization leaves the text of a collection of tame data alone. -/
theorem isUntouched_write {n : Nat} {v : Value} (hv : IsData n v) (hcollection : v.isCollection = true)
    (htame : isTame .item true v = true) : IsUntouched v.write := by
  have hplace : Place true 0 [] := place_pad true 0
  cases hv with
  | null | bool | int | string => cases hcollection
  | @sequence n items hitems =>
    rw [isTame, Bool.or_true] at htame
    rw [Value.write_sequence]
    split
    · exact isUntouched_of_isQuiet (by decide) (by decide)
    · rename_i hne
      have hcalm := isCalm_writeItems hplace hne htame fun v hv _ => isCalmBehind_of_isTame (hitems v hv)
      exact hcalm.untouched
  | @mapping n fields hkeys hfields =>
    rw [isTame, Bool.or_true] at htame
    show IsUntouched (Value.mapping (Value.entriesOf fields)).write
    rw [Value.write_mapping]
    split
    · exact isUntouched_of_isQuiet (by decide) (by decide)
    · rename_i hne
      have hcalm := isCalm_writeEntries hplace hne htame fun f hf _ _ => isCalmBehind_of_isTame (hfields f hf)
      exact hcalm.untouched

/-- Data has a text. -/
theorem isWritable_of_isData {n : Nat} {v : Value} (hv : IsData n v) : v.isWritable false = true := by
  induction hv with
  | null | bool | int | string => rfl
  -- The hypothesis is about each of the items; that they all have a text is a recursion of its own.
  | @sequence n items hitems ih =>
    rw [Value.isWritable]
    clear hitems
    induction items with
    | nil => rfl
    | cons v items ih' =>
      obtain ⟨hv, hitems⟩ := List.forall_mem_cons.1 ih
      rw [Value.areWritable, hv, ih' hitems, Bool.and_self]
  | @mapping n fields hkeys hfields ih =>
    have hentries : Value.entriesAreWritable (Value.entriesOf fields) = true := by
      clear hkeys hfields
      induction fields with
      | nil => rfl
      | cons f fields ih' =>
        obtain ⟨hf, hfields⟩ := List.forall_mem_cons.1 ih
        simp only [Value.entriesOf, List.map_cons, Value.entriesAreWritable, Value.isWritable, hf, Bool.true_and]
        exact ih' hfields
    -- A mapping with one entry needs a key that is not misplaced, as a string is.
    rcases fields with _ | ⟨f, _ | ⟨g, fields⟩⟩
    · rfl
    · simpa [Value.entriesOf, Value.entriesAreWritable, Value.isWritable, Value.isMisplacedKey] using hentries
    · simpa [Value.entriesOf, Value.isWritable] using hentries

/-- The text of a collection, without the line breaks at its end. -/
theorem plainText_of_isCollection {v : Value} (h : v.isCollection = true) :
    plainText v = .ofList (dropEndWhile (· == '\n') (v.write?.getD [])) := by
  cases v with
  | sequence | mapping => rfl
  | null | bool | number | string | tagged => cases h

/-- **Written collections are read as themselves.** A list or mapping of data whose collections are nested no deeper
    than the reader allows is what its text is read as, if the text does not end with a line break and normalization
    leaves its strings alone. -/
theorem parse_plainText {v : Value} (hv : IsData Node.depthLimit v) (hcollection : v.isCollection = true)
    (htame : isTame .item true v = true) (hend : v.write.getLast? ≠ some '\n') : parse (plainText v) = .ok v := by
  have hwrite : v.write? = some v.write := by rw [Value.write?, isWritable_of_isData hv, if_pos rfl]
  have htrim : dropEndWhile (· == '\n') v.write = v.write :=
    dropEndWhile_of_last fun c hc => by
      rw [beq_eq_false_iff_ne]
      rintro rfl
      exact hend hc
  have htext : plainText v = .ofList v.write := by
    rw [plainText_of_isCollection hcollection, hwrite, Option.getD_some, htrim]
  have htab : '\t' ∉ v.write := fun hmem => by
    -- A tab is not printable, so it stands in the text only as an escape.
    have hprintable := Value.isPlainText_write hv hcollection '\t' hmem
    exact absurd hprintable (by decide)
  refine parse_of_normalize hv hcollection ?_
  rw [htext]
  exact normalize_of_isUntouched (isUntouched_write hv hcollection htame) htab

/-- A mapping with a list in it, whose file has a name that starts with a placeholder and a content with such a line.
    Another text in the list ends with a line separator. -/
theorem parse_plainText_mixed :
    let file : Value := .mapping [(.string "file", .string "\x7bmp:title\x7d.md"),
      (.string "content", .string "a\n\x7bmp:x\x7d: y\n\n")]
    let items : List Value := [file, .string " it's", .string "b\n\u2028", .null, .sequence [.bool true], .mapping []]
    let v : Value := .mapping [(.string "files", .sequence items), (.string "k\nl", .number (.int (-5)))]
    parse (plainText v) = .ok v := by
  intro file items v
  have hfile : IsData 126 file :=
    @IsData.mapping 125 [("file", .string "\x7bmp:title\x7d.md"), ("content", .string "a\n\x7bmp:x\x7d: y\n\n")]
      (by decide) fun f hf => by
        simp only [List.mem_cons, List.not_mem_nil, or_false] at hf
        rcases hf with rfl | rfl <;> exact .string _
  have hbools : IsData 126 (.sequence [.bool true]) :=
    @IsData.sequence 125 _ fun v hv => by rw [List.mem_singleton.1 hv]; exact .bool true
  have hitems : IsData 127 (.sequence items) :=
    @IsData.sequence 126 _ fun v hv => by
      simp only [items, List.mem_cons, List.not_mem_nil, or_false] at hv
      rcases hv with rfl | rfl | rfl | rfl | rfl | rfl
      · exact hfile
      · exact .string _
      · exact .string _
      · exact .null
      · exact hbools
      · exact @IsData.mapping 125 [] (by decide) nofun
  have hv : IsData Node.depthLimit v :=
    @IsData.mapping 127 [("files", .sequence items), ("k\nl", .number (.int (-5)))] (by decide) fun f hf => by
        simp only [List.mem_cons, List.not_mem_nil, or_false] at hf
        rcases hf with rfl | rfl
        · exact hitems
        · exact .int (by decide) (by decide)
  exact parse_plainText hv rfl (by decide +kernel) (by decide +kernel)

/-- What was read is nested no deeper than is allowed. -/
theorem depth_le_of_parse {text : String} {v : Value} (h : parse text = .ok v) : v.depth ≤ Node.depthLimit := by
  simp only [parse] at h
  split at h
  · cases h
    exact Nat.zero_le _
  · split at h
    · rename_i w hw
      obtain rfl := Except.ok.inj h
      exact Yaml.depth_le_of_parse hw
    · cases h

/-- Two collections with different texts are different. -/
theorem parse_ne_of_plainText {v : Value} (h : (parse (plainText v)).toOption.map plainText ≠ some (plainText v)) :
    parse (plainText v) ≠ .ok v := by
  intro hread
  rw [hread] at h
  exact h rfl

/-- **Collections that are not read as themselves.** The line break at the end of a text is lost, and there is a limit
    to how deep collections are nested. Normalization puts quotes into the lines of a literal block if it does not know
    the header, which is so with both an indentation and a sign, and behind a question mark; and if it takes the lines
    to be outside, since an unusual blank stands at the start of the line of the header, or a line separator in front of
    it. Such a blank is also what a string without quotes may have in front of a placeholder. -/
theorem parse_plainText_ne :
    let isLost (v : Value) : Prop := parse (plainText v) ≠ .ok v
    isLost (.sequence [.string "a\n"]) ∧
      isLost (Nat.repeat (fun v => .sequence [v]) 128 (.sequence [])) ∧
      isLost (.sequence [.string " x\n\x7bmp:x\x7d"]) ∧
      isLost (.mapping [(.string "a\n\x7bmp:x\x7d", .null)]) ∧
      isLost (.mapping [(.string "\u00a0\u00a0k", .string "a\n\x7bmp:x\x7d")]) ∧
      isLost (.sequence [.mapping [(.string "k", .mapping [(.string "k", .string "a\n\u2028")])],
        .string "a\n\x7bmp:x\x7d"]) ∧
      isLost (.sequence [.string "\u00a0\x7bmp:x\x7d"]) ∧
      isLost (.mapping [(.string "\u00a0\x7bmp:x\x7d", .null)]) := by
  have hdeep : parse (plainText (Nat.repeat (fun v => .sequence [v]) 128 (.sequence [])))
      ≠ .ok (Nat.repeat (fun v => .sequence [v]) 128 (.sequence [])) := by
    intro h
    have hdepth : (Nat.repeat (fun v => Value.sequence [v]) 128 (.sequence [])).depth = 129 := by decide +kernel
    exact absurd (depth_le_of_parse h) (by rw [hdepth]; decide)
  refine ⟨parse_ne_of_plainText ?_, hdeep, parse_ne_of_plainText ?_, parse_ne_of_plainText ?_, parse_ne_of_plainText ?_,
    parse_ne_of_plainText ?_, parse_ne_of_plainText ?_, parse_ne_of_plainText ?_⟩ <;> decide +kernel

end Scaffold.Document
