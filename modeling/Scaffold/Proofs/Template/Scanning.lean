import Scaffold.Template.TokenList
import Mathlib.Order.Nat

namespace Scaffold.Template.TokenList

/-!
# Scanning

Each step of a scan shortens what is left to scan, so that the bound on the number of steps does not show:

* `step_shortens` — a step that is not the last one leaves less than it found;
* `scan_congr` — any two bounds that are larger than what is left give the same tokens;
* `scanned`, `scanned_of_step` — the tokens of a source without a bound, one step at a time.
-/

/-! ### What is left of a source -/

namespace Source

variable (s : Source)

/-- Skipping characters takes them off. -/
theorem length_skip (n : Nat) : (s.skip n).rest.length = s.rest.length - n := List.length_drop

/-- Skipping takes nothing back. -/
theorem length_skipWhile_le (p : Char → Bool) : (s.skipWhile p).rest.length ≤ s.rest.length :=
  (List.dropWhile_suffix p).length_le

/-- Skipping a line break takes nothing back. -/
theorem length_skipBreak_le : s.skipBreak.rest.length ≤ s.rest.length := by
  unfold skipBreak
  split
  · rw [length_skip]
    omega
  · rw [length_skip]
    omega
  · rw [length_skip]
    omega
  · exact le_refl _

end Source

/-- Trimming behind a mark takes nothing back. -/
theorem length_behindMark_le (region : Region) (trim : Trim) (s : Source) :
    (behindMark region trim s).rest.length ≤ s.rest.length := by
  unfold behindMark
  split
  · exact s.length_skipWhile_le _
  · exact le_refl _
  · split
    · exact le_refl _
    · exact s.length_skipBreak_le

/-- Both parts together are the text. -/
theorem splitAtMark_append (s : List Char) : (splitAtMark s).1 ++ (splitAtMark s).2 = s := by
  induction s with
  | nil => rfl
  | cons c s ih =>
    rw [splitAtMark]
    split
    · rfl
    · rw [List.cons_append, ih]

/-- A mark is two characters long. -/
theorem length_of_region? {s : List Char} {region : Region} (h : region? s = some region) : 2 ≤ s.length := by
  unfold region? at h
  split at h <;> simp_all

/-- What stands behind a pair of characters is shorter. -/
theorem length_splitAtPair? {a b : Char} {s before rest : List Char}
    (h : splitAtPair? a b s = some (before, rest)) : rest.length < s.length := by
  -- The pair starts here, or it is found behind the first character.
  induction s generalizing before with
  | nil => cases h
  | cons c s ih =>
    cases s with
    | nil => cases h
    | cons d s =>
      rw [splitAtPair?] at h
      split at h
      · obtain ⟨-, rfl⟩ := Prod.mk.inj (Option.some.inj h)
        simp only [List.length_cons]
        omega
      · obtain ⟨⟨before', rest'⟩, hfound, heq⟩ := Option.map_eq_some_iff.1 h
        obtain ⟨-, rfl⟩ := Prod.mk.inj heq
        have := ih hfound
        simp only [List.length_cons] at this ⊢
        omega

/-- What stands behind a tag of one word is shorter. -/
theorem length_wordTag? {word : String} {s rest : List Char} {trim : Trim}
    (h : wordTag? word s = some (trim, rest)) : rest.length < s.length := by
  rw [wordTag?] at h
  dsimp only at h
  split at h
  · split at h
    · rename_i heq
      obtain ⟨rfl, rfl⟩ := Prod.mk.inj (Option.some.inj h)
      have hlength := congrArg List.length heq
      -- The word and the blanks around it are dropped, and the two characters of the end.
      have hword := (List.dropWhile_suffix isAsciiSpace (l := (s.dropWhile isAsciiSpace).drop word.length)).length_le
      have hspace := (List.dropWhile_suffix isAsciiSpace (l := s)).length_le
      simp only [List.length_drop, List.length_cons] at hlength hword
      omega
    · cases h
  · cases h

/-- What stands behind raw text is shorter. -/
theorem length_rawEnd? {s text rest : List Char} {first last : Trim}
    (h : rawEnd? s = some (text, first, last, rest)) : rest.length < s.length := by
  -- The raw text ends here, or it goes on with one more character.
  induction s generalizing text with
  | nil => cases h
  | cons c s ih =>
    rw [rawEnd?] at h
    split at h
    · rename_i found hhere
      cases h
      split at hhere
      · obtain ⟨⟨trim, rest'⟩, hword, heq⟩ := Option.map_eq_some_iff.1 hhere
        have := length_wordTag? hword
        cases heq
        simp only [List.length_drop, List.length_cons] at this ⊢
        omega
      · cases hhere
    · obtain ⟨⟨text', rest'⟩, hfound, heq⟩ := Option.map_eq_some_iff.1 h
      obtain ⟨-, rfl⟩ := Prod.mk.inj heq
      have := ih hfound
      simp only [List.length_cons]
      omega

/-! ### Steps -/

/-- What is left behind a mark is shorter than what begins with it. -/
theorem length_atMark {template : String} {region : Region} {trim : Trim} {s s' : Source} {mode : Mode}
    {ts : List Located} (hlength : 2 ≤ s.rest.length)
    (h : atMark template region trim s = .ok ⟨ts, some (mode, s')⟩) : s'.rest.length < s.rest.length := by
  have hinner : (s.skip (2 + trim.width)).rest.length < s.rest.length := by
    rw [Source.length_skip]
    omega
  -- A value or a plain tag begins behind its mark; a comment and a raw block end further behind.
  cases region with
  | value =>
    cases h
    exact hinner
  | comment =>
    simp only [atMark] at h
    split at h
    · cases h
    · rename_i hbody
      cases h
      refine (length_behindMark_le _ _ _).trans_lt ?_
      have := length_splitAtPair? hbody
      simp only [Source.move]
      omega
  | tag =>
    simp only [atMark] at h
    split at h
    · cases h
      exact hinner
    · rename_i hraw
      split at h
      · cases h
      · rename_i hend
        cases h
        refine (length_behindMark_le _ _ _).trans_lt ?_
        have := length_wordTag? hraw
        have := length_rawEnd? hend
        simp only [Source.move]
        omega

/-- What stands behind a closing mark is shorter. -/
theorem length_closing? {region : Region} {s rest : List Char} {trim : Trim}
    (h : closing? region s = some (trim, rest)) : rest.length < s.length := by
  unfold closing? at h
  dsimp only at h
  -- What is left comes behind the two characters of the end.
  have hshort {a b : Char} {rest' : List Char} (heq : s.drop (Trim.ofHead s).width = a :: b :: rest')
      (hrest : some (Trim.ofHead s, rest') = some (trim, rest)) : rest.length < s.length := by
    obtain ⟨-, rfl⟩ := Prod.mk.inj (Option.some.inj hrest)
    have hlength := congrArg List.length heq
    simp only [List.length_drop, List.length_cons] at hlength
    omega
  split at h
  · rename_i heq
    exact hshort heq h
  · rename_i heq
    exact hshort heq h
  · cases h

/-- What stands behind a text in quotes is shorter. -/
theorem length_takeQuoted {quote : Char} {s body rest : List Char}
    (h : Literal.takeQuoted quote s = some (body, rest)) : rest.length < s.length := by
  induction s using Literal.takeQuoted.induct quote generalizing body with
  | case1 => cases h
  | case2 c s ih =>
    rw [Literal.takeQuoted] at h
    obtain ⟨⟨body', rest'⟩, hfound, heq⟩ := Option.map_eq_some_iff.1 h
    cases heq
    have := ih hfound
    simp only [List.length_cons]
    omega
  | case3 s hnone =>
    rw [Literal.takeQuoted, if_pos rfl] at h
    · cases h
      exact Nat.lt_succ_self _
    · exact hnone
  | case4 c s hnone hne ih =>
    rw [Literal.takeQuoted, if_neg hne] at h
    · obtain ⟨⟨body', rest'⟩, hfound, heq⟩ := Option.map_eq_some_iff.1 h
      cases heq
      exact (ih hfound).trans (Nat.lt_succ_self _)
    · exact hnone

/-- A number takes nothing back. -/
theorem length_takeNumber_le (base : Nat) (stage : Literal.Stage) (s : List Char) :
    (Literal.takeNumber base stage s).2.2.length ≤ s.length := by
  induction s generalizing stage with
  | nil => exact le_refl _
  | cons c s ih =>
    rw [Literal.takeNumber]
    split
    · exact le_refl _
    · exact (ih _).trans (Nat.le_succ _)

/-- What stands behind a number is shorter. -/
theorem length_readNumber {c : Char} {s : List Char} (h : Text.isAsciiDigit c = true) :
    (Literal.readNumber (c :: s)).2.length < (c :: s).length := by
  rw [Literal.readNumber]
  -- A number with a base starts with two characters of its own.
  split
  rename_i base first s' heq
  split at heq
  · rename_i hbase
    cases heq
    have hshort : s'.length + 2 ≤ (c :: s).length := by
      unfold Literal.base? at hbase
      split at hbase
      · rename_i hs
        rw [hs]
        split_ifs at hbase <;> cases hbase <;> exact le_refl _
      · cases hbase
    exact (length_takeNumber_le _ _ _).trans_lt (by omega)
  · cases heq
    -- The first digit is taken.
    have hdot : c ≠ '.' := by
      rintro rfl
      exact absurd h (by decide)
    have he : c ≠ 'e' ∧ c ≠ 'E' := by
      constructor <;> (rintro rfl; exact absurd h (by decide))
    have hnext : Literal.Stage.next? 10 .whole c = some .whole := by
      unfold Literal.Stage.next?
      simp [hdot, he, h]
    dsimp only
    rw [Literal.takeNumber]
    simp only [hdot, decide_false, Bool.false_and, Bool.false_eq_true, if_false, hnext]
    exact (length_takeNumber_le _ _ _).trans_lt (Nat.lt_succ_self _)

/-- What stands behind a literal is shorter. -/
theorem length_literalStep {template : String} {s s' : Source} {c : Char} {rest : List Char} {t : Token}
    (hs : s.rest = c :: rest) (h : literalStep template s c = .ok (t, s')) : s'.rest.length < s.rest.length := by
  unfold literalStep at h
  split at h
  -- Strings, numbers and words are at least one character long.
  · split at h
    · cases h
    · rename_i hquoted
      have hlength := length_takeQuoted hquoted
      rw [List.length_drop] at hlength
      split at h
      · cases h
      · cases h
        simp only [Source.move]
        omega
  split at h
  · rename_i hdigit
    have hlength := length_readNumber (s := rest) hdigit
    rw [← hs] at hlength
    dsimp only at h
    split at h
    · cases h
    · cases h
      exact hlength
    · cases h
      exact hlength
  split at h
  · rename_i hstart
    cases h
    have hpart : isWordPart c = true := by simp [isWordPart, hstart]
    simp only [Source.skipWhile, Source.move, hs, List.dropWhile_cons_of_pos hpart, List.length_cons]
    exact Nat.lt_succ_of_le (List.dropWhile_suffix _).length_le
  · cases h

/-- A step that is not the last one leaves less than it found. -/
theorem step_shortens {template : String} {mode mode' : Mode} {s s' : Source} {ts : List Located}
    (h : step template mode s = .ok ⟨ts, some (mode', s')⟩) : s'.rest.length < s.rest.length := by
  -- Outside of tags the scanner goes on to the next mark, inside of them behind the next token.
  cases mode with
  | outside =>
    rw [step, outsideStep] at h
    have hsplit := congrArg List.length (splitAtMark_append s.rest)
    rw [List.length_append] at hsplit
    dsimp only at h
    split at h
    · cases h
    -- The mark was found where the text before it ends, so what is left has shrunk.
    · rename_i region hregion
      generalize hmark : s.move (splitAtMark s.rest).1 (splitAtMark s.rest).2 = mark at h
      have hrest : mark.rest = (splitAtMark s.rest).2 := by
        rw [← hmark]
        rfl
      cases hat : atMark template region (Trim.ofHead ((splitAtMark s.rest).2.drop 2)) mark with
      | error fault =>
        rw [hat] at h
        cases h
      | ok found =>
        rw [hat] at h
        obtain ⟨ts', next?⟩ := found
        cases h
        have := length_atMark (by rw [hrest]; exact length_of_region? hregion) hat
        rw [hrest] at this
        omega
  | inside region depth =>
    rw [step, insideStep] at h
    have hspace := s.length_skipWhile_le isAsciiSpace
    dsimp only at h
    generalize hrest : s.skipWhile isAsciiSpace = inner at h hspace
    refine lt_of_lt_of_le ?_ hspace
    split at h
    · rename_i hclosed
      cases h
      refine (length_behindMark_le _ _ _).trans_lt ?_
      split at hclosed
      · exact length_closing? hclosed
      · cases hclosed
    · cases h
    -- A symbol of two characters, or of one, or a literal.
    · rename_i c rest _ heq
      split at h
      · rename_i htwo
        cases h
        rw [Source.length_skip, heq]
        simp only [List.length_cons]
        omega
      split at h
      · cases h
        rw [Source.length_skip, heq]
        simp only [List.length_cons]
        omega
      · cases hlit : literalStep template inner c with
        | error fault =>
          rw [hlit] at h
          cases h
        | ok found =>
          obtain ⟨t, after⟩ := found
          rw [hlit] at h
          cases h
          exact length_literalStep heq hlit

/-- A bound that is larger than what is left does not show. -/
theorem scan_congr {template : String} {n k : Nat} {mode : Mode} {s : Source} (hn : s.rest.length < n)
    (hk : s.rest.length < k) : scan template n mode s = scan template k mode s := by
  -- The fuel is never used up, as each step shortens what is left.
  induction n generalizing k mode s with
  | zero => cases hn
  | succ n ih =>
    cases k with
    | zero => cases hk
    | succ k =>
      rw [scan, scan]
      cases hstep : step template mode s with
      | error fault => rfl
      | ok found =>
        obtain ⟨ts, _ | ⟨mode', s'⟩⟩ := found
        · rfl
        · have := step_shortens hstep
          dsimp only
          rw [ih (k := k) (by omega) (by omega)]

/-- The tokens of what is left of a source. -/
def scanned (template : String) (mode : Mode) (s : Source) : TokenList := scan template (s.rest.length + 1) mode s

/-- As many steps as there are characters are enough. -/
theorem scan_eq_scanned {template : String} {n : Nat} {mode : Mode} {s : Source} (h : s.rest.length < n) :
    scan template n mode s = scanned template mode s := scan_congr h (Nat.lt_succ_self _)

/-- Tokens in front of others. -/
def prepend (ts : List Located) (l : TokenList) : TokenList := ⟨ts ++ l.tokens, l.fault?⟩

/-- One step in front of the others. -/
theorem scanned_of_step {template : String} {mode mode' : Mode} {s s' : Source} {ts : List Located}
    (h : step template mode s = .ok ⟨ts, some (mode', s')⟩) :
    scanned template mode s = prepend ts (scanned template mode' s') := by
  rw [scanned, scan, h]
  dsimp only
  rw [scan_eq_scanned (step_shortens h)]
  rfl

/-- The tokens of a source, without a number of steps. -/
theorem ofSource_eq (template source : String) :
    ofSource template source = scanned template .outside ⟨withoutLastBreak source.toList, 1, true⟩ :=
  scan_eq_scanned (Nat.lt_succ_of_lt (Nat.lt_succ_self _))

end Scaffold.Template.TokenList
