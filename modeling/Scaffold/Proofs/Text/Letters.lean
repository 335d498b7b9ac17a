import Scaffold.Context
import Mathlib.Tactic.IntervalCases

namespace Scaffold

/-!
# Texts that differ in the case of letters

Markers of placeholders and names of tokens are read without regard to case. Of two texts that differ in nothing
but the case of ASCII letters, whatever looks at blanks, at marks or at lower case sees the same.

* `Text.SameLetters` — such texts;
* `Text.asciiLower_eq_iff`, `Text.SameLetters.trim` — marks and blanks are where they were;
* `Text.SameLetters.lowerChars_eq` — the lower case of such texts is the same, with the neighbours of a sigma;
* `Text.lowerFrom_append`, `Text.lowerChars_isInfix` — the lower case of a piece of a text, if it has no capital sigma
  in it;
* `Context.value?_congr` — so names that differ in this only are names of the same token.
-/

namespace Text

/-! ### Letters -/

/-- The ASCII letters in upper case. -/
def capitals : List Char := "ABCDEFGHIJKLMNOPQRSTUVWXYZ".toList

/-- The capital letters of ASCII are among the capitals. -/
theorem mem_capitals {c : Char} (h : isAsciiUpper c = true) : c ∈ capitals := by
  have hbounds : 65 ≤ c.toNat ∧ c.toNat ≤ 90 := by
    simpa [isAsciiUpper, Char.le_def, UInt32.le_iff_toNat_le] using h
  have hmem : ∀ n, 65 ≤ n → n ≤ 90 → Char.ofNat n ∈ capitals := by
    intro n hlow hhigh
    interval_cases n <;> decide
  simpa using hmem c.toNat hbounds.1 hbounds.2

/-- What does not tell a capital from its small letter does not see the case of any ASCII letter. -/
theorem apply_asciiLower {α : Type} (f : Char → α)
    (h : capitals.map (fun c => f (asciiLower c)) = capitals.map f) (c : Char) : f (asciiLower c) = f c := by
  by_cases hc : isAsciiUpper c = true
  · exact List.map_inj_left.1 h c (mem_capitals hc)
  · rw [asciiLower, if_neg hc]

/-- A blank has no case. -/
theorem isBlank_asciiLower (c : Char) : Chars.isBlank (asciiLower c) = Chars.isBlank c :=
  apply_asciiLower Chars.isBlank (by decide) c

/-- A letter has a case, whichever it is. -/
theorem isCased_asciiLower (c : Char) : isCased (asciiLower c) = isCased c :=
  apply_asciiLower isCased (by decide) c

/-- Characters that case rules pass over are the same in both cases. -/
theorem isCaseIgnorable_asciiLower (c : Char) : isCaseIgnorable (asciiLower c) = isCaseIgnorable c :=
  apply_asciiLower isCaseIgnorable (by decide) c

/-- A letter and its small letter have the same small letters. -/
theorem lowerChar_asciiLower (c : Char) : lowerChar (asciiLower c) = lowerChar c :=
  apply_asciiLower lowerChar (by decide) c

/-- A mark that is no letter comes from itself only. -/
theorem asciiLower_eq_iff {mark : Char} (h : isAsciiLetter mark = false) (c : Char) :
    asciiLower c = mark ↔ c = mark := by
  have hcapitals : (capitals.all fun d => isAsciiLetter (asciiLower d) && isAsciiLetter d) = true := by decide
  have hne (x : Char) (hx : isAsciiLetter x = true) : x ≠ mark := by
    rintro rfl
    rw [h] at hx
    cases hx
  have hsame : decide (asciiLower c = mark) = decide (c = mark) := by
    refine apply_asciiLower (fun d => decide (d = mark)) (List.map_inj_left.2 fun d hd => ?_) c
    have hletter := List.all_eq_true.1 hcapitals d hd
    rw [Bool.and_eq_true] at hletter
    rw [decide_eq_false (hne _ hletter.1), decide_eq_false (hne _ hletter.2)]
  simpa using hsame

/-! ### Texts -/

/-- The texts differ in nothing but the case of ASCII letters. -/
def SameLetters (s t : List Char) : Prop := s.map asciiLower = t.map asciiLower

/-- Whether two texts have the same letters can be computed. -/
instance (s t : List Char) : Decidable (SameLetters s t) := inferInstanceAs (Decidable (_ = _))

/-- A mark that is no letter stands in both texts or in none. -/
theorem mem_map_asciiLower {mark : Char} (h : isAsciiLetter mark = false) (s : List Char) :
    mark ∈ s.map asciiLower ↔ mark ∈ s := by
  simp [asciiLower_eq_iff h]

/-- Blanks at the start do not depend on case. -/
theorem trimStart_map_asciiLower (s : List Char) :
    Chars.trimStart (s.map asciiLower) = (Chars.trimStart s).map asciiLower := by
  have hblank : Chars.isBlank ∘ asciiLower = Chars.isBlank := funext isBlank_asciiLower
  rw [Chars.trimStart, Chars.trimStart, List.dropWhile_map, hblank]

/-- Blanks at both ends do not depend on case. -/
theorem trim_map_asciiLower (s : List Char) :
    Chars.trim (s.map asciiLower) = (Chars.trim s).map asciiLower := by
  have hends (t : List Char) :
      Chars.trimEnd (t.map asciiLower) = (Chars.trimEnd t).map asciiLower := by
    have hstart := trimStart_map_asciiLower t.reverse
    rw [Chars.trimStart, Chars.trimStart, List.map_reverse] at hstart
    rw [Chars.trimEnd, Chars.trimEnd, Chars.dropEndWhile, Chars.dropEndWhile, hstart, List.map_reverse]
  rw [Chars.trim, Chars.trim, trimStart_map_asciiLower, hends]

/-- Whether a letter comes next does not depend on case. -/
theorem nextIsCased_map_asciiLower (s : List Char) : nextIsCased (s.map asciiLower) = nextIsCased s := by
  have hcased : isCased ∘ asciiLower = isCased := funext isCased_asciiLower
  have hignorable : isCaseIgnorable ∘ asciiLower = isCaseIgnorable := funext isCaseIgnorable_asciiLower
  rw [nextIsCased, nextIsCased, List.dropWhile_map, hignorable, List.head?_map, Option.map_map, hcased]

/-- Lower case does not see whether its letters were small before. -/
theorem lowerFrom_map_asciiLower (before s : List Char) :
    lowerFrom (before.map asciiLower) (s.map asciiLower) = lowerFrom before s := by
  induction s generalizing before with
  | nil => rfl
  | cons c s ih =>
    have hrest : lowerFrom (asciiLower c :: before.map asciiLower) (s.map asciiLower) =
        lowerFrom (c :: before) s := ih (c :: before)
    -- A sigma is no ASCII letter, so it is one on both sides or on none.
    have hsigma : asciiLower c = 'Σ' ↔ c = 'Σ' := asciiLower_eq_iff (by decide) c
    simp only [List.map_cons, lowerFrom, hrest, hsigma, nextIsCased_map_asciiLower, lowerChar_asciiLower]

/-! ### Lower case of pieces -/

/-- Lower case goes through a text from its start. -/
theorem exists_lowerFrom_append (before s t : List Char) :
    ∃ front, lowerFrom before (s ++ t) = front ++ lowerFrom (s.reverse ++ before) t := by
  induction s generalizing before with
  | nil => exact ⟨[], rfl⟩
  | cons c s ih =>
    obtain ⟨front, hfront⟩ := ih (c :: before)
    rw [List.cons_append, lowerFrom, hfront, List.reverse_cons, List.append_assoc, List.singleton_append]
    exact ⟨_, (List.append_assoc ..).symm⟩

/-- Without a capital sigma no letter looks at its neighbours. -/
theorem lowerFrom_append {s : List Char} (h : 'Σ' ∉ s) (before t : List Char) :
    lowerFrom before (s ++ t) = s.flatMap lowerChar ++ lowerFrom (s.reverse ++ before) t := by
  induction s generalizing before with
  | nil => rfl
  | cons c s ih =>
    rw [List.mem_cons, not_or] at h
    rw [List.cons_append, lowerFrom, if_neg (Ne.symm h.1), ih h.2, List.flatMap_cons, List.reverse_cons,
      List.append_assoc, List.append_assoc]
    rfl

/-- Without a sigma, each character has its small letters for itself. -/
theorem lowerChars_of_notMem {s : List Char} (h : 'Σ' ∉ s) : lowerChars s = s.flatMap lowerChar := by
  have happend := lowerFrom_append h [] []
  rwa [List.append_nil, lowerFrom, List.append_nil] at happend

/-- Without a sigma, the small letters of a piece are a piece of the small letters. -/
theorem lowerChars_isInfix {s : List Char} (h : 'Σ' ∉ s) (front rest : List Char) :
    lowerChars s <:+: lowerChars (front ++ s ++ rest) := by
  obtain ⟨before, hbefore⟩ := exists_lowerFrom_append [] front (s ++ rest)
  rw [lowerFrom_append h, ← List.append_assoc, ← List.append_assoc, ← lowerChars_of_notMem h] at hbefore
  exact ⟨before, _, hbefore.symm⟩

namespace SameLetters

variable {s t : List Char}

/-- Texts with the same letters have the same small letters, character by character. -/
theorem flatMap_lowerChar (h : SameLetters s t) : s.flatMap lowerChar = t.flatMap lowerChar := by
  have hlower (u : List Char) : (u.map asciiLower).flatMap lowerChar = u.flatMap lowerChar := by
    simp only [List.flatMap_map, lowerChar_asciiLower]
  rw [← hlower s, h, hlower t]

/-- A text has the same letters as itself. -/
theorem refl (s : List Char) : SameLetters s s := rfl

/-- Texts with the same letters, one behind the other. -/
theorem append {s' t' : List Char} (h : SameLetters s t) (h' : SameLetters s' t') :
    SameLetters (s ++ s') (t ++ t') := by
  rw [SameLetters, List.map_append, List.map_append, h, h']

/-- Marks are not letters, so that such texts have the same ones. -/
theorem mem_iff (h : SameLetters s t) {mark : Char} (hmark : isAsciiLetter mark = false) :
    mark ∈ s ↔ mark ∈ t := by
  rw [← mem_map_asciiLower hmark s, h, mem_map_asciiLower hmark t]

/-- A mark is written in one way. -/
theorem cons_of_mark {mark : Char} (hmark : isAsciiLetter mark = false) (h : SameLetters (mark :: s) t) :
    ∃ t', t = mark :: t' ∧ SameLetters s t' := by
  cases t with
  | nil => simp [SameLetters] at h
  | cons c t =>
    obtain ⟨hc, hrest⟩ := List.cons.inj h
    have hmark' : asciiLower mark = mark := (asciiLower_eq_iff hmark mark).2 rfl
    have hc : c = mark := (asciiLower_eq_iff hmark c).1 (hc.symm.trans hmark')
    exact ⟨t, by rw [hc], hrest⟩

/-- If one of the texts is blank, so is the other. -/
theorem forall_isBlank (h : SameLetters s t) (hs : ∀ c ∈ s, Chars.isBlank c = true) :
    ∀ c ∈ t, Chars.isBlank c = true := by
  intro c hc
  have hmem : asciiLower c ∈ s.map asciiLower := by
    rw [h]
    exact List.mem_map_of_mem hc
  obtain ⟨d, hd, hdc⟩ := List.mem_map.1 hmem
  rw [← isBlank_asciiLower, ← hdc, isBlank_asciiLower]
  exact hs d hd

/-- What one text consists of, the other one does as well. -/
theorem exists_append {s₁ s₂ : List Char} (h : SameLetters (s₁ ++ s₂) t) :
    ∃ t₁ t₂, t = t₁ ++ t₂ ∧ SameLetters s₁ t₁ ∧ SameLetters s₂ t₂ := by
  rw [SameLetters, List.map_append] at h
  obtain ⟨t₁, t₂, rfl, h₁, h₂⟩ := List.map_eq_append_iff.1 h.symm
  exact ⟨t₁, t₂, rfl, h₁.symm, h₂.symm⟩

/-- Texts with the same letters, without the blanks around them. -/
theorem trim (h : SameLetters s t) : SameLetters (Chars.trim s) (Chars.trim t) := by
  rw [SameLetters, ← trim_map_asciiLower, ← trim_map_asciiLower, h]

/-- Texts with the same letters have the same small letters. -/
theorem lowerChars_eq (h : SameLetters s t) : Text.lowerChars s = Text.lowerChars t := by
  have hlower (u : List Char) : Text.lowerChars (u.map asciiLower) = Text.lowerChars u :=
    lowerFrom_map_asciiLower [] u
  rw [← hlower s, h, hlower t]

end SameLetters

end Text

/-! ### Names of tokens -/

namespace Context

/-- Names with the same letters are looked up by the same key. -/
theorem key_congr {name name' : String} (h : Text.SameLetters name.toList name'.toList) :
    key name = key name' := by
  simp only [key, Text.lower, Text.trim, String.toList_ofList, h.trim.lowerChars_eq]

/-- Names with the same letters stand for the same value. -/
theorem value?_congr (ctx : Context) {name name' : String}
    (h : Text.SameLetters name.toList name'.toList) : ctx.value? name = ctx.value? name' := by
  rw [value?, value?, key_congr h]

end Context

end Scaffold
