import Scaffold.Proofs.Document.Quoting
import Scaffold.Proofs.Document.Normal

namespace Scaffold.Document

/-!
# Values of lines

Normalization looks at one place of a line only: where its value starts, behind blanks, dashes and a key. What stands
in front of a place where a value may start does not matter to the value.

* `lineValue_blank`, `lineValue_dash`, `lineValue_of_mark` — the value behind a blank, behind a dash, and in front of
  another mark;
* `lead_induction` — induction on what stands in front of a value;
* `isQuiet` — lines that normalization leaves alone;
* `isQuiet_of_append`, `isQuiet_append_blank` — the start of a quiet line, and quiet texts on one line;
* `isQuiet_key` — a line with a key in front of a text.
-/

open Chars

/-- What stands behind the blanks, dashes and the key of a line. -/
def lineValue (line : List Char) : List Char := (splitLead line).2

/-- A line whose value starts with no placeholder. -/
def isQuiet (line : List Char) : Bool := !startsPlaceholder (lineValue line)

/-- A quiet line gets no quotes. -/
theorem quoteLine_of_isQuiet {line : List Char} (h : isQuiet line = true) : quoteLine line = line := by
  rw [isQuiet, lineValue, Bool.not_eq_true'] at h
  simp only [quoteLine, h, Bool.false_eq_true, if_false]

/-! ### Dashes and blanks -/

/-- As many steps as there are characters are enough. -/
theorem dashes_eq_of_le {fuel fuel' : Nat} {s : List Char} (h : s.length ≤ fuel) (h' : s.length ≤ fuel') :
    dashes fuel s = dashes fuel' s := by
  -- The induction is on one of the budgets; each dash takes one character at least.
  induction fuel generalizing fuel' s with
  | zero =>
    obtain rfl := List.length_eq_zero_iff.1 (Nat.le_zero.1 h)
    cases fuel' <;> rfl
  | succ fuel ih =>
    cases s with
    | nil => cases fuel' <;> rfl
    | cons c rest =>
      obtain ⟨fuel', rfl⟩ : ∃ m, fuel' = m + 1 := ⟨fuel' - 1, by simp at h'; omega⟩
      have hle := (List.dropWhile_sublist isBlank (l := rest)).length_le
      simp only [List.length_cons, Nat.add_le_add_iff_right] at h h'
      by_cases hc : c = '-'
      · subst hc
        simp only [dashes, ih (Nat.le_trans hle h) (Nat.le_trans hle h')]
      · simp [dashes, hc]

/-- The value of a line, with any number of steps that is enough. -/
theorem lineValue_eq (line : List Char) {fuel : Nat} (h : line.length ≤ fuel) :
    lineValue line = (leadingKey (dashes fuel (line.dropWhile isBlank)).2).2 := by
  have hle := (List.dropWhile_sublist isBlank (l := line)).length_le
  rw [lineValue, splitLead, dashes_eq_of_le hle (Nat.le_trans hle h)]

/-- A blank in front of a line does not change its value. -/
theorem lineValue_blank {c : Char} (hc : isBlank c = true) (s : List Char) : lineValue (c :: s) = lineValue s := by
  rw [lineValue_eq (c :: s) (Nat.le_refl _), lineValue_eq s (Nat.le_succ s.length), List.dropWhile_cons_of_pos hc]
  rfl

/-- A dash with a blank behind it does not change the value. -/
theorem lineValue_dash {b : Char} (hb : isBlank b = true) (s : List Char) :
    lineValue ('-' :: b :: s) = lineValue s := by
  have hdash : isBlank '-' = false := by decide
  rw [lineValue_eq ('-' :: b :: s) (Nat.le_refl (s.length + 2)), lineValue_eq s (Nat.le_succ s.length)]
  simp [hdash, dashes, hb]

/-- Where neither a blank nor a dash is, the value starts, if no key does. -/
theorem lineValue_of_head {c : Char} {s : List Char} (hc : isBlank c = false)
    (hdash : c = '-' → ∀ b ∈ s.head?, isBlank b = false) : lineValue (c :: s) = (leadingKey (c :: s)).2 := by
  rw [lineValue_eq (c :: s) (Nat.le_refl _), List.dropWhile_cons_of_neg (by simp [hc]), List.length_cons]
  by_cases hc' : c = '-'
  · have hnone : s.takeWhile isBlank = [] := by
      cases s with
      | nil => rfl
      | cons b s => exact List.takeWhile_cons_of_neg (by simp [hdash hc' b rfl])
    simp [dashes, hc', hnone]
  · simp [dashes, hc']

/-- A mark that starts no key is where the value starts. -/
theorem lineValue_of_mark {c : Char} {s : List Char} (hc : isBlank c = false)
    (hkey : (Text.isAsciiLetter c || c = '_') = false) (hdash : c = '-' → ∀ b ∈ s.head?, isBlank b = false) :
    lineValue (c :: s) = c :: s := by
  rw [lineValue_of_head hc hdash, leadingKey]
  simp only [hkey, Bool.false_eq_true, if_false]

/-- Induction on what stands in front of the value of a line. -/
theorem lead_induction {motive : List Char → Prop} (nil : motive [])
    (blank : ∀ c s, isBlank c = true → motive s → motive (c :: s))
    (dash : ∀ b s, isBlank b = true → motive s → motive ('-' :: b :: s))
    (head : ∀ c s, isBlank c = false → (c = '-' → ∀ b ∈ s.head?, isBlank b = false) → motive (c :: s))
    (s : List Char) : motive s := by
  -- Behind blanks and dashes the text is shorter.
  induction hn : s.length using Nat.strongRecOn generalizing s with
  | ind n ih =>
    cases s with
    | nil => exact nil
    | cons c s =>
      subst hn
      have hless : s.length < (c :: s).length := Nat.lt_succ_self _
      cases hc : isBlank c with
      | true => exact blank c s hc (ih _ hless s rfl)
      | false =>
        by_cases hdash : c = '-' → ∀ b ∈ s.head?, isBlank b = false
        · exact head c s hc hdash
        -- The dash is one of a list item if a blank stands behind it.
        · obtain ⟨rfl, hnext⟩ := Classical.not_imp.1 hdash
          cases s with
          | nil => exact absurd nofun hnext
          | cons b s =>
            have hb : isBlank b = true := by simpa using hnext
            exact dash b s hb (ih _ (Nat.lt_succ_of_lt (Nat.lt_succ_self _)) s rfl)

/-! ### Lines without a placeholder -/

/-- A blank in front of a line. -/
theorem isQuiet_blank {c : Char} (hc : isBlank c = true) (s : List Char) : isQuiet (c :: s) = isQuiet s := by
  rw [isQuiet, lineValue_blank hc, isQuiet]

/-- A dash with a blank behind it, in front of a line. -/
theorem isQuiet_dash {b : Char} (hb : isBlank b = true) (s : List Char) : isQuiet ('-' :: b :: s) = isQuiet s := by
  rw [isQuiet, lineValue_dash hb, isQuiet]

/-- A placeholder starts with a brace. -/
theorem startsPlaceholder_of_head {c : Char} {s : List Char} (hc : c ≠ '\x7b') :
    startsPlaceholder (c :: s) = false := by
  unfold startsPlaceholder
  split
  · rename_i heq
    exact absurd (List.cons.inj heq).1 hc
  · rfl

/-- A line that starts with a mark other than a dash and a brace. -/
theorem isQuiet_of_mark {c : Char} (hc : isBlank c = false) (hkey : (Text.isAsciiLetter c || c = '_') = false)
    (hdash : c ≠ '-') (hbrace : c ≠ '\x7b') (s : List Char) : isQuiet (c :: s) = true := by
  rw [isQuiet, lineValue_of_mark hc hkey fun h => absurd h hdash, startsPlaceholder_of_head hbrace]
  rfl

/-- A line without a brace. -/
theorem isQuiet_of_notMem {line : List Char} (h : '\x7b' ∉ line) : isQuiet line = true := by
  rw [isQuiet, lineValue, startsPlaceholder_of_notMem fun hmem => h (mem_of_mem_splitLead hmem)]
  rfl

/-! ### Keys -/

/-- A placeholder at the start of the text behind the blanks is at the start of the value. -/
theorem lineValue_of_startsPlaceholder {s : List Char} (h : startsPlaceholder (s.dropWhile isBlank) = true) :
    lineValue s = s.dropWhile isBlank := by
  induction s with
  | nil => rfl
  | cons c s ih =>
    cases hc : isBlank c with
    | true =>
      rw [List.dropWhile_cons_of_pos hc] at h ⊢
      rw [lineValue_blank hc, ih h]
    | false =>
      rw [List.dropWhile_cons_of_neg (by simp [hc])] at h ⊢
      -- Only a brace can be the start of a placeholder, and it is no part of a lead.
      by_cases hbrace : c = '\x7b'
      · subst hbrace
        exact lineValue_of_mark hc (by decide) fun h => absurd h (by decide)
      · rw [startsPlaceholder_of_head hbrace] at h
        cases h

/-- In front of a character without the property, the characters with it end. -/
theorem dropWhile_append_of_neg {p : Char → Bool} {c : Char} (hc : p c = false) (s t : List Char) :
    (s ++ c :: t).dropWhile p = s.dropWhile p ++ c :: t ∧ (s ++ c :: t).takeWhile p = s.takeWhile p := by
  induction s with
  | nil => simp [hc]
  | cons d s ih =>
    cases hd : p d with
    | true => simp [hd, ih]
    | false => simp [hd]

/-- The characters of a key behind its first one. -/
def isKeyChar (c : Char) : Bool := Text.isWord c || c == '-'

/-- The value of a line that starts as a key does: behind the colon, if there is one with a blank behind it. -/
theorem leadingKey_of_colon {c : Char} (hc : (Text.isAsciiLetter c || c = '_') = true) {s behind : List Char}
    (hbehind : s.dropWhile isKeyChar = ':' :: behind) :
    (leadingKey (c :: s)).2 = if (behind.takeWhile isBlank).isEmpty then c :: s else behind.dropWhile isBlank := by
  have hbehind' : s.dropWhile (fun x => Text.isWord x || x == '-') = ':' :: behind := hbehind
  rw [leadingKey]
  simp only [hc, if_true, hbehind']
  split <;> rfl

/-- A line that starts as a key does, but has no colon where one should be. -/
theorem leadingKey_of_no_colon {c : Char} {s : List Char} (h : ∀ behind, s.dropWhile isKeyChar ≠ ':' :: behind) :
    (leadingKey (c :: s)).2 = c :: s := by
  rw [leadingKey]
  split
  · split
    · rename_i behind hbehind
      exact absurd hbehind (h behind)
    · rfl
  · rfl

/-- A name does not start with a brace. -/
theorem startsPlaceholder_of_key {c : Char} (hc : (Text.isAsciiLetter c || c = '_') = true) (s : List Char) :
    startsPlaceholder (c :: s) = false := by
  refine startsPlaceholder_of_head ?_
  rintro rfl
  exact absurd hc (by decide)

/-- Nothing is taken if the first character does not have the property. -/
theorem isEmpty_takeWhile (p : Char → Bool) (s : List Char) : (s.takeWhile p).isEmpty = !s.head?.any p := by
  cases s with
  | nil => rfl
  | cons c s => cases hc : p c <;> simp [hc]

/-! ### More text behind a line -/

/-- A placeholder at the start stays there. -/
theorem startsPlaceholder_append {s : List Char} (h : startsPlaceholder s = true) (t : List Char) :
    startsPlaceholder (s ++ t) = true := by
  obtain ⟨m, p, d, rest, rfl, hm, hp, hd⟩ := startsPlaceholder_iff.1 h
  exact startsPlaceholder_iff.2 ⟨m, p, d, rest ++ t, rfl, hm, hp, hd⟩

/-- No character of the marker of a placeholder is a blank. -/
theorem startsPlaceholder_of_append_blank {c : Char} (hc : isBlank c = true) {s t : List Char}
    (h : startsPlaceholder (s ++ c :: t) = true) : startsPlaceholder s = true := by
  obtain ⟨m, p, d, rest, hs, hm, hp, hd⟩ := startsPlaceholder_iff.1 h
  -- None of the characters of a placeholder's start is a blank.
  have hmark {a : Char} (ha : isBlank a = false) : c ≠ a := by
    rintro rfl
    rw [hc] at ha
    cases ha
  -- The blank would have to be one of the four characters, or it stands behind them.
  match s, hs with
  | [], hs => exact absurd (List.cons.inj hs).1 (hmark (by decide))
  | [a], hs =>
    obtain ⟨-, rfl, -⟩ : a = '\x7b' ∧ c = m ∧ t = p :: d :: rest := by simpa using hs
    rcases hm with hm | hm <;> exact absurd hm (hmark (by decide))
  | [a, b], hs =>
    obtain ⟨-, -, rfl, -⟩ : a = '\x7b' ∧ b = m ∧ c = p ∧ t = d :: rest := by simpa using hs
    rcases hp with hp | hp <;> exact absurd hp (hmark (by decide))
  | [a, b, e], hs =>
    obtain ⟨-, -, -, rfl, -⟩ : a = '\x7b' ∧ b = m ∧ e = p ∧ c = d ∧ t = rest := by simpa using hs
    rcases hd with hd | hd <;> exact absurd hd (hmark (by decide))
  | a :: b :: e :: f :: s, hs =>
    obtain ⟨rfl, rfl, rfl, rfl, -⟩ : a = '\x7b' ∧ b = m ∧ e = p ∧ f = d ∧ s ++ c :: t = rest := by simpa using hs
    exact startsPlaceholder_iff.2 ⟨b, e, f, s, rfl, hm, hp, hd⟩

/-- A placeholder at the start of the value stays there, whatever is written behind the line. -/
theorem startsPlaceholder_lineValue_append {s : List Char} (h : startsPlaceholder (lineValue s) = true)
    (t : List Char) : startsPlaceholder (lineValue (s ++ t)) = true := by
  -- The induction follows the blanks and dashes in front; the rest starts with a key or with the value.
  induction s using lead_induction with
  | nil => exact absurd h (by decide)
  | blank c s hc ih =>
    rw [lineValue_blank hc] at h
    rw [List.cons_append, lineValue_blank hc]
    exact ih h
  | dash b s hb ih =>
    rw [lineValue_dash hb] at h
    rw [List.cons_append, List.cons_append, lineValue_dash hb]
    exact ih h
  | head c s hc hdash =>
    rw [lineValue_of_head hc hdash] at h
    have hdash' : c = '-' → ∀ b ∈ (s ++ t).head?, isBlank b = false := by
      rintro rfl
      cases s with
      | nil => exact absurd h (by decide)
      | cons b s => exact hdash rfl
    rw [List.cons_append, lineValue_of_head hc hdash']
    cases hkey : Text.isAsciiLetter c || c = '_' with
    | false =>
      rw [leadingKey] at h ⊢
      simp only [hkey, Bool.false_eq_true, if_false] at h ⊢
      exact startsPlaceholder_append h t
    -- With a colon the value is behind the key; without one the line starts with a letter, not with a brace.
    | true =>
      by_cases hcolon : ∃ behind, s.dropWhile isKeyChar = ':' :: behind
      · obtain ⟨behind, hbehind⟩ := hcolon
        rw [leadingKey_of_colon hkey hbehind, isEmpty_takeWhile] at h
        split at h
        · rw [startsPlaceholder_of_key hkey] at h
          cases h
        · rename_i hblank
          -- There is a blank behind the colon already, and the value does not start at the end of the line.
          have hdrop : (s ++ t).dropWhile isKeyChar = ':' :: (behind ++ t) := by
            rw [List.dropWhile_append, hbehind]
            rfl
          have hhead : (behind ++ t).head?.any isBlank = behind.head?.any isBlank := by
            cases behind with
            | nil => exact absurd rfl hblank
            | cons b behind => rfl
          have hvalue : (behind ++ t).dropWhile isBlank = behind.dropWhile isBlank ++ t := by
            rw [List.dropWhile_append, if_neg]
            intro hempty
            rw [List.isEmpty_iff.1 hempty] at h
            cases h
          rw [leadingKey_of_colon hkey hdrop, isEmpty_takeWhile, hhead, if_neg hblank, hvalue]
          exact startsPlaceholder_append h t
      · rw [leadingKey_of_no_colon (not_exists.1 hcolon), startsPlaceholder_of_key hkey] at h
        cases h

/-- Behind a blank that is no part of a key, the value is the one that starts in front of it, or that of the text
    behind it. -/
theorem startsPlaceholder_lineValue_blank {c : Char} (hc : isBlank c = true) (hkeyChar : isKeyChar c = false)
    {s t : List Char} (h : startsPlaceholder (lineValue (s ++ c :: t)) = true) :
    startsPlaceholder (lineValue s) = true ∨ startsPlaceholder (lineValue t) = true := by
  -- The induction follows the lead of the front.
  induction s using lead_induction with
  | nil =>
    rw [List.nil_append, lineValue_blank hc] at h
    exact .inr h
  | blank b s hb ih =>
    rw [List.cons_append, lineValue_blank hb] at h
    rw [lineValue_blank hb]
    exact ih h
  | dash b s hb ih =>
    rw [List.cons_append, List.cons_append, lineValue_dash hb] at h
    rw [lineValue_dash hb]
    exact ih h
  | head a s ha hdash =>
    -- The front may end with a dash, to which the blank belongs.
    by_cases hlone : a = '-' ∧ s = []
    · obtain ⟨rfl, rfl⟩ := hlone
      rw [List.cons_append, List.nil_append, lineValue_dash hc] at h
      exact .inr h
    have hdash' : a = '-' → ∀ b ∈ (s ++ c :: t).head?, isBlank b = false := by
      intro ha
      cases s with
      | nil => exact absurd ⟨ha, rfl⟩ hlone
      | cons b s => exact hdash ha
    rw [List.cons_append, lineValue_of_head ha hdash'] at h
    rw [lineValue_of_head ha hdash]
    cases hkey : Text.isAsciiLetter a || a = '_' with
    | false =>
      rw [leadingKey] at h ⊢
      simp only [hkey, Bool.false_eq_true, if_false] at h ⊢
      exact .inl (startsPlaceholder_of_append_blank (s := a :: s) hc h)
    | true =>
      have hdrop := (dropWhile_append_of_neg hkeyChar s t).1
      -- A key in the front ends in it, since the blank is no character of a key.
      by_cases hcolon : ∃ behind, s.dropWhile isKeyChar = ':' :: behind
      · obtain ⟨behind, hbehind⟩ := hcolon
        rw [hbehind, List.cons_append] at hdrop
        rw [leadingKey_of_colon hkey hdrop, isEmpty_takeWhile] at h
        split at h
        · rw [startsPlaceholder_of_key hkey] at h
          cases h
        · rename_i hblank
          rw [List.dropWhile_append] at h
          split at h
          · -- Nothing but blanks stands between the colon and the text behind.
            rw [List.dropWhile_cons_of_pos hc] at h
            exact .inr (by rw [lineValue_of_startsPlaceholder h]; exact h)
          · rename_i hvalue
            have hhead : (behind ++ c :: t).head?.any isBlank = behind.head?.any isBlank := by
              cases behind with
              | nil => exact absurd rfl hvalue
              | cons b behind => rfl
            rw [hhead] at hblank
            rw [leadingKey_of_colon hkey hbehind, isEmpty_takeWhile, if_neg hblank]
            exact .inl (startsPlaceholder_of_append_blank hc h)
      -- Without a colon in the front, the key goes on to no colon behind it.
      · have hno (behind : List Char) : (s ++ c :: t).dropWhile isKeyChar ≠ ':' :: behind := by
          rw [hdrop]
          cases hrest : s.dropWhile isKeyChar with
          | nil =>
            rintro heq
            rw [(List.cons.inj heq).1] at hc
            exact absurd hc (by decide)
          | cons x rest =>
            intro heq
            obtain rfl := (List.cons.inj heq).1
            exact hcolon ⟨rest, hrest⟩
        rw [leadingKey_of_no_colon hno, startsPlaceholder_of_key hkey] at h
        cases h

/-- The start of a quiet line is quiet. -/
theorem isQuiet_of_append {s t : List Char} (h : isQuiet (s ++ t) = true) : isQuiet s = true := by
  rw [isQuiet, Bool.not_eq_true', Bool.eq_false_iff] at h ⊢
  exact fun hstarts => h (startsPlaceholder_lineValue_append hstarts t)

/-- Quiet texts with a blank between them. -/
theorem isQuiet_append_blank {c : Char} (hc : isBlank c = true) (hkeyChar : isKeyChar c = false) {s t : List Char}
    (hs : isQuiet s = true) (ht : isQuiet t = true) : isQuiet (s ++ c :: t) = true := by
  rw [isQuiet, Bool.not_eq_true', Bool.eq_false_iff] at hs ht ⊢
  intro h
  rcases startsPlaceholder_lineValue_blank hc hkeyChar h with h | h
  · exact hs h
  · exact ht h

/-- A line with a key is quiet if the key is, and the text behind it. -/
theorem isQuiet_key {key w : List Char} (hkey : isQuiet (key ++ [':']) = true) (hw : isQuiet w = true) :
    isQuiet (key ++ ':' :: ' ' :: w) = true := by
  rw [List.append_cons]
  exact isQuiet_append_blank (by decide) (by decide +kernel) hkey hw

end Scaffold.Document
