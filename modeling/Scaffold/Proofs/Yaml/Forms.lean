import Scaffold.Proofs.Yaml.Numeral

namespace Scaffold.Yaml

/-!
# Forms of written strings

The form that a string is written in tells what is in the string: which characters, and which of them follow one
another.

* `Form.of_choose_plain`, `Form.of_choose_single`, `Form.of_choose_literal` — what a form asks of a string;
* `Form.noPair_of_hasPair`, `Form.hasPair_of_forall` — characters that do not follow one another;
* `Form.resolve_of_choose_plain` — a string without quotes stands for itself;
* `Form.isAllowed_of_isPrintable` — the characters of strings without escapes may stand in a YAML text.
-/

namespace Form

/-- What each form asks of a string. -/
def Fits (s : String) : Form → Prop
  | .plain => '\n' ∉ s.toList ∧ readsAsOther s = false ∧ (traits s.toList).plainAllowed = true
  | .single => '\n' ∉ s.toList ∧ (traits s.toList).singleAllowed = true
  | .double => True
  | .literal => '\n' ∈ s.toList ∧ (traits s.toList).literalAllowed = true

/-- The form of a string fits it. -/
theorem fits_choose (s : String) : Fits s (choose s) := by
  -- Quoted strings take the double form when the single one is not allowed.
  have hquoted (hbreak : '\n' ∉ s.toList) :
      Fits s (if (traits s.toList).singleAllowed then .single else .double) := by
    cases hsingle : (traits s.toList).singleAllowed
    · trivial
    · exact ⟨hbreak, hsingle⟩
  by_cases hbreak : '\n' ∈ s.toList
  · rw [choose, if_pos (List.contains_iff_mem.2 hbreak)]
    cases hliteral : (traits s.toList).literalAllowed
    · trivial
    · exact ⟨hbreak, hliteral⟩
  · rw [choose, if_neg (mt List.contains_iff_mem.1 hbreak)]
    cases hother : readsAsOther s
    · cases hplain : (traits s.toList).plainAllowed
      · exact hquoted hbreak
      · exact ⟨hbreak, hother, hplain⟩
    · exact hquoted hbreak

/-- A string is written without quotes only if it is read as a string then. -/
theorem of_choose_plain {s : String} (h : choose s = .plain) :
    '\n' ∉ s.toList ∧ readsAsOther s = false ∧ (traits s.toList).plainAllowed = true := by
  have hfits := fits_choose s
  rw [h] at hfits
  exact hfits

/-- A string is written between single quotes only if nothing in it forbids that. -/
theorem of_choose_single {s : String} (h : choose s = .single) :
    '\n' ∉ s.toList ∧ (traits s.toList).singleAllowed = true := by
  have hfits := fits_choose s
  rw [h] at hfits
  exact hfits

/-- A string is written as a literal block only if it has lines. -/
theorem of_choose_literal {s : String} (h : choose s = .literal) :
    '\n' ∈ s.toList ∧ (traits s.toList).literalAllowed = true := by
  have hfits := fits_choose s
  rw [h] at hfits
  exact hfits

/-- What a plain scalar stands for is a text only if it is that text. -/
theorem eq_of_resolve_string {s t : String} (h : Scalar.resolve s = .value (.string t)) : t = s := by
  rw [Scalar.resolve] at h
  split at h
  · cases h
  · split at h
    · cases h
    · split at h
      -- What reads as a number is no string; the others were excluded before.
      · rename_i r hint
        rw [Scalar.int?] at hint
        split at hint
        · cases hint
          cases h
        · obtain ⟨n, -, rfl⟩ := Option.map_eq_some_iff.1 hint
          cases h
      · split at h
        · cases h
          rfl
        · split at h <;> cases h
          rfl

/-- A string that is written without quotes stands for itself. -/
theorem resolve_of_choose_plain {s : String} (h : choose s = .plain) : Scalar.resolve s = .value (.string s) := by
  have hother := (of_choose_plain h).2.1
  rw [readsAsOther] at hother
  split at hother
  · rename_i t ht
    rw [ht, eq_of_resolve_string ht]
  · cases hother

/-! ### Characters and their neighbours -/

/-- A character without an escape may stand in a YAML text. -/
theorem isAllowed_of_isPrintable {c : Char} (h : isPrintable c = true) : isAllowed c = true := by
  simp only [isPrintable, Bool.or_eq_true, Bool.and_eq_true, decide_eq_true_eq, beq_iff_eq] at h
  have hle : ('\ud7ff' ≤ '\ufffd') ∧ ('\u00a0' ≤ '\ue000') := by decide
  simp only [isAllowed, Bool.or_eq_true, Bool.and_eq_true, decide_eq_true_eq, beq_iff_eq]
  rcases h with (((h | h) | ⟨hlow, hhigh⟩) | ⟨⟨hlow, hhigh⟩, -⟩) | h
  · exact .inl (.inl (.inl (.inl (.inl (.inr h)))))
  · exact .inl (.inl (.inl (.inr h)))
  · exact .inl (.inr ⟨hlow, Char.le_trans hhigh hle.1⟩)
  · exact .inl (.inr ⟨Char.le_trans hle.2 hlow, hhigh⟩)
  · exact .inr h

/-- A printable line break is a line feed or a separator of Unicode. -/
theorem eq_of_isPrintable_of_isBreak {c : Char} (h : isPrintable c = true) (hbreak : isBreak c = true) :
    c = '\n' ∨ c = '\u2028' ∨ c = '\u2029' := by
  simp only [isBreak, Bool.or_eq_true, beq_iff_eq] at hbreak
  rcases hbreak with (((rfl | rfl) | rfl) | rfl) | rfl
  · exact .inl rfl
  · exact absurd h (by decide)
  · exact absurd h (by decide)
  · exact .inr (.inl rfl)
  · exact .inr (.inr rfl)

/-- The only blank that is printable is the space. -/
theorem isSpaceOrTab_of_isPrintable {c : Char} (h : isPrintable c = true) : isSpaceOrTab c = (c == ' ') := by
  have htab : c ≠ '\t' := by
    rintro rfl
    exact absurd h (by decide)
  simp [isSpaceOrTab, htab]

/-- A character in the middle of a text, with those beside it. -/
theorem mem_neighbours (before : Option Char) (u : List Char) (c : Char) (v : List Char) :
    ⟨u.getLast?.or before, c, v.head?⟩ ∈ neighbours before (u ++ c :: v) := by
  induction u generalizing before with
  | nil => exact List.mem_cons_self
  | cons d u ih =>
    have hlast : (d :: u).getLast?.or before = u.getLast?.or (some d) := by
      cases hu : u.getLast? with
      | none => rw [List.getLast?_eq_none_iff.1 hu]; rfl
      | some e => rw [List.getLast?_cons, hu]; rfl
    rw [hlast]
    exact List.mem_cons_of_mem _ (ih (some d))

/-- A character with its neighbours is a character of the text. -/
theorem mem_of_mem_neighbours {before : Option Char} {s : List Char} {n : Neighbours} (h : n ∈ neighbours before s) :
    n.here ∈ s := by
  induction s generalizing before with
  | nil => cases h
  | cons c s ih =>
    rcases List.mem_cons.1 h with rfl | h
    · exact List.mem_cons_self
    · exact List.mem_cons_of_mem _ (ih h)

/-- Where no character has one of two properties, none with the one property follows one with the other. -/
theorem hasPair_of_forall {p q : Char → Bool} {s : List Char} (h : (∀ c ∈ s, p c = false) ∨ ∀ c ∈ s, q c = false) :
    hasPair p q s = false := by
  rcases h with h | h
  -- Each pair is seen from its second character, so the one before it is carried along.
  · have hbefore (before : Option Char) (hbefore : before.any p = false) :
        ((neighbours before s).any fun n => q n.here && n.before.any p) = false := by
      induction s generalizing before with
      | nil => rfl
      | cons c s ih =>
        have hc : (some c).any p = false := h c List.mem_cons_self
        have htail := ih (fun d hd => h d (List.mem_cons_of_mem _ hd)) (some c) hc
        simp [neighbours, hbefore, htail]
    exact hbefore none rfl
  · rw [hasPair, List.any_eq_false]
    intro n hn
    simp [h n.here (mem_of_mem_neighbours hn)]

/-- No character with the property `q` follows one with the property `p`. -/
def NoPair (p q : Char → Bool) (s : List Char) : Prop :=
  ∀ (u : List Char) (a b : Char) (v : List Char), s = u ++ a :: b :: v → p a = true → q b = false

/-- No pair is found where there is none. -/
theorem noPair_of_hasPair {p q : Char → Bool} {s : List Char} (h : hasPair p q s = false) : NoPair p q s := by
  rintro u a b v rfl ha
  have hmem := mem_neighbours none (u ++ [a]) b v
  rw [List.getLast?_concat, List.append_assoc] at hmem
  have hnone := List.any_eq_false.1 h _ hmem
  simpa [ha] using hnone

/-- The end of a text without a pair has none, either. -/
theorem NoPair.right {p q : Char → Bool} {t s : List Char} (h : NoPair p q (t ++ s)) : NoPair p q s :=
  fun u a b v hs => h (t ++ u) a b v (by rw [hs, List.append_assoc])

/-- A run of characters with one of two properties keeps the one that it starts with. -/
theorem NoPair.all {p q : Char → Bool} {a : Char} {s rest : List Char} (h : NoPair p q (a :: s ++ rest))
    (ha : p a = true) (hs : ∀ c ∈ s, p c = true ∨ q c = true) : ∀ c ∈ s, p c = true := by
  induction s generalizing a with
  | nil => simp
  | cons b s ih =>
    have hb : p b = true := (hs b List.mem_cons_self).resolve_right (by simp [h [] a b (s ++ rest) rfl ha])
    exact List.forall_mem_cons.2
      ⟨hb, ih (NoPair.right (t := [a]) h) hb fun c hc => hs c (List.mem_cons_of_mem _ hc)⟩

end Form

end Scaffold.Yaml
