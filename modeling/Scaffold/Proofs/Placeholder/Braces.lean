import Scaffold.Placeholder

namespace Scaffold.Placeholder

/-!
# Balanced braces

The code of a placeholder ends with the brace that closes it, which is found by counting. What stands in front of
that brace is what is balanced, and nothing else is.

* `IsBalanced` — as many braces open as close, and nowhere have more closed than opened;
* `splitAtBrace_eq_some_iff` — a text is cut at the one brace with a balanced text in front of it.
-/

/-- Behind `depth` open braces the text closes all of them, and no brace that is not open. -/
structure Closes (depth : Nat) (s : List Char) : Prop where
  /-- No beginning of the text closes more than is open. -/
  start_le : ∀ start, start <+: s → start.count '\x7d' ≤ depth + start.count '\x7b'
  /-- At the end nothing is open. -/
  all_eq : s.count '\x7d' = depth + s.count '\x7b'

/-- Each brace that opens is closed, and each one that closes was opened. -/
def IsBalanced (s : List Char) : Prop := Closes 0 s

theorem closes_nil {depth : Nat} : Closes depth [] ↔ depth = 0 := by
  constructor
  · intro h
    simpa using h.all_eq.symm
  · rintro rfl
    exact ⟨by simp, rfl⟩

/-- A first character that leaves `depth'` braces open leaves the rest to close them. -/
theorem closes_cons {depth depth' : Nat} {c : Char} {s : List Char}
    (h : (if c = '\x7d' then 1 else 0) + depth' = depth + (if c = '\x7b' then 1 else 0)) :
    Closes depth (c :: s) ↔ Closes depth' s := by
  -- Each beginning of the text is one of the tail with the character in front, which adds to one count.
  have hcount (mark : Char) (t : List Char) :
      (c :: t).count mark = t.count mark + if c = mark then 1 else 0 := by
    simp [List.count_cons]
  constructor
  · intro hs
    refine ⟨fun start hstart => ?_, ?_⟩
    · have hle := hs.start_le (c :: start) (by simpa using hstart)
      rw [hcount, hcount] at hle
      omega
    · have heq := hs.all_eq
      rw [hcount, hcount] at heq
      omega
  · intro hs
    refine ⟨fun start hstart => ?_, ?_⟩
    · rcases List.prefix_cons_iff.1 hstart with rfl | ⟨rest, rfl, hrest⟩
      · simp
      · have hle := hs.start_le rest hrest
        rw [hcount, hcount]
        omega
    · have heq := hs.all_eq
      rw [hcount, hcount]
      omega

/-- A brace that closes though none is open is not balanced by anything behind it. -/
theorem not_closes_zero (s : List Char) : ¬ Closes 0 ('\x7d' :: s) := by
  intro h
  have hle := h.start_le ['\x7d'] (by simp)
  simp at hle

/-- A character that the text is not cut at is counted: the counter goes up or down by one, or stays, and never has to
    go down from zero. -/
theorem exists_splitAtBrace_cons {depth : Nat} {c : Char} (h : c = '\x7d' → depth ≠ 0) (s : List Char) :
    ∃ depth', (if c = '\x7d' then 1 else 0) + depth' = depth + (if c = '\x7b' then 1 else 0) ∧
      splitAtBrace depth (c :: s) = (splitAtBrace depth' s).map fun (code, rest) => (c :: code, rest) := by
  have hgo : ¬ (c = '\x7d' && depth == 0) = true := by simpa using h
  -- The new depth is the one the scan goes on with.
  refine ⟨if c = '\x7b' then depth + 1 else if c = '\x7d' then depth - 1 else depth, ?_, ?_⟩
  · by_cases hopen : c = '\x7b'
    · simp [hopen]
    · by_cases hclose : c = '\x7d'
      · have := h hclose
        simp only [hclose, if_true]
        simp
        omega
      · simp [hopen, hclose]
  · rw [splitAtBrace, if_neg hgo]

/-- **The closing brace.** A text is cut at the brace in front of which all open braces are closed, and only
    there. -/
theorem splitAtBrace_eq_some_iff {depth : Nat} {s code rest : List Char} :
    splitAtBrace depth s = some (code, rest) ↔ s = code ++ '\x7d' :: rest ∧ Closes depth code := by
  induction s generalizing depth code with
  | nil => simp [splitAtBrace]
  | cons c s ih =>
    by_cases hclose : c = '\x7d' ∧ depth = 0
    · obtain ⟨rfl, rfl⟩ := hclose
      -- The cut is here: a longer code would start with this brace.
      constructor
      · intro h
        obtain ⟨rfl, rfl⟩ := Prod.mk.inj (Option.some.inj h)
        exact ⟨rfl, closes_nil.2 rfl⟩
      · rintro ⟨hs, hcode⟩
        cases code with
        | nil =>
          obtain ⟨-, rfl⟩ := List.cons.inj hs
          rfl
        | cons d code =>
          obtain ⟨rfl, -⟩ := List.cons.inj hs
          exact absurd hcode (not_closes_zero code)
    · have hgo : c = '\x7d' → depth ≠ 0 := not_and.1 hclose
      obtain ⟨depth', hdepth, hcons⟩ := exists_splitAtBrace_cons hgo s
      rw [hcons]
      simp only [Option.map_eq_some_iff, Prod.exists]
      constructor
      · rintro ⟨code', rest', hsplit, heq⟩
        obtain ⟨rfl, rfl⟩ := Prod.mk.inj heq
        obtain ⟨rfl, hcode⟩ := ih.1 hsplit
        exact ⟨rfl, (closes_cons hdepth).2 hcode⟩
      · rintro ⟨hs, hcode⟩
        cases code with
        | nil =>
          -- Then nothing is open, and this is the brace to cut at.
          obtain ⟨rfl, -⟩ := List.cons.inj hs
          exact absurd (closes_nil.1 hcode) (hgo rfl)
        | cons d code =>
          obtain ⟨rfl, rfl⟩ := List.cons.inj hs
          exact ⟨code, rest, ih.2 ⟨rfl, (closes_cons hdepth).1 hcode⟩, rfl⟩

end Scaffold.Placeholder
