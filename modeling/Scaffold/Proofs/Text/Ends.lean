import Scaffold.Text.Blank

namespace Scaffold.Chars

/-!
# Texts and their ends

What is cut off the end of a text all satisfies the condition for cutting, and the character in front of it does not.
A text is as large as its parts.

* `dropEndWhile_isPrefix`, `dropEndWhile_append` — what is left, and what is cut;
* `getLast?_dropEndWhile`, `dropEndWhile_of_last` — where cutting ends, and when nothing is cut;
* `dropEndWhile_dropEndWhile` — cutting less before cutting more;
* `runs_induction` — induction over the runs of a text, words and the gaps behind them in turn.
-/

/-- The bytes of the first character, and of the others. -/
theorem byteLength_cons (c : Char) (s : List Char) : byteLength (c :: s) = c.utf8Size + byteLength s := rfl

/-- The bytes of two texts. -/
theorem byteLength_append (s t : List Char) : byteLength (s ++ t) = byteLength s + byteLength t := by
  induction s with
  | nil => exact (Nat.zero_add _).symm
  | cons c s ih => rw [List.cons_append, byteLength_cons, byteLength_cons, ih, Nat.add_assoc]

/-- Each space has one byte. -/
theorem byteLength_replicate_space (n : Nat) : byteLength (List.replicate n ' ') = n := by
  induction n with
  | zero => rfl
  | succ n ih =>
    rw [List.replicate_succ, byteLength_cons, ih, Nat.add_comm]
    rfl

/-- A string has the bytes of its characters. -/
theorem byteLength_toList (s : String) : byteLength s.toList = s.utf8ByteSize := by
  have hchars (cs : List Char) : (String.ofList cs).utf8ByteSize = byteLength cs := by
    induction cs with
    | nil => rfl
    | cons c cs ih =>
      rw [← List.singleton_append, String.ofList_append, String.utf8ByteSize_append, ih, List.singleton_append,
        byteLength_cons]
      exact congrArg (· + byteLength cs) String.utf8ByteSize_singleton
  rw [← hchars, String.ofList_toList]

/-- Induction over the runs of a text: a word, a gap, and a rest that is empty or starts with a word. -/
theorem runs_induction (p : Char → Bool) {motive : List Char → Prop}
    (last : ∀ w, (∀ c ∈ w, p c = false) → motive w)
    (gap : ∀ w g rest, (∀ c ∈ w, p c = false) → g ≠ [] → (∀ c ∈ g, p c = true) →
      (∀ c ∈ rest.head?, p c = false) → motive rest → motive (w ++ (g ++ rest))) (s : List Char) : motive s := by
  generalize hn : s.length = n
  induction n using Nat.strongRecOn generalizing s with
  | _ n ih =>
    -- A word is taken as long as possible, then the gap behind it; the rest is shorter.
    have hs : s.takeWhile (!p ·) ++ s.dropWhile (!p ·) = s := List.takeWhile_append_dropWhile
    have hword : ∀ c ∈ s.takeWhile (!p ·), p c = false := fun c hc => by
      simpa using List.all_eq_true.1 List.all_takeWhile c hc
    have hstop := List.head?_dropWhile_not (!p ·) s
    cases hbehind : s.dropWhile (!p ·) with
    | nil =>
      rw [hbehind, List.append_nil] at hs
      rw [← hs]
      exact last _ hword
    | cons c behind =>
      rw [hbehind] at hs hstop
      have hc : p c = true := by simpa using hstop
      have hbehind' : (c :: behind).takeWhile p ++ (c :: behind).dropWhile p = c :: behind :=
        List.takeWhile_append_dropWhile
      have hlength : ((c :: behind).dropWhile p).length < n := by
        have hle := (List.dropWhile_sublist p (l := behind)).length_le
        have hsum := congrArg List.length hs
        rw [List.length_append, List.length_cons] at hsum
        rw [List.dropWhile_cons, if_pos hc]
        omega
      rw [← hs, ← hbehind']
      refine gap _ _ _ hword ?_ (fun d hd => List.all_eq_true.1 List.all_takeWhile d hd) (fun d hd => ?_)
        (ih _ hlength _ rfl)
      · rw [List.takeWhile_cons, if_pos hc]
        exact List.cons_ne_nil _ _
      · have hrest := List.head?_dropWhile_not p (c :: behind)
        rw [Option.mem_def.1 hd] at hrest
        exact hrest

/-- What is left is a beginning. -/
theorem dropEndWhile_isPrefix (p : Char → Bool) (s : List Char) : dropEndWhile p s <+: s := by
  have h := (List.dropWhile_suffix p (l := s.reverse))
  rw [← List.reverse_prefix, List.reverse_reverse] at h
  exact h

/-- The character that a cut ends with is one that was not to be cut. -/
theorem getLast?_dropEndWhile (p : Char → Bool) (s : List Char) :
    ∀ c ∈ (dropEndWhile p s).getLast?, p c = false := by
  intro c hc
  rw [dropEndWhile, List.getLast?_reverse, Option.mem_def] at hc
  have h := List.head?_dropWhile_not p s.reverse
  rw [hc] at h
  exact h

/-- What is cut off the end satisfies the condition. -/
theorem dropEndWhile_append (p : Char → Bool) (s : List Char) :
    ∃ ending, (∀ c ∈ ending, p c = true) ∧ dropEndWhile p s ++ ending = s := by
  refine ⟨(s.reverse.takeWhile p).reverse, fun c hc => ?_, ?_⟩
  · exact List.all_eq_true.1 List.all_takeWhile c (List.mem_reverse.1 hc)
  · rw [dropEndWhile, ← List.reverse_append, List.takeWhile_append_dropWhile, List.reverse_reverse]

/-- What is dropped at the end of both texts is dropped at the end of the first. -/
theorem dropEndWhile_append_of_all {p : Char → Bool} (s : List Char) {ending : List Char}
    (h : ∀ c ∈ ending, p c = true) : dropEndWhile p (s ++ ending) = dropEndWhile p s := by
  have hfront : ∀ c ∈ ending.reverse, p c = true := fun c hc => h c (List.mem_reverse.1 hc)
  rw [dropEndWhile, List.reverse_append, List.dropWhile_append_of_pos hfront, dropEndWhile]

/-- A text whose last character is not to be cut stays as it is. -/
theorem dropEndWhile_of_last {p : Char → Bool} {s : List Char} (h : ∀ c ∈ s.getLast?, p c = false) :
    dropEndWhile p s = s := by
  obtain ⟨ending, hending, hs⟩ := dropEndWhile_append p s
  cases hlast : ending.getLast? with
  | none => rwa [List.getLast?_eq_none_iff.1 hlast, List.append_nil] at hs
  | some c =>
    have hc : s.getLast? = some c := by rw [← hs, List.getLast?_append, hlast]; rfl
    exact absurd (hending c (List.mem_of_getLast? hlast)) (by simp [h c hc])

/-- Cutting ends in front of a character that is not to be cut. -/
theorem dropEndWhile_append_of_last {p : Char → Bool} {s : List Char} {c : Char} (hlast : s.getLast? = some c)
    (hc : p c = false) (t : List Char) : dropEndWhile p (s ++ t) = s ++ dropEndWhile p t := by
  obtain ⟨ending, hending, ht⟩ := dropEndWhile_append p t
  -- The part that is kept ends with a character that stays, whether or not it lies in `t`.
  have hlast : ∀ d ∈ (s ++ dropEndWhile p t).getLast?, p d = false := by
    intro d hd
    rw [List.getLast?_append] at hd
    cases hcut : (dropEndWhile p t).getLast? with
    | none =>
      rw [hcut, Option.none_or, hlast] at hd
      exact Option.some.inj hd ▸ hc
    | some b =>
      rw [hcut] at hd
      exact getLast?_dropEndWhile p t d (hcut ▸ hd)
  calc dropEndWhile p (s ++ t)
      = dropEndWhile p ((s ++ dropEndWhile p t) ++ ending) := by rw [List.append_assoc, ht]
    _ = dropEndWhile p (s ++ dropEndWhile p t) := dropEndWhile_append_of_all _ hending
    _ = s ++ dropEndWhile p t := dropEndWhile_of_last hlast

/-- Whoever cuts more at the end need not have it cut before. -/
theorem dropEndWhile_dropEndWhile {p q : Char → Bool} (h : ∀ c, q c = true → p c = true) (s : List Char) :
    dropEndWhile p (dropEndWhile q s) = dropEndWhile p s := by
  obtain ⟨ending, hending, hs⟩ := dropEndWhile_append q s
  calc dropEndWhile p (dropEndWhile q s)
      = dropEndWhile p (dropEndWhile q s ++ ending) :=
        (dropEndWhile_append_of_all _ fun c hc => h c (hending c hc)).symm
    _ = dropEndWhile p s := by rw [hs]

/-- No blank is left at the start. -/
theorem head?_trimStart (s : List Char) : ∀ c ∈ (trimStart s).head?, isBlank c = false := by
  intro c hc
  have h := List.head?_dropWhile_not isBlank s
  rw [trimStart, Option.mem_def] at hc
  rw [hc] at h
  exact h

/-- Where no blank stands at the start, nothing is trimmed. -/
theorem trimStart_of_head {s : List Char} (h : ∀ c ∈ s.head?, isBlank c = false) : trimStart s = s := by
  cases s with
  | nil => rfl
  | cons c s => exact List.dropWhile_cons_of_neg (by simp [h c rfl])

/-- A beginning of a text that is not empty starts as the text does. -/
theorem head?_of_isPrefix {s t : List Char} (h : s <+: t) : ∀ c ∈ s.head?, c ∈ t.head? := by
  obtain ⟨u, rfl⟩ := h
  intro c hc
  cases s with
  | nil => simp at hc
  | cons d s => simpa using hc

/-- What is cut off at the end are blanks. -/
theorem trimEnd_append (s : List Char) : ∃ blanks, allBlank blanks = true ∧ trimEnd s ++ blanks = s := by
  obtain ⟨blanks, hblanks, hs⟩ := dropEndWhile_append isBlank s
  exact ⟨blanks, List.all_eq_true.2 hblanks, hs⟩

end Scaffold.Chars
