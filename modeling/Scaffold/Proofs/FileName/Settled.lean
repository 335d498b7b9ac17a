import Scaffold.Proofs.FileName
import Mathlib.Data.List.Basic
import Mathlib.Logic.Function.Iterate

namespace Scaffold.FileName

/-!
# Sanitizing a sanitized name

Sanitizing cuts blanks from the end of a name, then dots, then blanks again. If dots and blanks take turns there more
often than that, a dot is left at the end, and sanitizing the result cuts more of it. The names that sanitizing
gives back as they are, are the clean ones that do not end with a dot.

* `sanitize_eq_self_iff` — sanitizing gives back the settled names, and no others;
* `clean_eq_append_dot_iff` — when cleaning leaves a dot at the end;
* `exists_iterate_sanitize` — sanitizing again and again ends with the settled name;
* `sanitize_settles` — what holds of the first result for every name, and what holds unless the name ends in turns;
* `sanitize_leaves_dot` — a name that does.
-/

open Chars

/-! ### Cleaning -/

/-- The steps in which a name is cleaned. -/
theorem clean_eq (s : List Char) : clean s = trimEnd (dropEndWhile (· == '.') (trim (replaced s))) := rfl

/-- What cleaning may leave of a text that is no name of an entry. -/
def noEntries : List (List Char) := [[], ['.'], ['.', '.']]

/-- A name is what is left of it, unless that is none. -/
theorem sanitize_eq (name : String) :
    sanitize name = if clean name.toList ∈ noEntries then fallback else .ofList (clean name.toList) := by
  simp [sanitize, noEntries, or_assoc]

/-- Where nothing is invalid, nothing is replaced. -/
theorem replaced_of_valid {s : List Char} (h : ∀ c ∈ s, c ∉ invalidChars) : replaced s = s := by
  have hsame : ∀ c ∈ s, (if invalidChars.contains c then '_' else c) = c := by
    intro c hc
    rw [if_neg (by simpa using h c hc)]
  rw [replaced, List.map_congr_left hsame, List.map_id']

/-- Of a clean name nothing but dots at its end is cut, and the blanks in front of them. -/
theorem IsClean.clean_eq {name : String} (h : IsClean name) :
    clean name.toList = trimEnd (dropEndWhile (· == '.') name.toList) := by
  have hend : trimEnd name.toList = name.toList := dropEndWhile_of_last h.last_not_blank
  rw [FileName.clean_eq, replaced_of_valid h.valid, trim, trimStart_of_head h.head_not_blank, hend]

/-- A dot at the end is cut off. -/
theorem IsClean.length_clean_lt {name : String} (h : IsClean name) (hdot : name.toList.getLast? = some '.') :
    (clean name.toList).length < name.toList.length := by
  -- The dot at the end is cut, so the name gets shorter.
  have hcut : dropEndWhile (· == '.') name.toList ≠ name.toList := by
    intro hsame
    have hlast := getLast?_dropEndWhile (· == '.') name.toList '.' (by rw [hsame, hdot]; rfl)
    simp at hlast
  have hfront := dropEndWhile_isPrefix (· == '.') name.toList
  calc (clean name.toList).length
      ≤ (dropEndWhile (· == '.') name.toList).length := by
        rw [h.clean_eq]
        exact (dropEndWhile_isPrefix isBlank _).length_le
    _ < name.toList.length :=
      Nat.lt_of_le_of_ne hfront.length_le fun hlength => hcut (hfront.eq_of_length hlength)

/-- Cleaning leaves a dot at the end if blanks stand behind it, and dots behind those. -/
theorem clean_eq_append_dot_iff {s front : List Char} :
    clean s = front ++ ['.'] ↔ ∃ blanks dots, trim (replaced s) = front ++ '.' :: (blanks ++ dots) ∧
      blanks ≠ [] ∧ allBlank blanks = true ∧ dots ≠ [] ∧ ∀ c ∈ dots, c = '.' := by
  rw [clean_eq]
  generalize hu : trim (replaced s) = u
  have hulast : ∀ c ∈ u.getLast?, isBlank c = false := by
    rw [← hu]
    exact getLast?_dropEndWhile isBlank _
  constructor
  · intro h
    obtain ⟨dots, hdots, hcut⟩ := dropEndWhile_append (· == '.') u
    obtain ⟨blanks, hblanks, htrim⟩ := dropEndWhile_append isBlank (dropEndWhile (· == '.') u)
    rw [← trimEnd, h] at htrim
    -- What was cut are dots, and in front of them the blanks; neither part is empty.
    refine ⟨blanks, dots, ?_, ?_, List.all_eq_true.2 hblanks, ?_, fun c hc => by simpa using hdots c hc⟩
    · rw [← hcut, ← htrim]
      simp
    · -- Without blanks the dot would have been cut with the others.
      rintro rfl
      have hlast := getLast?_dropEndWhile (· == '.') u '.' (by rw [← htrim]; simp)
      simp at hlast
    · -- Without dots behind them the blanks would be at the end of the text, where there are none.
      rintro rfl
      rw [List.append_nil] at hcut
      rw [hcut, trimEnd, dropEndWhile_of_last hulast] at h
      have hlast := getLast?_dropEndWhile (· == '.') u '.' (by rw [hcut, h]; simp)
      simp at hlast
  · rintro ⟨blanks, dots, rfl, hne, hblanks, -, hdots⟩
    have hblanks : ∀ c ∈ blanks, isBlank c = true := List.all_eq_true.1 hblanks
    have hsplit : front ++ '.' :: (blanks ++ dots) = (front ++ ['.'] ++ blanks) ++ dots := by simp
    -- The blanks are no dots, so the cut of the dots ends there.
    have hkeep : dropEndWhile (· == '.') (front ++ ['.'] ++ blanks) = front ++ ['.'] ++ blanks := by
      refine dropEndWhile_of_last fun c hc => ?_
      rw [List.getLast?_append_of_ne_nil _ hne] at hc
      have hblank := hblanks c (List.mem_of_getLast? hc)
      by_contra hdot
      obtain rfl : c = '.' := by simpa using hdot
      exact absurd hblank (by decide)
    rw [hsplit, dropEndWhile_append_of_all _ fun c hc => by simp [hdots c hc], hkeep, trimEnd,
      dropEndWhile_append_of_all _ hblanks]
    refine dropEndWhile_of_last fun c hc => ?_
    obtain rfl : '.' = c := by simpa using hc
    decide

/-! ### Settled names -/

/-- A clean name with no dot at its end. -/
structure IsSettled (name : String) : Prop extends IsClean name where
  last_not_dot : name.toList.getLast? ≠ some '.'

/-- The name in place of an empty one is settled. -/
theorem fallback_isSettled : IsSettled fallback := ⟨fallback_isClean, by decide⟩

/-- **What sanitizing gives back.** These are the settled names. -/
theorem sanitize_eq_self_iff {name : String} : sanitize name = name ↔ IsSettled name := by
  constructor
  · intro h
    have hclean := sanitize_isClean name
    rw [h] at hclean
    -- A name that stays as it is does not end with a dot, since the dot would be cut.
    refine ⟨hclean, fun hdot => ?_⟩
    rw [sanitize_eq] at h
    split at h
    · rw [← h] at hdot
      exact fallback_isSettled.last_not_dot hdot
    · have hsame : clean name.toList = name.toList := by
        rw [← String.toList_inj, String.toList_ofList] at h
        exact h
      have hless := hclean.length_clean_lt hdot
      rw [hsame] at hless
      exact Nat.lt_irrefl _ hless
  · intro h
    -- Nothing is cut from a name that ends neither with a dot nor with a blank.
    have hkeep : clean name.toList = name.toList := by
      have hdots : dropEndWhile (· == '.') name.toList = name.toList := by
        refine dropEndWhile_of_last fun c hc => ?_
        by_contra hdot
        obtain rfl : c = '.' := by simpa using hdot
        exact h.last_not_dot hc
      rw [h.clean_eq, hdots, trimEnd, dropEndWhile_of_last h.last_not_blank]
    -- A settled name is none of the names that are no entries.
    have hentry : name.toList ∉ noEntries := by
      intro hmem
      simp only [noEntries, List.mem_cons, List.not_mem_nil, or_false] at hmem
      rcases hmem with hname | hname | hname
      · exact h.nonempty (String.toList_inj.1 hname)
      · exact h.ne_here (String.toList_inj.1 hname)
      · exact h.ne_up (String.toList_inj.1 hname)
    rw [sanitize_eq, hkeep, if_neg hentry, String.ofList_toList]

/-- Dots and blanks take turns at the end of the name: there are dots behind blanks, and what is in front of the
    blanks ends with a dot and is more than a dot entry. -/
def EndsInTurns (name : String) : Prop :=
  ∃ front blanks dots, trim (replaced name.toList) = front ++ '.' :: (blanks ++ dots) ∧
    (blanks ≠ [] ∧ allBlank blanks = true ∧ dots ≠ [] ∧ ∀ c ∈ dots, c = '.') ∧ front ++ ['.'] ∉ noEntries

/-- The first result is settled unless the name ends in turns. -/
theorem sanitize_isSettled_iff (name : String) : IsSettled (sanitize name) ↔ ¬ EndsInTurns name := by
  -- The cut leaves a dot if and only if blanks stood between two runs of dots.
  have hlast : (sanitize name).toList.getLast? = some '.' ↔ EndsInTurns name := by
    rw [sanitize_eq]
    constructor
    · intro h
      split at h
      · exact absurd h (by decide)
      · rename_i hentry
        rw [String.toList_ofList] at h
        obtain ⟨front, hfront⟩ := List.getLast?_eq_some_iff.1 h
        obtain ⟨blanks, dots, hname, hends⟩ := clean_eq_append_dot_iff.1 hfront
        exact ⟨front, blanks, dots, hname, hends, hfront ▸ hentry⟩
    · rintro ⟨front, blanks, dots, hname, hends, hentry⟩
      have hfront := clean_eq_append_dot_iff.2 ⟨blanks, dots, hname, hends⟩
      rw [hfront, if_neg hentry, String.toList_ofList]
      simp
  rw [← hlast]
  exact ⟨fun h => h.last_not_dot, fun h => ⟨sanitize_isClean name, h⟩⟩

/-! ### Sanitizing again and again -/

/-- The text without the blanks and dots at its end, in whichever order they stand there. -/
def settledChars (s : List Char) : List Char :=
  dropEndWhile (fun c => isBlank c || c == '.') (trimStart (replaced s))

/-- The name with all blanks and dots cut that stand at its end. -/
def settled (name : String) : String :=
  if settledChars name.toList = [] then fallback else .ofList (settledChars name.toList)

/-- Cleaning cuts nothing else. -/
theorem settledChars_clean (s : List Char) : settledChars (clean s) = settledChars s := by
  have hblank (c : Char) (hc : isBlank c = true) : (isBlank c || c == '.') = true := by simp [hc]
  have hdot (c : Char) (hc : (c == '.') = true) : (isBlank c || c == '.') = true := by simp [hc]
  rw [settledChars, replaced_of_valid fun c => not_invalid_of_mem_clean, trimStart_of_head (head?_clean s),
    clean_eq, trimEnd, dropEndWhile_dropEndWhile hblank, dropEndWhile_dropEndWhile hdot, trim, trimEnd,
    dropEndWhile_dropEndWhile hblank]
  rfl

/-- What a name comes to is settled. -/
theorem settled_isSettled (name : String) : IsSettled (settled name) := by
  rw [settled]
  split
  · exact fallback_isSettled
  · rename_i hne
    have hfront := dropEndWhile_isPrefix (fun c => isBlank c || c == '.') (trimStart (replaced name.toList))
    have hlast := getLast?_dropEndWhile (fun c => isBlank c || c == '.') (trimStart (replaced name.toList))
    rw [← settledChars] at hfront hlast
    simp only [Bool.or_eq_false_iff, beq_eq_false_iff_ne] at hlast
    -- Every name that ends with a dot is excluded at once, the two entries among them.
    have hnodot (t : String) (ht : t.toList.getLast? = some '.') : String.ofList (settledChars name.toList) ≠ t := by
      rintro rfl
      rw [String.toList_ofList] at ht
      exact (hlast '.' ht).2 rfl
    exact {
      nonempty := fun hnil => hne (by simpa using congrArg String.toList hnil)
      ne_here := hnodot "." rfl
      ne_up := hnodot ".." rfl
      valid := by
        intro c hc
        rw [String.toList_ofList] at hc
        exact not_invalid_of_mem_replaced ((List.dropWhile_suffix isBlank).subset (hfront.subset hc))
      head_not_blank := by
        intro c hc
        rw [String.toList_ofList] at hc
        exact head?_trimStart _ c (head?_of_isPrefix hfront c hc)
      last_not_blank := by
        intro c hc
        rw [String.toList_ofList] at hc
        exact (hlast c hc).1
      last_not_dot := by
        intro hdot
        rw [String.toList_ofList] at hdot
        exact (hlast '.' hdot).2 rfl }

/-- A settled name comes to itself. -/
theorem IsSettled.settled_eq {name : String} (h : IsSettled name) : settled name = name := by
  have hlast : ∀ c ∈ name.toList.getLast?, (isBlank c || c == '.') = false := by
    intro c hc
    rw [h.last_not_blank c hc, Bool.false_or, beq_eq_false_iff_ne]
    rintro rfl
    exact h.last_not_dot hc
  have hkeep : settledChars name.toList = name.toList := by
    rw [settledChars, replaced_of_valid h.valid, trimStart_of_head h.head_not_blank, dropEndWhile_of_last hlast]
  have hne : name.toList ≠ [] := fun hnil => h.nonempty (String.toList_inj.1 hnil)
  rw [settled, hkeep, if_neg hne, String.ofList_toList]

/-- **Again and again.** Sanitizing often enough gives the settled name. -/
theorem exists_iterate_sanitize (name : String) : ∃ n, sanitize^[n + 1] name = settled name := by
  -- As long as the result is not settled, it gets shorter.
  induction hlength : (clean name.toList).length using Nat.strongRecOn generalizing name with
  | ind length ih =>
    subst hlength
    by_cases hentry : clean name.toList ∈ noEntries
    · refine ⟨0, ?_⟩
      have hnothing : ∀ s ∈ noEntries, settledChars s = [] := by decide
      rw [Function.iterate_one, sanitize_eq, if_pos hentry, settled,
        if_pos (by rw [← settledChars_clean, hnothing _ hentry])]
    · have hfirst : sanitize name = .ofList (clean name.toList) := by rw [sanitize_eq, if_neg hentry]
      have hchars : (sanitize name).toList = clean name.toList := by rw [hfirst, String.toList_ofList]
      have hsettled : settled (sanitize name) = settled name := by
        rw [settled, settled, hchars, settledChars_clean]
      by_cases hdot : (sanitize name).toList.getLast? = some '.'
      · have hless := (sanitize_isClean name).length_clean_lt hdot
        nth_rewrite 2 [hchars] at hless
        obtain ⟨n, hn⟩ := ih _ hless (sanitize name) rfl
        exact ⟨n + 1, by rw [Function.iterate_succ_apply, hn, hsettled]⟩
      · have hdone : IsSettled (sanitize name) := ⟨sanitize_isClean name, hdot⟩
        exact ⟨0, by rw [Function.iterate_one, ← hsettled, hdone.settled_eq]⟩

/-- **Sanitized names.** The first result is a clean name. It has no dot at its end, and sanitizing it gives it back,
    if and only if the name does not end in turns. In any case sanitizing again and again gives the settled name, which
    is clean, has no dot at its end, and is given back. -/
theorem sanitize_settles (name : String) :
    IsClean (sanitize name) ∧
    ((sanitize name).toList.getLast? ≠ some '.' ↔ ¬ EndsInTurns name) ∧
    (sanitize (sanitize name) = sanitize name ↔ ¬ EndsInTurns name) ∧
    (∃ n, sanitize^[n + 1] name = settled name) ∧ IsSettled (settled name) ∧
    sanitize (settled name) = settled name := by
  have hclean := sanitize_isClean name
  have hiff := sanitize_isSettled_iff name
  have hsettled := settled_isSettled name
  refine ⟨hclean, ?_, ?_, exists_iterate_sanitize name, hsettled, sanitize_eq_self_iff.2 hsettled⟩
  · rw [← hiff]
    exact ⟨fun hdot => ⟨hclean, hdot⟩, fun h => h.last_not_dot⟩
  · rw [sanitize_eq_self_iff, hiff]

/-- **A dot that is left.** Of this name the dot behind the blank is cut, and then the blank. Its settled name is the
    second result. -/
theorem sanitize_leaves_dot :
    sanitize "a. ." = "a." ∧ sanitize (sanitize "a. .") ≠ sanitize "a. ." ∧ settled "a. ." = "a" ∧
      sanitize (sanitize "a. .") = "a" := by
  decide

end Scaffold.FileName
