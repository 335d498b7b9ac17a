import Mathlib.Data.String.Basic
import Scaffold.Proofs.Placeholder.Braces

namespace Scaffold.Placeholder

/-!
# The place of the closing brace

Where the code of a placeholder ends, as a place in the bytes of the text. The scan looks at one character after the
other, so the place is never inside of a character, and the text can be cut in front of the brace and behind it.

* `splitAtBrace_past` — what the counter says behind each beginning of the text that the scan comes past;
* `ClosesAt` — a brace with a balanced text in front of it; `closingBrace?_eq_some_iff`, that this is what is found;
* `splitAtBrace_eq_slices` — code and rest are the slices of the text in front of the brace and behind it;
* `closingBrace?_closes` — the brace that is found, in one statement.
-/

open String.Pos (Raw)

/-! ### The counter -/

/-- **The counter.** Behind a beginning of the text that the cut does not fall into, the scan goes on with the number
    of braces that are open there: those that opened less those that closed, and no more of them have closed than
    opened. -/
theorem splitAtBrace_past {depth : Nat} {start rest : List Char}
    (h : ∀ cut ∈ splitAtBrace depth (start ++ rest), start <+: cut.1) :
    start.count '\x7d' ≤ depth + start.count '\x7b' ∧
      splitAtBrace depth (start ++ rest) =
        (splitAtBrace (depth + start.count '\x7b' - start.count '\x7d') rest).map
          fun (code, behind) => (start ++ code, behind) := by
  induction start generalizing depth with
  | nil => simp
  | cons c start ih =>
    rw [List.cons_append] at h ⊢
    by_cases hclose : c = '\x7d' ∧ depth = 0
    · -- The text is cut at its first character, in front of the end of the beginning.
      obtain ⟨rfl, rfl⟩ := hclose
      have hnil := h ([], start ++ rest) rfl
      simp at hnil
    -- One character moves the depth by at most one; the counts of the whole beginning follow from the rest.
    · obtain ⟨depth', hdepth, hcons⟩ := exists_splitAtBrace_cons (not_and.1 hclose) (start ++ rest)
      rw [hcons] at h ⊢
      obtain ⟨hle, hpast⟩ := @ih depth' fun cut hcut => by
        have hmap := h (c :: cut.1, cut.2) (Option.mem_map_of_mem _ hcut)
        exact (List.prefix_cons_inj c).1 hmap
      have hcount (mark : Char) : (c :: start).count mark = start.count mark + if c = mark then 1 else 0 := by
        simp [List.count_cons]
      have hopen : depth + (c :: start).count '\x7b' - (c :: start).count '\x7d' =
          depth' + start.count '\x7b' - start.count '\x7d' := by
        rw [hcount, hcount]
        omega
      refine ⟨?_, ?_⟩
      · rw [hcount, hcount]
        omega
      · rw [hpast, Option.map_map, hopen]
        rfl

/-! ### Places in the bytes of a text -/

/-- A character that is read in the bytes stands behind some other characters. -/
theorem exists_append_of_utf8GetAux? {s : List Char} {base place : Raw} {c : Char}
    (h : Raw.utf8GetAux? s base place = some c) :
    ∃ before behind, s = before ++ c :: behind ∧ place.byteIdx = base.byteIdx + String.utf8Len before := by
  induction s generalizing base with
  | nil => cases h
  | cons d s ih =>
    rw [Raw.utf8GetAux?] at h
    -- The place is the one reached, or lies behind the next character.
    by_cases hhere : base = place
    · rw [if_pos hhere] at h
      cases h
      exact ⟨[], s, rfl, congrArg Raw.byteIdx hhere.symm⟩
    · rw [if_neg hhere] at h
      obtain ⟨before, behind, rfl, hplace⟩ := ih h
      refine ⟨d :: before, behind, rfl, ?_⟩
      rw [hplace, Raw.byteIdx_add_char, String.utf8Len_cons]
      omega

/-- A character of a text is read at the place where the characters in front of it end, and nowhere else. -/
theorem get?_eq_some_iff {text : String} {place : Raw} {c : Char} :
    place.get? text = some c ↔
      ∃ before behind, text.toList = before ++ c :: behind ∧ place = (String.ofList before).rawEndPos := by
  constructor
  · intro h
    obtain ⟨before, behind, htext, hplace⟩ := exists_append_of_utf8GetAux? h
    refine ⟨before, behind, htext, Raw.ext ?_⟩
    rw [hplace, String.rawEndPos_ofList, Raw.byteIdx_zero, Nat.zero_add]
  · rintro ⟨before, behind, htext, rfl⟩
    have hget := String.get?_of_valid before (c :: behind)
    rwa [← htext, String.ofList_toList, ← String.rawEndPos_ofList] at hget

section Slices

variable {text : String} {before behind : List Char} {c : Char}

/-- Where a character starts, and where it ends, a text can be cut. -/
theorem isValid_of_toList_eq (h : text.toList = before ++ behind) :
    (String.ofList before).rawEndPos.IsValid text := by
  refine Raw.isValid_iff_exists_append.2 ⟨.ofList before, .ofList behind, ?_, rfl⟩
  rw [← String.ofList_append, ← h, String.ofList_toList]

/-- The slice in front of a place. -/
theorem extract_before (h : text.toList = before ++ behind) :
    Raw.extract text 0 (String.ofList before).rawEndPos = .ofList before := by
  have hslice := String.extract_of_valid [] before behind
  rw [List.nil_append, ← h, String.ofList_toList, String.utf8Len_nil, Nat.zero_add,
    ← String.rawEndPos_ofList] at hslice
  exact hslice

/-- The slice behind a place. -/
theorem extract_behind (h : text.toList = before ++ behind) :
    Raw.extract text (String.ofList before).rawEndPos text.rawEndPos = .ofList behind := by
  have hslice := String.extract_of_valid before behind []
  have hend : text.rawEndPos = ⟨String.utf8Len before + String.utf8Len behind⟩ := by
    rw [← String.utf8Len_append, ← String.rawEndPos_ofList, ← h, String.ofList_toList]
  rw [List.append_nil, ← h, String.ofList_toList, ← hend, ← String.rawEndPos_ofList] at hslice
  exact hslice

end Slices

/-! ### The brace that is found -/

/-- The place of the brace at which the text of code ends. -/
def closingBrace? (text : String) : Option Raw :=
  (splitAtBrace 0 text.toList).map fun (code, _) => (String.ofList code).rawEndPos

/-- At the place stands a brace that closes, and the braces in front of it are balanced. -/
structure ClosesAt (text : String) (place : Raw) : Prop where
  brace : place.get? text = some '\x7d'
  balanced : IsBalanced (Raw.extract text 0 place).toList

theorem closesAt_iff {text : String} {place : Raw} :
    ClosesAt text place ↔ ∃ code rest, text.toList = code ++ '\x7d' :: rest ∧
      place = (String.ofList code).rawEndPos ∧ IsBalanced code := by
  constructor
  · rintro ⟨hbrace, hbalanced⟩
    obtain ⟨code, rest, htext, rfl⟩ := get?_eq_some_iff.1 hbrace
    rw [extract_before htext, String.toList_ofList] at hbalanced
    exact ⟨code, rest, htext, rfl, hbalanced⟩
  · rintro ⟨code, rest, htext, rfl, hbalanced⟩
    refine ⟨get?_eq_some_iff.2 ⟨code, rest, htext, rfl⟩, ?_⟩
    rwa [extract_before htext, String.toList_ofList]

/-- What is found is the brace with a balanced text in front of it. -/
theorem closingBrace?_eq_some_iff {text : String} {place : Raw} :
    closingBrace? text = some place ↔ ClosesAt text place := by
  rw [closesAt_iff, closingBrace?, Option.map_eq_some_iff, Prod.exists]
  constructor
  · rintro ⟨code, rest, hsplit, rfl⟩
    obtain ⟨htext, hbalanced⟩ := splitAtBrace_eq_some_iff.1 hsplit
    exact ⟨code, rest, htext, rfl, hbalanced⟩
  · rintro ⟨code, rest, htext, rfl, hbalanced⟩
    exact ⟨code, rest, splitAtBrace_eq_some_iff.2 ⟨htext, hbalanced⟩, rfl⟩

/-- The byte behind a closing brace is a place, too. -/
theorem inc_rawEndPos (code : List Char) :
    (String.ofList code).rawEndPos.inc = (String.ofList (code ++ ['\x7d'])).rawEndPos := by
  rw [String.rawEndPos_ofList, String.rawEndPos_ofList, String.utf8Len_append]
  rfl

/-- Where a brace is found, the text can be cut in front of it and behind it. -/
theorem ClosesAt.isValid {text : String} {place : Raw} (h : ClosesAt text place) :
    place.IsValid text ∧ place.inc.IsValid text := by
  obtain ⟨code, rest, htext, rfl, -⟩ := closesAt_iff.1 h
  refine ⟨isValid_of_toList_eq htext, ?_⟩
  rw [inc_rawEndPos]
  exact isValid_of_toList_eq (htext.trans (List.append_cons code '\x7d' rest))

/-- The code of a placeholder, and what follows the placeholder, are the slices of the text in front of the brace
    and behind it. -/
theorem splitAtBrace_eq_slices (text : String) :
    splitAtBrace 0 text.toList = (closingBrace? text).map fun place =>
      ((Raw.extract text 0 place).toList, (Raw.extract text place.inc text.rawEndPos).toList) := by
  rw [closingBrace?]
  cases hsplit : splitAtBrace 0 text.toList with
  | none => rfl
  | some cut =>
    obtain ⟨code, rest⟩ := cut
    -- The text is the code, the brace and the rest, so the two slices are what the scan cut off.
    obtain ⟨htext, -⟩ := splitAtBrace_eq_some_iff.1 hsplit
    have hbehind : Raw.extract text (String.ofList code).rawEndPos.inc text.rawEndPos = .ofList rest := by
      rw [inc_rawEndPos]
      exact extract_behind (htext.trans (List.append_cons code '\x7d' rest))
    simp only [Option.map_some, extract_before htext, hbehind, String.toList_ofList]

/-- **The closing brace of a text.** A brace is found where one closes that has a balanced text in front of it. There
    is at most one such brace, and nothing is found if there is none. On its way the scan has the number of the
    braces that are open, and no more of them have closed than opened. In front of the brace that is found, and
    behind it, the text can be cut, and the two slices are the code and the rest. -/
theorem closingBrace?_closes (text : String) :
    (∀ place, closingBrace? text = some place ↔ ClosesAt text place) ∧
    (∀ place place', ClosesAt text place → ClosesAt text place' → place = place') ∧
    (closingBrace? text = none ↔ ∀ place, ¬ ClosesAt text place) ∧
    (∀ start rest, text.toList = start ++ rest → (∀ cut ∈ splitAtBrace 0 text.toList, start <+: cut.1) →
      start.count '\x7d' ≤ start.count '\x7b' ∧
        splitAtBrace 0 text.toList = (splitAtBrace (start.count '\x7b' - start.count '\x7d') rest).map
          fun (code, behind) => (start ++ code, behind)) ∧
    (∀ place, closingBrace? text = some place → place.IsValid text ∧ place.inc.IsValid text) ∧
    ∀ form ∈ [Form.block, Form.expression], form.close? text.toList = (closingBrace? text).map fun place =>
      ((Raw.extract text 0 place).toList, (Raw.extract text place.inc text.rawEndPos).toList) := by
  refine ⟨fun _ => closingBrace?_eq_some_iff, fun place place' h h' => ?_, ?_, fun start rest htext h => ?_,
    fun place h => (closingBrace?_eq_some_iff.1 h).isValid, fun form hform => ?_⟩
  · rw [← closingBrace?_eq_some_iff] at h h'
    exact Option.some.inj (h.symm.trans h')
  · rw [Option.eq_none_iff_forall_ne_some]
    exact forall_congr' fun place => not_congr closingBrace?_eq_some_iff
  · rw [htext] at h ⊢
    simpa using splitAtBrace_past h
  · rw [← splitAtBrace_eq_slices]
    rcases List.mem_pair.1 hform with rfl | rfl
    · rfl
    · rfl

/-- Code with a pair of braces in it, and more braces behind its end. -/
def nestedCode : String := "'é' ~ f(\x7b\x7d) \x7d and \x7d"

/-- The first brace closes the one in front of it, and the second one is found, at byte 13. When the scan is behind
    the brace that opens, one brace is open. -/
theorem closingBrace?_closes_nested :
    closingBrace? nestedCode = some ⟨13⟩ ∧ ClosesAt nestedCode ⟨13⟩ ∧ Raw.IsValid nestedCode ⟨13⟩ ∧
      "'é' ~ f(\x7b".toList.count '\x7d' ≤ "'é' ~ f(\x7b".toList.count '\x7b' ∧
      splitAtBrace 0 nestedCode.toList = (splitAtBrace 1 "\x7d) \x7d and \x7d".toList).map
        fun (code, behind) => ("'é' ~ f(\x7b".toList ++ code, behind) := by
  have hfound : closingBrace? nestedCode = some ⟨13⟩ := by decide +kernel
  obtain ⟨hcloses, -, -, hcounted, hvalid, -⟩ := closingBrace?_closes nestedCode
  obtain ⟨hle, hpast⟩ := hcounted "'é' ~ f(\x7b".toList "\x7d) \x7d and \x7d".toList (by decide +kernel)
    (by decide +kernel)
  exact ⟨hfound, (hcloses _).1 hfound, (hvalid _ hfound).1, hle, hpast⟩

end Scaffold.Placeholder
