import Scaffold.Error
import Scaffold.Proofs.Placeholder.Sites
import Scaffold.Proofs.Text.Ends
import Scaffold.Proofs.Text.Pieces
import Mathlib.Data.List.Infix

namespace Scaffold

/-!
# The line of an unknown name

An error about a token is attributed to the first line of the document that mentions it. To mention a token is less
than to have a placeholder for it: the line need only have the marker `mp:` in it and the name behind that, so that a
longer name that starts the same way is a mention too. And of the blanks that may stand behind the marker, no more
than one space is passed over.

* `BeginsFor`, `Names` — placeholders for a token;
* `squeezed` — a text without the space behind each marker;
* `Mentions`, `lineMentions_iff` — what is looked for in a line;
* `Starts.mentions` — the marker, at most one space, and the name: whatever is behind it, this is a mention;
* `line?_of_token` — the line that an error about a token is attributed to;
* `line?_of_longer_name` — a line with another token in it, and a line that is not found.
-/

namespace Error

open Placeholder (Form)
open Text (SameLetters lowerChars)

/-! ### Placeholders for a token -/

/-- The text begins with a placeholder for the token: in any case, with any blanks around the name. -/
def BeginsFor (name : String) (s : List Char) : Prop :=
  ∃ opener code rest, s = opener ++ code ++ '\x7d' :: rest ∧ Form.name.IsOpener opener ∧ Form.name.IsBody code ∧
    Context.key (.ofList code) = Context.key name

/-- The line has a placeholder for the token in it. -/
def Names (name : String) (line : List Char) : Prop := ∃ rest, rest <:+ line ∧ BeginsFor name rest

/-- A placeholder for a name is looked for as placeholders are, and compared by its key. -/
theorem beginsFor_iff {name : String} {s : List Char} :
    BeginsFor name s ↔ ((Form.name.afterOpener? s).bind Form.name.close?).any
      (fun (code, _) => Context.key (.ofList code) = Context.key name) = true := by
  simp only [Option.any_eq_true, Option.bind_eq_some_iff, Prod.exists, Form.afterOpener?_eq_some_iff,
    Form.close?_eq_some_iff, decide_eq_true_eq]
  constructor
  · rintro ⟨opener, code, rest, rfl, hopener, hcode, hkey⟩
    exact ⟨code, rest, ⟨_, ⟨opener, List.append_assoc .., hopener⟩, rfl, hcode⟩, hkey⟩
  · rintro ⟨code, rest, ⟨_, ⟨opener, rfl, hopener⟩, rfl, hcode⟩, hkey⟩
    exact ⟨opener, code, rest, (List.append_assoc ..).symm, hopener, hcode, hkey⟩

/-- Whether a text begins with a placeholder for a name can be computed. -/
instance (name : String) (s : List Char) : Decidable (BeginsFor name s) := decidable_of_iff' _ beginsFor_iff

/-- Whether a line has a placeholder for a name can be computed. -/
instance (name : String) (line : List Char) : Decidable (Names name line) :=
  decidable_of_iff (∃ rest ∈ line.tails, BeginsFor name rest)
    (exists_congr fun _ => and_congr_left' (List.mem_tails ..))

/-! ### Without the space behind a marker -/

/-- The text without the space behind each marker of a placeholder. -/
@[simp] def squeezed : List Char → List Char
  | 'm' :: 'p' :: ':' :: ' ' :: s => 'm' :: 'p' :: ':' :: squeezed s
  | c :: s => c :: squeezed s
  | [] => []

/-- A character that no blank behind a marker follows stays. -/
theorem squeezed_cons {c : Char} {s : List Char} (h : ∀ t, c = 'm' → s = 'p' :: ':' :: ' ' :: t → False) :
    squeezed (c :: s) = c :: squeezed s :=
  squeezed.eq_2 c s h

/-- Replacing takes out the blank behind each marker. -/
theorem replace_eq_squeezed (s : List Char) : Chars.replace "mp: ".toList "mp:".toList s = squeezed s := by
  fun_induction squeezed s with
  | case1 s ih =>
    rw [← ih]
    rfl
  | case2 c s hother ih =>
    -- The marker has no blank behind it, so nothing is closed up here.
    have hnot : "mp: ".toList.isPrefixOf (c :: s) = false := by
      rw [Bool.eq_false_iff, ne_eq, List.isPrefixOf_iff_prefix]
      rintro ⟨t, ht⟩
      obtain ⟨rfl, rfl⟩ := List.cons.inj ht
      exact hother t rfl rfl
    rw [Chars.replace, Chars.replaceFrom, hnot, ← ih]
    rfl
  | case3 => rfl

/-- The first character stays. -/
theorem head?_squeezed (s : List Char) : (squeezed s).head? = s.head? := by
  fun_cases squeezed s <;> rfl

/-- Behind a text that ends inside of a marker, the marker may go on. -/
theorem cut_of_append_eq {s t rest : List Char} (h : s ++ t = 'p' :: ':' :: ' ' :: rest) :
    (∃ u, s = 'p' :: ':' :: ' ' :: u) ∨ (t.head? ≠ some 'm' ∧ squeezed ('m' :: s) = 'm' :: s ∧
      s <+: ['p', ':']) := by
  -- The cut may be behind any of the three characters.
  rcases s with _ | ⟨a, _ | ⟨b, _ | ⟨c, u⟩⟩⟩ <;>
    simp only [List.nil_append, List.cons_append, List.cons.injEq] at h
  · exact .inr ⟨by simp [h], rfl, by simp⟩
  · obtain ⟨rfl, ht⟩ := h
    exact .inr ⟨by simp [ht], rfl, by simp⟩
  · obtain ⟨rfl, rfl, ht⟩ := h
    exact .inr ⟨by simp [ht], rfl, by simp⟩
  · obtain ⟨rfl, rfl, rfl, -⟩ := h
    exact .inl ⟨u, rfl⟩

/-- In front of the start of a marker, and behind it, a text is squeezed for itself. -/
theorem squeezed_append {s t : List Char} (h : t.head? = some 'm') : squeezed (s ++ t) = squeezed s ++ squeezed t := by
  fun_induction squeezed s with
  | case1 s ih => exact congrArg ('m' :: 'p' :: ':' :: ·) ih
  | case2 c s hother ih =>
    -- A marker that starts in `s` and goes on into `t` would have a character of its inside at the start of `t`.
    have hstay : ∀ u, c = 'm' → s ++ t = 'p' :: ':' :: ' ' :: u → False := by
      intro u hc hu
      rcases cut_of_append_eq hu with ⟨u', hu'⟩ | ⟨hhead, -⟩
      · exact hother u' hc hu'
      · exact hhead h
    rw [List.cons_append, squeezed_cons hstay, ih, List.cons_append]
  | case3 => rfl

/-- What is in front stays in front, whatever follows. -/
theorem squeezed_isPrefix (s t : List Char) : squeezed s <+: squeezed (s ++ t) := by
  fun_induction squeezed s with
  | case1 s ih => simpa using ih
  | case2 c s hother ih =>
    -- The marker may be cut in two by the end of the first text.
    by_cases hcut : ∃ u, c = 'm' ∧ s ++ t = 'p' :: ':' :: ' ' :: u
    · obtain ⟨u, rfl, hu⟩ := hcut
      rcases cut_of_append_eq hu with ⟨u', hu'⟩ | ⟨-, hkeep, hshort⟩
      · exact absurd hu' fun h => hother u' rfl h
      · rw [← squeezed_cons hother, hkeep, List.cons_append, hu, squeezed]
        exact (List.prefix_cons_inj _).2 (hshort.trans (by simp))
    · have hstay : ∀ u, c = 'm' → s ++ t = 'p' :: ':' :: ' ' :: u → False := fun u hc hu => hcut ⟨u, hc, hu⟩
      rw [List.cons_append, squeezed_cons hstay]
      exact (List.prefix_cons_inj _).2 ih
  | case3 => exact List.nil_prefix

/-- A beginning of a squeezed text is a beginning of the text, squeezed. -/
theorem exists_prefix_of_squeezed {w s : List Char} (h : w <+: squeezed s) :
    ∃ piece, piece <+: s ∧ squeezed piece = w := by
  fun_induction squeezed s generalizing w with
  | case1 s ih =>
    -- A beginning that ends inside of the marker ends in front of the space.
    rcases w with _ | ⟨a, _ | ⟨b, _ | ⟨c, w⟩⟩⟩ <;>
      simp only [List.nil_prefix, List.cons_prefix_cons] at h
    · exact ⟨[], List.nil_prefix, rfl⟩
    · obtain ⟨rfl, -⟩ := h
      exact ⟨['m'], by simp, rfl⟩
    · obtain ⟨rfl, rfl, -⟩ := h
      exact ⟨['m', 'p'], by simp, rfl⟩
    · obtain ⟨rfl, rfl, rfl, hw⟩ := h
      obtain ⟨piece, hpiece, rfl⟩ := ih hw
      exact ⟨'m' :: 'p' :: ':' :: ' ' :: piece, by simpa using hpiece, rfl⟩
  | case2 c s hother ih =>
    cases w with
    | nil => exact ⟨[], List.nil_prefix, rfl⟩
    | cons d w =>
      obtain ⟨rfl, hw⟩ := List.cons_prefix_cons.1 h
      obtain ⟨piece, hpiece, rfl⟩ := ih hw
      -- Behind a character that is copied no marker is closed up, as the beginning has none there either.
      have hstay : ∀ u, d = 'm' → piece = 'p' :: ':' :: ' ' :: u → False := by
        rintro u hd rfl
        obtain ⟨v, rfl⟩ := hpiece
        exact hother (u ++ v) hd rfl
      exact ⟨d :: piece, (List.prefix_cons_inj _).2 hpiece, squeezed_cons hstay⟩
  | case3 => exact ⟨[], List.nil_prefix, (List.prefix_nil.1 h).symm⟩

/-- What starts as a marker does occurs in a squeezed text where a piece of the text is so when it is squeezed. -/
theorem infix_squeezed_iff {w s : List Char} (hw : w.head? = some 'm') :
    w <:+: squeezed s ↔ ∃ piece, piece <:+: s ∧ squeezed piece = w := by
  constructor
  · intro h
    have hskip {c : Char} {t : List Char} (hc : c ≠ 'm') (h : w <:+: c :: t) : w <:+: t := by
      rcases List.infix_cons_iff.1 h with hfirst | hrest
      · cases w with
        | nil => cases hw
        | cons d w =>
          obtain ⟨rfl, -⟩ := List.cons_prefix_cons.1 hfirst
          exact absurd (Option.some.inj hw) hc
      · exact hrest
    fun_induction squeezed s with
    | case1 s ih =>
      rcases List.infix_cons_iff.1 h with hfirst | hrest
      · obtain ⟨piece, hpiece, hsame⟩ :=
          exists_prefix_of_squeezed (s := 'm' :: 'p' :: ':' :: ' ' :: s) hfirst
        exact ⟨piece, hpiece.isInfix, hsame⟩
      -- Only the first character of a marker is one that the piece can start with.
      · obtain ⟨piece, hpiece, hsame⟩ := ih (hskip (by decide) (hskip (by decide) hrest))
        exact ⟨piece, hpiece.trans (List.suffix_append ['m', 'p', ':', ' '] s).isInfix, hsame⟩
    | case2 c s hother ih =>
      rcases List.infix_cons_iff.1 h with hfirst | hrest
      · rw [← squeezed_cons hother] at hfirst
        obtain ⟨piece, hpiece, hsame⟩ := exists_prefix_of_squeezed hfirst
        exact ⟨piece, hpiece.isInfix, hsame⟩
      · obtain ⟨piece, hpiece, hsame⟩ := ih hrest
        exact ⟨piece, hpiece.trans (List.suffix_cons c s).isInfix, hsame⟩
    | case3 =>
      rw [List.infix_nil.1 h] at hw
      cases hw
  · rintro ⟨piece, ⟨front, behind, rfl⟩, rfl⟩
    -- The piece is squeezed for itself: it starts with 'm', so that no marker reaches into it from the front.
    have hhead : (piece ++ behind).head? = some 'm' := by
      rw [head?_squeezed] at hw
      rw [List.head?_append, hw]
      rfl
    rw [List.append_assoc, squeezed_append hhead]
    exact (squeezed_isPrefix piece behind).isInfix.trans (List.suffix_append _ _).isInfix

/-- Without a blank behind a marker, nothing is taken out. -/
theorem squeezed_of_notInfix {s : List Char} (h : ¬ "mp: ".toList <:+: s) : squeezed s = s := by
  fun_induction squeezed s with
  | case1 s ih => exact absurd (List.prefix_append "mp: ".toList s).isInfix h
  | case2 c s hother ih => rw [ih fun hs => h (hs.trans (List.suffix_cons c s).isInfix)]
  | case3 => rfl

/-! ### Mentions -/

/-- What is looked for in lower case: the marker and the name, without blanks at its end. -/
def wanted (name : String) : List Char := lowerChars (Chars.trim ("mp:".toList ++ name.toList))

/-- A piece of the line is, in lower case, what is looked for, or is so without the space behind each marker. -/
def Mentions (name : String) (line : List Char) : Prop :=
  ∃ piece, piece <:+: lowerChars line ∧ (piece = wanted name ∨ squeezed piece = wanted name)

/-- A marker with a name behind it has no blanks in front. -/
theorem trim_marker_append (name : List Char) :
    Chars.trim ("mp:".toList ++ name) = "mp:".toList ++ Chars.trimEnd name := by
  have hstart : Chars.trimStart ("mp:".toList ++ name) = "mp:".toList ++ name :=
    Chars.trimStart_of_head fun c hc => by
      obtain rfl : c = 'm' := (Option.some.inj hc).symm
      decide
  rw [Chars.trim, hstart]
  exact Chars.dropEndWhile_append_of_last (c := ':') rfl (by decide) name

/-- What is looked for starts with the marker. -/
theorem head?_wanted (name : String) : (wanted name).head? = some 'm' := by
  rw [wanted, trim_marker_append]
  rfl

/-- A line mentions a name as its definition says: behind a marker, blanks and case aside. -/
theorem lineMentions_iff {name : String} {line : List Char} :
    lineMentions (wanted name) line = true ↔ Mentions name line := by
  rw [lineMentions, Bool.or_eq_true, Chars.contains_iff, Chars.contains_iff, replace_eq_squeezed,
    infix_squeezed_iff (head?_wanted name), Mentions]
  constructor
  · rintro (hplain | ⟨piece, hpiece, hsame⟩)
    · exact ⟨_, hplain, .inl rfl⟩
    · exact ⟨piece, hpiece, .inr hsame⟩
  · rintro ⟨piece, hpiece, rfl | hsame⟩
    · exact .inl hpiece
    · exact .inr ⟨piece, hpiece, hsame⟩

/-- Whether a line mentions a name can be computed. -/
instance (name : String) (line : List Char) : Decidable (Mentions name line) :=
  decidable_of_iff _ lineMentions_iff

/-- The line has the marker, no more than one space, and the name in it, in any case. What is behind the name may be
    a brace or not. Two spellings of a name are told apart: a capital sigma, whose lower case depends on what stands
    around it, and a marker with a space in the name itself. -/
def Starts (name : String) (line : List Char) : Prop :=
  ∃ front marker gap written rest, line = front ++ marker ++ gap ++ written ++ rest ∧
    SameLetters marker "mp:".toList ∧
    (gap = [] ∨ gap = [' '] ∧ ¬ "mp: ".toList <:+: lowerChars written) ∧
    lowerChars written = lowerChars (Chars.trimEnd name.toList) ∧
    'Σ' ∉ written ∧ 'Σ' ∉ Chars.trimEnd name.toList

/-- A line in which a marker stands in front of the name, or of a longer one, mentions the name. -/
theorem Starts.mentions {name : String} {line : List Char} (h : Starts name line) : Mentions name line := by
  obtain ⟨front, marker, gap, written, rest, rfl, hmarker, hgap, hwritten, hplain, hname⟩ := h
  have hgap' : 'Σ' ∉ gap ∧ gap.flatMap Text.lowerChar = gap := by
    -- Neither the gap nor the marker changes its case, apart from its own letters.
    rcases hgap with rfl | ⟨rfl, -⟩ <;> decide
  -- Without a sigma each letter is put into lower case by itself.
  have hnone : 'Σ' ∉ marker ++ gap ++ written := by
    have hmark : 'Σ' ∉ marker := fun h => absurd ((hmarker.mem_iff (by decide)).1 h) (by decide)
    simp only [List.mem_append, not_or]
    exact ⟨⟨hmark, hgap'.1⟩, hplain⟩
  have hlower : lowerChars (marker ++ gap ++ written) = "mp:".toList ++ gap ++ lowerChars written := by
    rw [Text.lowerChars_of_notMem hnone, List.flatMap_append, List.flatMap_append, hgap'.2,
      hmarker.flatMap_lowerChar, Text.lowerChars_of_notMem hplain]
    rfl
  have hwanted : wanted name = "mp:".toList ++ lowerChars written := by
    have hnone : 'Σ' ∉ "mp:".toList ++ Chars.trimEnd name.toList := by
      rw [List.mem_append, not_or]
      exact ⟨by decide, hname⟩
    rw [wanted, trim_marker_append, Text.lowerChars_of_notMem hnone, List.flatMap_append,
      ← Text.lowerChars_of_notMem hname, ← hwritten]
    rfl
  refine ⟨"mp:".toList ++ gap ++ lowerChars written, ?_, ?_⟩
  · rw [← hlower, List.append_assoc (front ++ marker), List.append_assoc front, ← List.append_assoc marker]
    exact Text.lowerChars_isInfix hnone front rest
  -- A blank behind the marker is closed up.
  · rcases hgap with rfl | ⟨rfl, hspaced⟩
    · exact .inl hwanted.symm
    · refine .inr ?_
      rw [hwanted]
      exact congrArg ("mp:".toList ++ ·) (squeezed_of_notInfix hspaced)

/-! ### The line of an error -/

/-- The error is about the token: there is none of that name, or the code in its value has failed. -/
def IsOfToken (name : String) (e : Error) : Prop :=
  e = .unknownToken name ∨ ∃ origin reason, e = .codeExecution origin reason (some name)

/-- The line that an error gets is the first one that mentions its name. -/
theorem line?_attributedTo {name : String} {e : Error} (h : e.IsOfToken name) (document text : String) :
    (e.attributedTo document text).line? =
      ((Chars.lines text.toList).findIdx? (lineMentions (wanted name))).map (· + 1) := by
  have hsome : (wanted name).isEmpty = false := by
    rw [List.isEmpty_eq_false_iff]
    -- What is looked for has the marker in it.
    intro hnil
    have hhead := head?_wanted name
    rw [hnil] at hhead
    cases hhead
  have hline : lineMentioning? text ("mp:" ++ name) =
      ((Chars.lines text.toList).findIdx? (lineMentions (wanted name))).map (· + 1) := by
    rw [lineMentioning?, String.toList_append, ← wanted, hsome]
    rfl
  -- Both kinds of errors look for the name in the same way.
  rcases h with rfl | ⟨origin, reason, rfl⟩ <;> exact hline

/-- The first item that satisfies a property, with the items in front of it. -/
theorem findIdx?_eq_some_iff_append {α : Type} {p : α → Bool} {xs : List α} {i : Nat} :
    xs.findIdx? p = some i ↔
      ∃ before x after, xs = before ++ x :: after ∧ before.length = i ∧ p x = true ∧
        ∀ y ∈ before, p y = false := by
  constructor
  · intro h
    obtain ⟨hi, hp, hbefore⟩ := List.findIdx?_eq_some_iff_getElem.1 h
    -- The list is cut in front of the first element that was found.
    refine ⟨xs.take i, xs[i], xs.drop (i + 1), ?_, ?_, hp, ?_⟩
    · rw [← List.drop_eq_getElem_cons hi, List.take_append_drop]
    · exact List.length_take_of_le hi.le
    · intro y hy
      obtain ⟨j, hj, rfl⟩ := List.mem_take_iff_getElem.1 hy
      exact Bool.eq_false_iff.2 (hbefore j (by omega))
  · rintro ⟨before, x, after, rfl, rfl, hp, hbefore⟩
    rw [List.findIdx?_append, List.findIdx?_eq_none_iff.2 hbefore, List.findIdx?_cons, hp]
    simp

/-- An error about a token is attributed to the first line that mentions it, and such a line is one that has the
    marker, no more than one space and the name in it. -/
theorem line?_of_token (document : String) {text name : String} {e : Error} (he : e.IsOfToken name) :
    (∀ n, (e.attributedTo document text).line? = some n ↔
      ∃ before line after, Chars.lines text.toList = before ++ line :: after ∧ n = before.length + 1 ∧
        Mentions name line ∧ ∀ earlier ∈ before, ¬ Mentions name earlier) ∧
    ∀ before line after, Chars.lines text.toList = before ++ line :: after → Starts name line →
      (∀ earlier ∈ before, ¬ Mentions name earlier) →
      (e.attributedTo document text).line? = some (before.length + 1) := by
  -- The line is the first one that mentions the name.
  have hline : ∀ n, (e.attributedTo document text).line? = some n ↔
      ∃ before line after, Chars.lines text.toList = before ++ line :: after ∧ n = before.length + 1 ∧
        Mentions name line ∧ ∀ earlier ∈ before, ¬ Mentions name earlier := by
    intro n
    simp only [line?_attributedTo he, Option.map_eq_some_iff, findIdx?_eq_some_iff_append, lineMentions_iff,
      Bool.eq_false_iff, ne_eq]
    constructor
    · rintro ⟨i, ⟨before, line, after, hlines, rfl, hmentions, hbefore⟩, rfl⟩
      exact ⟨before, line, after, hlines, rfl, hmentions, hbefore⟩
    · rintro ⟨before, line, after, hlines, rfl, hmentions, hbefore⟩
      exact ⟨_, ⟨before, line, after, hlines, rfl, hmentions, hbefore⟩, rfl⟩
  refine ⟨hline, fun before line after hlines hstarts hbefore => ?_⟩
  exact (hline _).2 ⟨before, line, after, hlines, rfl, hstarts.mentions, hbefore⟩

/-- The second line has the marker in capitals and a space behind it, and the first line has another token in it. -/
theorem line?_of_token_spaced :
    IsOfToken "title" (.unknownToken "title") ∧
      ((unknownToken "title").attributedTo "plan"
        "- \x7bmp:name\x7d.md\n- \x7bMP: Title \x7d.md\n").line? = some 2 := by
  have he : IsOfToken "title" (.unknownToken "title") := .inl rfl
  refine ⟨he, (line?_of_token "plan" he).2 ["- \x7bmp:name\x7d.md".toList] "- \x7bMP: Title \x7d.md".toList []
    (by decide) ?_ ?_⟩
  · exact ⟨"- \x7b".toList, "MP:".toList, " ".toList, "Title".toList, " \x7d.md".toList, by decide⟩
  · decide +kernel

/-- The first line has a placeholder for another token only, whose name is longer, and is taken for a mention. A line
    with the placeholder of the token in it is not found if there are two blanks behind the marker. -/
theorem line?_of_longer_name :
    Chars.lines "- \x7bmp:titles\x7d.md\n- \x7bmp:title\x7d.md\n".toList =
        ["- \x7bmp:titles\x7d.md".toList, "- \x7bmp:title\x7d.md".toList] ∧
      ¬ Names "title" "- \x7bmp:titles\x7d.md".toList ∧ Names "title" "- \x7bmp:title\x7d.md".toList ∧
      ((unknownToken "title").attributedTo "plan"
        "- \x7bmp:titles\x7d.md\n- \x7bmp:title\x7d.md\n").line? = some 1 ∧
      Names "title" "- \x7bmp:  title\x7d.md".toList ∧
      ((unknownToken "title").attributedTo "plan" "- \x7bmp:  title\x7d.md").line? = none := by
  decide +kernel

end Error

end Scaffold
