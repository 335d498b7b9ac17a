import Scaffold.Proofs.Placeholder.Braces
import Scaffold.Proofs.Text.Letters
import Mathlib.Data.List.TakeWhile

namespace Scaffold.Placeholder

/-!
# Where placeholders stand

What a placeholder is, and which of the placeholders of a text count, is told here without reading the text from
left to right: an opener in any case of its letters, a body, and the brace behind it. A placeholder counts unless it
lies inside one that does.

* `Form.IsOpener`, `Form.IsBody` — what a placeholder of a form consists of;
* `Form.afterOpener?_eq_some_iff`, `Form.close?_eq_some_iff` — this is what is looked for in a text;
* `Form.Marks` — a text is marked: its placeholders that count, each with the text in front of it;
* `Form.exists_marks`, `Form.Marks.unique` — every text is marked in one way;
* `Form.namePieces_of_marks` — the pieces of a text for names are those of this marking;
* `Form.exists_codePieces` — those for code are, up to the first opener that is never closed.
-/

open Text (SameLetters)

/-! ### Openers and bodies -/

/-- The openers of a form, in any case of their letters; that of an expression may have blanks in front of its
    colon. -/
def Form.IsOpener : Form → List Char → Prop
  | .block, s => SameLetters s "\x7bmp.py|".toList
  | .expression, s => ∃ blanks, (∀ c ∈ blanks, Chars.isBlank c = true) ∧
      SameLetters s ("\x7bmp.py".toList ++ blanks ++ [':'])
  | .name, s => SameLetters s "\x7bmp:".toList

/-- What may stand between an opener of the form and the brace that closes it: a name, or code with balanced
    braces. -/
def Form.IsBody : Form → List Char → Prop
  | .name, s => s ≠ [] ∧ '\x7d' ∉ s
  | _, s => IsBalanced s

/-- The two spellings of a character of a marker, which is not in upper case. -/
theorem spellings_iff {w : Char} (hw : Text.isAsciiUpper w = false) (c : Char) :
    (c = w ∨ c = Char.ofNat (w.toNat - 32) ∧ 'a' ≤ w ∧ w ≤ 'z') ↔ Text.asciiLower c = w := by
  constructor
  · rintro (rfl | ⟨rfl, hlow, hhigh⟩)
    · rw [Text.asciiLower, hw, if_neg Bool.false_ne_true]
    · have hbounds : 97 ≤ w.toNat ∧ w.toNat ≤ 122 := by
        simp only [Char.le_def, UInt32.le_iff_toNat_le] at hlow hhigh
        exact ⟨hlow, hhigh⟩
      -- There are 26 small letters.
      have hsmall : ∀ n, 97 ≤ n → n ≤ 122 →
          Text.asciiLower (Char.ofNat (n - 32)) = Char.ofNat n := by
        intro n hn hn'
        interval_cases n <;> decide
      simpa using hsmall w.toNat hbounds.1 hbounds.2
  · rintro rfl
    -- The other way, the capital letters are gone through.
    have hcapitals : (Text.capitals.all fun d => decide (d = Char.ofNat ((Text.asciiLower d).toNat - 32) ∧
        'a' ≤ Text.asciiLower d ∧ Text.asciiLower d ≤ 'z')) = true := by
      decide
    by_cases hc : Text.isAsciiUpper c = true
    · exact .inr (of_decide_eq_true (List.all_eq_true.1 hcapitals c (Text.mem_capitals hc)))
    · exact .inl (if_neg hc).symm

/-- What is looked for is the marker in any case of its letters. -/
theorem afterWord?_eq_some_iff {word : List Char} (hword : word.any Text.isAsciiUpper = false)
    {s rest : List Char} :
    afterWord? word s = some rest ↔ ∃ opener, s = opener ++ rest ∧ SameLetters opener word := by
  -- The word has no capitals, so its letters stay as they are when the case is taken off.
  induction word generalizing s with
  | nil =>
    constructor
    · intro h
      exact ⟨[], Option.some.inj h, rfl⟩
    · rintro ⟨opener, rfl, hopener⟩
      obtain rfl : opener = [] := by simpa [SameLetters] using hopener
      rfl
  | cons w word ih =>
    obtain ⟨hw, hword⟩ : Text.isAsciiUpper w = false ∧ word.any Text.isAsciiUpper = false := by
      simpa [List.any_cons] using hword
    have hstay : Text.asciiLower w = w := by rw [Text.asciiLower, hw, if_neg Bool.false_ne_true]
    cases s with
    | nil =>
      constructor
      · intro h
        cases h
      · rintro ⟨opener, hs, hopener⟩
        obtain rfl : opener = [] := by simpa using (List.append_eq_nil_iff.1 hs.symm).1
        simp [SameLetters] at hopener
    | cons c s =>
      -- The test of a character says that it is the letter of the word in one of its cases.
      have htest : (c = w || c = Char.ofNat (w.toNat - 32) && 'a' ≤ w && w ≤ 'z') = true ↔
          Text.asciiLower c = w := by
        rw [← spellings_iff hw c]
        simp [and_assoc]
      rw [afterWord?]
      constructor
      · intro h
        split at h
        · rename_i hc
          obtain ⟨opener, rfl, hopener⟩ := (ih hword).1 h
          refine ⟨c :: opener, rfl, ?_⟩
          rw [SameLetters, List.map_cons, List.map_cons, htest.1 hc, hstay, hopener]
        · cases h
      · rintro ⟨opener, hs, hopener⟩
        cases opener with
        | nil => simp [SameLetters] at hopener
        | cons d opener =>
          obtain ⟨rfl, rfl⟩ := List.cons.inj hs
          rw [SameLetters, List.map_cons, List.map_cons, hstay, List.cons.injEq] at hopener
          rw [if_pos (htest.2 hopener.1)]
          exact (ih hword).2 ⟨opener, rfl, hopener.2⟩

namespace Form

/-- An opener is found if the text starts with one. -/
theorem afterOpener?_eq_some_iff {form : Form} {s rest : List Char} :
    form.afterOpener? s = some rest ↔ ∃ opener, s = opener ++ rest ∧ form.IsOpener opener := by
  cases form with
  | block => exact afterWord?_eq_some_iff (by decide)
  | name => exact afterWord?_eq_some_iff (by decide)
  | expression =>
    have hword {s rest : List Char} : afterWord? "\x7bmp.py".toList s = some rest ↔
        ∃ opener, s = opener ++ rest ∧ SameLetters opener "\x7bmp.py".toList :=
      afterWord?_eq_some_iff (by decide)
    rw [afterOpener?]
    constructor
    · intro h
      split at h
      · rename_i behind hbehind
        obtain ⟨front, rfl, hfront⟩ := hword.1 hbehind
        split at h
        · rename_i behind' hcolon
          obtain rfl := Option.some.inj h
          -- Behind the letters come the blanks and the colon, which are cut off with them.
          have hsplit : behind = behind.takeWhile Chars.isBlank ++ ':' :: behind' := by
            rw [← hcolon, List.takeWhile_append_dropWhile]
          refine ⟨front ++ behind.takeWhile Chars.isBlank ++ [':'], ?_, behind.takeWhile Chars.isBlank,
            fun c hc => List.mem_takeWhile_imp hc, ?_⟩
          · rw [List.append_assoc, List.append_assoc, List.singleton_append, ← hsplit]
          · exact (hfront.append (.refl _)).append (.refl _)
        · cases h
      · cases h
    · rintro ⟨opener, rfl, blanks, hblanks, hopener⟩
      obtain ⟨before, colon, rfl, hbefore, hcolon⟩ := SameLetters.exists_append hopener.symm
      obtain ⟨front, blanks', rfl, hfront, hblanks'⟩ := hbefore.exists_append
      -- The blanks and the colon are what they are in any spelling.
      have hall : ∀ c ∈ blanks', Chars.isBlank c = true := hblanks'.forall_isBlank hblanks
      obtain ⟨nothing, rfl, hnothing⟩ := hcolon.cons_of_mark (by decide)
      obtain rfl : nothing = [] := List.map_eq_nil_iff.1 hnothing.symm
      have hafter : afterWord? "\x7bmp.py".toList (front ++ blanks' ++ [':'] ++ rest) =
          some (blanks' ++ ':' :: rest) :=
        hword.2 ⟨front, by simp, hfront.symm⟩
      rw [hafter]
      simp only
      rw [List.dropWhile_append_of_pos hall, List.dropWhile_cons_of_neg (by decide)]
      rfl

/-- A placeholder is closed by its first brace that counts. -/
theorem close?_eq_some_iff {form : Form} {s code rest : List Char} :
    form.close? s = some (code, rest) ↔ s = code ++ '\x7d' :: rest ∧ form.IsBody code := by
  cases form with
  | block => exact splitAtBrace_eq_some_iff
  | expression => exact splitAtBrace_eq_some_iff
  | name =>
    rw [close?, splitAtNameEnd, IsBody]
    constructor
    -- The name ends at the first brace.
    · intro h
      have hsplit := List.takeWhile_append_dropWhile (p := (· != '\x7d')) (l := s)
      have hhead := List.head?_dropWhile_not (· != '\x7d') s
      split at h
      · rename_i c behind hbehind
        split at h
        · cases h
        · rename_i hne
          obtain ⟨rfl, rfl⟩ := Prod.mk.inj (Option.some.inj h)
          rw [hbehind] at hsplit hhead
          obtain rfl : c = '\x7d' := by simpa using hhead
          refine ⟨hsplit.symm, by simpa using hne, fun hmem => ?_⟩
          simpa using List.mem_takeWhile_imp hmem
      · cases h
    -- The body has no brace, so the one behind it is the first.
    · rintro ⟨rfl, hne, hbrace⟩
      have hname : ∀ c ∈ code, (c != '\x7d') = true := by
        intro c hc
        simpa using fun h : c = '\x7d' => hbrace (h ▸ hc)
      rw [List.dropWhile_append_of_pos hname, List.takeWhile_append_of_pos hname]
      simp [hne]

/-! ### Placeholders -/

/-- The text begins with an opener of the form. -/
def Opens (form : Form) (s : List Char) : Prop :=
  ∃ opener rest, s = opener ++ rest ∧ form.IsOpener opener

/-- The text begins with a placeholder of the form. -/
def Begins (form : Form) (s : List Char) : Prop :=
  ∃ opener code rest, s = opener ++ code ++ '\x7d' :: rest ∧ form.IsOpener opener ∧ form.IsBody code

/-- Whether an opener is there, by looking for it. -/
theorem opens_iff {form : Form} {s : List Char} : form.Opens s ↔ (form.afterOpener? s).isSome = true := by
  rw [Option.isSome_iff_exists, Opens, exists_comm]
  exact exists_congr fun rest => afterOpener?_eq_some_iff.symm

/-- Whether a placeholder is there, by looking for it. -/
theorem begins_iff {form : Form} {s : List Char} :
    form.Begins s ↔ ((form.afterOpener? s).bind form.close?).isSome = true := by
  simp only [Option.isSome_iff_exists, Option.bind_eq_some_iff, Prod.exists, afterOpener?_eq_some_iff,
    close?_eq_some_iff]
  constructor
  · rintro ⟨opener, code, rest, rfl, hopener, hcode⟩
    exact ⟨code, rest, _, ⟨opener, List.append_assoc .., hopener⟩, rfl, hcode⟩
  · rintro ⟨code, rest, _, ⟨opener, rfl, hopener⟩, rfl, hcode⟩
    exact ⟨opener, code, rest, (List.append_assoc ..).symm, hopener, hcode⟩

/-- Whether a text starts with an opener can be computed. -/
instance (form : Form) (s : List Char) : Decidable (form.Opens s) := decidable_of_iff' _ opens_iff

/-- Whether a text starts with a placeholder can be computed. -/
instance (form : Form) (s : List Char) : Decidable (form.Begins s) := decidable_of_iff' _ begins_iff

/-- A placeholder starts with an opener. -/
theorem Begins.opens {form : Form} {s : List Char} (h : form.Begins s) : form.Opens s := by
  obtain ⟨opener, code, rest, rfl, hopener, -⟩ := h
  exact ⟨opener, _, List.append_assoc .., hopener⟩

/-- A text begins with one placeholder at most. -/
theorem placeholder_unique {form : Form} {opener opener' code code' rest rest' : List Char}
    (h : opener ++ code ++ '\x7d' :: rest = opener' ++ code' ++ '\x7d' :: rest')
    (hopener : form.IsOpener opener) (hcode : form.IsBody code) (hopener' : form.IsOpener opener')
    (hcode' : form.IsBody code') : opener = opener' ∧ code = code' ∧ rest = rest' := by
  -- Both texts are read again: their openers and their codes are the same.
  rw [List.append_assoc, List.append_assoc] at h
  have hafter : form.afterOpener? (opener ++ (code ++ '\x7d' :: rest)) = some (code ++ '\x7d' :: rest) :=
    afterOpener?_eq_some_iff.2 ⟨opener, rfl, hopener⟩
  have hafter' : form.afterOpener? (opener' ++ (code' ++ '\x7d' :: rest')) =
      some (code' ++ '\x7d' :: rest') := afterOpener?_eq_some_iff.2 ⟨opener', rfl, hopener'⟩
  have hbody : code ++ '\x7d' :: rest = code' ++ '\x7d' :: rest' := by
    rw [h] at hafter
    exact Option.some.inj (hafter.symm.trans hafter')
  have hclose : form.close? (code ++ '\x7d' :: rest) = some (code, rest) :=
    close?_eq_some_iff.2 ⟨rfl, hcode⟩
  have hclose' : form.close? (code' ++ '\x7d' :: rest') = some (code', rest') :=
    close?_eq_some_iff.2 ⟨rfl, hcode'⟩
  rw [hbody] at hclose
  obtain ⟨rfl, rfl⟩ := Prod.mk.inj (Option.some.inj (hclose.symm.trans hclose'))
  exact ⟨List.append_cancel_right h, rfl, rfl⟩

end Form

/-! ### Places of a text -/

/-- `P` holds at no place of `s`: of no end of `s`, with `rest` behind it. -/
def Nowhere (P : List Char → Prop) : (s rest : List Char) → Prop
  | [], _ => True
  | c :: s, rest => ¬ P (c :: s ++ rest) ∧ Nowhere P s rest

section Nowhere

variable {P Q : List Char → Prop}

/-- Whether something begins nowhere can be computed. -/
instance [DecidablePred P] (s rest : List Char) : Decidable (Nowhere P s rest) := by
  induction s with
  | nil => exact .isTrue trivial
  | cons c s ih => exact inferInstanceAs (Decidable (_ ∧ _))

/-- Nowhere in a text is nowhere in both parts of it. -/
theorem nowhere_append {s t rest : List Char} :
    Nowhere P (s ++ t) rest ↔ Nowhere P s (t ++ rest) ∧ Nowhere P t rest := by
  induction s with
  | nil => simp [Nowhere]
  | cons c s ih => rw [List.cons_append, Nowhere, Nowhere, ih, List.cons_append, List.append_assoc,
      List.cons_append, and_assoc]

/-- Nowhere in one character. -/
theorem nowhere_singleton {c : Char} {rest : List Char} : Nowhere P [c] rest ↔ ¬ P (c :: rest) := by
  simp [Nowhere]

/-- Nowhere is not at the start, either. -/
theorem Nowhere.not_here {s rest : List Char} (h : Nowhere P s rest) (hs : s ≠ []) : ¬ P (s ++ rest) := by
  cases s with
  | nil => exact absurd rfl hs
  | cons c s => exact h.1

/-- What begins nowhere begins nowhere in a stronger sense. -/
theorem Nowhere.imp {s rest : List Char} (h : Nowhere P s rest) (hPQ : ∀ t, Q t → P t) :
    Nowhere Q s rest := by
  induction s with
  | nil => trivial
  | cons c s ih => exact ⟨fun hQ => h.1 (hPQ _ hQ), ih h.2⟩

/-- There is one first place where `P` holds. -/
theorem Nowhere.unique {s s' rest rest' : List Char} (h : s ++ rest = s' ++ rest')
    (hs : Nowhere P s rest) (hs' : Nowhere P s' rest') (hP : P rest) (hP' : P rest') : s = s' := by
  -- Of two different ones, the earlier one would be a place in front of the later one.
  have hfirst {a b u v : List Char} (hb : Nowhere P (a ++ b) v) (hu : P u) (huv : u = b ++ v) :
      a = a ++ b := by
    cases b with
    | nil => rw [List.append_nil]
    | cons c b => exact absurd (huv ▸ hu) (nowhere_append.1 hb).2.1
  rcases List.append_eq_append_iff.1 h with ⟨more, rfl, hrest⟩ | ⟨more, rfl, hrest⟩
  · exact hfirst hs' hP hrest
  · exact (hfirst hs hP' hrest).symm

end Nowhere

/-! ### Markings -/

/-- A placeholder that counts, as it is written, with the text in front of it. -/
structure Site where
  before : List Char
  opener : List Char
  code : List Char
  deriving DecidableEq

/-- The text in front of a placeholder and the placeholder. -/
def Site.text (x : Site) : List Char := x.before ++ x.opener ++ x.code ++ ['\x7d']

/-- The pieces of a text with these placeholders, and `last` behind them. -/
def piecesOf (sites : List Site) (last : List Char) : List Piece :=
  sites.flatMap (fun x => [.plain x.before, .hole x.code]) ++ [.plain last]

/-- The text with other texts in the place of these placeholders. -/
def filled (sites : List Site) (texts : List String) (last : List Char) : List Char :=
  ((sites.zip texts).flatMap fun (x, t) => x.before ++ t.toList) ++ last

namespace Form

/-- The placeholders of a text in front of `back`: each with the text in front of it, in which no placeholder
    begins, and the text behind them up to `back`, in which none begins either. -/
inductive Marks (form : Form) (back : List Char) : (text : List Char) → List Site → (last : List Char) → Prop
  | last {last : List Char} (h : Nowhere form.Begins last back) : Marks form back (last ++ back) [] last
  | site {x : Site} {rest : List Char} {sites : List Site} {last : List Char}
    (hopener : form.IsOpener x.opener) (hcode : form.IsBody x.code)
    (hbefore : Nowhere form.Begins x.before (x.opener ++ x.code ++ '\x7d' :: rest))
    (h : Marks form back rest sites last) : Marks form back (x.text ++ rest) (x :: sites) last

namespace Marks

variable {form : Form} {back text last : List Char} {sites : List Site}

/-- A marked text is its sites and the rest. -/
theorem text_eq (h : form.Marks back text sites last) :
    text = sites.flatMap Site.text ++ last ++ back := by
  induction h with
  | last h => simp
  | site hopener hcode hbefore h ih => rw [ih]; simp

/-- A text in which no placeholder begins. -/
theorem of_nowhere (h : Nowhere form.Begins text []) : form.Marks [] text [] text := by
  simpa using Marks.last h

/-- No placeholder begins behind the last site. -/
theorem nowhere_last (h : form.Marks back text sites last) : Nowhere form.Begins last back := by
  induction h with
  | last h => exact h
  | site hopener hcode hbefore h ih => exact ih

/-- If no placeholder begins in what was left out, the whole text is marked. -/
theorem whole (h : form.Marks back text sites last) (hback : Nowhere form.Begins back []) :
    form.Marks [] text sites (last ++ back) := by
  induction h with
  | @last last h =>
    have hall : Nowhere form.Begins (last ++ back) [] := by
      rw [nowhere_append, List.append_nil]
      exact ⟨h, hback⟩
    exact of_nowhere hall
  | site hopener hcode hbefore h ih => exact .site hopener hcode hbefore ih

/-- The first placeholder of a text is the first one of its marking. -/
theorem exists_rest {x : Site} {rest : List Char} (hopener : form.IsOpener x.opener)
    (hcode : form.IsBody x.code)
    (hbefore : Nowhere form.Begins x.before (x.opener ++ x.code ++ '\x7d' :: rest))
    (h : form.Marks [] (x.text ++ rest) sites last) :
    ∃ more, sites = x :: more ∧ form.Marks [] rest more last := by
  have hbegins : form.Begins (x.opener ++ x.code ++ '\x7d' :: rest) := ⟨_, _, _, rfl, hopener, hcode⟩
  have htext : x.text ++ rest = x.before ++ (x.opener ++ x.code ++ '\x7d' :: rest) := by
    simp [Site.text]
  rw [htext] at h
  generalize hwhole : x.before ++ (x.opener ++ x.code ++ '\x7d' :: rest) = whole at h
  -- The text is marked as a whole, so a placeholder that begins in it is one of the sites.
  cases h with
  | last hnone =>
    rw [List.append_nil] at hwhole
    rw [← hwhole, nowhere_append] at hnone
    have hnot := hnone.2.not_here (by simp)
    rw [List.append_nil] at hnot
    exact absurd hbegins hnot
  | @site y rest' more last hopener' hcode' hbefore' h' =>
    have hbegins' : form.Begins (y.opener ++ y.code ++ '\x7d' :: rest') :=
      ⟨_, _, _, rfl, hopener', hcode'⟩
    have hsame : x.before ++ (x.opener ++ x.code ++ '\x7d' :: rest) =
        y.before ++ (y.opener ++ y.code ++ '\x7d' :: rest') := by
      rw [hwhole]
      simp [Site.text]
    -- Both stand at the first place where a placeholder begins.
    have hfront : x.before = y.before := hbefore.unique hsame hbefore' hbegins hbegins'
    rw [hfront] at hsame
    obtain ⟨ho, hc, rfl⟩ :=
      placeholder_unique (List.append_cancel_left hsame) hopener hcode hopener' hcode'
    obtain rfl : x = y := by
      cases x
      cases y
      simp_all
    exact ⟨more, rfl, h'⟩

/-- The placeholders in front of `back` are the first ones of the text. -/
theorem isPrefix (h : form.Marks back text sites last) {all : List Site} {final : List Char}
    (hall : form.Marks [] text all final) : sites <+: all := by
  induction h generalizing all with
  | last h => exact List.nil_prefix
  | site hopener hcode hbefore h ih =>
    obtain ⟨more, rfl, hmore⟩ := hall.exists_rest hopener hcode hbefore
    exact (List.prefix_cons_inj _).2 (ih hmore)

/-- **One marking.** A text is marked in one way. -/
theorem unique (h : form.Marks [] text sites last) {sites' : List Site} {last' : List Char}
    (h' : form.Marks [] text sites' last') : sites' = sites ∧ last' = last := by
  have hsites : sites' = sites := by
    have hle := h.isPrefix h'
    have hge := h'.isPrefix h
    exact hge.eq_of_length (Nat.le_antisymm hge.length_le hle.length_le)
  refine ⟨hsites, ?_⟩
  have htext := h.text_eq
  rw [h'.text_eq, hsites, List.append_nil, List.append_nil] at htext
  exact List.append_cancel_left htext

end Marks

/-- Every text is marked. -/
theorem exists_marks (form : Form) (text : List Char) :
    ∃ sites last, form.Marks [] text sites last := by
  -- The induction is on what is left of the text, behind a front in which no placeholder begins.
  suffices hfront : ∀ n front rest, rest.length ≤ n → Nowhere form.Begins front rest →
      ∃ sites last, form.Marks [] (front ++ rest) sites last by
    simpa using hfront text.length [] text (Nat.le_refl _) trivial
  intro n
  induction n with
  | zero =>
    intro front rest hlength hnone
    obtain rfl : rest = [] := List.length_eq_zero_iff.1 (Nat.le_zero.1 hlength)
    exact ⟨[], front, .last hnone⟩
  | succ n ih =>
    intro front rest hlength hnone
    cases rest with
    | nil => exact ⟨[], front, .last hnone⟩
    | cons c rest =>
      -- A placeholder ends the front and starts a new one; any other character is added to it.
      by_cases hbegins : form.Begins (c :: rest)
      · obtain ⟨opener, code, behind, hrest, hopener, hcode⟩ := hbegins
        rw [hrest] at hlength hnone ⊢
        have hshort : behind.length ≤ n := by
          simp only [List.length_append, List.length_cons] at hlength
          omega
        obtain ⟨sites, last, h⟩ := ih [] behind hshort trivial
        refine ⟨⟨front, opener, code⟩ :: sites, last, ?_⟩
        have htext : front ++ (opener ++ code ++ '\x7d' :: behind) =
            (⟨front, opener, code⟩ : Site).text ++ behind := by simp [Site.text]
        rw [htext]
        exact .site hopener hcode hnone h
      · have hnone' : Nowhere form.Begins (front ++ [c]) rest :=
          nowhere_append.2 ⟨hnone, nowhere_singleton.2 hbegins⟩
        have hshort : rest.length ≤ n := Nat.le_of_succ_le_succ hlength
        simpa using ih (front ++ [c]) rest hshort hnone'

/-! ### Pieces for names -/

/-- A character at which no placeholder begins is plain. -/
theorem namePieces_skip (plain : List Char) {c : Char} {s : List Char} (h : ¬ Form.name.Begins (c :: s)) :
    namePieces plain (c :: s) = namePieces (c :: plain) s := by
  rw [namePieces]
  split
  · rfl
  · rename_i body hbody
    split
    · rfl
    · rename_i name rest hclose
      -- A body whose brace is found would make a placeholder begin here.
      refine absurd (begins_iff.2 ?_) h
      rw [hbody, Option.bind_some, close?, hclose]
      rfl

/-- A placeholder ends a plain piece. -/
theorem namePieces_hole (plain : List Char) {opener name rest : List Char}
    (hopener : Form.name.IsOpener opener) (hname : Form.name.IsBody name) :
    namePieces plain (opener ++ name ++ '\x7d' :: rest) =
      .plain plain.reverse :: .hole name :: namePieces [] rest := by
  have hafter : Form.name.afterOpener? (opener ++ name ++ '\x7d' :: rest) = some (name ++ '\x7d' :: rest) :=
    afterOpener?_eq_some_iff.2 ⟨opener, List.append_assoc .., hopener⟩
  have hclose : splitAtNameEnd (name ++ '\x7d' :: rest) = some (name, rest) :=
    close?_eq_some_iff.2 ⟨rfl, hname⟩
  -- The text is taken as a whole, since the reader looks at its first character.
  generalize opener ++ name ++ '\x7d' :: rest = s at hafter
  cases s with
  | nil => cases hafter
  | cons c s =>
    rw [namePieces]
    split
    · rename_i hnone
      rw [hafter] at hnone
      cases hnone
    · rename_i body hbody
      obtain rfl : body = name ++ '\x7d' :: rest := Option.some.inj (hbody.symm.trans hafter)
      split
      · rename_i hnone
        rw [hclose] at hnone
        cases hnone
      · rename_i name' rest' hclose'
        obtain ⟨rfl, rfl⟩ := Prod.mk.inj (Option.some.inj (hclose'.symm.trans hclose))
        rfl

/-- A text in which no placeholder begins is plain. -/
theorem namePieces_append (plain : List Char) {front rest : List Char}
    (h : Nowhere Form.name.Begins front rest) :
    namePieces plain (front ++ rest) = namePieces (front.reverse ++ plain) rest := by
  induction front generalizing plain with
  | nil => rfl
  | cons c front ih =>
    have hskip : namePieces plain (c :: (front ++ rest)) = namePieces (c :: plain) (front ++ rest) :=
      namePieces_skip plain h.1
    rw [List.cons_append, hskip, ih (c :: plain) h.2, List.reverse_cons, List.append_assoc,
      List.singleton_append]

/-- The pieces of a text for names are those of its marking. -/
theorem namePieces_of_marks {text last : List Char} {sites : List Site}
    (h : Form.name.Marks [] text sites last) : Form.name.pieces text = piecesOf sites last := by
  show namePieces [] text = _
  -- The pieces are read off site by site, as the marking lists them.
  induction h with
  | last h =>
    rw [namePieces_append [] h]
    simp [namePieces, piecesOf]
  | @site x rest sites last hopener hcode hbefore h ih =>
    have htext : x.text ++ rest = x.before ++ (x.opener ++ x.code ++ '\x7d' :: rest) := by
      simp [Site.text]
    rw [htext, namePieces_append [] hbefore, namePieces_hole _ hopener hcode, ih]
    simp [piecesOf]

/-! ### Pieces for code -/

/-- No opener is found if there is none. -/
theorem findOpener?_eq_none_iff {form : Form} {s : List Char} :
    form.findOpener? s = none ↔ Nowhere form.Opens s [] := by
  induction s with
  | nil => simp [findOpener?, Nowhere]
  | cons c s ih =>
    rw [findOpener?, Nowhere, opens_iff, List.append_nil, ← ih]
    cases form.afterOpener? (c :: s) <;> simp

/-- The opener that is found is the first one. -/
theorem exists_opener_of_findOpener? {form : Form} {s before rest : List Char}
    (h : form.findOpener? s = some (before, rest)) :
    ∃ opener, s = before ++ (opener ++ rest) ∧ form.IsOpener opener ∧
      Nowhere form.Opens before (opener ++ rest) := by
  -- Where no opener starts, the text in front gets one character longer and the search goes on.
  induction s generalizing before with
  | nil => cases h
  | cons c s ih =>
    rw [findOpener?] at h
    split at h
    · rename_i rest' hafter
      obtain ⟨rfl, rfl⟩ := Prod.mk.inj (Option.some.inj h)
      obtain ⟨opener, hs, hopener⟩ := afterOpener?_eq_some_iff.1 hafter
      exact ⟨opener, hs, hopener, trivial⟩
    · rename_i hnone
      obtain ⟨⟨before', rest'⟩, hfind, heq⟩ := Option.map_eq_some_iff.1 h
      obtain ⟨rfl, rfl⟩ := Prod.mk.inj heq
      obtain ⟨opener, rfl, hopener, hbefore⟩ := ih hfind
      refine ⟨opener, rfl, hopener, ?_, hbefore⟩
      rw [opens_iff, List.cons_append, hnone]
      exact Bool.false_ne_true

/-- Without an opener the text is one piece. -/
theorem codePieces_of_nowhere {form : Form} {text : List Char} (h : Nowhere form.Opens text []) :
    codePieces form text = [.plain text] := by
  rw [codePieces]
  split
  · rfl
  · rename_i hfind
    rw [findOpener?_eq_none_iff.2 h] at hfind
    cases hfind

/-- **Pieces for code.** They are the pieces of a marked text in front of the first opener outside of them that
    is never closed. What is behind it belongs to the last piece. -/
theorem exists_codePieces (form : Form) (text : List Char) :
    ∃ sites last back, form.Marks back text sites last ∧
      (back = [] ∨ form.Opens back ∧ ¬ form.Begins back) ∧
      codePieces form text = piecesOf sites (last ++ back) := by
  fun_induction codePieces form text with
  -- The cases follow the reader: no opener, an opener that is not closed, a placeholder.
  | case1 text hfind =>
    have hnone : Nowhere form.Begins text [] :=
      (findOpener?_eq_none_iff.1 hfind).imp fun _ => Begins.opens
    exact ⟨[], text, [], .of_nowhere hnone, .inl rfl, by simp [piecesOf]⟩
  | case2 text before body hfind hclose =>
    obtain ⟨opener, rfl, hopener, hbefore⟩ := exists_opener_of_findOpener? hfind
    refine ⟨[], before, opener ++ body, .last (hbefore.imp fun _ => Begins.opens), .inr ⟨?_, ?_⟩, ?_⟩
    · exact ⟨opener, body, rfl, hopener⟩
    -- What is behind the opener has no end, so the opener starts no placeholder.
    · have hafter : form.afterOpener? (opener ++ body) = some body :=
        afterOpener?_eq_some_iff.2 ⟨opener, rfl, hopener⟩
      rw [begins_iff, hafter, Option.bind_some, hclose]
      exact Bool.false_ne_true
    · simp [piecesOf]
  | case3 text before body hfind code rest hclose ih =>
    obtain ⟨opener, rfl, hopener, hbefore⟩ := exists_opener_of_findOpener? hfind
    obtain ⟨rfl, hcode⟩ := close?_eq_some_iff.1 hclose
    obtain ⟨sites, last, back, h, hback, hpieces⟩ := ih
    have htext : before ++ (opener ++ (code ++ '\x7d' :: rest)) =
        (⟨before, opener, code⟩ : Site).text ++ rest := by simp [Site.text]
    -- In front of the first opener nothing starts a placeholder.
    have hbefore' : Nowhere form.Begins before (opener ++ code ++ '\x7d' :: rest) := by
      rw [List.append_assoc]
      exact hbefore.imp fun _ => Begins.opens
    refine ⟨⟨before, opener, code⟩ :: sites, last, back, ?_, hback, ?_⟩
    · rw [htext]
      exact .site hopener hcode hbefore' h
    · rw [hpieces]
      simp [piecesOf]

end Form

end Scaffold.Placeholder
