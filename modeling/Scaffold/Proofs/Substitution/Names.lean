import Scaffold.Proofs.Substitution.Sites

namespace Scaffold

/-!
# Names of tokens in a text

A text with nothing to run in it is filled by the pass for names alone. Each name that stands in it is replaced by
the value of its token, and the values are copied as they are. If a name has no value, the first such name is what
filling fails with.

The case of the letters in a placeholder does not matter, neither for where the placeholders stand nor for what
they stand for. It shows in one place only: an unknown name is reported as it is written.

* `Placeholder.Site.Recases` — a placeholder written with other letters in upper case;
* `Placeholder.Form.Marks.recased` — the marking of a text that differs in its placeholders only;
* `Filler.mapM_hole_values`, `Filler.mapM_hole_unknown` — names with values, and the first one without;
* `Filler.fill_of_nowhere` — a text without code is filled by the pass for names;
* `Filler.fill_names` — filling a text with names only.
-/

open Text (SameLetters)

namespace Placeholder

/-! ### The case of letters -/

/-- An opener with other letters in place of capitals or small ones. -/
theorem Form.IsOpener.congr {form : Form} {s t : List Char} (hs : form.IsOpener s) (h : SameLetters s t) :
    form.IsOpener t := by
  cases form with
  | block => exact h.symm.trans hs
  | name => exact h.symm.trans hs
  | expression =>
    obtain ⟨blanks, hblanks, hs⟩ := hs
    exact ⟨blanks, hblanks, h.symm.trans hs⟩

/-- A name with other letters in place of capitals or small ones. -/
theorem isBody_name_congr {s t : List Char} (hs : Form.name.IsBody s) (h : SameLetters s t) :
    Form.name.IsBody t := by
  refine ⟨?_, ?_⟩
  · rintro rfl
    exact hs.1 (List.map_eq_nil_iff.1 h)
  · rw [← h.mem_iff (by decide)]
    exact hs.2

/-- A text with the same letters starts with an opener, too. -/
theorem Form.Opens.congr {form : Form} {s t : List Char} (hs : form.Opens s) (h : SameLetters s t) :
    form.Opens t := by
  obtain ⟨opener, rest, rfl, hopener⟩ := hs
  obtain ⟨opener', rest', rfl, hopener', -⟩ := h.exists_append
  exact ⟨opener', rest', rfl, hopener.congr hopener'⟩

/-- A text with the same letters starts with a placeholder for a name, too. -/
theorem begins_name_congr {s t : List Char} (hs : Form.name.Begins s) (h : SameLetters s t) :
    Form.name.Begins t := by
  obtain ⟨opener, code, rest, rfl, hopener, hcode⟩ := hs
  obtain ⟨front, behind, rfl, hfront, hbehind⟩ := h.exists_append
  obtain ⟨opener', code', rfl, hopener', hcode'⟩ := hfront.exists_append
  obtain ⟨rest', rfl, -⟩ := hbehind.cons_of_mark (by decide)
  exact ⟨opener', code', rest', rfl, hopener.congr hopener', isBody_name_congr hcode hcode'⟩

/-- What does not see the case of letters is nowhere in the one text if it is nowhere in the other one. -/
theorem Nowhere.congr {P : List Char → Prop} (hP : ∀ {s t}, P s → SameLetters s t → P t)
    {s s' rest rest' : List Char} (h : Nowhere P s rest) (hs : SameLetters s s')
    (hrest : SameLetters rest rest') : Nowhere P s' rest' := by
  -- Both texts have equally many characters, and at each of them `P` is asked about the same letters.
  induction s generalizing s' with
  | nil =>
    obtain rfl : s' = [] := List.map_eq_nil_iff.1 hs.symm
    trivial
  | cons c s ih =>
    cases s' with
    | nil => simp [SameLetters] at hs
    | cons c' s' =>
      refine ⟨fun hP' => h.1 (hP hP' ?_), ih h.2 (List.cons.inj hs).2⟩
      exact (hs.append hrest).symm

/-! ### Placeholders in another case -/

/-- The name in a placeholder, without the blanks around it. -/
def Site.name (x : Site) : String := .ofList (Chars.trim x.code)

/-- The placeholder is written with other letters in upper case. The text in front of it is the same. -/
structure Site.Recases (x y : Site) : Prop where
  before_eq : y.before = x.before
  opener : SameLetters x.opener y.opener
  code : SameLetters x.code y.code

/-- A site has the same letters in both texts. -/
theorem Site.Recases.text {x y : Site} (h : x.Recases y) : SameLetters x.text y.text := by
  rw [Site.text, Site.text, h.before_eq]
  exact (((SameLetters.refl _).append h.opener).append h.code).append (.refl _)

/-- Of a name in another case the token is the same. -/
theorem Site.Recases.value?_eq {x y : Site} (h : x.Recases y) (ctx : Context) :
    ctx.value? y.name = ctx.value? x.name := by
  refine ctx.value?_congr ?_
  rw [Site.name, Site.name, String.toList_ofList, String.toList_ofList]
  exact h.code.trim.symm

section Recased

variable {sites recased : List Site}

/-- The names of the sites stand for the same values. -/
theorem values_recased (h : List.Forall₂ Site.Recases sites recased) (ctx : Context) :
    recased.map (fun y => ctx.value? y.name) = sites.map fun x => ctx.value? x.name := by
  induction h with
  | nil => rfl
  | cons hx _ ih => rw [List.map_cons, List.map_cons, hx.value?_eq, ih]

/-- The texts around the sites have the same letters. -/
theorem sameLetters_recased (h : List.Forall₂ Site.Recases sites recased) (last : List Char) :
    SameLetters (sites.flatMap Site.text ++ last) (recased.flatMap Site.text ++ last) := by
  induction h with
  | nil => exact .refl _
  | cons hx _ ih =>
    rw [List.flatMap_cons, List.flatMap_cons, List.append_assoc, List.append_assoc]
    exact hx.text.append ih

/-- The same texts in the place of the placeholders give the same text. -/
theorem filled_recased (h : List.Forall₂ Site.Recases sites recased) (texts : List String)
    (last : List Char) : filled recased texts last = filled sites texts last := by
  induction h generalizing texts with
  | nil => rfl
  | cons hx _ ih =>
    cases texts with
    | nil => rfl
    | cons t texts =>
      have hrest := ih texts
      simp only [filled, List.zip_cons_cons, List.flatMap_cons, List.append_assoc] at hrest ⊢
      rw [hx.before_eq, hrest]

end Recased

/-- A text with its placeholders for names in another case has them in the same places. -/
theorem Form.Marks.recased {sites recased : List Site} {text last : List Char}
    (h : Form.name.Marks [] text sites last) (hrecased : List.Forall₂ Site.Recases sites recased) :
    Form.name.Marks [] (recased.flatMap Site.text ++ last) recased last := by
  -- The last placeholder comes first: `Nowhere` looks at what stands behind the text in front of one.
  induction h generalizing recased with
  | last hlast =>
    cases hrecased
    exact .of_nowhere hlast
  | @site x rest sites last hopener hcode hbefore h ih =>
    cases hrecased with
    | @cons _ y _ recased hx hrecased =>
      -- The rest has the same letters, whatever case they are in.
      have hrest : SameLetters rest (recased.flatMap Site.text ++ last) := by
        have hsame := sameLetters_recased hrecased last
        rwa [h.text_eq, List.append_nil]
      have hbehind : SameLetters (x.opener ++ x.code ++ '\x7d' :: rest)
          (y.opener ++ y.code ++ '\x7d' :: (recased.flatMap Site.text ++ last)) :=
        (hx.opener.append hx.code).append ((SameLetters.refl ['\x7d']).append hrest)
      -- What stands in front of the placeholder is the same, and nothing in it starts one.
      have hbefore' : Nowhere Form.name.Begins y.before
          (y.opener ++ y.code ++ '\x7d' :: (recased.flatMap Site.text ++ last)) := by
        rw [hx.before_eq]
        exact hbefore.congr begins_name_congr (.refl _) hbehind
      rw [List.flatMap_cons, List.append_assoc]
      exact .site (hopener.congr hx.opener) (isBody_name_congr hcode hx.code) hbefore' (ih hrecased)

end Placeholder

/-! ### Filling -/

open Placeholder (Form Site Nowhere filled)

variable {σ : Type} {ctx : Context} {sites : List Site} {text last : List Char}

namespace Filler

/-- A placeholder for a name without code is its value, or an unknown name. -/
theorem hole_name (f : Filler σ) (hcodes : ∀ name, ctx.code? name = none) (x : Site) :
    f.hole ctx .name x.code =
      match ctx.value? x.name with
      | some value => pure value
      | none => throw (.unknownToken x.name) := by
  rw [hole, token, hcodes]
  rfl

/-- Names with values give their values. -/
theorem mapM_hole_values (f : Filler σ) (hcodes : ∀ name, ctx.code? name = none) {values : List String}
    (h : (sites.map fun x => ctx.value? x.name) = values.map some) :
    (sites.mapM fun x => f.hole ctx .name x.code) = pure values := by
  -- The induction is on the placeholders, whose values are looked up from the left.
  induction sites generalizing values with
  | nil =>
    obtain rfl : values = [] := List.map_eq_nil_iff.1 h.symm
    rfl
  | cons x sites ih =>
    cases values with
    | nil => cases h
    | cons value values =>
      obtain ⟨hx, hrest⟩ : ctx.value? x.name = some value ∧
          (sites.map fun x => ctx.value? x.name) = values.map some := List.cons.inj h
      rw [List.mapM_cons, f.hole_name hcodes, hx, ih hrest]
      rfl

/-- The first name without a value is what filling fails with. -/
theorem mapM_hole_unknown (f : Filler σ) (hcodes : ∀ name, ctx.code? name = none) {i : Nat} {x : Site}
    (hx : sites[i]? = some x) (hnone : ctx.value? x.name = none)
    (hfront : ∀ y ∈ sites.take i, ctx.value? y.name ≠ none) :
    (sites.mapM fun x => f.hole ctx .name x.code) = throw (.unknownToken x.name) := by
  induction sites generalizing i with
  | nil => cases hx
  | cons y sites ih =>
    rw [List.mapM_cons, f.hole_name hcodes]
    -- The first one that is not defined ends the substitution.
    cases i with
    | zero =>
      obtain rfl : y = x := Option.some.inj hx
      rw [hnone]
      rfl
    | succ i =>
      obtain ⟨value, hvalue⟩ := Option.ne_none_iff_exists'.1 (hfront y List.mem_cons_self)
      have hrest := ih hx fun z hz => hfront z (List.mem_cons_of_mem _ hz)
      rw [hvalue, hrest]
      rfl

/-- A pass leaves a text of one piece as it is. -/
theorem pass_of_plain (f : Filler σ) (ctx : Context) {form : Form} (h : form.pieces text = [.plain text]) :
    f.pass ctx form text = pure text := by
  rw [pass, h]
  simp [fillHoles]

/-- If no pass finds a hole in a text, all of them together leave it as it is. -/
theorem passes_of_plain (f : Filler σ) (ctx : Context) (h : ∀ form : Form, form.pieces text = [.plain text]) :
    (passes.foldlM (fun text form => f.pass ctx form text) text) = pure text := by
  simp only [passes, List.foldlM_cons, List.foldlM_nil, fun form => f.pass_of_plain ctx (h form), pure_bind]

/-- A text without a brace is not looked into; the passes would leave it as it is. -/
theorem fill_eq (f : Filler σ) (ctx : Context) (text : String) :
    f.fill ctx text = inOneSession do
      return .ofList (← passes.foldlM (fun text form => f.pass ctx form text) text.toList) := by
  rw [fill]
  split
  · rfl
  · rename_i hbrace
    have hbrace : '\x7b' ∉ text.toList := by simpa using hbrace
    rw [f.passes_of_plain ctx (Placeholder.pieces_of_notMem hbrace), pure_bind, String.ofList_toList]
    rfl

/-- A text without code is filled by the pass for names. -/
theorem fill_of_nowhere (f : Filler σ) (ctx : Context) (hblock : Nowhere Form.block.Opens text [])
    (hexpression : Nowhere Form.expression.Opens text []) (h : Form.name.Marks [] text sites last) :
    f.fill ctx (.ofList text) = inOneSession do
      let texts ← sites.mapM fun x => f.hole ctx .name x.code
      return .ofList (filled sites texts last) := by
  -- The first two passes find nothing to fill in.
  have hfirst : f.pass ctx .block text = pure text := f.pass_of_plain ctx (Form.codePieces_of_nowhere hblock)
  have hsecond : f.pass ctx .expression text = pure text :=
    f.pass_of_plain ctx (Form.codePieces_of_nowhere hexpression)
  have hnames : f.pass ctx .name text = (do
      let texts ← sites.mapM fun x => f.hole ctx .name x.code
      return filled sites texts last) := by
    rw [pass, Form.namePieces_of_marks h, fillHoles_piecesOf]
  rw [fill_eq, String.toList_ofList]
  simp only [passes, List.foldlM_cons, List.foldlM_nil, hfirst, hsecond, hnames, pure_bind, bind_pure, bind_assoc]

/-- **Names in a text.** In a text without openers of code, and with a context without code, the placeholders for
    names are put in for by the pass for names. The text is marked in one way; and whether the letters of its
    placeholders are as they stand in it or in another case,

    * if all names have values, filling gives the text with these values in the place of the placeholders, and the
      values are not looked into;
    * if there is a first name without a value, filling fails with that name, as it is written. -/
theorem fill_names (f : Filler σ) (hcodes : ∀ name, ctx.code? name = none) (text : String)
    (hblock : Nowhere Form.block.Opens text.toList [])
    (hexpression : Nowhere Form.expression.Opens text.toList []) :
    ∃ sites last,
      (∀ sites' last', Form.name.Marks [] text.toList sites' last' ↔ sites' = sites ∧ last' = last) ∧
      ∀ recased text', List.Forall₂ Site.Recases sites recased →
        text' = String.ofList (recased.flatMap Site.text ++ last) → ∀ s,
        (∀ values, (sites.map fun x => ctx.value? x.name) = values.map some →
          (f.fill ctx text').run s = (.ok (.ofList (filled sites values last)), s)) ∧
        ∀ i x y, sites[i]? = some x → recased[i]? = some y → ctx.value? x.name = none →
          (∀ z ∈ sites.take i, ctx.value? z.name ≠ none) →
          (f.fill ctx text').run s = (.error (.unknownToken y.name), s) := by
  obtain ⟨sites, last, h⟩ := Form.name.exists_marks text.toList
  refine ⟨sites, last, fun sites' last' => ⟨fun h' => h.unique h', ?_⟩, ?_⟩
  · rintro ⟨rfl, rfl⟩
    exact h
  · rintro recased text' hrecased rfl s
    -- Nothing that filling looks at changes with the case of letters.
    have hsame : SameLetters text.toList (recased.flatMap Site.text ++ last) := by
      rw [h.text_eq, List.append_nil]
      exact Placeholder.sameLetters_recased hrecased last
    have hfill := f.fill_of_nowhere ctx (hblock.congr Form.Opens.congr hsame (.refl _))
      (hexpression.congr Form.Opens.congr hsame (.refl _)) (h.recased hrecased)
    have hvalues := Placeholder.values_recased hrecased ctx
    refine ⟨fun values hsites => ?_, fun i x y hx hy hnone hfront => ?_⟩
    -- With a value for each name, they are put in one by one.
    · rw [hfill, f.mapM_hole_values hcodes (hvalues.trans hsites), pure_bind,
        Placeholder.filled_recased hrecased]
      rfl
    -- The first name without a value stops the filling, and its place is that of the site.
    · have hnone' : ctx.value? y.name = none := by
        have hi := congrArg (·[i]?) hvalues
        simpa [hx, hy, hnone] using hi
      have hfront' : ∀ z ∈ recased.take i, ctx.value? z.name ≠ none := by
        have hi := congrArg (List.take i) hvalues
        rw [← List.map_take, ← List.map_take] at hi
        intro z hz hz'
        have hmem : none ∈ (sites.take i).map fun x => ctx.value? x.name := by
          rw [← hi]
          exact List.mem_map.2 ⟨z, hz, hz'⟩
        obtain ⟨z', hz', hnone'⟩ := List.mem_map.1 hmem
        exact hfront z' hz' hnone'
      rw [hfill, f.mapM_hole_unknown hcodes hy hnone' hfront']
      rfl

/-- Two names in a text. Written in another case they have the same values, and the one that looks like a placeholder
    is not looked into. -/
theorem fill_names_capitals :
    let ctx := Context.ofTitle "Demo" "\x7bmp:title\x7d"
    let text := "# \x7bmp:title\x7d; \x7bmp: Description \x7d"
    (∀ name, ctx.code? name = none) ∧ Nowhere Form.block.Opens text.toList [] ∧
      Nowhere Form.expression.Opens text.toList [] ∧
      ∀ f : Filler Unit, (f.fill ctx "# \x7bMP:TITLE\x7d; \x7bMp: description \x7d").run () =
        (.ok "# Demo; \x7bmp:title\x7d", ()) := by
  intro ctx text
  have hcodes (name : String) : ctx.code? name = none := rfl
  have hblock : Nowhere Form.block.Opens text.toList [] := by decide
  have hexpression : Nowhere Form.expression.Opens text.toList [] := by decide
  refine ⟨hcodes, hblock, hexpression, fun f => ?_⟩
  obtain ⟨sites, last, hunique, hfill⟩ := f.fill_names hcodes text hblock hexpression
  -- The text has two placeholders.
  let first : Site := ⟨"# ".toList, "\x7bmp:".toList, "title".toList⟩
  let second : Site := ⟨"; ".toList, "\x7bmp:".toList, " Description ".toList⟩
  -- They are the only ones, and the theorem's placeholders are unique.
  have hmarks : Form.name.Marks [] text.toList [first, second] [] := by
    have htext : text.toList = first.text ++ (second.text ++ []) := by decide
    rw [htext]
    refine .site rfl ⟨by decide, by decide⟩ (by decide) (.site rfl ⟨by decide, by decide⟩ (by decide) ?_)
    exact .of_nowhere trivial
  obtain ⟨rfl, rfl⟩ := (hunique _ _).1 hmarks
  have hrecased : List.Forall₂ Site.Recases [first, second]
      [⟨"# ".toList, "\x7bMP:".toList, "TITLE".toList⟩,
        ⟨"; ".toList, "\x7bMp:".toList, " description ".toList⟩] :=
    .cons ⟨rfl, by decide, by decide⟩ (.cons ⟨rfl, by decide, by decide⟩ .nil)
  have hrun := (hfill _ "# \x7bMP:TITLE\x7d; \x7bMp: description \x7d" hrecased (by decide) ()).1
    ["Demo", "\x7bmp:title\x7d"] (by decide +kernel)
  rw [hrun]
  rfl

end Filler

end Scaffold
