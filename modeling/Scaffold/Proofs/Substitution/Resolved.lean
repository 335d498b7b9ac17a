import Scaffold.Proofs.Substitution.Names

namespace Scaffold

/-!
# Texts with nothing left to fill

A text is resolved if a placeholder begins at none of its places. Openers that are never closed, markers without a
name and any other braces may stand in it. No pass finds a hole in such a text, so filling gives it back, and the
engine is not called: what a session or its preamble would do, and whether they would fail, does not matter.

* `Placeholder.IsResolved` — no placeholder of any form begins anywhere;
* `Placeholder.pieces_of_nowhere` — such a text is one plain piece;
* `Filler.fill_of_resolved` — filling it does nothing;
* `Filler.fill_resolved` — the same told by the calls to an engine, and for a text that was filled before.
-/

namespace Placeholder

/-- No placeholder begins in the text, of whichever form. -/
def IsResolved (text : List Char) : Prop := ∀ form : Form, Nowhere form.Begins text []

theorem isResolved_iff {text : List Char} :
    IsResolved text ↔ Nowhere Form.block.Begins text [] ∧ Nowhere Form.expression.Begins text [] ∧
      Nowhere Form.name.Begins text [] := by
  constructor
  · intro h
    exact ⟨h .block, h .expression, h .name⟩
  · rintro ⟨hblock, hexpression, hname⟩ form
    cases form with
    | block => exact hblock
    | expression => exact hexpression
    | name => exact hname

instance (text : List Char) : Decidable (IsResolved text) := decidable_of_iff' _ isResolved_iff

/-- A text in which no placeholder begins is marked without one. -/
theorem Form.Marks.eq_nil {form : Form} {back text last : List Char} {sites : List Site}
    (h : form.Marks back text sites last) (hnone : Nowhere form.Begins text []) : sites = [] := by
  cases h with
  | last => rfl
  | @site x rest sites last hopener hcode hbefore h =>
    have htext : x.text ++ rest = x.before ++ (x.opener ++ x.code ++ '\x7d' :: rest) := by
      simp [Site.text]
    rw [htext, nowhere_append] at hnone
    have hnot := hnone.2.not_here (by simp)
    rw [List.append_nil] at hnot
    exact absurd ⟨_, _, _, rfl, hopener, hcode⟩ hnot

/-- No pass finds a hole where no placeholder begins, though it may find openers. -/
theorem pieces_of_nowhere {form : Form} {text : List Char} (h : Nowhere form.Begins text []) :
    form.pieces text = [.plain text] := by
  obtain ⟨sites, last, back, hmarks, -, hpieces⟩ := Filler.exists_pieces form text
  obtain rfl := hmarks.eq_nil h
  rw [hpieces, hmarks.text_eq]
  rfl

end Placeholder

open Placeholder (Form IsResolved)

variable {σ : Type}

namespace Filler

/-- **Nothing left to fill.** Filling a resolved text does nothing. -/
theorem fill_of_resolved (f : Filler σ) (ctx : Context) {text : String} (h : IsResolved text.toList) :
    f.fill ctx text = pure text := by
  rw [fill_eq, f.passes_of_plain ctx fun form => Placeholder.pieces_of_nowhere (h form), pure_bind,
    String.ofList_toList]
  rfl

/-- **Filling again.** A resolved text is filled with itself, and no call is made to the engine. So if filling a text
    gives one that is resolved, filling that one gives it again. -/
theorem fill_resolved (e : Engine σ) (preamble? : Option String) (ctx : Context) :
    let f : Filler (σ × List Call) := ⟨e.logged, preamble?⟩
    (∀ text, IsResolved text.toList → ∀ s calls,
      (f.fill ctx text).run (s, calls) = (.ok text, s, calls)) ∧
    ∀ text out before after, (f.fill ctx text).run before = (.ok out, after) → IsResolved out.toList →
      (f.fill ctx out).run after = (.ok out, after) := by
  intro f
  refine ⟨fun text h s calls => ?_, fun text out before after _ h => ?_⟩
  · rw [f.fill_of_resolved ctx h]
    rfl
  · rw [f.fill_of_resolved ctx h]
    rfl

/-- An engine that always fails, a text full of openers, and a title that is an opener. -/
theorem fill_resolved_openers :
    let failing : Engine Unit :=
      ⟨fun _ _ => pure (.error (.failed "")), fun _ => pure (.error (.failed "")),
        fun _ => pure (.error (.failed ""))⟩
    let f : Filler (Unit × List Call) := ⟨failing.logged, some "\x7b% if %\x7d"⟩
    let ctx := Context.ofTitle "\x7bmp.py: \x7b" ""
    let text := "\x7bmp.py| \x7b\x7d \x7bMP.py : \x7b\x7b, \x7bmp:\x7d \x7d\x7bmp: x"
    IsResolved text.toList ∧ (f.fill ctx text).run ((), []) = (.ok text, (), []) ∧
      (f.fill ctx "\x7bmp:title\x7d.md").run ((), []) = (.ok "\x7bmp.py: \x7b.md", (), []) ∧
      IsResolved "\x7bmp.py: \x7b.md".toList ∧
      (f.fill ctx "\x7bmp.py: \x7b.md").run ((), []) = (.ok "\x7bmp.py: \x7b.md", (), []) := by
  intro failing f ctx text
  have hresolved : IsResolved text.toList := by decide
  have hresolved' : IsResolved "\x7bmp.py: \x7b.md".toList := by decide
  obtain ⟨hsame, hagain⟩ := fill_resolved failing (some "\x7b% if %\x7d") ctx
  -- The title is put in, and not looked into.
  have hfill : (f.fill ctx "\x7bmp:title\x7d.md").run ((), []) = (.ok "\x7bmp.py: \x7b.md", (), []) := by
    let site : Placeholder.Site := ⟨[], "\x7bmp:".toList, "title".toList⟩
    have hmarks : Form.name.Marks [] "\x7bmp:title\x7d.md".toList [site] ".md".toList := by
      have htext : "\x7bmp:title\x7d.md".toList = site.text ++ ".md".toList := by decide
      rw [htext]
      exact .site rfl ⟨by decide, by decide⟩ trivial (.of_nowhere (by decide))
    have hvalues : ([site].map fun x => ctx.value? x.name) = ["\x7bmp.py: \x7b"].map some := by
      decide +kernel
    have hrun := f.fill_of_nowhere ctx (by decide) (by decide) hmarks
    rw [String.ofList_toList, f.mapM_hole_values (fun _ => rfl) hvalues, pure_bind] at hrun
    rw [hrun]
    rfl
  exact ⟨hresolved, hsame text hresolved () [], hfill, hresolved', hagain _ _ _ _ hfill hresolved'⟩

end Filler

end Scaffold
