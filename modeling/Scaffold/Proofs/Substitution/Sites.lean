import Scaffold.Substitution
import Scaffold.Proofs.Placeholder.Sites
import Scaffold.Proofs.Steps

namespace Scaffold

/-!
# What a pass evaluates

A pass evaluates what is written in the placeholders that a marking of the text shows, each of them once and from
the left, and copies the rest. For code this goes up to the first opener that is never closed: from there on the
text stays as it is, whatever stands behind.

* `Filler.fillHoles_piecesOf` — filling the pieces of a marked text;
* `Filler.fillHoles_marked` — which placeholders are evaluated, and when these are all of them;
* `Filler.fillHoles_unclosed` — a placeholder that is not evaluated, behind an opener that is never closed.
-/

open Placeholder (Form Piece Site Nowhere piecesOf filled)

variable {σ : Type}

namespace Filler

/-- Filling the pieces of a marked text is evaluating what is written in its placeholders, from the left. -/
theorem fillHoles_piecesOf (eval : List Char → Running (Filling σ) String) (sites : List Site)
    (last : List Char) :
    fillHoles eval (piecesOf sites last) = (do
      let texts ← sites.mapM fun x => eval x.code
      return filled sites texts last) := by
  induction sites with
  | nil => simp [piecesOf, fillHoles, filled]
  | cons x sites ih =>
    have hpieces : piecesOf (x :: sites) last = .plain x.before :: .hole x.code :: piecesOf sites last := by
      simp [piecesOf]
    rw [hpieces, fillHoles, fillHoles, ih]
    simp [filled]

/-- The pieces of a text for any form: those of its marking, up to an opener that is not closed. -/
theorem exists_pieces (form : Form) (text : List Char) :
    ∃ sites last back, form.Marks back text sites last ∧
      (back = [] ∨ form.Opens back ∧ ¬ form.Begins back) ∧
      form.pieces text = piecesOf sites (last ++ back) := by
  cases form with
  | name =>
    obtain ⟨sites, last, h⟩ := Form.name.exists_marks text
    refine ⟨sites, last, [], h, .inl rfl, ?_⟩
    rw [Form.namePieces_of_marks h, List.append_nil]
  | block => exact Form.block.exists_codePieces text
  | expression => exact Form.expression.exists_codePieces text

/-- **What a pass evaluates.** A pass evaluates the placeholders in front of some end `back` of the text, once each
    and from the left, and copies everything else. If this end is not empty, it starts with an opener that is never
    closed. These are the first placeholders of the text; they are all of them if and only if no placeholder begins
    in `back`. -/
theorem fillHoles_marked (form : Form) (eval : List Char → Running (Filling σ) String) (text : List Char) :
    ∃ sites last back, form.Marks back text sites last ∧
      (back = [] ∨ form.Opens back ∧ ¬ form.Begins back) ∧
      fillHoles eval (form.pieces text) = (do
        let texts ← sites.mapM fun x => eval x.code
        return filled sites texts (last ++ back)) ∧
      ∀ all final, form.Marks [] text all final →
        sites <+: all ∧ ((all = sites ∧ final = last ++ back) ↔ Nowhere form.Begins back []) := by
  obtain ⟨sites, last, back, h, hback, hpieces⟩ := exists_pieces form text
  refine ⟨sites, last, back, h, hback, ?_, fun all final hall => ⟨h.isPrefix hall, ?_, ?_⟩⟩
  · rw [hpieces, fillHoles_piecesOf]
  · -- In what is copied at the end of a whole marking no placeholder begins.
    rintro ⟨rfl, rfl⟩
    have hlast : Nowhere form.Begins (last ++ back) [] := hall.nowhere_last
    exact (Placeholder.nowhere_append.1 hlast).2
  · intro hnone
    exact (h.whole hnone).unique hall

/-- The text `\x7bmp.py: \x7b \x7bmp.py: 1\x7d` has one placeholder, the expression at its end. A pass that would
    write down what it evaluates writes nothing and leaves the text as it is: the opener in front is never closed. -/
theorem fillHoles_unclosed :
    let text := "\x7bmp.py: \x7b \x7bmp.py: 1\x7d".toList
    let eval (code : List Char) : Running (Filling (List (List Char))) String := do
      modify fun p => { p with engine := p.engine ++ [code] }
      return ""
    Form.expression.Marks [] text [⟨"\x7bmp.py: \x7b ".toList, "\x7bmp.py:".toList, " 1".toList⟩] [] ∧
      (fillHoles eval (Form.expression.pieces text)).run ⟨[], false⟩ = (.ok text, ⟨[], false⟩) := by
  have hopener : Form.expression.IsOpener "\x7bmp.py:".toList :=
    ⟨[], by simp, by decide⟩
  have hclose : Form.expression.close? " 1\x7d".toList = some (" 1".toList, []) := by decide
  have hcode : Form.expression.IsBody " 1".toList := (Form.close?_eq_some_iff.1 hclose).2
  have hbefore : Nowhere Form.expression.Begins "\x7bmp.py: \x7b ".toList "\x7bmp.py: 1\x7d".toList := by
    decide
  have hlast : Form.expression.Marks [] [] [] [] := .of_nowhere trivial
  refine ⟨Form.Marks.site (x := ⟨_, _, _⟩) hopener hcode hbefore hlast, ?_⟩
  have hpieces : Form.expression.pieces "\x7bmp.py: \x7b \x7bmp.py: 1\x7d".toList =
      [.plain "\x7bmp.py: \x7b \x7bmp.py: 1\x7d".toList] := by
    show Placeholder.codePieces .expression _ = _
    rw [Placeholder.codePieces]
    rfl
  rw [hpieces]
  rfl

end Filler
end Scaffold
