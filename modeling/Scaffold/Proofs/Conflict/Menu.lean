import Scaffold.Conflict.Menu
import Scaffold.Proofs.Conflict.History
import Scaffold.Proofs.Files.Joining
import Mathlib.Data.List.Induction

namespace Scaffold

/-!
# Decisions from a menu

A menu shows where something stands by the way that leads there from the folder that everything is written into, and
offers what makes sense there: files are not merged, and nothing is kept beside a folder. This is so for all decisions
of an arbiter that asks with a menu, since what it remembers was chosen from a menu for the same kind.

* `Files.Path.shownFrom_below` — the way that is shown;
* `Conflict.Choice.mem_options_iff` — what a menu offers;
* `Conflict.Prompt.Offers` — prompts that are answered with what is offered, such as `menu`;
* `Conflict.Arbiter.serveAll_isFor` — decisions of an arbiter that asks such a prompt.
-/

/-! ### What is shown -/

namespace Files.Path

variable {p : Path} {way : List String}

/-- The path of names below a path ends with these names. -/
theorem below_eq (hway : way ≠ []) (hnormal : ∀ name ∈ way, IsNormal name) :
    p.below way = ⟨p.absolute, p.stem ++ way⟩ := by
  induction way using List.reverseRecOn with
  | nil => exact absurd rfl hway
  | append_singleton way name ih =>
    have hname : IsNormal name := hnormal name (by simp)
    rw [below, List.foldl_concat, ← below, join_eq _ hname]
    by_cases hnil : way = []
    · subst hnil
      rfl
    · -- What a name was put behind does not end with an empty piece.
      have hlast : (p.stem ++ way).getLast? ≠ some "" := by
        intro hlast
        rw [List.getLast?_append_of_ne_nil _ hnil] at hlast
        exact (hnormal "" (List.mem_append_left _ (List.mem_of_getLast? hlast))).nonempty rfl
      have hstem : (⟨p.absolute, p.stem ++ way⟩ : Path).stem = p.stem ++ way := if_neg hlast
      rw [ih hnil fun n hn => hnormal n (List.mem_append_left _ hn), hstem, List.append_assoc]

/-- Passing as many pieces as are not idle in front leaves what is behind it. -/
theorem piecesBehind_append (front : List String) (hway : way ≠ []) (hnormal : ∀ name ∈ way, IsNormal name) :
    piecesBehind (front.filter (!isIdle ·)).length (front ++ way) = way := by
  -- The pieces of the front are dropped one by one; the idle ones do not count.
  induction front with
  | nil =>
    obtain ⟨init, last, rfl⟩ := (List.eq_nil_or_concat' way).resolve_left hway
    have hlast := (hnormal last (by simp)).not_isIdle
    cases init with
    | nil => simp [piecesBehind, hlast]
    | cons name init =>
      have hname := (hnormal name (by simp)).not_isIdle
      simp [piecesBehind, hname, hlast]
  | cons piece front ih =>
    cases hidle : isIdle piece <;> simp [piecesBehind, hidle, ih]

/-- The components of the path of names below a path. -/
theorem components_below (hway : way ≠ []) (hnormal : ∀ name ∈ way, IsNormal name) :
    (p.below way).components = p.components ++ way.map .name := by
  have hnames : way.filterMap component? = way.map .name := by
    rw [← List.filterMap_eq_map]
    exact List.filterMap_congr fun name hname => (hnormal name hname).component?
  have hstem : p.stem.filterMap component? = p.pieces.filterMap component? := by
    rcases p.stem_cases with h | h
    · rw [← h]
    · rw [h, List.filterMap_append]
      simp [component?, isIdle]
  -- A name is no dot, so that the dot in front is the one that was there.
  have hhead : (p.stem ++ way).head? = some "." ↔ p.pieces.head? = some "." := by
    obtain ⟨name, rest, rfl⟩ := List.exists_cons_of_ne_nil hway
    have hname := (hnormal name List.mem_cons_self).ne_here
    rcases p.stem_cases with h | h
    · cases hs : p.stem <;> simp [h, hs, hname]
    · cases hs : p.stem <;> simp [h, hs, hname]
  rw [below_eq hway hnormal, components, components]
  simp only [List.filterMap_append, hstem, hnames, hhead]
  split <;> [skip; split] <;> simp

/-- **What is shown.** A path is shown as the names that lead to it from the folder, if any piece of the path of the
    folder counts, or there is none. -/
theorem shownFrom_below (hp : p.components ≠ [] ∨ p = ⟨false, []⟩) (hway : way ≠ [])
    (hnormal : ∀ name ∈ way, IsNormal name) : shownFrom p (p.below way) = Text.joinWith "/" way := by
  rcases hp with hp | rfl
  · have hprefix : p.components.isPrefixOf (p.components ++ way.map .name) = true :=
      List.isPrefixOf_iff_prefix.2 (List.prefix_append _ _)
    have hcount : p.pieces.filter (!isIdle ·) = p.stem.filter (!isIdle ·) := by
      rcases p.stem_cases with h | h
      · rw [← h]
      · rw [h, List.filter_append]
        simp [isIdle]
    rw [shownFrom, List.isEmpty_eq_false_iff.2 hp, if_neg Bool.false_ne_true, components_below hway hnormal,
      if_pos hprefix, below_eq hway hnormal, hcount, piecesBehind_append p.stem hway hnormal]
  · obtain ⟨init, last, rfl⟩ := (List.eq_nil_or_concat' way).resolve_left hway
    have hpieces : (⟨false, init ++ [last]⟩ : Path).trimPieces = init ++ [last] :=
      trimPieces_eq (rfl : (⟨false, init ++ [last]⟩ : Path).pieces = init ++ last :: [])
        (hnormal last (by simp)).not_isIdle (by simp)
    rw [shownFrom, below_eq hway hnormal]
    simpa [components, stem, text] using congrArg (Text.joinWith "/") hpieces

end Files.Path

namespace Conflict

/-! ### What is offered -/

/-- That a decision makes sense for a folder or for a file. -/
def Decision.IsFor (isFolder : Bool) (d : Decision) : Prop := d ≠ if isFolder then .keep else .merge

/-- A menu offers what makes sense. -/
theorem Choice.mem_options_iff {isFolder : Bool} {c : Choice} :
    c ∈ Choice.options isFolder ↔ c.decision.IsFor isFolder := by
  cases isFolder <;> cases c <;> simp [options, decision, Decision.IsFor]

/-- The labels of a menu tell the choices apart. -/
theorem Choice.nodup_labels (isFolder : Bool) : ((Choice.options isFolder).map Choice.label).Nodup := by
  cases isFolder <;> decide

/-- Whatever the prompt answers is offered for the kind that it is asked about. -/
def Prompt.Offers {π : Type} (ask : Prompt π) : Prop :=
  ∀ q p c, (ask q p).1 = .ok c → c ∈ Choice.options q.isFolder

theorem menu_offers {π : Type} (terminal : Terminal π) : (menu terminal).Offers := by
  intro q p c h
  simp only [menu] at h
  split at h
  · rw [← Except.ok.inj h]
    exact List.get_mem _ _
  · cases h

/-! ### What is decided -/

namespace Arbiter

variable {π : Type} {policy : Policy} {ask : Prompt π} {r : Arbiter π}

/-- What is remembered for a kind makes sense for it. -/
def Fits (r : Arbiter π) : Prop := ∀ isFolder d, r.default? isFolder = some d → d.IsFor isFolder

theorem Fits.remember (h : r.Fits) {isFolder : Bool} {c : Choice} (hc : c.decision.IsFor isFolder) :
    (r.remember isFolder c).Fits := by
  intro isFolder' d hd
  rw [default?_remember] at hd
  split at hd
  · rename_i hlasting
    rw [← hlasting.2, ← Option.some.inj hd]
    exact hc
  · exact h isFolder' d hd

/-- **One call.** A decision makes sense, and so does what is remembered then. -/
theorem serve_isFor (hpolicy : policy.decision? = none) (hask : ask.Offers) (h : r.Fits) (errand : Errand) :
    (∀ q asked d, (serve policy ask errand r).1 = .decided q asked d → d.IsFor q.isFolder) ∧
      (serve policy ask errand r).2.Fits := by
  cases errand with
  | takeFailure => exact ⟨fun q asked d hserved => (by cases hserved), h⟩
  | decide q =>
    rw [serve]
    rcases consult_cases policy ask q r with ⟨d, hfixed, hrun⟩ | ⟨d, -, hdefault, hrun⟩ |
      ⟨c, p, -, -, hanswer, hrun⟩ | ⟨e, p, -, -, hanswer, hrun⟩
    · rw [hpolicy] at hfixed
      cases hfixed
    · rw [hrun]
      refine ⟨fun q' asked d' hserved => ?_, h⟩
      cases hserved
      exact h q.isFolder d hdefault
    · have hc : c.decision.IsFor q.isFolder := Choice.mem_options_iff.1 (hask q r.prompt c (by rw [hanswer]))
      rw [hrun]
      refine ⟨fun q' asked d' hserved => ?_, Fits.remember (r := { r with prompt := p }) h hc⟩
      cases hserved
      exact hc
    · rw [hrun]
      refine ⟨fun q' asked d' hserved => ?_, h⟩
      cases hserved
      cases q.isFolder <;> simp [Decision.IsFor]

/-- **Asking with a menu.** An arbiter that asks for each kind what makes sense for it decides nothing else, in whatever
    order it is called: no file is merged, and nothing is kept beside a folder. -/
theorem serveAll_isFor (hpolicy : policy.decision? = none) (hask : ask.Offers) (h : r.Fits) (errands : List Errand) :
    ∀ q asked d, .decided q asked d ∈ (serveAll policy ask errands r).1 → d.IsFor q.isFolder := by
  induction errands generalizing r with
  | nil => exact fun q asked d hserved => by cases hserved
  | cons errand errands ih =>
    obtain ⟨hfirst, hfits⟩ := serve_isFor hpolicy hask h errand
    intro q asked d hserved
    rcases List.mem_cons.1 hserved with hserved | hserved
    · exact hfirst q asked d hserved.symm
    · exact ih hfits q asked d hserved

/-- An arbiter that asks with a menu and has not been asked yet. -/
theorem serveAll_menu (terminal : Terminal π) (p : π) (errands : List Errand) (q : Question)
    (asked : List Consultation) (d : Decision)
    (h : .decided q asked d ∈ (serveAll .ask (menu terminal) errands { prompt := p }).1) : d.IsFor q.isFolder :=
  serveAll_isFor rfl (menu_offers terminal) (by simp [Fits, default?]) errands q asked d h

end Arbiter

end Conflict

end Scaffold
