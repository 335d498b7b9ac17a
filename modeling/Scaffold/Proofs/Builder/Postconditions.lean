import Scaffold.Builder
import Scaffold.Proofs.FileName
import Scaffold.Proofs.Substitution

namespace Scaffold

/-!
# Postconditions of building

What holds of all trees that items are built into, and of all errors that building fails with, follows
from what holds of the documents inside them:

* `Builder.Closed G B` — the property `G` of trees and `B` of errors are kept by everything that a document
  does by itself: files, folders, names, contents;
* `Builder.items_yields` — then the items of a document keep them too, if its inclusions and its code do;
* `Builder.inclusion_yields`, `Builder.script_yields` — and these do, if the documents inside do.
-/

open Document (Item)
open Yaml (Value)

variable {σ : Type}

/-! ### Code among items -/

namespace Document.Item

mutual

/-- The code of the scripts in an item, those in folders at any depth included. -/
def codes : Item → List Value
  | .folder _ contents => codesOf contents
  | .script v => [v]
  | .shorthand _ (some contents) => codesOf contents
  | _ => []

/-- The code of the scripts in items. -/
def codesOf : List Item → List Value
  | [] => []
  | i :: is => codes i ++ codesOf is

end

end Document.Item

namespace Builder

/-! ### Names and contents -/

section Texts

variable (b : Builder σ) (ctx : Context) (v : Value)

/-- A text that is filled in. -/
theorem text_yields : Yields (b.text ctx v) (fun _ => True) Error.ArisesInFilling :=
  b.filler.fill_yields ctx _

/-- Every name of a file or folder is a clean one. -/
theorem name_yields : Yields (b.name ctx v) FileName.IsClean Error.ArisesInFilling :=
  (b.text_yields ctx v).bind fun _ _ => yields_pure (FileName.sanitize_isClean _)

/-- The name of a template that is filled in. -/
theorem nameOfTemplate_yields :
    Yields (b.nameOfTemplate ctx v) (fun _ => True) Error.ArisesInFilling :=
  (b.text_yields ctx v).bind fun _ _ => yields_pure trivial

/-- The title and the description that an inclusion gives. -/
theorem overrides_yields (title? description? : Option Value) :
    Yields (b.overrides ctx title? description?) (fun _ => True) Error.ArisesInFilling := by
  unfold overrides
  dsimp only
  -- Filling is the only step that can fail here, once for each of the two texts.
  cases title?.filter (!·.isNull) with
  | none =>
    cases description?.filter (!·.isNull) with
    | none => exact yields_pure trivial
    | some description =>
      exact (b.text_yields ctx description).bind_any fun _ => yields_pure trivial
  | some title =>
    refine (b.text_yields ctx title).bind_any fun _ => ?_
    cases description?.filter (!·.isNull) with
    | none => exact yields_pure trivial
    | some description =>
      exact (b.text_yields ctx description).bind_any fun _ => yields_pure trivial

end Texts

/-- Failures inside are attributed to the document on their way out. -/
theorem attributed_yields {α : Type} {document text : String} {x : Running σ α} {G : α → Prop}
    {B : Error → Prop} (h : Yields x G fun e => B (e.attributedTo document text)) :
    Yields (attributed document text x) G B :=
  h.mapError fun _ he => he

/-! ### Properties kept by a document -/

/-- The property `G` of trees and the property `B` of errors are kept by what a document does without
    opening another one. Trees have clean names; credit to a template changes nothing. -/
structure Closed (G : Tree → Prop) (B : Error → Prop) : Prop where
  file : ∀ name content, FileName.IsClean name → G (.file name content none)
  folder : ∀ name trees, FileName.IsClean name → (∀ t ∈ trees, G t) → G (.folder name trees none)
  credit : ∀ template t, G t → G (t.credit template)
  filling : ∀ e : Error, e.ArisesInFilling → B e
  /-- Failures in the text of a file template are attributed to it. -/
  inTemplate : ∀ (template source : String) (e : Error), e.ArisesInFilling →
    B (e.attributedTo template source)
  missing : ∀ role name, B (.missingTemplate role name)
  malformed : ∀ key, B (.malformedShorthand key)

section Items

variable {G : Tree → Prop} {B : Error → Prop}

/-- The content that a file template gives. -/
theorem contentFrom_yields (hc : Closed G B) (b : Builder σ) (ctx : Context) (template : String) :
    Yields (b.contentFrom ctx template) (fun _ => True) B := by
  unfold contentFrom
  cases b.library.file? template with
  | none => exact yields_throw (hc.missing _ _)
  | some source => exact (b.filler.fill_yields ctx source).mapError (hc.inTemplate _ _)

/-- A file template. -/
theorem fileTemplate_yields (hc : Closed G B) (b : Builder σ) (ctx : Context) (v : Value) :
    Yields (b.fileTemplate ctx v) (fun trees => ∀ t ∈ trees, G t) B := by
  unfold fileTemplate
  refine ((b.nameOfTemplate_yields ctx v).error_imp hc.filling).bind_any fun template => ?_
  refine (contentFrom_yields hc b _ template).bind_any fun content => yields_pure ?_
  simpa using hc.file _ content (FileName.sanitize_isClean template)

/-- A file. -/
theorem file_yields (hc : Closed G B) (b : Builder σ) (ctx : Context) (v : Value)
    (content? template? : Option Value) :
    Yields (b.file ctx v content? template?) (fun trees => ∀ t ∈ trees, G t) B := by
  unfold file
  refine ((b.name_yields ctx v).error_imp hc.filling).bind fun name hname => ?_
  have hend : ∀ content, Yields (pure [Tree.file name content none] : Running σ (List Tree))
      (fun trees => ∀ t ∈ trees, G t) B :=
    fun content => yields_pure (by simpa using hc.file name content hname)
  -- A content of its own, a template, or nothing.
  match content?, template? with
  | some content, _ =>
    exact ((b.text_yields _ content).error_imp hc.filling).bind_any hend
  | none, some template =>
    refine ((b.nameOfTemplate_yields _ template).error_imp hc.filling).bind_any fun name => ?_
    exact (contentFrom_yields hc b _ name).bind_any hend
  | none, none => exact hend ""

mutual

/-- One item keeps the properties if the inclusions and the code in it do. -/
theorem item_yields (hc : Closed G B) {b : Builder σ} {nested : Nested σ} {ctx : Context}
    {stack : List String}
    (hinclusion : ∀ v title? description?,
      Yields (b.inclusion nested ctx stack v title? description?)
        (fun trees => ∀ t ∈ trees, G t) B) :
    ∀ i : Item, (∀ v ∈ i.codes,
      Yields (b.script nested ctx stack v) (fun trees => ∀ t ∈ trees, G t) B) →
      Yields (b.item nested ctx stack i) (fun trees => ∀ t ∈ trees, G t) B
  | .implicitFile v, _ => by
    simp only [item]
    refine ((b.name_yields ctx v).error_imp hc.filling).bind fun name hname => yields_pure ?_
    simpa using hc.file name "" hname
  | .inclusion v title? description?, _ => by
    simp only [item]
    exact hinclusion v title? description?
  | .fileTemplate v, _ => by
    simp only [item]
    exact fileTemplate_yields hc b ctx v
  | .file v content? template?, _ => by
    simp only [item]
    exact file_yields hc b ctx v content? template?
  | .folder v contents, hscript => by
    simp only [item]
    refine ((b.name_yields ctx v).error_imp hc.filling).bind fun name hname => ?_
    refine (items_yields hc hinclusion contents (by simpa [Item.codes] using hscript)).bind
      fun trees htrees => yields_pure ?_
    simpa using hc.folder name trees hname htrees
  | .script v, hscript => by
    simp only [item]
    exact hscript v (by simp [Item.codes])
  | .shorthand key none, _ => by
    simp only [item]
    exact ((b.text_yields ctx key).error_imp hc.filling).bind_any
      fun _ => yields_throw (hc.malformed _)
  | .shorthand key (some contents), hscript => by
    simp only [item]
    refine ((b.name_yields ctx key).error_imp hc.filling).bind fun name hname => ?_
    refine (items_yields hc hinclusion contents (by simpa [Item.codes] using hscript)).bind
      fun trees htrees => yields_pure ?_
    simpa using hc.folder name trees hname htrees
  | .ignored, _ => by
    simp only [item]
    exact yields_pure (by simp)

/-- **The rule for items.** Items keep the properties if the inclusions and the code in them do. -/
theorem items_yields (hc : Closed G B) {b : Builder σ} {nested : Nested σ} {ctx : Context}
    {stack : List String}
    (hinclusion : ∀ v title? description?,
      Yields (b.inclusion nested ctx stack v title? description?)
        (fun trees => ∀ t ∈ trees, G t) B) :
    ∀ is : List Item, (∀ v ∈ Item.codesOf is,
      Yields (b.script nested ctx stack v) (fun trees => ∀ t ∈ trees, G t) B) →
      Yields (b.items nested ctx stack is) (fun trees => ∀ t ∈ trees, G t) B
  | [], _ => by
    simp only [items]
    exact yields_pure (by simp)
  | i :: is, hscript => by
    simp only [items]
    -- The codes of a list are those of its first item and of the others.
    have hhere : ∀ v ∈ i.codes, Yields (b.script nested ctx stack v) _ B :=
      fun v hv => hscript v (by simp [Item.codesOf, hv])
    have hrest : ∀ v ∈ Item.codesOf is, Yields (b.script nested ctx stack v) _ B :=
      fun v hv => hscript v (by simp [Item.codesOf, hv])
    refine (item_yields hc hinclusion i hhere).bind fun trees htrees => ?_
    refine (items_yields hc hinclusion is hrest).bind fun more hmore => yields_pure ?_
    intro t ht
    rcases List.mem_append.1 ht with ht | ht
    · exact htrees t ht
    · exact hmore t ht

end

/-! ### Documents inside documents -/

/-- Crediting keeps what holds of trees. -/
theorem creditAll_keeps (hc : Closed G B) (template : String) {trees : List Tree} (h : ∀ t ∈ trees, G t) :
    ∀ t ∈ Tree.creditAll template trees, G t := by
  induction trees with
  | nil => simp [Tree.creditAll]
  | cons t trees ih =>
    simp only [Tree.creditAll, List.mem_cons, forall_eq_or_imp] at h ⊢
    exact ⟨hc.credit template t h.1, ih h.2⟩

/-- An inclusion keeps the properties if the items of the template do, below the template as well; the
    errors of the template are attributed to it. -/
theorem inclusion_yields (hc : Closed G B) {b : Builder σ} {nested : Nested σ} {stack : List String}
    (hcycle : ∀ name ∈ stack, B (.cyclicInclude (stack ++ [name])))
    (hunreadable : ∀ name source e, templateItems name source = .error e →
      B (e.attributedTo name source))
    (hnested : ∀ ctx name source is, name ∉ stack → b.library.project? name = some source →
      templateItems name source = .ok is →
      Yields (nested ctx (stack ++ [name]) is) (fun trees => ∀ t ∈ trees, G t)
        fun e => B (e.attributedTo name source))
    (ctx : Context) (v : Value) (title? description? : Option Value) :
    Yields (b.inclusion nested ctx stack v title? description?)
      (fun trees => ∀ t ∈ trees, G t) B := by
  unfold inclusion
  refine ((b.nameOfTemplate_yields ctx v).error_imp hc.filling).bind_any fun name => ?_
  -- An empty name, a cycle, a missing template or what the template describes.
  split
  · exact yields_pure (by simp)
  · split
    · rename_i hmem
      exact yields_throw (hcycle name (by simpa using hmem))
    · rename_i hmem
      cases hsource : b.library.project? name with
      | none => exact yields_throw (hc.missing _ _)
      | some source =>
        dsimp only
        refine ((b.overrides_yields ctx title? description?).error_imp hc.filling).bind_any
          fun overrides => ?_
        -- Reading the template must not be evaluated while the steps behind it are taken apart.
        generalize hread : templateItems name source = read
        refine Yields.bind (G := fun trees : List Tree => ∀ t ∈ trees, G t) (attributed_yields ?_)
          fun trees htrees => yields_pure (creditAll_keeps hc name htrees)
        cases read with
        | error e => exact yields_throw (hunreadable name source e hread)
        | ok is => exact hnested _ name source is (by simpa using hmem) hsource hread

/-- Code keeps the properties if the items that it gives do. -/
theorem script_yields (hc : Closed G B) {b : Builder σ} {nested : Nested σ} {stack : List String}
    (hinvalid : ∀ x e, scriptItems x = .error e → B e)
    (ctx : Context) (v : Value)
    (hnested : ∀ x is, scriptItems x = .ok is →
      Yields (nested ctx stack is) (fun trees => ∀ t ∈ trees, G t)
        fun e => B (e.attributedTo scriptDocument (Document.fillableText v))) :
    Yields (b.script nested ctx stack v) (fun trees => ∀ t ∈ trees, G t) B := by
  simp only [script]
  refine ((b.filler.runCode_yields ctx _ _).error_imp hc.filling).bind_any fun x => ?_
  -- Only an item list that could be read is built, so its postcondition is needed for no other.
  cases his : scriptItems x with
  | error e => exact yields_throw (hinvalid x e his)
  | ok is => exact attributed_yields (hnested x is his)

end Items

end Builder

end Scaffold
