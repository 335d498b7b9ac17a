import Scaffold.Proofs.Builder.Cycles

namespace Scaffold

/-!
# Where failures arise

Building attributes a failure to a document on its way out, and the first document that it meets wins.
The same can be said the other way round: go into the documents, keep in mind which text one is in,
and say so at the very place where something fails. Nothing is attributed on the way out then, and
nothing has to be kept from being attributed twice.

* `Raised` — a failure together with the text that it arises in;
* `Builder.buildTextAt` — building that is handed the text it is in, changes it for a template and for
  the items of code, and raises failures there;
* `Place.Attributes` — what one step attributes on the way out is what another raises on the way in; the
  rules for it follow a `do` block;
* `Builder.items_attributes`, `Builder.itemsWithin_attributes` — building does so, for one document and for
  all documents inside it;
* `Builder.buildText_attributed` — the whole, with what is known of the error.
-/

open Document (Item)
open Yaml (Value)

variable {σ α β : Type}

/-- A text in which something may fail, and the name of the document that it is the text of. -/
structure Place where
  document : String
  text : String

/-- A failure, and the text that it arises in. -/
structure Raised where
  place : Place
  cause : Error

/-- The error for a failure: its cause, located in the text that it arises in. -/
def Raised.error (r : Raised) : Error :=
  .located r.place.document (r.cause.lineIn? r.place.text) r.cause

/-- Steps that say of each failure where it arises. -/
abbrev Raising (σ : Type) := ExceptT Raised (StateM σ)

/-- Fails at `p`. -/
def Place.raise (p : Place) (e : Error) : Raising σ α := throw ⟨p, e⟩

/-- A step that goes into no other text: it fails at `p`, if it fails. -/
def Place.take (p : Place) (x : Running σ α) : Raising σ α := ExceptT.adapt (Raised.mk p) x

/-- Steps with their failures as errors. -/
def Raising.errors (x : Raising σ α) : Running σ α := ExceptT.adapt Raised.error x

/-! ### Building from the outside in -/

namespace Builder

/-- How the items of a document inside the current one are built, given its text. -/
abbrev NestedAt (σ : Type) := Place → Context → List String → List Item → Raising σ (List Tree)

/-- The content of a file that is filled from a template: the text of the template fails by itself. -/
def contentAt (b : Builder σ) (p : Place) (ctx : Context) (template : String) : Raising σ String :=
  match b.library.file? template with
  | none => p.raise (.missingTemplate .file template)
  | some source => Place.take ⟨template, source⟩ (b.filler.fill ctx source)

/-- A file template, with errors that arise at the place. -/
def fileTemplateAt (b : Builder σ) (p : Place) (ctx : Context) (v : Value) :
    Raising σ (List Tree) := do
  let template ← p.take (b.nameOfTemplate ctx v)
  let name := FileName.sanitize template
  let content ← b.contentAt p (ctx.inFile name) template
  return [.file name content none]

/-- A file, with errors that arise at the place. -/
def fileAt (b : Builder σ) (p : Place) (ctx : Context) (v : Value)
    (content? template? : Option Value) : Raising σ (List Tree) := do
  let name ← p.take (b.name ctx v)
  let content ←
    match content?, template? with
    | some content, _ => p.take (b.text (ctx.inFile name) content)
    | none, some template => do
      let template ← p.take (b.nameOfTemplate ctx template)
      b.contentAt p (ctx.inFile name) template
    | none, none => pure ""
  return [.file name content none]

/-- The trees of items that are read from the text at `p`. -/
def readAt (nested : NestedAt σ) (p : Place) (ctx : Context) (stack : List String) :
    Except Error (List Item) → Raising σ (List Tree)
  | .error e => p.raise e
  | .ok items => nested p ctx stack items

/-- The trees of a project template: reading and building it happen in its own text, all the rest in
    that of the document that includes it. -/
def inclusionAt (b : Builder σ) (nested : NestedAt σ) (p : Place) (ctx : Context)
    (stack : List String) (v : Value) (title? description? : Option Value) :
    Raising σ (List Tree) := do
  let name ← p.take (b.nameOfTemplate ctx v)
  if name.isEmpty then return []
  else if stack.contains name then p.raise (.cyclicInclude (stack ++ [name]))
  else match b.library.project? name with
    | none => p.raise (.missingTemplate .project name)
    | some source =>
      let ctx := ctx.overriding (← p.take (b.overrides ctx title? description?))
      -- Items of a template are built in its own place; the crediting is done here, as in the builder.
      let trees ← readAt nested ⟨name, source⟩ ctx (stack ++ [name]) (templateItems name source)
      return Tree.creditAll name trees

/-- The trees of the items that code gives: running it happens in the document, building its items in
    the text of the code. -/
def scriptAt (b : Builder σ) (nested : NestedAt σ) (p : Place) (ctx : Context)
    (stack : List String) (v : Value) : Raising σ (List Tree) := do
  let code := Document.fillableText v
  let x ← p.take (b.filler.runCode ctx scriptDocument code)
  match scriptItems x with
  | .error e => p.raise e
  | .ok items => nested ⟨scriptDocument, code⟩ ctx stack items

mutual

/-- The trees of an item of the text at `p`. -/
def itemAt (b : Builder σ) (nested : NestedAt σ) (p : Place) (ctx : Context)
    (stack : List String) : Item → Raising σ (List Tree)
  | .implicitFile v => do return [.file (← p.take (b.name ctx v)) "" none]
  | .inclusion v title? description? => b.inclusionAt nested p ctx stack v title? description?
  | .fileTemplate v => b.fileTemplateAt p ctx v
  | .file v content? template? => b.fileAt p ctx v content? template?
  | .folder v contents => do
    let name ← p.take (b.name ctx v)
    return [.folder name (← itemsAt b nested p ctx stack contents) none]
  | .script v => b.scriptAt nested p ctx stack v
  | .shorthand key none => do
    let _ ← p.take (b.text ctx key)
    p.raise (.malformedShorthand (Document.fillableText key))
  | .shorthand key (some contents) => do
    let name ← p.take (b.name ctx key)
    return [.folder name (← itemsAt b nested p ctx stack contents) none]
  | .ignored => return []

/-- The trees of items of the text at `p`, in order. -/
def itemsAt (b : Builder σ) (nested : NestedAt σ) (p : Place) (ctx : Context)
    (stack : List String) : List Item → Raising σ (List Tree)
  | [] => return []
  | i :: is => do
    let trees ← itemAt b nested p ctx stack i
    return trees ++ (← itemsAt b nested p ctx stack is)

end

/-- The trees of items with at most `depth` documents open inside one another. -/
def itemsWithinAt (b : Builder σ) : (depth : Nat) → NestedAt σ
  | 0 => b.itemsAt fun p _ _ _ => p.raise .endlessExpansion
  | depth + 1 => b.itemsAt (b.itemsWithinAt depth)

/-- The tree of the document with the text at `p`. -/
def buildTextAt (b : Builder σ) (p : Place) (ctx : Context) (stack : List String) :
    Raising σ (Option Tree) :=
  match Document.parse p.text with
  | .error e => p.raise e
  | .ok v =>
    match Document.items? v with
    | none => return none
    | some items => do
      let trees ← b.itemsWithinAt (b.library.nesting + scriptNesting) p ctx stack items
      return some (.folder (rootName ctx) trees none)

end Builder

/-! ### Laws of attribution -/

/-- An error that no document is named in is attributed to the document around it. -/
theorem Error.attributedTo_of_document? {e : Error} (h : e.document? = none)
    (document text : String) :
    e.attributedTo document text = .located document (e.lineIn? text) e := by
  refine Error.attributedTo_eq_located ?_ document text
  rintro d line? cause rfl
  cases h

/-- What is attributed to a document already is not attributed to another one. -/
theorem Error.attributedTo_attributedTo (e : Error) (document text document' text' : String) :
    (e.attributedTo document text).attributedTo document' text' = e.attributedTo document text := by
  cases e <;> rfl

/-- An ordinary error names no document. -/
theorem Error.IsOrdinary.document? {e : Error} (h : e.IsOrdinary) : e.document? = none := by
  cases e with
  | located d line? cause => exact absurd h id
  | _ => rfl

/-- An error of filling in a text names no document. -/
theorem Error.document?_of_filling {e : Error} (h : e.ArisesInFilling) : e.document? = none :=
  (Error.isOrdinary_of_filling h).document?

namespace Builder

/-- How an attributed step ends: a failure is attributed, and nothing else changes. -/
theorem run_attributed (document text : String) (x : Running σ α) (s : σ) :
    (attributed document text x).run s =
      match x.run s with
      | (.ok a, s') => (.ok a, s')
      | (.error e, s') => (.error (e.attributedTo document text), s') := by
  unfold attributed
  rw [run_tryCatch]
  rcases x.run s with ⟨_ | _, _⟩ <;> rfl

/-- The parts of a compound step may be attributed one by one. -/
theorem attributed_bind (document text : String) (x : Running σ α) (f : α → Running σ β) :
    attributed document text (x >>= f) =
      attributed document text x >>= fun a => attributed document text (f a) := by
  refine step_ext fun s => ?_
  rw [run_attributed, run_bind, run_bind, run_attributed]
  rcases x.run s with ⟨e | a, s'⟩
  · rfl
  · exact (run_attributed document text (f a) s').symm

end Builder

/-- Writing errors down where they arise, in one step behind the other. -/
theorem Raising.errors_bind (x : Raising σ α) (f : α → Raising σ β) :
    Raising.errors (x >>= f) = Raising.errors x >>= fun a => Raising.errors (f a) := by
  refine step_ext fun s => ?_
  unfold Raising.errors
  rw [run_adapt, run_bind, run_bind, run_adapt]
  rcases x.run s with ⟨r | a, s'⟩
  · rfl
  · exact (run_adapt Raised.error (f a) s').symm

namespace Place

/-- What `x` attributes to `p` on the way out is what `y` raises on the way in. -/
def Attributes (p : Place) (x : Running σ α) (y : Raising σ α) : Prop :=
  Builder.attributed p.document p.text x = Raising.errors y

variable {p : Place}

/-- A value needs no attribution. -/
theorem attributes_pure {a : α} : p.Attributes (pure a : Running σ α) (pure a) := rfl

/-- Failing, and being attributed to a document, is failing there. -/
theorem attributes_throw {e : Error} (h : e.document? = none) :
    p.Attributes (throw e : Running σ α) (p.raise e) := by
  refine step_ext fun s => ?_
  unfold Raising.errors raise
  rw [run_adapt, Builder.run_attributed]
  exact congrArg (fun e' => (Except.error e', s))
    (Error.attributedTo_of_document? h p.document p.text)

/-- The same for filling placeholders and running code, which go into no other text. -/
theorem attributes_take {x : Running σ α} {G : α → Prop} (h : Yields x G Error.ArisesInFilling) :
    p.Attributes x (p.take x) := by
  refine step_ext fun s => ?_
  unfold Raising.errors take
  -- Both sides run `x` once; only the error differs, and it has no place yet.
  rw [run_adapt, run_adapt, Builder.run_attributed]
  rcases hrun : x.run s with ⟨e | a, s'⟩
  · have he : e.document? = none :=
      Error.document?_of_filling (h.error_of_run (congrArg Prod.fst hrun))
    exact congrArg (fun e' => (Except.error e', s'))
      (Error.attributedTo_of_document? he p.document p.text)
  · rfl

/-- The rule for compound steps. -/
theorem Attributes.bind {x : Running σ α} {y : Raising σ α} {f : α → Running σ β}
    {g : α → Raising σ β} (hx : p.Attributes x y) (hf : ∀ a, p.Attributes (f a) (g a)) :
    p.Attributes (x >>= f) (y >>= g) := by
  unfold Attributes at hx ⊢
  rw [Builder.attributed_bind, Raising.errors_bind, hx]
  exact congrArg (Raising.errors y >>= ·) (funext hf)

/-- **The innermost document wins.** What is attributed inside stays as it is. -/
theorem Attributes.attributed {q : Place} {x : Running σ α} {y : Raising σ α}
    (h : q.Attributes x y) :
    p.Attributes (Builder.attributed q.document q.text x) y := by
  refine Eq.trans (step_ext fun s => ?_) h
  rw [Builder.run_attributed, Builder.run_attributed]
  rcases x.run s with ⟨e | a, s'⟩
  · cases e <;> rfl
  · rfl

end Place

namespace Builder

/-! ### Items -/

/-- What comes of a script that prints no items names no document. -/
theorem document?_of_scriptItems {x : CodeResult} {e : Error} (h : scriptItems x = .error e) :
    e.document? = none := by
  unfold scriptItems at h
  -- The error is about what was printed, whose place is not known yet.
  dsimp only at h
  generalize Document.parse (Text.trim x.output) = read at h
  split at h
  · cases h
  · cases h
  · cases h
    rfl
  · split at h
    · cases h
    · cases read with
      | error e' =>
        cases h
        rfl
      | ok v =>
        dsimp only at h
        split at h
        · cases h
        · cases h
          rfl

/-- What the documents inside attribute on the way out is what they raise on the way in. -/
def RaisesAlike (nested : Nested σ) (nestedAt : NestedAt σ) : Prop :=
  ∀ (p : Place) (ctx : Context) (stack : List String) (is : List Item),
    p.Attributes (nested ctx stack is) (nestedAt p ctx stack is)

section Items

variable (b : Builder σ) (p : Place) (ctx : Context)

/-- What fails in the text of a file template is attributed to it. -/
theorem contentFrom_attributes (template : String) :
    p.Attributes (b.contentFrom ctx template) (b.contentAt p ctx template) := by
  unfold contentFrom contentAt
  cases b.library.file? template with
  | none => exact Place.attributes_throw rfl
  | some source =>
    have hfill := Place.attributes_take (p := ⟨template, source⟩) (b.filler.fill_yields ctx source)
    exact hfill.attributed

/-- A file template raises its errors at the place. -/
theorem fileTemplate_attributes (v : Value) :
    p.Attributes (b.fileTemplate ctx v) (b.fileTemplateAt p ctx v) := by
  unfold fileTemplate fileTemplateAt
  refine (Place.attributes_take (b.nameOfTemplate_yields ctx v)).bind fun template => ?_
  exact (b.contentFrom_attributes p _ template).bind fun _ => Place.attributes_pure

/-- A file raises its errors at the place. -/
theorem file_attributes (v : Value) (content? template? : Option Value) :
    p.Attributes (b.file ctx v content? template?) (b.fileAt p ctx v content? template?) := by
  unfold file fileAt
  refine (Place.attributes_take (b.name_yields ctx v)).bind fun name => ?_
  -- A content of its own, a template, or nothing.
  match content?, template? with
  | some content, _ =>
    exact (Place.attributes_take (b.text_yields _ content)).bind fun _ => Place.attributes_pure
  | none, some template =>
    refine (Place.attributes_take (b.nameOfTemplate_yields _ template)).bind fun name => ?_
    exact (b.contentFrom_attributes p _ name).bind fun _ => Place.attributes_pure
  | none, none => exact Place.attributes_pure

variable {nested : Nested σ} {nestedAt : NestedAt σ}

/-- What fails in the text of a project template is attributed to it, what fails about the inclusion to
    the document around it. -/
theorem inclusion_attributes (hnested : RaisesAlike nested nestedAt) (stack : List String)
    (v : Value) (title? description? : Option Value) :
    p.Attributes (b.inclusion nested ctx stack v title? description?)
      (b.inclusionAt nestedAt p ctx stack v title? description?) := by
  unfold inclusion inclusionAt
  refine (Place.attributes_take (b.nameOfTemplate_yields ctx v)).bind fun name => ?_
  -- A blank name, one that is open, one without a template: nothing has been gone into so far.
  by_cases hempty : name.isEmpty
  · simp only [if_pos hempty]
    exact Place.attributes_pure
  · simp only [if_neg hempty]
    by_cases hopen : stack.contains name
    · simp only [if_pos hopen]
      exact Place.attributes_throw rfl
    · simp only [if_neg hopen]
      cases b.library.project? name with
      | none => exact Place.attributes_throw rfl
      | some source =>
        refine (Place.attributes_take (b.overrides_yields ctx title? description?)).bind
          fun overrides => ?_
        -- Reading the template must not be evaluated while the steps behind it are taken apart.
        generalize hread : templateItems name source = read
        refine Place.Attributes.bind (Place.Attributes.attributed (q := ⟨name, source⟩) ?_)
          fun _ => Place.attributes_pure
        cases read with
        | error e => exact Place.attributes_throw (isOrdinary_of_templateItems hread).document?
        | ok is => exact hnested ⟨name, source⟩ _ (stack ++ [name]) is

/-- What fails among the items of code is attributed to the code, what fails when it is run to the
    document around it. -/
theorem script_attributes (hnested : RaisesAlike nested nestedAt) (stack : List String)
    (v : Value) :
    p.Attributes (b.script nested ctx stack v) (b.scriptAt nestedAt p ctx stack v) := by
  simp only [script, scriptAt]
  refine (Place.attributes_take (b.filler.runCode_yields ctx _ _)).bind fun x => ?_
  cases hitems : scriptItems x with
  | error e => exact Place.attributes_throw (document?_of_scriptItems hitems)
  | ok is => exact (hnested ⟨scriptDocument, Document.fillableText v⟩ ctx stack is).attributed

mutual

/-- An item raises its errors at the place, if the items inside of templates do so at theirs. -/
theorem item_attributes (hnested : RaisesAlike nested nestedAt) (stack : List String) :
    -- The cases follow the kinds of items: what fails in the item itself is raised at its place.
    ∀ i : Item, p.Attributes (b.item nested ctx stack i) (b.itemAt nestedAt p ctx stack i)
  | .implicitFile v => by
    simp only [item, itemAt]
    exact (Place.attributes_take (b.name_yields ctx v)).bind fun _ => Place.attributes_pure
  | .inclusion v title? description? => by
    simp only [item, itemAt]
    exact b.inclusion_attributes p ctx hnested stack v title? description?
  | .fileTemplate v => by
    simp only [item, itemAt]
    exact b.fileTemplate_attributes p ctx v
  | .file v content? template? => by
    simp only [item, itemAt]
    exact b.file_attributes p ctx v content? template?
  | .folder v contents => by
    simp only [item, itemAt]
    refine (Place.attributes_take (b.name_yields ctx v)).bind fun _ => ?_
    exact (items_attributes hnested stack contents).bind fun _ => Place.attributes_pure
  | .script v => by
    simp only [item, itemAt]
    exact b.script_attributes p ctx hnested stack v
  | .shorthand key none => by
    simp only [item, itemAt]
    exact (Place.attributes_take (b.text_yields ctx key)).bind fun _ => Place.attributes_throw rfl
  | .shorthand key (some contents) => by
    simp only [item, itemAt]
    refine (Place.attributes_take (b.name_yields ctx key)).bind fun _ => ?_
    exact (items_attributes hnested stack contents).bind fun _ => Place.attributes_pure
  | .ignored => by
    simp only [item, itemAt]
    exact Place.attributes_pure

/-- **One document.** What items attribute on the way out is what they raise on the way in, if this is
    so for the documents inside. -/
theorem items_attributes (hnested : RaisesAlike nested nestedAt) (stack : List String) :
    ∀ is : List Item, p.Attributes (b.items nested ctx stack is) (b.itemsAt nestedAt p ctx stack is)
  | [] => by
    simp only [items, itemsAt]
    exact Place.attributes_pure
  | i :: is => by
    simp only [items, itemsAt]
    refine (item_attributes hnested stack i).bind fun _ => ?_
    exact (items_attributes hnested stack is).bind fun _ => Place.attributes_pure

end

end Items

/-- **All documents.** The same with a budget for the documents inside one another. -/
theorem itemsWithin_attributes (b : Builder σ) (depth : Nat) :
    RaisesAlike (b.itemsWithin depth) (b.itemsWithinAt depth) := by
  induction depth with
  | zero =>
    refine fun p ctx stack is => b.items_attributes p ctx ?_ stack is
    exact fun p _ _ _ => Place.attributes_throw rfl
  | succ depth ih => exact fun p ctx stack is => b.items_attributes p ctx ih stack is

/-! ### Errors are attributed once -/

end Builder

/-- The error names at most one document that it arises in. -/
def Error.NamesOne : Error → Prop
  | .located _ _ cause => cause.document? = none
  | _ => True

/-- An error that names no document names at most one. -/
theorem Error.namesOne_of_document? {e : Error} (h : e.document? = none) : e.NamesOne := by
  cases e with
  | located d line? cause => cases h
  | _ => trivial

/-- An attributed error names one document: the innermost one stays. -/
theorem Error.NamesOne.attributedTo {e : Error} (h : e.NamesOne) (document text : String) :
    (e.attributedTo document text).NamesOne := by
  cases e with
  | located d line? cause => exact h
  | _ => rfl

/-- The line that an error is located on is one of the text, unless the text could not be read. -/
theorem Error.lineIn?_bounds {e : Error} {text : String} {line : Nat}
    (h : e.lineIn? text = some line) (hparse : ∀ line? problem, e ≠ .parse line? problem) :
    1 ≤ line ∧ line ≤ (Text.lines text).length := by
  -- All errors but those of the parser take their line from the text.
  have hclue : e.clue?.bind (lineMentioning? text) = some line := by
    cases e with
    | parse line? problem => exact absurd rfl (hparse line? problem)
    | _ => exact h
  obtain ⟨wanted, -, hline⟩ := Option.bind_eq_some_iff.1 hclue
  simp only [lineMentioning?] at hline
  split at hline
  · cases hline
  · obtain ⟨i, hi, rfl⟩ := Option.map_eq_some_iff.1 hline
    obtain ⟨hlt, -⟩ := List.findIdx?_eq_some_iff_getElem.1 hi
    simpa [Text.lines, Nat.succ_le_iff] using hlt

namespace Builder

/-- Building passes such errors on. -/
theorem closed_namesOne : Closed (fun _ => True) Error.NamesOne where
  file _ _ _ := trivial
  folder _ _ _ _ := trivial
  credit _ _ _ := trivial
  filling _ h := Error.namesOne_of_document? (Error.document?_of_filling h)
  inTemplate template source _ h :=
    (Error.namesOne_of_document? (Error.document?_of_filling h)).attributedTo template source
  missing _ _ := trivial
  malformed _ := trivial

/-- Items fail with such errors, if nested ones do. -/
theorem items_namesOne {b : Builder σ} {nested : Nested σ}
    (hnested : ∀ ctx stack is,
      Yields (nested ctx stack is) (fun trees => ∀ t ∈ trees, True) Error.NamesOne)
    (ctx : Context) (stack : List String) (is : List Item) :
    Yields (b.items nested ctx stack is) (fun trees => ∀ t ∈ trees, True) Error.NamesOne := by
  refine items_yields closed_namesOne ?_ is ?_
  -- In an inclusion the error may be in the template's own text, or further inside.
  · refine inclusion_yields closed_namesOne (fun _ _ => trivial) ?_ ?_ ctx
    · intro name source e h
      have he := (isOrdinary_of_templateItems h).document?
      exact (Error.namesOne_of_document? he).attributedTo name source
    · intro ctx name source is _ _ _
      exact (hnested ctx _ is).error_imp fun e he => he.attributedTo name source
  · -- What code gives may be anything, but it fails like a document.
    intro v _
    refine script_yields closed_namesOne ?_ ctx v ?_
    · exact fun x e h => Error.namesOne_of_document? (document?_of_scriptItems h)
    · intro x is _
      exact (hnested ctx stack is).error_imp fun e he => he.attributedTo _ _

/-- Items fail with such errors, however deep they may be nested. -/
theorem itemsWithin_namesOne (b : Builder σ) (depth : Nat) (ctx : Context) (stack : List String)
    (is : List Item) :
    Yields (b.itemsWithin depth ctx stack is) (fun trees => ∀ t ∈ trees, True)
      Error.NamesOne := by
  induction depth generalizing ctx stack is with
  | zero =>
    -- The fault of the used-up budget names no document.
    refine items_namesOne (fun _ _ _ => yields_throw ?_) ctx stack is
    exact Error.namesOne_of_document? rfl
  | succ depth ih => exact items_namesOne ih ctx stack is

/-! ### Whole documents -/

/-- A template fails with an error that names one document at most. -/
theorem buildText_namesOne (b : Builder σ) (document source : String) (ctx : Context)
    (stack : List String) :
    Yields (b.buildText document source ctx stack) (fun _ => True) Error.NamesOne := by
  unfold buildText
  generalize hread : Document.parse source = read
  apply attributed_yields
  refine Yields.error_imp (B := Error.NamesOne) ?_ fun e h => h.attributedTo document source
  -- Either the document cannot be read, or it has no items, or they are built.
  cases read with
  | error e =>
    exact yields_throw (Error.namesOne_of_document? (Document.isOrdinary_of_parse hread).document?)
  | ok v =>
    dsimp only [build]
    cases Document.items? v with
    | none => exact yields_pure trivial
    | some is => exact (b.itemsWithin_namesOne _ ctx stack is).bind fun _ _ => yields_pure trivial

/-- Building a template attributes the errors that arise in it to the place where they arise. -/
theorem buildText_eq (b : Builder σ) (p : Place) (ctx : Context) (stack : List String) :
    b.buildText p.document p.text ctx stack = Raising.errors (b.buildTextAt p ctx stack) := by
  unfold buildText buildTextAt
  -- The template is read once, before either side looks at its items.
  generalize hread : Document.parse p.text = read
  cases read with
  | error e => exact Place.attributes_throw (Document.isOrdinary_of_parse hread).document?
  | ok v =>
    dsimp only [build]
    cases Document.items? v with
    | none => exact Place.attributes_pure
    | some is =>
      exact (b.itemsWithin_attributes _ p ctx stack is).bind fun _ => Place.attributes_pure

/-- **Failures are attributed where they arise.** Building the text of a document is building that raises
    each failure in the text it arises in: the text of a file template while that is filled, the code
    while the items it gives are built, the text of a project template while that is read and built, and
    the text of the document itself else. An error of it is such a failure, located once: in that text, on a line
    that the text has, if one is given and the text could be read. -/
theorem buildText_attributed (b : Builder σ) (document source : String) (ctx : Context)
    (stack : List String) :
    b.buildText document source ctx stack =
      Raising.errors (b.buildTextAt ⟨document, source⟩ ctx stack) ∧
    ∀ s s' e, (b.buildText document source ctx stack).run s = (.error e, s') →
      ∃ place cause, (b.buildTextAt ⟨document, source⟩ ctx stack).run s = (.error ⟨place, cause⟩, s') ∧
        e = .located place.document (cause.lineIn? place.text) cause ∧
        cause.document? = none ∧
        ∀ line, e.line? = some line → (∀ line? problem, cause ≠ .parse line? problem) →
          1 ≤ line ∧ line ≤ (Text.lines place.text).length := by
  have heq := b.buildText_eq ⟨document, source⟩ ctx stack
  refine ⟨heq, fun s s' e hrun => ?_⟩
  have hone := (b.buildText_namesOne document source ctx stack).error_of_run
    (congrArg Prod.fst hrun)
  dsimp only at heq
  rw [heq, Raising.errors, run_adapt] at hrun
  -- The error of the run is that of the failure raised in the other one.
  rcases hraised : (b.buildTextAt ⟨document, source⟩ ctx stack).run s with ⟨⟨place, cause⟩ | t, s₁⟩
  · rw [hraised] at hrun
    cases hrun
    exact ⟨place, cause, rfl, rfl, hone, fun line hline hparse => Error.lineIn?_bounds hline hparse⟩
  · rw [hraised] at hrun
    cases hrun

/-! ### A file template inside a project template -/

/-- A project template with a file that is filled from a file template. -/
def notesBuilder : Builder Unit where
  filler := ⟨idleEngine, none⟩
  library := .ofTables ⟨[("base", "- docs:\n  - file_template: notes\n")]⟩
    ⟨[("notes", "Notes\n=====\n\x7bmp:author\x7d\n")]⟩

/-- Nobody said who the author is: that is noticed on the third line of `notes`, and attributed neither to
    `base` nor to the document that includes it. -/
theorem buildText_attributed_notes :
    (notesBuilder.buildText "plan" "- project_template: base\n" .empty []).run () =
      (.error (.located "notes" (some 3) (.unknownToken "author")), ()) ∧
    ∃ place, (notesBuilder.buildTextAt ⟨"plan", "- project_template: base\n"⟩ .empty []).run () =
        (.error ⟨place, .unknownToken "author"⟩, ()) ∧
      place.document = "notes" ∧ 1 ≤ 3 ∧ 3 ≤ (Text.lines place.text).length := by
  have hrun : (notesBuilder.buildText "plan" "- project_template: base\n" .empty []).run () =
      (.error (.located "notes" (some 3) (.unknownToken "author")), ()) :=
    -- The run is computed, and the theorem says where its error was raised.
    run_of_failsWith (by decide +kernel)
  obtain ⟨place, cause, hraised, he, hcause, hline⟩ :=
    (buildText_attributed notesBuilder "plan" "- project_template: base\n" .empty []).2 () () _ hrun
  obtain ⟨hdocument, -, rfl⟩ := Error.located.inj he
  have hbounds := hline 3 rfl fun line? problem h => by cases h
  exact ⟨hrun, place, hraised, hdocument.symm, hbounds⟩

end Builder

end Scaffold
