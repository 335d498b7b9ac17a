import Scaffold.Proofs.Builder.Attribution

namespace Scaffold

/-!
# Which template a tree comes from

An inclusion builds the items of its template first and credits the template with the trees afterwards, as far
as they have not been credited by an inclusion further inside. The same can be said the other way round: go into
the templates, keep in mind which one the items at hand belong to, and note it on each file and folder at the
place where it is made. Nothing is credited afterwards then.

* `Tree.creditBy` — credit to the template that items belong to, if they belong to one;
* `Builder.buildFrom` — building that hands the template down: code and folders hand on the one they are given,
  an inclusion hands down its own;
* `Builder.items_credited`, `Builder.itemsWithin_credited` — building with credit afterwards gives the same, for
  one document and for all documents inside it;
* `Builder.build_from` — the whole.
-/

open Document (Item)
open Yaml (Value)

variable {σ α β : Type}

/-! ### Laws of credit -/

namespace Tree

/-- Credit to the project template that the items of the trees belong to, if they belong to one. -/
def creditBy : (origin? : Option String) → List Tree → List Tree
  | none, ts => ts
  | some template, ts => creditAll template ts

/-- Crediting trees is crediting each of them. -/
theorem creditAll_eq_map (template : String) (ts : List Tree) :
    creditAll template ts = ts.map (credit template) := by
  induction ts with
  | nil => simp only [creditAll, List.map_nil]
  | cons t ts ih => simp only [creditAll, List.map_cons, ih]

/-- There is nothing to credit without trees. -/
@[simp] theorem creditBy_nil (origin? : Option String) : creditBy origin? [] = [] := by
  cases origin? with
  | none => rfl
  | some template => simp only [creditBy, creditAll]

/-- Trees one behind the other are credited one behind the other. -/
theorem creditBy_append (origin? : Option String) (ts us : List Tree) :
    creditBy origin? (ts ++ us) = creditBy origin? ts ++ creditBy origin? us := by
  cases origin? with
  | none => rfl
  | some template => simp only [creditBy, creditAll_eq_map, List.map_append]

/-- A file that is credited to none yet. -/
@[simp] theorem creditBy_file (origin? : Option String) (name content : String) :
    creditBy origin? [.file name content none] = [.file name content origin?] := by
  cases origin? with
  | none => rfl
  | some template => simp only [creditBy, creditAll, credit, Option.none_or]

/-- A folder that is credited to none yet, with its children. -/
@[simp] theorem creditBy_folder (origin? : Option String) (name : String) (children : List Tree) :
    creditBy origin? [.folder name children none] = [.folder name (creditBy origin? children) origin?] := by
  cases origin? with
  | none => rfl
  | some template => simp only [creditBy, creditAll, credit, Option.none_or]

mutual

/-- A tree that is credited to one template has nothing left for another one to be credited with. -/
theorem credit_credit (outer inner : String) : ∀ t : Tree, (t.credit inner).credit outer = t.credit inner
  | .file name content t? => by
    simp only [credit, Option.or_assoc, Option.some_or]
  | .folder name children t? => by
    simp only [credit, Option.or_assoc, Option.some_or]
    rw [creditAll_creditAll outer inner children]

/-- Who is credited first stays credited. -/
theorem creditAll_creditAll (outer inner : String) :
    ∀ ts : List Tree, creditAll outer (creditAll inner ts) = creditAll inner ts
  | [] => by simp only [creditAll]
  | t :: ts => by
    simp only [creditAll]
    rw [credit_credit outer inner t, creditAll_creditAll outer inner ts]

end

/-- **The inner template keeps its trees.** -/
theorem creditBy_creditAll (origin? : Option String) (inner : String) (ts : List Tree) :
    creditBy origin? (creditAll inner ts) = creditAll inner ts := by
  cases origin? with
  | none => rfl
  | some outer => exact creditAll_creditAll outer inner ts

end Tree

namespace Builder

/-! ### Building that hands the template down -/

/-- How the items of a document inside the current one are built, given the project template that they
    belong to, if any. -/
abbrev NestedFrom (σ : Type) :=
  (origin? : Option String) → Context → List String → List Item → Running σ (List Tree)

/-- A file template whose file is credited already. -/
def fileTemplateFrom (b : Builder σ) (origin? : Option String) (ctx : Context) (v : Value) :
    Running σ (List Tree) := do
  let template ← b.nameOfTemplate ctx v
  let name := FileName.sanitize template
  let content ← b.contentFrom (ctx.inFile name) template
  return [.file name content origin?]

/-- A file that is credited already. -/
def fileFrom (b : Builder σ) (origin? : Option String) (ctx : Context) (v : Value)
    (content? template? : Option Value) : Running σ (List Tree) := do
  let name ← b.name ctx v
  let content ←
    match content?, template? with
    | some content, _ => b.text (ctx.inFile name) content
    | none, some template => do
      let template ← b.nameOfTemplate ctx template
      b.contentFrom (ctx.inFile name) template
    | none, none => pure ""
  return [.file name content origin?]

/-- The trees of a project template: its items belong to it, whatever the inclusion belongs to. -/
def inclusionFrom (b : Builder σ) (nested : NestedFrom σ) (ctx : Context) (stack : List String)
    (v : Value) (title? description? : Option Value) : Running σ (List Tree) := do
  let name ← b.nameOfTemplate ctx v
  if name.isEmpty then return []
  else if stack.contains name then throw (.cyclicInclude (stack ++ [name]))
  else match b.library.project? name with
    | none => throw (.missingTemplate .project name)
    | some source =>
      -- What a template describes is built with that template handed down, and not credited afterwards.
      let ctx := ctx.overriding (← b.overrides ctx title? description?)
      attributed name source do
        match templateItems name source with
        | .error e => throw e
        | .ok items => nested (some name) ctx (stack ++ [name]) items

/-- The trees of the items that code gives: they belong where the code belongs. -/
def scriptFrom (b : Builder σ) (nested : NestedFrom σ) (origin? : Option String) (ctx : Context)
    (stack : List String) (v : Value) : Running σ (List Tree) := do
  let code := Document.fillableText v
  let x ← b.filler.runCode ctx scriptDocument code
  match scriptItems x with
  | .error e => throw e
  | .ok items => attributed scriptDocument code (nested origin? ctx stack items)

mutual

/-- The trees of an item that belongs to the project template `origin?`. -/
def itemFrom (b : Builder σ) (nested : NestedFrom σ) (origin? : Option String) (ctx : Context)
    (stack : List String) : Item → Running σ (List Tree)
  | .implicitFile v => do return [.file (← b.name ctx v) "" origin?]
  | .inclusion v title? description? => b.inclusionFrom nested ctx stack v title? description?
  | .fileTemplate v => b.fileTemplateFrom origin? ctx v
  | .file v content? template? => b.fileFrom origin? ctx v content? template?
  | .folder v contents => do
    let name ← b.name ctx v
    return [.folder name (← itemsFrom b nested origin? ctx stack contents) origin?]
  | .script v => b.scriptFrom nested origin? ctx stack v
  | .shorthand key none => do
    let _ ← b.text ctx key
    throw (.malformedShorthand (Document.fillableText key))
  | .shorthand key (some contents) => do
    let name ← b.name ctx key
    return [.folder name (← itemsFrom b nested origin? ctx stack contents) origin?]
  | .ignored => return []

/-- The trees of items that belong to the project template `origin?`, in order. -/
def itemsFrom (b : Builder σ) (nested : NestedFrom σ) (origin? : Option String) (ctx : Context)
    (stack : List String) : List Item → Running σ (List Tree)
  | [] => return []
  | i :: is => do
    let trees ← itemFrom b nested origin? ctx stack i
    return trees ++ (← itemsFrom b nested origin? ctx stack is)

end

/-- The trees of items with at most `depth` documents open inside one another. -/
def itemsWithinFrom (b : Builder σ) : (depth : Nat) → NestedFrom σ
  | 0 => b.itemsFrom fun _ _ _ _ => throw .endlessExpansion
  | depth + 1 => b.itemsFrom (b.itemsWithinFrom depth)

/-- The tree of a document, whose own items belong to no project template. -/
def buildFrom (b : Builder σ) (v : Value) (ctx : Context) (stack : List String) :
    Running σ (Option Tree) := do
  match Document.items? v with
  | none => return none
  | some items =>
    let trees ← b.itemsWithinFrom (b.library.nesting + scriptNesting) none ctx stack items
    return some (.folder (rootName ctx) trees none)

/-! ### Credit afterwards -/

/-- Credit goes to the values of a step; how its failures are attributed does not matter for it. -/
theorem map_attributed (document text : String) (f : α → β) (x : Running σ α) :
    f <$> attributed document text x = attributed document text (f <$> x) := by
  refine step_ext fun s => ?_
  rw [map_eq_pure_bind, map_eq_pure_bind, run_bind, run_attributed, run_attributed, run_bind]
  rcases x.run s with ⟨e | a, s'⟩
  · rfl
  · rfl

/-- The trees of `y` are those of `x` with credit to `origin?`. -/
def Credited (origin? : Option String) (x y : Running σ (List Tree)) : Prop :=
  Tree.creditBy origin? <$> x = y

section Credited

variable {origin? : Option String} {x y : Running σ (List Tree)}

/-- Trees that are credited already. -/
theorem credited_pure {ts us : List Tree} (h : Tree.creditBy origin? ts = us) :
    Credited origin? (pure ts : Running σ (List Tree)) (pure us) := by
  rw [Credited, map_pure, h]

/-- A failure leaves nothing that could be credited. -/
theorem credited_throw (e : Error) :
    Credited origin? (throw e : Running σ (List Tree)) (throw e) := rfl

/-- What comes first may be anything that both have in common. -/
theorem credited_bind (x : Running σ α) {f g : α → Running σ (List Tree)}
    (h : ∀ a, Credited origin? (f a) (g a)) : Credited origin? (x >>= f) (x >>= g) := by
  rw [Credited, map_bind]
  exact congrArg (x >>= ·) (funext h)

/-- The rule for trees that are put into larger ones. -/
theorem Credited.bind (h : Credited origin? x y) {f g : List Tree → Running σ (List Tree)}
    (hfg : ∀ ts, Credited origin? (f ts) (g (Tree.creditBy origin? ts))) :
    Credited origin? (x >>= f) (y >>= g) := by
  rw [Credited, ← h, map_bind, bind_map_left]
  exact congrArg (x >>= ·) (funext hfg)

/-- Attributing errors does not change who is credited. -/
theorem Credited.attributed (h : Credited origin? x y) (document text : String) :
    Credited origin? (Builder.attributed document text x) (Builder.attributed document text y) := by
  rw [Credited, map_attributed, h]

/-- What has been credited to a template further inside stays as it is. -/
theorem Credited.inside {template : String} (h : Credited (some template) x y) :
    Credited origin? (x >>= fun ts => pure (Tree.creditAll template ts)) y := by
  rw [Credited, ← h, map_bind, map_eq_pure_bind]
  refine congrArg (x >>= ·) (funext fun ts => ?_)
  rw [map_pure, Tree.creditBy_creditAll]
  rfl

end Credited

/-- The documents inside give with credit afterwards what they give if the template is handed down. -/
def CreditedAlike (nested : Nested σ) (nestedFrom : NestedFrom σ) : Prop :=
  ∀ (origin? : Option String) (ctx : Context) (stack : List String) (is : List Item),
    Credited origin? (nested ctx stack is) (nestedFrom origin? ctx stack is)

section Items

variable (b : Builder σ) (origin? : Option String) (ctx : Context)

/-- A file template is credited as its file is. -/
theorem fileTemplate_credited (v : Value) :
    Credited origin? (b.fileTemplate ctx v) (b.fileTemplateFrom origin? ctx v) := by
  unfold fileTemplate fileTemplateFrom
  refine credited_bind _ fun template => credited_bind _ fun content => ?_
  exact credited_pure (Tree.creditBy_file origin? _ content)

/-- A file is credited as it would be by itself. -/
theorem file_credited (v : Value) (content? template? : Option Value) :
    Credited origin? (b.file ctx v content? template?) (b.fileFrom origin? ctx v content? template?) := by
  unfold file fileFrom
  refine credited_bind _ fun name => ?_
  have hmade (content : String) := credited_pure (σ := σ) (Tree.creditBy_file origin? name content)
  -- A content of its own, a template, or nothing.
  match content?, template? with
  | some content, _ => exact credited_bind _ hmade
  | none, some template => exact credited_bind _ fun _ => credited_bind _ hmade
  | none, none => exact hmade ""

variable {nested : Nested σ} {nestedFrom : NestedFrom σ}

/-- An inclusion is credited with its trees whatever it belongs to itself. -/
theorem inclusion_credited (hnested : CreditedAlike nested nestedFrom) (stack : List String) (v : Value)
    (title? description? : Option Value) :
    Credited origin? (b.inclusion nested ctx stack v title? description?)
      (b.inclusionFrom nestedFrom ctx stack v title? description?) := by
  unfold inclusion inclusionFrom
  refine credited_bind _ fun name => ?_
  by_cases hempty : name.isEmpty
  · simp only [if_pos hempty]
    exact credited_pure (Tree.creditBy_nil origin?)
  · simp only [if_neg hempty]
    by_cases hopen : stack.contains name
    · simp only [if_pos hopen]
      exact credited_throw _
    · simp only [if_neg hopen]
      cases b.library.project? name with
      | none => exact credited_throw _
      | some source =>
        refine credited_bind _ fun overrides => ?_
        -- Reading the template must not be evaluated while the steps behind it are taken apart.
        generalize templateItems name source = read
        refine Credited.inside (Credited.attributed ?_ name source)
        cases read with
        | error e => exact credited_throw e
        | ok is => exact hnested (some name) _ _ is

/-- The items of a script are credited as the script is. -/
theorem script_credited (hnested : CreditedAlike nested nestedFrom) (stack : List String) (v : Value) :
    Credited origin? (b.script nested ctx stack v) (b.scriptFrom nestedFrom origin? ctx stack v) := by
  simp only [script, scriptFrom]
  refine credited_bind _ fun x => ?_
  cases scriptItems x with
  | error e => exact credited_throw e
  | ok is => exact (hnested origin? ctx stack is).attributed _ _

mutual

/-- Any item is credited as it would be by itself. -/
theorem item_credited (hnested : CreditedAlike nested nestedFrom) (stack : List String) :
    ∀ i : Item, Credited origin? (b.item nested ctx stack i) (b.itemFrom nestedFrom origin? ctx stack i)
  | .implicitFile v => by
    simp only [item, itemFrom]
    -- A file or a folder is credited where it is made; the other kinds pass on what was built below them.
    exact credited_bind _ fun name => credited_pure (Tree.creditBy_file origin? name "")
  | .inclusion v title? description? => by
    simp only [item, itemFrom]
    exact b.inclusion_credited origin? ctx hnested stack v title? description?
  | .fileTemplate v => by
    simp only [item, itemFrom]
    exact b.fileTemplate_credited origin? ctx v
  | .file v content? template? => by
    simp only [item, itemFrom]
    exact b.file_credited origin? ctx v content? template?
  | .folder v contents => by
    simp only [item, itemFrom]
    refine credited_bind _ fun name => (items_credited hnested stack contents).bind fun ts => ?_
    exact credited_pure (Tree.creditBy_folder origin? name ts)
  | .script v => by
    simp only [item, itemFrom]
    exact b.script_credited origin? ctx hnested stack v
  | .shorthand key none => by
    simp only [item, itemFrom]
    exact credited_bind _ fun _ => credited_throw _
  | .shorthand key (some contents) => by
    simp only [item, itemFrom]
    refine credited_bind _ fun name => (items_credited hnested stack contents).bind fun ts => ?_
    exact credited_pure (Tree.creditBy_folder origin? name ts)
  | .ignored => by
    simp only [item, itemFrom]
    exact credited_pure (Tree.creditBy_nil origin?)

/-- **One document.** Its items give with credit afterwards what they give if the template they belong to is
    handed down, provided this is so for the documents inside. -/
theorem items_credited (hnested : CreditedAlike nested nestedFrom) (stack : List String) :
    ∀ is : List Item,
      Credited origin? (b.items nested ctx stack is) (b.itemsFrom nestedFrom origin? ctx stack is)
  | [] => by
    simp only [items, itemsFrom]
    exact credited_pure (Tree.creditBy_nil origin?)
  | i :: is => by
    simp only [items, itemsFrom]
    refine (item_credited hnested stack i).bind fun ts => (items_credited hnested stack is).bind fun us => ?_
    exact credited_pure (Tree.creditBy_append origin? ts us)

end

end Items

/-- However many documents may be opened inside one another. -/
theorem itemsWithin_credited (b : Builder σ) (depth : Nat) :
    CreditedAlike (b.itemsWithin depth) (b.itemsWithinFrom depth) := by
  induction depth with
  | zero =>
    intro origin? ctx stack is
    exact b.items_credited origin? ctx (fun _ _ _ _ => credited_throw _) stack is
  | succ depth ih =>
    intro origin? ctx stack is
    exact b.items_credited origin? ctx ih stack is

/-! ### Whole documents -/

/-- **The innermost inclusion.** Building a document, where each inclusion credits its template with what has
    been left over by the inclusions inside it, is building that hands the current template down and notes it on
    every file and folder as it is made: the name of the innermost inclusion around the item, through folders,
    short forms and code, and nothing outside of all inclusions. The root comes from no template. -/
theorem build_from (b : Builder σ) (v : Value) (ctx : Context) (stack : List String) :
    b.build v ctx stack = b.buildFrom v ctx stack ∧
      ∀ s s' t, (b.build v ctx stack).run s = (.ok (some t), s') → t.template? = none := by
  unfold build buildFrom
  cases Document.items? v with
  | none =>
    refine ⟨rfl, fun s s' t hrun => ?_⟩
    cases hrun
  | some is =>
    -- A root is made with no template, and its children are the same either way.
    dsimp only
    have hcredit := b.itemsWithin_credited (b.library.nesting + scriptNesting) none ctx stack is
    have hsame : b.itemsWithin (b.library.nesting + scriptNesting) ctx stack is =
        b.itemsWithinFrom (b.library.nesting + scriptNesting) none ctx stack is :=
      (id_map _).symm.trans hcredit
    rw [hsame]
    refine ⟨rfl, fun s s' t hrun => ?_⟩
    rw [run_bind] at hrun
    generalize (b.itemsWithinFrom _ none ctx stack is).run s = ended at hrun
    rcases ended with ⟨e | ts, s₁⟩
    · cases hrun
    · cases hrun
      rfl

end Builder

end Scaffold
