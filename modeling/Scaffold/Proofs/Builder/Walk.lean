import Scaffold.Proofs.Builder.Attribution
import Scaffold.Proofs.Trees

namespace Scaffold

/-!
# Walks through a document

Building can be followed on a walk that knows of no trees. It goes through a list of items, from the first to
the last. To visit an item is to find its file, or the items that take its place in the list: the contents of
a folder, the items of a project template, those that code gives. The walk ends behind the last item, or at
the first one that cannot be visited.

* `Builder.visit` — what is found at an item by itself;
* `Builder.Walk` — the walk, with the items that were visited; `Walk.unique`, that there is no other one;
* `Builder.Follows`, `Builder.Traces` — building an item goes on from what is found there, and building
  items finds the files of the walk, or fails where it ends;
* `Builder.build_walk` — the whole, for a document.
-/

open Document (Item)
open Yaml (Value)

/-- Whether an item stands for a file of its own. -/
def Document.Item.isLeaf : Item → Bool
  | .implicitFile _ | .fileTemplate _ | .file _ _ _ => true
  | _ => false

namespace Builder

variable {σ α β : Type}

/-! ### Visits -/

/-- What the items of one text are visited with. -/
structure Scope where
  /-- The text that they are in, unless it is that of the document itself. -/
  place? : Option Place
  /-- How many documents may be opened inside one another from there. -/
  room : Nat
  ctx : Context
  /-- The project templates that are open. -/
  stack : List String

/-- An item that is to be visited. -/
structure Pending where
  scope : Scope
  item : Item

/-- The items of one text, all to be visited. -/
def Scope.all (scope : Scope) (is : List Item) : List Pending := is.map (Pending.mk scope)

/-- The error that a failure in the text comes to. -/
def Scope.attribute (scope : Scope) (e : Error) : Error :=
  match scope.place? with
  | none => e
  | some p => e.attributedTo p.document p.text

/-- What is found at an item. -/
inductive Found where
  | file (name content : String)
  /-- No file; these are to be visited in the place of the item. -/
  | items (ps : List Pending)

/-- The file that was found, if it is one. -/
def Found.file? : Found → Option (String × String)
  | .file name content => some (name, content)
  | .items _ => none

/-- What is left to be visited behind what was found. -/
def Found.pending : Found → List Pending
  | .file _ _ => []
  | .items ps => ps

/-- The items of a document that is opened, if it can be read and there is room for it. -/
def opened (room : Nat) : Except Error (List Item) → Running σ (List Item)
  | .error e => throw e
  | .ok is => if room = 0 then throw .endlessExpansion else return is

/-- Visits an item. -/
def visit (b : Builder σ) (scope : Scope) : Item → Running σ Found
  | .implicitFile v => do return .file (← b.name scope.ctx v) ""
  | .fileTemplate v => do
    let template ← b.nameOfTemplate scope.ctx v
    let name := FileName.sanitize template
    return .file name (← b.contentFrom (scope.ctx.inFile name) template)
  | .file v content? template? => do
    let name ← b.name scope.ctx v
    match content?, template? with
    | some content, _ => return .file name (← b.text (scope.ctx.inFile name) content)
    -- The content wins over the template; a file with neither is empty.
    | none, some template => do
      let template ← b.nameOfTemplate scope.ctx template
      return .file name (← b.contentFrom (scope.ctx.inFile name) template)
    | none, none => return .file name ""
  | .folder v contents => do
    let _ ← b.name scope.ctx v
    return .items (scope.all contents)
  | .inclusion v title? description? => do
    let name ← b.nameOfTemplate scope.ctx v
    -- A template without a name is no inclusion, and gives nothing.
    if name.isEmpty then return .items []
    else if scope.stack.contains name then throw (.cyclicInclude (scope.stack ++ [name]))
    else match b.library.project? name with
      | none => throw (.missingTemplate .project name)
      | some source =>
        let ctx := scope.ctx.overriding (← b.overrides scope.ctx title? description?)
        let is ← attributed name source (opened scope.room (templateItems name source))
        -- The items of the template are visited in the context, and under the names, of the inclusion.
        let inner : Scope := ⟨some ⟨name, source⟩, scope.room - 1, ctx, scope.stack ++ [name]⟩
        return .items (inner.all is)
  | .script v => do
    let code := Document.fillableText v
    let x ← b.filler.runCode scope.ctx scriptDocument code
    match scriptItems x with
    | .error e => throw e
    | .ok is =>
      let is ← attributed scriptDocument code (opened scope.room (.ok is))
      let inner : Scope := ⟨some ⟨scriptDocument, code⟩, scope.room - 1, scope.ctx, scope.stack⟩
      return .items (inner.all is)
  | .shorthand key none => do
    let _ ← b.text scope.ctx key
    throw (.malformedShorthand (Document.fillableText key))
  | .shorthand key (some contents) => do
    let _ ← b.name scope.ctx key
    return .items (scope.all contents)
  | .ignored => return .items []

/-- A file is found at the items that stand for one, and at no others. -/
theorem visit_yields (b : Builder σ) (scope : Scope) (i : Item) :
    Yields (b.visit scope i) (fun found => found.file?.isSome = i.isLeaf) fun _ => True := by
  -- Of the parts of a visit, only the last one decides what was found.
  have hany : ∀ {α : Type} (x : Running σ α), Yields x (fun _ => True) fun _ => True := by
    intro α x s
    rw [ends_iff]
    split <;> trivial
  cases i with
  | implicitFile v => exact (hany _).bind_any fun _ => yields_pure rfl
  | fileTemplate v =>
    exact (hany _).bind_any fun _ => (hany _).bind_any fun _ => yields_pure rfl
  | file v content? template? =>
    refine (hany _).bind_any fun name => ?_
    -- The contents of a file are given, made from a template or empty.
    rcases content? with _ | content
    · rcases template? with _ | template
      · exact yields_pure rfl
      · exact (hany _).bind_any fun _ => (hany _).bind_any fun _ => yields_pure rfl
    · exact (hany _).bind_any fun _ => yields_pure rfl
  | folder v contents => exact (hany _).bind_any fun _ => yields_pure rfl
  | inclusion v title? description? =>
    -- An inclusion finds items, whichever way it ends.
    refine (hany _).bind_any fun name => ?_
    split
    · exact yields_pure rfl
    · split
      · exact yields_throw trivial
      · split
        · exact yields_throw trivial
        · exact (hany _).bind_any fun _ => (hany _).bind_any fun _ => yields_pure rfl
  | script v =>
    refine (hany _).bind_any fun x => ?_
    split
    · exact yields_throw trivial
    · exact (hany _).bind_any fun _ => yields_pure rfl
  | shorthand key contents? =>
    cases contents? with
    | none => exact (hany _).bind_any fun _ => yields_throw trivial
    | some contents => exact (hany _).bind_any fun _ => yields_pure rfl
  | ignored => exact yields_pure rfl

/-! ### Walks -/

/-- An item that was visited, and its file if it stands for one. -/
structure Visit where
  item : Item
  file? : Option (String × String)

/-- The walk through a list of items, from one state of the engine to another: what was visited, and the item
    that could not be, with the reason, if the walk ends there. -/
inductive Walk (b : Builder σ) :
    List Pending → σ → List Visit → Option (Pending × Error) → σ → Prop
  | done {s : σ} : Walk b [] s [] none s
  | visit {p : Pending} {rest : List Pending} {s s' t : σ} {found : Found} {visits : List Visit}
      {stop? : Option (Pending × Error)}
      (hvisit : (b.visit p.scope p.item).run s = (.ok found, s'))
      (hrest : Walk b (found.pending ++ rest) s' visits stop? t) :
      Walk b (p :: rest) s (⟨p.item, found.file?⟩ :: visits) stop? t
  | fail {p : Pending} {rest : List Pending} {s t : σ} {e : Error}
      (hvisit : (b.visit p.scope p.item).run s = (.error e, t)) :
      Walk b (p :: rest) s [] (some (p, e)) t

namespace Walk

variable {b : Builder σ} {ps qs : List Pending} {s s' t : σ} {visits : List Visit}
  {stop? : Option (Pending × Error)}

/-- A walk to the end goes on behind it. -/
theorem append {later : List Visit} (h : Walk b ps s visits none s')
    (h' : Walk b qs s' later stop? t) : Walk b (ps ++ qs) s (visits ++ later) stop? t := by
  generalize hnone : (none : Option (Pending × Error)) = stop at h
  induction h with
  | done => exact h'
  | visit hvisit _ ih =>
    have hrest := ih h' hnone
    rw [List.append_assoc] at hrest
    exact .visit hvisit hrest
  | fail => cases hnone

/-- A walk that stops does not come to what is behind. -/
theorem stopped {stop : Pending × Error} (h : Walk b ps s visits (some stop) t) :
    Walk b (ps ++ qs) s visits (some stop) t := by
  generalize hsome : some stop = stop? at h
  induction h with
  | done => cases hsome
  | visit hvisit _ ih =>
    have hrest := ih hsome
    rw [List.append_assoc] at hrest
    exact .visit hvisit hrest
  | fail hvisit => exact .fail hvisit

/-- **There is one walk only.** -/
theorem unique {visits' : List Visit} {stop?' : Option (Pending × Error)} {t' : σ}
    (h : Walk b ps s visits stop? t) (h' : Walk b ps s visits' stop?' t') :
    visits = visits' ∧ stop? = stop?' ∧ t = t' := by
  -- The state decides what is visited next, so both walks take the same step.
  induction h generalizing visits' stop?' t' with
  | done =>
    cases h'
    exact ⟨rfl, rfl, rfl⟩
  | visit hvisit _ ih =>
    cases h' with
    | visit hvisit' hrest' =>
      cases hvisit.symm.trans hvisit'
      obtain ⟨rfl, rfl, rfl⟩ := ih hrest'
      exact ⟨rfl, rfl, rfl⟩
    | fail hvisit' => cases hvisit.symm.trans hvisit'
  | fail hvisit =>
    cases h' with
    | visit hvisit' => cases hvisit.symm.trans hvisit'
    | fail hvisit' =>
      cases hvisit.symm.trans hvisit'
      exact ⟨rfl, rfl, rfl⟩

/-- The items that stand for files are those that a file was found at. -/
theorem isSome_file? (h : Walk b ps s visits stop? t) :
    ∀ visit ∈ visits, visit.file?.isSome = visit.item.isLeaf := by
  induction h with
  | done => exact fun _ hvisit => by cases hvisit
  | @visit p rest s s' t found visits stop? hvisit _ ih =>
    intro visit hmem
    rcases List.mem_cons.1 hmem with rfl | hmem
    · exact (b.visit_yields p.scope p.item).ok_of_run hvisit
    · exact ih visit hmem
  | fail => exact fun _ hvisit => by cases hvisit

end Walk

/-- The files that were found on a walk. -/
def filesOn (visits : List Visit) : List (String × String) := visits.filterMap Visit.file?

/-- The items on a walk that stand for files, and the files, one by one. -/
theorem Walk.leaves {b : Builder σ} {ps : List Pending} {s t : σ} {visits : List Visit}
    {stop? : Option (Pending × Error)} (h : Walk b ps s visits stop? t) :
    List.Forall₂ (fun visit file => visit.file? = some file) (visits.filter (·.item.isLeaf))
      (filesOn visits) := by
  have hleaf := h.isSome_file?
  clear h
  -- The induction is on the visits: only those that found a file count.
  induction visits with
  | nil => exact .nil
  | cons visit visits ih =>
    have hrest := ih fun later hlater => hleaf later (List.mem_cons_of_mem _ hlater)
    have hfirst := hleaf visit List.mem_cons_self
    cases hfile : visit.file? with
    | none =>
      rw [hfile] at hfirst
      rw [filesOn, List.filterMap_cons_none hfile, List.filter_cons_of_neg (by simp [← hfirst])]
      exact hrest
    | some file =>
      rw [hfile] at hfirst
      rw [filesOn, List.filterMap_cons_some hfile, List.filter_cons_of_pos (by simp [← hfirst])]
      exact .cons hfile hrest

/-! ### Building on a walk -/

/-- The trees that `x` gives hold the files of the walk through the items; `x` fails where the walk ends
    before the last of them. -/
def Traces (b : Builder σ) (scope : Scope) (x : Running σ (List Tree)) (ps : List Pending) : Prop :=
  ∀ s, Ends x s fun r t =>
    match r with
    | .ok trees => ∃ visits, Walk b ps s visits none t ∧ Tree.filesOf trees = filesOn visits
    | .error e => ∃ visits p cause, Walk b ps s visits (some (p, cause)) t ∧
        scope.attribute e = p.scope.attribute cause

/-- Where a visit finds a file, `x` gives a tree with that file; where it finds items, `x` goes on with them;
    where it fails, `x` fails. -/
def Follows (b : Builder σ) (scope : Scope) (x : Running σ (List Tree)) (v : Running σ Found) : Prop :=
  ∀ s, Ends v s fun r t =>
    match r with
    | .ok (.file name content) =>
      ∃ trees, x.run s = (.ok trees, t) ∧ Tree.filesOf trees = [(name, content)]
    | .ok (.items ps) => ∃ y, x.run s = y.run t ∧ Traces b scope y ps
    | .error e => x.run s = (.error e, t)

section Rules

variable {b : Builder σ} {scope : Scope}

/-- No trees come of no items. -/
theorem traces_nil : Traces b scope (pure []) [] :=
  fun _ => ends_pure.2 ⟨[], .done, rfl⟩

/-- Other trees with the same files. -/
theorem Traces.map {x : Running σ (List Tree)} {ps : List Pending} (h : Traces b scope x ps)
    {f : List Tree → List Tree} (hf : ∀ trees, Tree.filesOf (f trees) = Tree.filesOf trees) :
    Traces b scope (do return f (← x)) ps := by
  intro s
  refine (h s).bind ?_ fun _ _ he => he
  rintro trees t ⟨visits, hwalk, hfiles⟩
  exact ends_pure.2 ⟨visits, hwalk, (hf trees).trans hfiles⟩

/-- The trees of some items in front of those of others. -/
theorem Traces.append {x y : Running σ (List Tree)} {ps qs : List Pending} (hx : Traces b scope x ps)
    (hy : Traces b scope y qs) :
    Traces b scope (do let trees ← x; return trees ++ (← y)) (ps ++ qs) := by
  -- The second computation starts in the state in which the first one stopped.
  intro s
  refine (hx s).bind ?_ ?_
  · rintro trees s' ⟨visits, hwalk, hfiles⟩
    refine (hy s').bind ?_ ?_
    · rintro more t ⟨later, hwalk', hmore⟩
      refine ends_pure.2 ⟨visits ++ later, hwalk.append hwalk', ?_⟩
      rw [Tree.filesOf_append, hfiles, hmore, filesOn, filesOn, filesOn, List.filterMap_append]
    · rintro e t ⟨later, p, cause, hwalk', he⟩
      exact ⟨visits ++ later, p, cause, hwalk.append hwalk', he⟩
  -- If the first one fails, the second one does not run.
  · rintro e t ⟨visits, p, cause, hwalk, he⟩
    exact ⟨visits, p, cause, hwalk.stopped, he⟩

/-- An item is built on the walk through it. -/
theorem Follows.traces {x : Running σ (List Tree)} {i : Item}
    (h : Follows b scope x (b.visit scope i)) : Traces b scope x [⟨scope, i⟩] := by
  intro s
  have hend := ends_iff.1 (h s)
  rw [ends_iff]
  -- Either the visit fails, and the walk ends with it, or it has found something.
  rcases hvisit : (b.visit scope i).run s with ⟨e | found, t⟩
  · rw [hvisit] at hend
    dsimp only at hend
    rw [hend]
    exact ⟨[], ⟨scope, i⟩, e, .fail hvisit, rfl⟩
  · rw [hvisit] at hend
    cases found with
    | file name content =>
      obtain ⟨trees, hrun, hfiles⟩ := hend
      have hwalk : Walk b [⟨scope, i⟩] s [⟨i, (Found.file name content).file?⟩] none t :=
        .visit hvisit .done
      rw [hrun]
      exact ⟨_, hwalk, hfiles⟩
    -- The items that were found are walked next, in the state after the visit.
    | items ps =>
      obtain ⟨y, hrun, htraces⟩ := hend
      have hwalk : ∀ {visits stop? t'}, Walk b ps t visits stop? t' →
          Walk b [⟨scope, i⟩] s (⟨i, (Found.items ps).file?⟩ :: visits) stop? t' := by
        intro visits stop? t' hps
        rw [← List.append_nil ps] at hps
        exact .visit hvisit hps
      rw [hrun]
      have hy := ends_iff.1 (htraces t)
      rcases hgo : y.run t with ⟨e | trees, t'⟩
      · rw [hgo] at hy
        obtain ⟨visits, p, cause, hps, he⟩ := hy
        exact ⟨_, p, cause, hwalk hps, he⟩
      · rw [hgo] at hy
        obtain ⟨visits, hps, hfiles⟩ := hy
        exact ⟨_, hwalk hps, hfiles⟩

/-! ### Rules for visits -/

/-- A failure is the failure of the visit. -/
theorem follows_throw (e : Error) : Follows b scope (throw e) (throw e) :=
  fun _ => ends_throw.2 rfl

/-- A file is found. -/
theorem follows_file (name content : String) (template? : Option String) :
    Follows b scope (pure [.file name content template?]) (pure (.file name content)) :=
  fun _ => ends_pure.2 ⟨_, rfl, rfl⟩

/-- Items that are left to be visited. -/
theorem follows_items {x : Running σ (List Tree)} {ps : List Pending} (h : Traces b scope x ps) :
    Follows b scope x (pure (.items ps)) :=
  fun _ => ends_pure.2 ⟨x, rfl, h⟩

/-- Both begin with the same step. -/
theorem Follows.bind {w : Running σ α} {f : α → Running σ (List Tree)} {g : α → Running σ Found}
    (h : ∀ a, Follows b scope (f a) (g a)) : Follows b scope (w >>= f) (w >>= g) := by
  intro s
  rw [ends_iff, run_bind, run_bind]
  rcases w.run s with ⟨e | a, s'⟩
  · rfl
  · exact ends_iff.1 (h a s')

end Rules

/-! ### Documents inside documents -/

/-- What fails in a text is attributed to it, and so to no text around it. -/
theorem Traces.attributed {b : Builder σ} {scope inner : Scope} {p : Place} (hplace : inner.place? = some p)
    {x : Running σ (List Tree)} {ps : List Pending} (h : Traces b inner x ps) :
    Traces b scope (attributed p.document p.text x) ps := by
  intro s
  have hend := ends_iff.1 (h s)
  rw [ends_iff, run_attributed]
  rcases hrun : x.run s with ⟨e | trees, t⟩
  · rw [hrun] at hend
    obtain ⟨visits, q, cause, hwalk, he⟩ := hend
    refine ⟨visits, q, cause, hwalk, ?_⟩
    rw [← he]
    simp only [Scope.attribute, hplace]
    -- A place that is inside another one is credited to the outer one only once.
    cases scope.place? with
    | none => rfl
    | some outer => exact Error.attributedTo_attributedTo e _ _ _ _
  · rw [hrun] at hend
    exact hend

/-- How documents inside the current one are built: on the walk through their items, as long as there is room
    for them. -/
def TracesInside (b : Builder σ) (nested : Nested σ) (room : Nat) : Prop :=
  if room = 0 then nested = fun _ _ _ => throw .endlessExpansion
  else ∀ scope : Scope, scope.room = room - 1 → ∀ is,
    Traces b scope (nested scope.ctx scope.stack is) (scope.all is)

section Items

variable {b : Builder σ} {nested : Nested σ} {scope : Scope}

/-- A document is opened, and its items are built on the walk. -/
theorem opened_follows (hnested : TracesInside b nested scope.room) (p : Place) (ctx : Context)
    (stack : List String) (read : Except Error (List Item)) {f : List Tree → List Tree}
    (hf : ∀ trees, Tree.filesOf (f trees) = Tree.filesOf trees) :
    Follows b scope
      (do
        let trees ← attributed p.document p.text
          (match read with
          | .error e => throw e
          | .ok is => nested ctx stack is)
        return f trees)
      (do
        let is ← attributed p.document p.text (opened scope.room read)
        return .items (Scope.all ⟨some p, scope.room - 1, ctx, stack⟩ is)) := by
  -- What fails in front of the items fails alike.
  have hfails : ∀ e, Follows b scope
      (do
        let trees ← attributed p.document p.text (throw e)
        return f trees)
      (do
        let is ← attributed p.document p.text (throw e)
        return .items (Scope.all ⟨some p, scope.room - 1, ctx, stack⟩ is)) :=
    fun e => follows_throw (e.attributedTo p.document p.text)
  rw [TracesInside] at hnested
  cases read with
  | error e => exact hfails e
  | ok is =>
    dsimp only [opened]
    -- With no room left both stop at the same error, the one of an endless expansion.
    split at hnested
    · rename_i hroom
      rw [if_pos hroom, hnested]
      exact hfails .endlessExpansion
    · rename_i hroom
      rw [if_neg hroom]
      have hinner := hnested ⟨some p, scope.room - 1, ctx, stack⟩ rfl is
      exact follows_items ((Traces.attributed rfl hinner).map hf)

/-- A project template is built on the walk through its items. -/
theorem inclusion_follows (hnested : TracesInside b nested scope.room) (v : Value)
    (title? description? : Option Value) :
    Follows b scope (b.inclusion nested scope.ctx scope.stack v title? description?)
      (b.visit scope (.inclusion v title? description?)) := by
  unfold inclusion visit
  refine Follows.bind fun name => ?_
  -- A blank name, one that is open, one without a template: nothing is opened.
  by_cases hempty : name.isEmpty
  · simp only [if_pos hempty]
    exact follows_items traces_nil
  · simp only [if_neg hempty]
    by_cases hopen : scope.stack.contains name
    · simp only [if_pos hopen]
      exact follows_throw _
    · simp only [if_neg hopen]
      cases b.library.project? name with
      | none => exact follows_throw _
      | some source =>
        refine Follows.bind fun overrides => ?_
        -- Reading the template must not be evaluated while the steps are compared.
        generalize templateItems name source = read
        exact opened_follows hnested ⟨name, source⟩ _ _ read (Tree.filesOf_creditAll name)

/-- What code gives is built on the walk through it. -/
theorem script_follows (hnested : TracesInside b nested scope.room) (v : Value) :
    Follows b scope (b.script nested scope.ctx scope.stack v) (b.visit scope (.script v)) := by
  unfold script visit
  refine Follows.bind fun x => ?_
  cases scriptItems x with
  | error e => exact follows_throw e
  | ok is =>
    have hopened := opened_follows hnested ⟨scriptDocument, Document.fillableText v⟩ scope.ctx scope.stack
      (.ok is) (f := id) fun _ => rfl
    simpa using hopened

/-- The file of an item is the one that is found at it. -/
theorem file_follows (v : Value) (content? template? : Option Value) :
    Follows b scope (b.file scope.ctx v content? template?)
      (b.visit scope (.file v content? template?)) := by
  unfold file visit
  refine Follows.bind fun name => ?_
  -- A content of its own, a template, or nothing.
  rcases content? with _ | content
  · rcases template? with _ | template
    · exact follows_file name "" none
    · refine Follows.bind fun template => ?_
      exact Follows.bind fun content => follows_file name content none
  · exact Follows.bind fun content => follows_file name content none

mutual

/-- An item is built as it is visited, and what is found there is built on the walk through it. -/
theorem item_follows (hnested : TracesInside b nested scope.room) : ∀ i : Item,
    -- The cases follow the kinds of items.
    Follows b scope (b.item nested scope.ctx scope.stack i) (b.visit scope i)
  | .implicitFile v => by
    simp only [item, visit]
    exact Follows.bind fun name => follows_file name "" none
  | .inclusion v title? description? => by
    simp only [item]
    exact inclusion_follows hnested v title? description?
  | .fileTemplate v => by
    simp only [item, fileTemplate, visit]
    refine Follows.bind fun template => ?_
    exact Follows.bind fun content => follows_file _ content none
  | .file v content? template? => by
    simp only [item]
    exact file_follows v content? template?
  | .folder v contents => by
    simp only [item, visit]
    refine Follows.bind fun name => ?_
    refine follows_items ((items_traces hnested contents).map fun trees => ?_)
    exact List.append_nil _
  | .script v => by
    simp only [item]
    exact script_follows hnested v
  | .shorthand key none => by
    simp only [item, visit]
    exact Follows.bind fun _ => follows_throw _
  | .shorthand key (some contents) => by
    simp only [item, visit]
    refine Follows.bind fun name => ?_
    refine follows_items ((items_traces hnested contents).map fun trees => ?_)
    exact List.append_nil _
  | .ignored => by
    simp only [item, visit]
    exact follows_items traces_nil

/-- **One document.** Its items are built on the walk through them, if those of the documents inside are. -/
theorem items_traces (hnested : TracesInside b nested scope.room) : ∀ is : List Item,
    Traces b scope (b.items nested scope.ctx scope.stack is) (scope.all is)
  | [] => by
    simp only [items]
    exact traces_nil
  | i :: is => by
    simp only [items]
    exact (item_follows hnested i).traces.append (items_traces hnested is)

end

end Items

/-- **All documents.** The same with a budget for the documents inside one another. -/
theorem itemsWithin_traces (b : Builder σ) (depth : Nat) (scope : Scope) (hroom : scope.room = depth)
    (is : List Item) :
    Traces b scope (b.itemsWithin depth scope.ctx scope.stack is) (scope.all is) := by
  induction depth generalizing scope is with
  | zero =>
    refine items_traces ?_ is
    rw [hroom, TracesInside, if_pos rfl]
  | succ depth ih =>
    refine items_traces ?_ is
    rw [hroom, TracesInside, if_neg (Nat.succ_ne_zero depth)]
    exact fun inner hinner is => ih inner hinner is

/-! ### Whole documents -/

/-- What the items of a document are visited with. -/
def startOf (b : Builder σ) (ctx : Context) (stack : List String) : Scope :=
  ⟨none, b.library.nesting + scriptNesting, ctx, stack⟩

/-- Building a document is a walk over its items, which ends with their files or with the first error. -/
theorem build_traces (b : Builder σ) {v : Value} {is : List Item} (his : Document.items? v = some is)
    (ctx : Context) (stack : List String) (s : σ) :
    Ends (b.build v ctx stack) s fun r t =>
      match r with
      | .ok tree? => ∃ visits, Walk b ((b.startOf ctx stack).all is) s visits none t ∧
          tree?.map Tree.files = some (filesOn visits)
      | .error e => ∃ visits p cause,
          Walk b ((b.startOf ctx stack).all is) s visits (some (p, cause)) t ∧
            e = p.scope.attribute cause := by
  rw [build, his]
  -- A walk from the first items gives the trees; the root only puts a folder around them.
  refine (b.itemsWithin_traces _ (b.startOf ctx stack) rfl is s).bind ?_ fun _ _ he => he
  rintro trees t ⟨visits, hwalk, hfiles⟩
  exact ends_pure.2 ⟨visits, hwalk, congrArg some hfiles⟩

/-- **Building follows a walk.** If building a document gives a tree, the walk through its items comes to the
    end, and the files of the tree are, one by one and in order, those found at the items on it that stand for
    files; so the tree counts as many files as there are such items. If building fails, the walk ends at an
    item, the first one that cannot be visited, and the error is what fails there, attributed to the template
    that the item is in. There is no other walk. -/
theorem build_walk (b : Builder σ) (v : Value) (ctx : Context) (stack : List String) (s : σ) :
    (∀ tree t, (b.build v ctx stack).run s = (.ok (some tree), t) →
      ∃ is visits, Document.items? v = some is ∧
        Walk b ((b.startOf ctx stack).all is) s visits none t ∧
        List.Forall₂ (fun visit file => visit.file? = some file)
          (visits.filter (·.item.isLeaf)) tree.files ∧
        tree.countFiles = (visits.filter (·.item.isLeaf)).length) ∧
    (∀ e t, (b.build v ctx stack).run s = (.error e, t) →
      ∃ is visits p cause, Document.items? v = some is ∧
        Walk b ((b.startOf ctx stack).all is) s visits (some (p, cause)) t ∧
        e = p.scope.attribute cause) ∧
    ∀ ps visits stop? t visits' stop?' t', Walk b ps s visits stop? t → Walk b ps s visits' stop?' t' →
      visits = visits' ∧ stop? = stop?' ∧ t = t' := by
  refine ⟨?_, ?_, fun _ _ _ _ _ _ _ => Walk.unique⟩
  · intro tree t hrun
    -- A document that is no list has no items, and is not built.
    cases his : Document.items? v with
    | none =>
      rw [build, his] at hrun
      cases hrun
    | some is =>
      have hend := ends_iff.1 (b.build_traces his ctx stack s)
      rw [hrun] at hend
      obtain ⟨visits, hwalk, hfiles⟩ := hend
      have hleaves := hwalk.leaves
      rw [← Option.some.inj hfiles] at hleaves
      refine ⟨is, visits, rfl, hwalk, hleaves, ?_⟩
      rw [Tree.countFiles_eq, hleaves.length_eq]
  · intro e t hrun
    cases his : Document.items? v with
    | none =>
      rw [build, his] at hrun
      cases hrun
    | some is =>
      have hend := ends_iff.1 (b.build_traces his ctx stack s)
      -- The error of the walk is credited to the place of the item at which it stopped.
      rw [hrun] at hend
      obtain ⟨visits, p, cause, hwalk, he⟩ := hend
      exact ⟨is, visits, p, cause, rfl, hwalk, he⟩

/-! ### A template inside a folder -/

/-- A project template with files in and below its folder, and a file template. -/
def sketchBuilder : Builder Unit where
  filler := ⟨idleEngine, none⟩
  library := .ofTables ⟨[("base", "- x\n- inner:\n  - y\n")]⟩ ⟨[("notes", "Notes")]⟩

/-- A file, a folder with a file template and a project template, an inclusion without a name, and what comes
    last. -/
def sketch (last : List Value) : Value :=
  .sequence ([.string "a",
    .mapping [(.string "docs", .sequence
      [.mapping [(.string "file_template", .string "notes")],
        .mapping [(.string "project_template", .string "base")]])],
    .mapping [(.string "project_template", .null)]] ++ last)

/-- A file template that is missing, in front of a project template that is. -/
def missing : List Value :=
  [.mapping [(.string "file_template", .string "none")],
    .mapping [(.string "project_template", .string "none")]]

/-- The files of the template stand where it is included, between those in front of it and behind it. Of two
    templates that are missing, the first one is reported. -/
theorem build_walk_sketch :
    (∃ tree, (sketchBuilder.build (sketch [.string "b"]) .empty []).run () = (.ok (some tree), ()) ∧
      tree.files = [("a", ""), ("notes", "Notes"), ("x", ""), ("y", ""), ("b", "")] ∧
      ∃ is visits, Walk sketchBuilder ((sketchBuilder.startOf .empty []).all is) () visits none () ∧
        (visits.filter (·.item.isLeaf)).length = 5) ∧
    (sketchBuilder.build (sketch missing) .empty []).run () =
      (.error (.missingTemplate .file "none"), ()) ∧
    ∃ is visits p cause,
      Walk sketchBuilder ((sketchBuilder.startOf .empty []).all is) () visits (some (p, cause)) () ∧
        .missingTemplate .file "none" = p.scope.attribute cause := by
  have hfiles : ((sketchBuilder.build (sketch [.string "b"]) .empty []).run ()).1.toOption.join.map
      -- Both runs are computed; what is left is that their results are those of the theorem.
      Tree.files = some [("a", ""), ("notes", "Notes"), ("x", ""), ("y", ""), ("b", "")] := by
    decide +kernel
  have hfails : (sketchBuilder.build (sketch missing) .empty []).run () =
      (.error (.missingTemplate .file "none"), ()) := run_of_failsWith (by decide +kernel)
  refine ⟨?_, hfails, ?_⟩
  · obtain ⟨tree, htree, hfiles⟩ := Option.map_eq_some_iff.1 hfiles
    have hrun : (sketchBuilder.build (sketch [.string "b"]) .empty []).run () =
        (.ok (some tree), ()) := by
      -- A run without a tree would have no files.
      rcases hr : (sketchBuilder.build (sketch [.string "b"]) .empty []).run () with ⟨e | _ | t, _⟩
      · rw [hr] at htree
        cases htree
      · rw [hr] at htree
        cases htree
      · rw [hr] at htree
        cases htree
        rfl
    obtain ⟨is, visits, -, hwalk, -, hcount⟩ :=
      (build_walk sketchBuilder (sketch [.string "b"]) .empty [] ()).1 tree () hrun
    rw [Tree.countFiles_eq, hfiles] at hcount
    exact ⟨tree, hrun, hfiles, is, visits, hwalk, hcount.symm⟩
  · obtain ⟨is, visits, p, cause, -, hwalk, he⟩ :=
      (build_walk sketchBuilder (sketch missing) .empty [] ()).2.1 _ () hfails
    exact ⟨is, visits, p, cause, hwalk, he⟩

end Builder

end Scaffold
