import Scaffold.Proofs.Builder.Inclusion

namespace Scaffold

/-!
# Cycles of templates

Building from a library in memory ends, and a template that includes itself is found out. The argument
is the same each time: an inclusion leaves fewer fresh names, and no name is open twice.

* `Builder.itemsWithin_eq` — with room for all fresh names, the budget of a build is immaterial;
* `Builder.itemsGuarded_eq` — a check in front of each expansion never fails, if it is passed by all open
  templates with a property that each inclusion keeps;
* `Builder.FailsBelow` — how building can fail below open templates: with an error about something
  else, or with the chain of a cycle, attributed to the template that closes it;
* `Builder.buildText_ends` — the whole, for the text of a document.
-/

open Document (Item)

variable {σ : Type}

namespace Builder

/-! ### Budgets -/

section Memory

variable {b : Builder σ} {projects files : Table String}
  (hlibrary : b.library = Library.ofTables projects files)
  (hcode : ∀ name source, projects.get? name = some source → Document.holdsCode source = false)
include hlibrary hcode

/-- **The budget is immaterial.** Two budgets that have room for all names that are not open yet give the
    same: recursion ends before either is used up. -/
theorem itemsWithin_eq {stack : List String} {depth depth' : Nat}
    (h : (projects.fresh stack).length ≤ depth) (h' : (projects.fresh stack).length ≤ depth')
    (ctx : Context) {is : List Item} (his : Item.codesOf is = []) :
    b.itemsWithin depth ctx stack is = b.itemsWithin depth' ctx stack is := by
  have hproject : b.library.project? = projects.get? := by rw [hlibrary]; rfl
  -- By induction on one budget: what is opened has fewer fresh names and a budget of one less.
  induction depth generalizing stack depth' ctx is with
  | zero =>
    cases depth' with
    | zero => rfl
    -- Without a budget nothing is fresh, so what is opened would have a number of fresh names below zero.
    | succ depth' =>
      simp only [itemsWithin]
      refine items_congr (inclusion_congr ?_ ctx) is his
      intro ctx name source is hname hsource
      rw [hproject] at hsource
      have := Table.length_fresh_append hsource hname
      omega
  | succ depth ih =>
    cases depth' with
    | zero =>
      simp only [itemsWithin]
      refine items_congr (inclusion_congr ?_ ctx) is his
      intro ctx name source is hname hsource
      rw [hproject] at hsource
      have := Table.length_fresh_append hsource hname
      omega
    | succ depth' =>
      -- Both budgets allow the template; what it describes is built with one less.
      simp only [itemsWithin]
      refine items_congr (inclusion_congr ?_ ctx) is his
      intro ctx name source is hname hsource hread
      rw [hproject] at hsource
      have hless := Table.length_fresh_append hsource hname
      exact ih (by omega) (by omega) ctx (codesOf_templateItems (hcode name source hsource) hread)

end Memory

/-! ### Checks in front of expansions -/

/-- What is inside a document is built only below templates that pass a check; below others,
    `otherwise` happens. -/
def guarded (check : List String → Bool) (otherwise nested : Nested σ) : Nested σ :=
  fun ctx stack is => if check stack then nested ctx stack is else otherwise ctx stack is

/-- The trees of items as `itemsWithin` builds them, with a check of the open templates in front of
    each expansion. -/
def itemsGuarded (b : Builder σ) (check : List String → Bool) (otherwise : Nested σ) :
    (depth : Nat) → Nested σ
  | 0 => b.items (guarded check otherwise fun _ _ _ => throw .endlessExpansion)
  | depth + 1 => b.items (guarded check otherwise (b.itemsGuarded check otherwise depth))

/-- The templates in `stack` were open from the start; those on top of them are distinct, and each of them
    is one of the table. -/
structure OpenAbove (projects : Table String) (stack opened : List String) : Prop where
  nodup : opened.Nodup
  above : ∃ more, opened = stack ++ more ∧ more ⊆ projects.keys

namespace OpenAbove

variable {projects : Table String} {stack opened : List String}

/-- At the start, no template is open but those of the stack. -/
theorem start (h : stack.Nodup) : OpenAbove projects stack stack :=
  ⟨h, [], by simp, by simp⟩

/-- A template that is entered: it is none of the open ones, and it is there. -/
theorem push {name source : String} (h : OpenAbove projects stack opened)
    (hname : name ∉ opened) (hsource : projects.get? name = some source) :
    OpenAbove projects stack (opened ++ [name]) := by
  obtain ⟨more, rfl, hmore⟩ := h.above
  refine ⟨by simpa using h.nodup.concat hname, more ++ [name], by simp, ?_⟩
  simpa [List.append_subset, hmore] using Table.mem_keys_of_get? hsource

/-- No more templates can be open than were at the start and are in the table. -/
theorem length_le (h : OpenAbove projects stack opened) :
    opened.length ≤ stack.length + projects.size := by
  have hnodup := h.nodup
  obtain ⟨more, rfl, hmore⟩ := h.above
  have hlen := ((List.nodup_append.1 hnodup).2.1.subperm hmore).length_le
  simp only [List.length_append, Table.size]
  simpa [Table.keys] using hlen

end OpenAbove

/-- With a check that is passed below the open templates, items are built as without it. -/
theorem items_guarded_eq {b : Builder σ} {P : List String → Prop} {check : List String → Bool}
    (hpush : ∀ opened name source, P opened → name ∉ opened →
      b.library.project? name = some source → P (opened ++ [name]))
    (hcheck : ∀ opened, P opened → check opened = true) {otherwise nested nested' : Nested σ}
    (hnested : ∀ ctx opened is, P opened → nested ctx opened is = nested' ctx opened is)
    (ctx : Context) {opened : List String} (hopened : P opened) (is : List Item) :
    b.items (guarded check otherwise nested) ctx opened is = b.items nested' ctx opened is := by
  -- Inside, the check holds, so the guard does not show.
  have hinside : ∀ ctx below is, P below →
      guarded check otherwise nested ctx below is = nested' ctx below is := by
    intro ctx below is hbelow
    rw [guarded, if_pos (hcheck below hbelow), hnested ctx below is hbelow]
  refine items_congr_of_codes (inclusion_congr ?_ ctx) is fun v _ => script_congr ?_ ctx v
  · intro ctx name source is hname hsource _
    exact hinside ctx _ is (hpush opened name source hopened hname hsource)
  · exact fun ctx is => hinside ctx opened is hopened

/-- **Checks never fail.** Let opening one more template keep a property of the open ones. A check that is
    passed whenever they have it is passed in front of each expansion: whatever would happen otherwise
    does not. -/
theorem itemsGuarded_eq {b : Builder σ} {P : List String → Prop} {check : List String → Bool}
    (hpush : ∀ opened name source, P opened → name ∉ opened →
      b.library.project? name = some source → P (opened ++ [name]))
    (hcheck : ∀ opened, P opened → check opened = true) (otherwise : Nested σ) (depth : Nat)
    (ctx : Context) {opened : List String} (hopened : P opened) (is : List Item) :
    b.itemsGuarded check otherwise depth ctx opened is = b.itemsWithin depth ctx opened is := by
  induction depth generalizing ctx opened is with
  | zero => exact items_guarded_eq hpush hcheck (fun _ _ _ _ => rfl) ctx hopened is
  | succ depth ih =>
    exact items_guarded_eq hpush hcheck (fun ctx opened is h => ih ctx h is) ctx hopened is

/-! ### How building fails -/

end Builder

/-- Errors about something else than open templates, as they arise. -/
def Error.IsOrdinary : Error → Prop
  | .cyclicInclude _ | .endlessExpansion | .located _ _ _ => False
  | _ => True

/-- An error of filling in a text is ordinary. -/
theorem Error.isOrdinary_of_filling {e : Error} (h : e.ArisesInFilling) : e.IsOrdinary := by
  cases e <;> trivial

/-- An error that is not attributed yet is attributed to the document around it. -/
theorem Error.attributedTo_eq_located {e : Error} (h : ∀ d line? cause, e ≠ .located d line? cause)
    (document text : String) :
    e.attributedTo document text = .located document (e.lineIn? text) e := by
  cases e with
  | located d line? cause => exact absurd rfl (h d line? cause)
  | _ => rfl

/-- An ordinary error is put at its place when it is attributed. -/
theorem Error.IsOrdinary.attributedTo {e : Error} (h : e.IsOrdinary) (document text : String) :
    e.attributedTo document text = .located document (e.lineIn? text) e :=
  Error.attributedTo_eq_located (by rintro d line? cause rfl; exact h) document text

/-- An ordinary error is its own innermost one. -/
theorem Error.IsOrdinary.innermost {e : Error} (h : e.IsOrdinary) : e.innermost = e := by
  cases e with
  | located d line? cause => exact absurd h id
  | _ => rfl

/-- The error of a document that cannot be read is ordinary. -/
theorem Document.isOrdinary_of_parse {text : String} {e : Error}
    (h : Document.parse text = .error e) : e.IsOrdinary := by
  unfold Document.parse at h
  dsimp only at h
  split at h
  · cases h
  · split at h
    · cases h
    · cases h
      trivial

namespace Builder

/-- The error of a template whose items cannot be read is ordinary. -/
theorem isOrdinary_of_templateItems {name source : String} {e : Error}
    (h : templateItems name source = .error e) : e.IsOrdinary := by
  unfold templateItems at h
  generalize hread : Document.parse source = read at h
  cases read with
  -- The document cannot be read, or it is no list of items.
  | error e' =>
    cases h
    exact Document.isOrdinary_of_parse hread
  | ok v =>
    dsimp only [bind, Except.bind] at h
    split at h
    · cases h
    · cases h
      trivial

/-- The errors that building below open templates may end with. The chain of a cycle is the way from the
    start to the template that closes it, and the name that it closes it with. -/
inductive FailsBelow (stack : List String) : Error → Prop
  | ordinary {e : Error} (h : e.IsOrdinary) : FailsBelow stack e
  | ordinaryIn {e : Error} (document : String) (line? : Option Nat) (h : e.IsOrdinary) :
    FailsBelow stack (.located document line? e)
  /-- The document itself includes a template that is open. -/
  | cycle {name : String} (h : name ∈ stack) : FailsBelow stack (.cyclicInclude (stack ++ [name]))
  /-- A template that is opened on the way does, and the error is attributed to it. -/
  | cycleIn {way : List String} {template name : String} (line? : Option Nat)
    (hway : way.getLast? = some template) (hnodup : (stack ++ way).Nodup)
    (h : name ∈ stack ++ way) :
    FailsBelow stack (.located template line? (.cyclicInclude (stack ++ way ++ [name])))

namespace FailsBelow

/-- A template that cannot be read fails, attributed to itself. -/
theorem unreadable {stack : List String} {name source : String} {e : Error}
    (h : templateItems name source = .error e) : FailsBelow stack (e.attributedTo name source) := by
  rw [(isOrdinary_of_templateItems h).attributedTo]
  exact .ordinaryIn _ _ (isOrdinary_of_templateItems h)

/-- What fails below one more template fails below the others, once it is attributed to the template. -/
theorem pop {stack : List String} {name source : String} {e : Error}
    (hnodup : (stack ++ [name]).Nodup) (h : FailsBelow (stack ++ [name]) e) :
    FailsBelow stack (e.attributedTo name source) := by
  cases h with
  | ordinary h =>
    rw [h.attributedTo]
    exact .ordinaryIn _ _ h
  | ordinaryIn document line? h => exact .ordinaryIn document line? h
  | cycle h => exact .cycleIn _ rfl hnodup h
  | cycleIn line? hway hnodup h =>
    rename_i way template repeated
    -- The way now starts with the template that is left.
    have hlast : (name :: way).getLast? = some template := by
      rw [List.getLast?_cons, hway, Option.getD_some]
    have happend : stack ++ [name] ++ way = stack ++ (name :: way) := by simp
    rw [happend] at hnodup h ⊢
    exact .cycleIn line? hlast hnodup h

/-- Building never fails for want of a budget. -/
theorem innermost_ne {stack : List String} {e : Error} (h : FailsBelow stack e) :
    e.innermost ≠ .endlessExpansion := by
  cases h with
  | ordinary h => rw [h.innermost]; rintro rfl; exact h
  | ordinaryIn document line? h => rw [Error.innermost, h.innermost]; rintro rfl; exact h
  | cycle h => simp [Error.innermost]
  | cycleIn line? hway hnodup h => simp [Error.innermost]

/-- Attributed to the document that is built, a cycle names the templates on the way to the one that
    closes it, and that template or the document. -/
theorem cycle_of_attributedTo {stack chain : List String} {document source : String} {e : Error}
    (hstack : stack.Nodup) (h : FailsBelow stack e)
    (hchain : (e.attributedTo document source).innermost = .cyclicInclude chain) :
    ∃ opened name place line?, chain = opened ++ [name] ∧ opened.Nodup ∧ stack <+: opened ∧
      name ∈ opened ∧
      e.attributedTo document source = .located place line? (.cyclicInclude chain) ∧
      (opened = stack ∧ place = document ∨ opened ≠ stack ∧ opened.getLast? = some place) := by
  -- The error is ordinary, or it is a cycle; each of them is located once.
  cases h with
  | ordinary h =>
    rw [h.attributedTo, Error.innermost, h.innermost] at hchain
    exact absurd h (by rw [hchain]; exact id)
  | ordinaryIn place line? h =>
    rw [Error.attributedTo, Error.innermost, h.innermost] at hchain
    exact absurd h (by rw [hchain]; exact id)
  | cycle h =>
    rename_i name
    cases hchain
    exact ⟨stack, name, document, _, rfl, hstack, List.prefix_refl _, h, rfl, .inl ⟨rfl, rfl⟩⟩
  | cycleIn line? hway hnodup h =>
    -- The way is not empty, and the error lies in the template that was opened last.
    rename_i way template name
    cases hchain
    have hne : way ≠ [] := by rintro rfl; simp at hway
    refine ⟨stack ++ way, name, template, line?, rfl, hnodup, List.prefix_append _ _, h, rfl,
      .inr ⟨by simpa using hne, ?_⟩⟩
    rw [List.getLast?_append, hway, Option.some_or]

end FailsBelow

/-- Errors below open templates are kept by what a document does by itself. -/
theorem closed_failsBelow (stack : List String) : Closed (fun _ => True) (FailsBelow stack) where
  file _ _ _ := trivial
  folder _ _ _ _ := trivial
  credit _ _ _ := trivial
  filling _ h := .ordinary (Error.isOrdinary_of_filling h)
  inTemplate template source e h := by
    rw [(Error.isOrdinary_of_filling h).attributedTo]
    exact .ordinaryIn _ _ (Error.isOrdinary_of_filling h)
  missing _ _ := .ordinary trivial
  malformed _ := .ordinary trivial

/-- **Failures of building.** With a budget for all names that are not open yet, building fails for want
    of nothing, and its cycles are chains of distinct templates. -/
theorem itemsWithin_yields {b : Builder σ} {projects files : Table String}
    (hlibrary : b.library = Library.ofTables projects files)
    (hcode : ∀ name source, projects.get? name = some source → Document.holdsCode source = false)
    {stack : List String} (hstack : stack.Nodup) {depth : Nat}
    (hdepth : (projects.fresh stack).length ≤ depth) (ctx : Context) {is : List Item}
    (his : Item.codesOf is = []) :
    Yields (b.itemsWithin depth ctx stack is) (fun trees => ∀ t ∈ trees, True)
      (FailsBelow stack) := by
  have hproject : b.library.project? = projects.get? := by rw [hlibrary]; rfl
  have hscript : ∀ nested v, v ∈ Item.codesOf is → Yields (b.script nested ctx stack v)
      (fun trees => ∀ t ∈ trees, True) (FailsBelow stack) := by simp [his]
  -- By induction on the budget: the errors of what is opened are those below one more template.
  induction depth generalizing stack ctx is with
  | zero =>
    have hc := closed_failsBelow stack
    refine items_yields hc ?_ is (hscript _)
    refine inclusion_yields hc (fun _ h => .cycle h) (fun _ _ _ h => .unreadable h) ?_ ctx
    -- Nothing is left to open.
    intro ctx name source its hname hsource
    rw [hproject] at hsource
    have := Table.length_fresh_append hsource hname
    omega
  | succ depth ih =>
    have hc := closed_failsBelow stack
    refine items_yields hc ?_ is (hscript _)
    refine inclusion_yields hc (fun _ h => .cycle h) (fun _ _ _ h => .unreadable h) ?_ ctx
    intro ctx name source its hname hsource hread
    rw [hproject] at hsource
    have hless := Table.length_fresh_append hsource hname
    have hnodup : (stack ++ [name]).Nodup := ((OpenAbove.start hstack).push hname hsource).nodup
    have hits := codesOf_templateItems (hcode name source hsource) hread
    have hinner := ih hnodup (by omega) ctx hits (by simp [hits])
    exact hinner.error_imp fun e he => he.pop hnodup

/-! ### Whole documents -/

/-- What attributing to the document of a build leaves of the errors inside it. -/
theorem buildText_yields {b : Builder σ} {projects files : Table String}
    (hlibrary : b.library = Library.ofTables projects files)
    (hcode : ∀ name source, projects.get? name = some source → Document.holdsCode source = false)
    (document : String) {source : String} (hsource : Document.holdsCode source = false)
    (ctx : Context) {stack : List String} (hstack : stack.Nodup) :
    Yields (b.buildText document source ctx stack) (fun _ => True)
      fun e => ∃ cause, FailsBelow stack cause ∧ e = cause.attributedTo document source := by
  unfold buildText
  generalize hread : Document.parse source = read
  apply attributed_yields
  refine Yields.error_imp (B := FailsBelow stack) ?_ fun e h => ⟨e, h, rfl⟩
  cases read with
  | error e => exact yields_throw (.ordinary (Document.isOrdinary_of_parse hread))
  | ok v =>
    dsimp only [build]
    cases his : Document.items? v with
    | none => exact yields_pure trivial
    | some is =>
      -- The budget is at least the number of templates that are not open.
      have hdepth : (projects.fresh stack).length ≤ b.library.nesting + scriptNesting := by
        have hsize := projects.length_fresh_le stack
        rw [hlibrary]
        show (projects.fresh stack).length ≤ projects.size + scriptNesting
        omega
      have hitems := Document.codesOf_eq_nil hsource hread his
      refine Yields.bind (itemsWithin_yields hlibrary hcode hstack hdepth ctx hitems) ?_
      exact fun _ _ => yields_pure trivial

/-- **Building ends, and finds the cycles.** For a library in memory and a document, none of which holds code:

* the build never fails for want of a budget, and any budget of at least the number of project templates
  gives the same trees and errors;
* a check, in front of each expansion, that the open templates are distinct and no more than those open at
  the start and those of the library together, never fails: whatever would happen otherwise, the trees
  and errors are the same;
* a cycle is reported as the chain of the distinct templates that are open, those open at the start first,
  and the one among them that is included again; the error is attributed to the last one that is open,
  or to the document if only those open at the start are. -/
theorem buildText_ends (b : Builder σ) (projects files : Table String)
    (hlibrary : b.library = Library.ofTables projects files)
    (hcode : ∀ name source, projects.get? name = some source → Document.holdsCode source = false)
    (document source : String) (hsource : Document.holdsCode source = false)
    (ctx : Context) (stack : List String) (hstack : stack.Nodup) (s : σ) :
    (∀ e, ((b.buildText document source ctx stack).run s).1 = .error e →
      e.innermost ≠ .endlessExpansion) ∧
    (∀ v is, Document.parse source = .ok v → Document.items? v = some is →
      (∀ depth, projects.size ≤ depth →
        b.itemsWithin depth ctx stack is = b.itemsWithin projects.size ctx stack is) ∧
      ∀ otherwise depth,
        b.itemsGuarded (fun opened => decide opened.Nodup &&
            decide (opened.length ≤ stack.length + projects.size)) otherwise depth ctx stack is =
          b.itemsWithin depth ctx stack is) ∧
    ∀ e chain, ((b.buildText document source ctx stack).run s).1 = .error e →
      e.innermost = .cyclicInclude chain →
      ∃ opened name place line?, chain = opened ++ [name] ∧ opened.Nodup ∧ stack <+: opened ∧
        name ∈ opened ∧ e = .located place line? (.cyclicInclude chain) ∧
        (opened = stack ∧ place = document ∨ opened ≠ stack ∧ opened.getLast? = some place) := by
  have hyields := buildText_yields hlibrary hcode document hsource ctx hstack
  refine ⟨?_, ?_, ?_⟩
  · intro e he
    obtain ⟨cause, hcause, rfl⟩ := hyields.error_of_run he
    have hne := hcause.innermost_ne
    -- Attributing an error does not change what is at its core.
    cases cause <;> exact hne
  · intro v is hv his
    have hitems := Document.codesOf_eq_nil hsource hv his
    have hfresh := projects.length_fresh_le stack
    refine ⟨fun depth hdepth => ?_, fun otherwise depth => ?_⟩
    · exact itemsWithin_eq hlibrary hcode (Nat.le_trans hfresh hdepth) hfresh ctx hitems
    -- The guard holds of the stack at the start and of each that a template is added to.
    · refine itemsGuarded_eq (P := OpenAbove projects stack) ?_ ?_ otherwise depth ctx
        (.start hstack) is
      · intro opened name source hopened hname hopens
        rw [hlibrary] at hopens
        exact hopened.push hname hopens
      · intro opened hopened
        rw [Bool.and_eq_true, decide_eq_true_eq, decide_eq_true_eq]
        exact ⟨hopened.nodup, hopened.length_le⟩
  · intro e chain he hchain
    obtain ⟨cause, hcause, rfl⟩ := hyields.error_of_run he
    exact hcause.cycle_of_attributedTo hstack hchain

/-! ### Two templates that include each other -/

/-- An engine that runs nothing. -/
def idleEngine : Engine Unit where
  openSession _ _ := pure (.ok ())
  evaluate _ := pure (.ok ⟨none, ""⟩)
  execute _ := pure (.ok ⟨none, ""⟩)

/-- Project templates each of which includes the other one. -/
def mutualProjects : Table String :=
  ⟨[("A", "- project_template: B\n"), ("B", "- x.txt\n- project_template: A\n")]⟩

/-- A builder with these templates, for which no code is run. -/
def mutualBuilder : Builder Unit where
  filler := ⟨idleEngine, none⟩
  library := .ofTables mutualProjects .empty

/-- The template `A`, built as a document, includes `B`, which includes `A`: the cycle is reported on the
    second line of `B`. -/
theorem buildText_ends_mutual :
    (∀ name source, mutualProjects.get? name = some source → Document.holdsCode source = false) ∧
    Document.holdsCode "- project_template: B\n" = false ∧ ["A"].Nodup ∧
    ((mutualBuilder.buildText "A" "- project_template: B\n" .empty ["A"]).run ()).1 =
      .error (.located "B" (some 2) (.cyclicInclude ["A", "B", "A"])) ∧
    ∃ opened name place line?, ["A", "B", "A"] = opened ++ [name] ∧ opened.Nodup ∧
      ["A"] <+: opened ∧ name ∈ opened ∧
      Error.located "B" (some 2) (.cyclicInclude ["A", "B", "A"]) =
        .located place line? (.cyclicInclude ["A", "B", "A"]) ∧
      (opened = ["A"] ∧ place = "A" ∨ opened ≠ ["A"] ∧ opened.getLast? = some place) := by
  have hcode : ∀ name source, mutualProjects.get? name = some source →
      Document.holdsCode source = false := by
    -- There are two templates, which are both without code.
    intro name source h
    have hmem := Table.mem_entries_of_get? h
    simp only [mutualProjects, List.mem_cons, Prod.mk.injEq, List.not_mem_nil, or_false] at hmem
    rcases hmem with ⟨_, rfl⟩ | ⟨_, rfl⟩
    · decide +kernel
    · decide +kernel
  have hsource : Document.holdsCode "- project_template: B\n" = false := by decide +kernel
  have hrun : ((mutualBuilder.buildText "A" "- project_template: B\n" .empty ["A"]).run ()).1 =
      .error (.located "B" (some 2) (.cyclicInclude ["A", "B", "A"])) :=
    congrArg Prod.fst (run_of_failsWith (by decide +kernel))
  have hcycle := (buildText_ends mutualBuilder mutualProjects .empty rfl hcode "A" _ hsource .empty
    ["A"] (by decide) ()).2.2 _ _ hrun rfl
  exact ⟨hcode, hsource, by decide, hrun, hcycle⟩

end Builder

end Scaffold
