import Scaffold.Proofs.Template.Own
import Scaffold.Template.FreeNames

namespace Scaffold.Template

/-!
# The names that code reads

Code that looks up none but certain names, whose literals are values of the template's own, and that asks for no
other template by `include` or `import`.

* `Expr.Uses p`, `Statement.Uses p` — the names that the code looks up satisfy `p`;
* `uses_free` — the names that a definition captures are among those that it looks up.
-/

section Definitions

variable (p : String → Prop)

mutual

/-- The names that the expression looks up satisfy `p`. -/
def Expr.Uses : Expr → Prop
  | .literal _ v => v.Own
  | .name _ id => p id
  | .list _ items => Expr.UsesItems items
  | .map _ entries => Expr.UsesEntries entries
  | .negative _ e => e.Uses
  | .opposite _ e => e.Uses
  | .binary _ _ l r => l.Uses ∧ r.Uses
  | .comparisons _ first rest => first.Uses ∧ Expr.UsesComparisons rest
  | .both _ l r => l.Uses ∧ r.Uses
  | .either _ l r => l.Uses ∧ r.Uses
  | .conditional _ test yes no => test.Uses ∧ yes.Uses ∧ no.Uses
  | .member _ e _ => e.Uses
  | .item _ e key => e.Uses ∧ key.Uses
  | .slice _ e start stop step => e.Uses ∧ start.Uses ∧ stop.Uses ∧ step.Uses
  | .filter _ e _ args => e.Uses ∧ Argument.UsesAll args
  | .test _ e _ args => e.Uses ∧ Argument.UsesAll args
  | .call _ c => c.Uses

/-- Some expressions. -/
def Expr.UsesItems : List Expr → Prop
  | [] => True
  | e :: es => e.Uses ∧ Expr.UsesItems es

/-- Some keys and values. -/
def Expr.UsesEntries : List (Expr × Expr) → Prop
  | [] => True
  | (k, e) :: entries => (k.Uses ∧ e.Uses) ∧ Expr.UsesEntries entries

/-- The rest of a chain of comparisons. -/
def Expr.UsesComparisons : List (BinaryOp × Expr) → Prop
  | [] => True
  | (_, e) :: rest => e.Uses ∧ Expr.UsesComparisons rest

/-- What is called, and the arguments. The body of a block is called by no name of the code. -/
def Call.Uses : Call → Prop
  | .function name args => p name ∧ Argument.UsesAll args
  | .method e _ args => e.Uses ∧ Argument.UsesAll args
  | .value e args => e.Uses ∧ Argument.UsesAll args
  | .block _ => True

/-- One argument. -/
def Argument.Uses : Argument → Prop
  | .positional e | .named _ e | .spread e | .spreadNamed e => e.Uses

/-- Some arguments. -/
def Argument.UsesAll : List Argument → Prop
  | [] => True
  | a :: args => a.Uses ∧ Argument.UsesAll args

end

mutual

/-- The names that a target looks up satisfy `p`; the names that it gives a value may be any. -/
def Target.Uses : Target → Prop
  | .name _ => True
  | .entry _ record _ => record.Uses p
  | .tuple _ targets => Target.UsesAll targets

/-- Some targets. -/
def Target.UsesAll : List Target → Prop
  | [] => True
  | t :: targets => t.Uses ∧ Target.UsesAll targets

end

/-- A filter that is applied to a whole body. -/
def FilterCall.Uses (f : FilterCall) : Prop := Argument.UsesAll p f.args

/-- A parameter with its default. -/
def Param.Uses (x : Param) : Prop := ∀ e, x.default? = some e → e.Uses p

mutual

/-- The names that the statement looks up satisfy `p`, and it inserts no templates. -/
def Statement.Uses : Statement → Prop
  | .text _ => True
  | .emit e => e.Uses p
  | .loop target source condition? _ body otherwise =>
    (target.Uses p ∧ source.Uses p ∧ ∀ e, condition? = some e → e.Uses p) ∧
      Statement.UsesAll body ∧ Statement.UsesAll otherwise
  | .branch test yes no => test.Uses p ∧ Statement.UsesAll yes ∧ Statement.UsesAll no
  | .bindings _ entries body => (∀ x ∈ entries, x.1.Uses p ∧ x.2.Uses p) ∧ Statement.UsesAll body
  | .assign target e => target.Uses p ∧ e.Uses p
  | .capture target filters body => (target.Uses p ∧ ∀ f ∈ filters, f.Uses p) ∧ Statement.UsesAll body
  | .escaping mode body => mode.Uses p ∧ Statement.UsesAll body
  | .filtered filters body => (∀ f ∈ filters, f.Uses p) ∧ Statement.UsesAll body
  | .block _ _ | .required _ _ => True
  | .parent e => e.Uses p
  -- What reaches another template is not followed.
  | .insertion _ _ | .importAll _ _ | .importNames _ _ => False
  | .define _ params body => (∀ x ∈ params, x.Uses p) ∧ Statement.UsesAll body
  | .callWith _ c params body => c.Uses p ∧ (∀ x ∈ params, x.Uses p) ∧ Statement.UsesAll body
  | .perform _ c => c.Uses p
  | .leave | .next => True

/-- Some statements. -/
def Statement.UsesAll : List Statement → Prop
  | [] => True
  | x :: xs => x.Uses ∧ Statement.UsesAll xs

end

end Definitions

variable {p : String → Prop}

/-! ### Lists of parts -/

/-- The same, as a statement about each expression. -/
theorem Expr.usesItems_iff {es : List Expr} : Expr.UsesItems p es ↔ ∀ e ∈ es, e.Uses p := by
  induction es with
  | nil => simp [Expr.UsesItems]
  | cons e es ih => rw [Expr.UsesItems, ih, List.forall_mem_cons]

/-- The same, as a statement about each key and value. -/
theorem Expr.usesEntries_iff {entries : List (Expr × Expr)} :
    Expr.UsesEntries p entries ↔ ∀ x ∈ entries, x.1.Uses p ∧ x.2.Uses p := by
  induction entries with
  | nil => simp [Expr.UsesEntries]
  | cons x entries ih => rw [Expr.UsesEntries, ih, List.forall_mem_cons]

/-- The same, as a statement about each comparison. -/
theorem Expr.usesComparisons_iff {rest : List (BinaryOp × Expr)} :
    Expr.UsesComparisons p rest ↔ ∀ x ∈ rest, x.2.Uses p := by
  induction rest with
  | nil => simp [Expr.UsesComparisons]
  | cons x rest ih => rw [Expr.UsesComparisons, ih, List.forall_mem_cons]

/-- The same, as a statement about each argument. -/
theorem Argument.usesAll_iff {args : List Argument} : Argument.UsesAll p args ↔ ∀ a ∈ args, a.Uses p := by
  induction args with
  | nil => simp [Argument.UsesAll]
  | cons a args ih => rw [Argument.UsesAll, ih, List.forall_mem_cons]

/-- The same, as a statement about each target. -/
theorem Target.usesAll_iff {targets : List Target} : Target.UsesAll p targets ↔ ∀ t ∈ targets, t.Uses p := by
  induction targets with
  | nil => simp [Target.UsesAll]
  | cons t targets ih => rw [Target.UsesAll, ih, List.forall_mem_cons]

/-- The same, as a statement about each statement of the list. -/
theorem Statement.usesAll_iff {xs : List Statement} : Statement.UsesAll p xs ↔ ∀ x ∈ xs, x.Uses p := by
  induction xs with
  | nil => simp [Statement.UsesAll]
  | cons x xs ih => rw [Statement.UsesAll, ih, List.forall_mem_cons]

/-! ### Free names -/

mutual

/-- The names that an expression reads are names that it uses. The cases follow the expression. -/
theorem Expr.uses_reads : ∀ e : Expr, e.Uses p → ∀ name ∈ e.reads, p name
  | .literal _ _, _ => by simp [Expr.reads]
  | .name _ id, h => by
    rintro _ (_ | ⟨_, ⟨⟩⟩)
    exact h
  | .list _ items, h => Expr.uses_readsOfItems items h
  | .map _ entries, h => Expr.uses_readsOfEntries entries h
  | .negative _ e, h => e.uses_reads h
  | .opposite _ e, h => e.uses_reads h
  | .binary _ _ l r, h => List.forall_mem_append.2 ⟨l.uses_reads h.1, r.uses_reads h.2⟩
  | .comparisons _ first rest, h =>
    List.forall_mem_append.2 ⟨first.uses_reads h.1, Expr.uses_readsOfComparisons rest h.2⟩
  | .both _ l r, h => List.forall_mem_append.2 ⟨l.uses_reads h.1, r.uses_reads h.2⟩
  | .either _ l r, h => List.forall_mem_append.2 ⟨l.uses_reads h.1, r.uses_reads h.2⟩
  | .conditional _ test yes no, h => List.forall_mem_append.2
      ⟨List.forall_mem_append.2 ⟨test.uses_reads h.1, yes.uses_reads h.2.1⟩, no.uses_reads h.2.2⟩
  | .member _ e _, h => e.uses_reads h
  | .item _ e key, h => List.forall_mem_append.2 ⟨e.uses_reads h.1, key.uses_reads h.2⟩
  | .slice _ _ start stop step, h => List.forall_mem_append.2
      ⟨List.forall_mem_append.2 ⟨start.uses_reads h.2.1, stop.uses_reads h.2.2.1⟩, step.uses_reads h.2.2.2⟩
  | .filter _ e _ args, h => List.forall_mem_append.2 ⟨e.uses_reads h.1, Argument.uses_readsOfAll args h.2⟩
  | .test _ e _ args, h => List.forall_mem_append.2 ⟨e.uses_reads h.1, Argument.uses_readsOfAll args h.2⟩
  | .call _ c, h => c.uses_reads h

/-- The names that expressions read. -/
theorem Expr.uses_readsOfItems : ∀ es : List Expr, Expr.UsesItems p es → ∀ name ∈ Expr.readsOfItems es, p name
  | [], _ => by simp [Expr.readsOfItems]
  | e :: es, h => List.forall_mem_append.2 ⟨e.uses_reads h.1, Expr.uses_readsOfItems es h.2⟩

/-- The names that keys and values read. -/
theorem Expr.uses_readsOfEntries : ∀ entries : List (Expr × Expr), Expr.UsesEntries p entries →
    ∀ name ∈ Expr.readsOfEntries entries, p name
  | [], _ => by simp [Expr.readsOfEntries]
  | (k, e) :: entries, h => List.forall_mem_append.2
      ⟨List.forall_mem_append.2 ⟨k.uses_reads h.1.1, e.uses_reads h.1.2⟩, Expr.uses_readsOfEntries entries h.2⟩

/-- The names that a chain of comparisons reads. -/
theorem Expr.uses_readsOfComparisons : ∀ rest : List (BinaryOp × Expr), Expr.UsesComparisons p rest →
    ∀ name ∈ Expr.readsOfComparisons rest, p name
  | [], _ => by simp [Expr.readsOfComparisons]
  | (_, e) :: rest, h => List.forall_mem_append.2 ⟨e.uses_reads h.1, Expr.uses_readsOfComparisons rest h.2⟩

/-- The names that a call reads. -/
theorem Call.uses_reads : ∀ c : Call, c.Uses p → ∀ name ∈ c.reads, p name
  | .function _ args, h => List.forall_mem_cons.2 ⟨h.1, Argument.uses_readsOfAll args h.2⟩
  | .method e _ args, h => List.forall_mem_append.2 ⟨e.uses_reads h.1, Argument.uses_readsOfAll args h.2⟩
  | .value e args, h => List.forall_mem_append.2 ⟨e.uses_reads h.1, Argument.uses_readsOfAll args h.2⟩
  | .block _, _ => by simp [Call.reads]

/-- The names that arguments read. -/
theorem Argument.uses_readsOfAll : ∀ args : List Argument, Argument.UsesAll p args →
    ∀ name ∈ Argument.readsOfAll args, p name
  | [], _ => by simp [Argument.readsOfAll]
  | .positional e :: args, h => List.forall_mem_append.2 ⟨e.uses_reads h.1, Argument.uses_readsOfAll args h.2⟩
  | .named _ e :: args, h => List.forall_mem_append.2 ⟨e.uses_reads h.1, Argument.uses_readsOfAll args h.2⟩
  | .spread e :: args, h => List.forall_mem_append.2 ⟨e.uses_reads h.1, Argument.uses_readsOfAll args h.2⟩
  | .spreadNamed e :: args, h => List.forall_mem_append.2 ⟨e.uses_reads h.1, Argument.uses_readsOfAll args h.2⟩

end

/-- The names found free so far satisfy `p`. -/
def FreeNames.Uses (p : String → Prop) (s : FreeNames) : Prop := ∀ name ∈ s.free, p name

/-- Names that are bound are not free any more, so fewer names are left. -/
theorem FreeNames.Uses.bind {s : FreeNames} (h : s.Uses p) (names : List String) : (s.bind names).Uses p := h

/-- Names that are read may become free. -/
theorem FreeNames.Uses.read {s : FreeNames} (h : s.Uses p) {names : List String} (hnames : ∀ name ∈ names, p name) :
    (s.read names).Uses p :=
  List.forall_mem_append.2 ⟨h, fun name hname => hnames name (List.mem_filter.1 hname).1⟩

/-- The names that the defaults of parameters read. -/
theorem uses_readsOfDefaults {params : List Param} (h : ∀ x ∈ params, x.Uses p) :
    ∀ name ∈ params.flatMap fun x => (x.default?.map Expr.reads).getD [], p name := by
  intro name hname
  obtain ⟨x, hx, hname⟩ := List.mem_flatMap.1 hname
  cases hdefault : x.default? with
  | none => simp [hdefault] at hname
  | some e =>
    rw [hdefault] at hname
    exact e.uses_reads (h x hx e hdefault) name hname

/-- The parameters of a macro, which bind their names. -/
theorem Param.uses_enter {params : List Param} (h : ∀ x ∈ params, x.Uses p) {s : FreeNames} (hs : s.Uses p) :
    (Param.enter params s).Uses p :=
  (hs.bind _).read (uses_readsOfDefaults h)

mutual

/-- The free names behind a statement are names that it uses, or those of the code in front of it. -/
theorem Statement.uses_scan : ∀ (x : Statement) (s : FreeNames), x.Uses p → s.Uses p → (x.scan s).Uses p
  | .text _, _, _, hs => hs
  | .emit e, _, h, hs => hs.read (e.uses_reads h)
  -- The condition and the body are read with the targets bound.
  | .loop target source condition? _ body otherwise, s, h, hs => by
    have hcondition : ∀ name ∈ (condition?.map Expr.reads).getD [], p name := by
      cases condition? with
      | none => simp
      | some e => exact e.uses_reads (h.1.2.2 e rfl)
    have hinner := (((hs.bind ["loop"]).read (source.uses_reads h.1.2.1)).bind target.binds).read hcondition
    exact Statement.uses_scanAll otherwise _ h.2.2 (Statement.uses_scanAll body _ h.2.1 hinner)
  | .branch test yes no, _, h, hs =>
    Statement.uses_scanAll no _ h.2.2 (Statement.uses_scanAll yes _ h.2.1 (hs.read (test.uses_reads h.1)))
  | .bindings _ entries body, s, h, hs => by
    refine Statement.uses_scanAll body _ h.2 ?_
    refine List.foldlRecOn (motive := fun s : FreeNames => s.Uses p) entries _ hs fun s hs x hx => ?_
    exact (hs.bind _).read (x.2.uses_reads (h.1 x hx).2)
  | .assign _ e, _, h, hs => (hs.bind _).read (e.uses_reads h.2)
  | .capture _ _ body, _, h, hs => Statement.uses_scanAll body _ h.2 (hs.bind _)
  | .escaping _ body, _, h, hs => Statement.uses_scanAll body _ h.2 hs
  | .filtered _ body, _, h, hs => Statement.uses_scanAll body _ h.2 hs
  | .block _ _, _, _, hs => hs
  | .required _ _, _, _, hs => hs
  | .parent _, _, _, hs => hs
  | .insertion _ _, _, _, hs => hs
  | .importAll _ _, _, _, hs => hs
  | .importNames _ _, _, _, hs => hs
  | .define _ _ body, _, h, hs => Statement.uses_scanAll body _ h.2 (Param.uses_enter h.1 (hs.bind _))
  | .callWith _ c _ body, _, h, hs =>
    Statement.uses_scanAll body _ h.2.2 (Param.uses_enter h.2.1 (hs.read (c.uses_reads h.1)))
  | .perform _ c, _, h, hs => hs.read (c.uses_reads h)
  | .leave, _, _, hs => hs
  | .next, _, _, hs => hs

/-- The free names behind some statements. -/
theorem Statement.uses_scanAll : ∀ (xs : List Statement) (s : FreeNames), Statement.UsesAll p xs → s.Uses p →
    (Statement.scanAll xs s).Uses p
  | [], _, _, hs => hs
  | x :: xs, s, h, hs => Statement.uses_scanAll xs _ h.2 (x.uses_scan s h.1 hs)

end

/-- **Captures.** The names that a definition captures are among those that it looks up. -/
theorem Param.uses_free {params : List Param} {body : List Statement} (h : ∀ x ∈ params, x.Uses p)
    (hbody : Statement.UsesAll p body) : ∀ name ∈ Param.free params body, p name :=
  Statement.uses_scanAll body _ hbody (FreeNames.Uses.read (s := FreeNames.bind _ _)
    (by simp [FreeNames.Uses, FreeNames.bind]) (uses_readsOfDefaults h))

end Scaffold.Template
