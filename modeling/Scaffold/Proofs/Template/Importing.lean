import Scaffold.Proofs.Template.FollowingCode
import Scaffold.Proofs.Template.Frame

namespace Scaffold.Template

/-!
# What an import changes

An import of names from a template, where no cells have been made yet.

* `gives_insert`, `gives_importedNames` — all that an import leaves behind it is cells of inserted templates;
* `tracks_importedNames` — it does not depend on the blocks of the template it stands in;
* `exec_importNames` — so what the statement does is the same for all blocks: it gives the names values.
-/

namespace Eval

variable {run : Runner} {m : Machine}

/-! ### What changes -/

variable (hrun : ∀ xs, Framed (run xs))

include hrun

/-- An inserted template gives values to names of the innermost scope, writes, and makes cells of its own. -/
theorem gives_insert (source : Source) (hcells : m.cells = #[]) :
    Gives (insert run source) m fun _ n => ∃ scopes out discarding insertedCells, scopes.tail = m.scopes.tail ∧
      n = { m with scopes := scopes, out := out, discarding := discarding, insertedCells := insertedCells } := by
  refine gives_get_bind (gives_modify_bind (gives_checkDepth.bind ?_))
  rintro _ _ rfl
  refine gives_modify_bind (((framed_runTemplate hrun _ source).withoutClosure.summarized _ _).bind fun _ n hn =>
    gives_modify.2 ⟨n.scopes, n.out, n.discarding, n.insertedCells, hn.scopes, ?_⟩)
  have htemplates : n.templates = m.templates := hn.templates
  have hblock : n.block? = m.block? := hn.block?
  have hncells : n.cells = m.cells := (hn.cells rfl hcells).trans hcells.symm
  rw [htemplates, hblock, hncells]

/-- What changes in a machine when a template is inserted: scopes, output and the cells of inserted templates. -/
theorem gives_insertNamed (v : Value) (hcells : m.cells = #[]) :
    Gives (insertNamed run v false) m fun _ n => ∃ scopes out discarding insertedCells, scopes.tail = m.scopes.tail ∧
      n = { m with scopes := scopes, out := out, discarding := discarding, insertedCells := insertedCells } := by
  refine gives_get_bind (gives_ofResult.bind ?_)
  rintro source? _ rfl
  split
  · exact gives_insert hrun _ hcells
  · split
    · exact gives_pure.2 ⟨_, _, _, _, rfl, rfl⟩
    · exact gives_throw

/-- The values of imported names. -/
theorem gives_importedNames (line : Nat) (v : Value) (names : List String) (hcells : m.cells = #[]) :
    Gives (discarded (importedNames run (.literal line v) names)) m fun _ n =>
      ∃ insertedCells, n = { m with insertedCells := insertedCells } := by
  -- The template is run in a scope of its own, which is dropped when its names have been read.
  refine Gives.bind (P := fun _ n => ∃ insertedCells, n = { m with insertedCells := insertedCells })
    (gives_get_bind (gives_get_bind (gives_modify_bind ?_))) fun _ n hn => gives_pure.2 hn
  refine Gives.bind (P := fun _ n => ∃ out discarding insertedCells,
    n = { m with out := out, discarding := discarding, insertedCells := insertedCells }) ?_ ?_
  · refine gives_modify_bind (gives_checkDepth.bind ?_)
    rintro _ _ rfl
    refine Gives.bind (P := fun _ n => ∃ scopes out discarding insertedCells, scopes.tail = m.scopes ∧
      n = { m with scopes := scopes, out := out, discarding := discarding, insertedCells := insertedCells }) ?_ ?_
    · refine gives_pure_bind (a := v) (Gives.bind (gives_atLine (gives_insertNamed hrun v hcells)) fun _ n hn => ?_)
      exact gives_get_bind (gives_pure.2 hn)
    · rintro values _ ⟨scopes, out, discarding, insertedCells, hscopes, rfl⟩
      refine gives_modify_bind (gives_pure.2 ⟨out, discarding, insertedCells, ?_⟩)
      dsimp only
      -- The scope that was pushed is popped again, so only the inserted cells are left changed.
      rw [hscopes]
  · rintro values _ ⟨out, discarding, insertedCells, rfl⟩
    exact gives_get_bind (gives_modify_bind (gives_pure.2 ⟨insertedCells, rfl⟩))

omit hrun

/-! ### Other blocks -/

/-- `n` is the machine `m` with the given blocks. -/
def HasBlocks (blocks : List (String × BlockVersions)) (m n : Machine) : Prop := n = { m with blocks := blocks }

variable {blocks : List (String × BlockVersions)} {n : Machine}

/-- The depth of the nesting does not depend on the blocks. -/
theorem tracks_checkDepth (h : HasBlocks blocks m n) :
    Tracks (HasBlocks blocks) checkDepth m checkDepth n fun _ => True := by
  cases h
  refine tracks_get_bind ?_
  have hdepth : ({ m with blocks := blocks } : Machine).depth = m.depth := rfl
  rw [hdepth]
  split
  · exact tracks_throw
  · exact tracks_pure rfl trivial

/-- An inserted template has blocks of its own. -/
theorem tracks_insert (source : Source) (h : HasBlocks blocks m n) :
    Tracks (HasBlocks blocks) (insert run source) m (insert run source) n fun _ => True := by
  cases h
  refine tracks_get_bind
    (Tracks.bind (tracks_modify (R := HasBlocks blocks) rfl) fun _ k _ hk _ => (tracks_checkDepth hk).bind
    fun _ k _ hk _ => Tracks.bind (R := Eq) (P := fun _ => True) (tracks_modify ?_) ?_)
  · cases hk
    rfl
  · rintro _ k _ rfl -
    exact (tracks_refl _ k).bind fun _ k _ hk _ => tracks_modify (by cases hk; rfl)

/-- Which template is found depends on the templates only. -/
theorem findTemplate_congr (h : n.templates = m.templates) (names : List Value) :
    findTemplate n names = findTemplate m names := by
  induction names with
  | nil => rfl
  | cons v names ih => simp only [findTemplate, h, ih]

/-- What an inserted template does depends on no block of the template around it. -/
theorem tracks_insertNamed (v : Value) (h : HasBlocks blocks m n) :
    Tracks (HasBlocks blocks) (insertNamed run v false) m (insertNamed run v false) n fun _ => True := by
  refine tracks_get_bind ?_
  have htemplates : n.templates = m.templates := by
    cases h
    rfl
  rw [findTemplate_congr htemplates]
  cases findTemplate m (templateNames v) with
  | error fault => exact tracks_throw
  | ok source? =>
    -- A template that is found is inserted; none at all is a fault on both sides.
    refine Tracks.bind (R := HasBlocks blocks) (P := fun _ => True) (tracks_pure h trivial) fun found k l hk _ => ?_
    split
    · exact tracks_insert _ hk
    · split
      · exact tracks_pure hk trivial
      · exact tracks_throw

/-- The values of imported names do not depend on the blocks of the template. -/
theorem tracks_importedNames (line : Nat) (v : Value) (names : List String) (h : HasBlocks blocks m n) :
    Tracks (HasBlocks blocks) (discarded (importedNames run (.literal line v) names)) m
      (discarded (importedNames run (.literal line v) names)) n fun _ => True := by
  -- Nothing that happens here reads the blocks.
  have hlookup (name : String) (k : Machine) :
    ({ k with blocks := blocks } : Machine).lookup? name = k.lookup? name := rfl
  have hchange {f : Machine → Machine}
    (hf : ∀ k : Machine, f { k with blocks := blocks } = { f k with blocks := blocks })
      {k l : Machine} (hk : HasBlocks blocks k l) :
      Tracks (HasBlocks blocks) (modify f : Eval PUnit) k (modify f) l fun _ => True :=
    tracks_modify (by cases hk; exact hf k)
  cases h
  refine Tracks.bind (P := fun _ => True) (tracks_get_bind (tracks_get_bind ?_)) fun r _ _ hk _ =>
    tracks_pure hk trivial
  refine (hchange (fun _ => rfl) rfl).bind fun _ k _ hk _ => ?_
  refine Tracks.bind (R := HasBlocks blocks) (P := fun _ => True) ?_ fun values k _ hk _ => tracks_get_bind ?_
  · refine (hchange (fun _ => rfl) hk).bind fun _ k _ hk _ => (tracks_checkDepth hk).bind fun _ k _ hk _ => ?_
    refine Tracks.bind (R := HasBlocks blocks) (P := fun _ => True) ?_ fun values k _ hk _ =>
      (hchange (fun _ => rfl) hk).bind fun _ _ _ hk _ => tracks_pure hk trivial
    refine Tracks.bind (R := HasBlocks blocks) (P := fun w => w = v) (tracks_pure hk rfl) fun _ k _ hk hv => ?_
    cases hv
    refine (tracks_atLine (tracks_insertNamed v hk)).bind fun _ k _ hk _ => tracks_get_bind ?_
    cases hk
    exact tracks_pure rfl trivial
  · cases hk
    exact (hchange (fun _ => rfl) rfl).bind fun _ _ _ hk _ => tracks_pure hk trivial

/-! ### The statement -/

/-- The names of a scope with the values of imported names, the last one first. -/
def Names.putImported (ns : Names) (imports : List ((String × String) × Value)) : Names :=
  imports.foldl (fun ns x => ns.put x.1.2 x.2) ns

/-- A name that is not imported stands for what it stood for. -/
theorem lookup_putImported {ns : Names} {imports : List ((String × String) × Value)} {name : String}
    (h : ∀ x ∈ imports, x.1.2 ≠ name) : (Names.putImported ns imports).lookup name = ns.lookup name := by
  refine List.foldlRecOn (motive := fun ns' : Names => ns'.lookup name = ns.lookup name) imports _ rfl
    fun ns' hns x hx => ?_
  rw [lookup_put, if_neg (h x hx).symm, hns]

/-- Names that are stored one after the other. -/
theorem apply_stores (imports : List ((String × String) × Value)) {s : Scope} (hs : m.scopes = [s])
    (hclosure : s.closure? = none) :
    (forIn imports PUnit.unit (fun x _ => do
      store x.1.2 x.2
      pure (.yield PUnit.unit)) : Eval PUnit) m =
      .ok (⟨⟩, { m with scopes := [{ s with names := Names.putImported s.names imports }] }) := by
  induction imports generalizing m s with
  | nil =>
    obtain ⟨_, _, _⟩ := m
    cases hs
    rfl
  | cons x imports ih =>
    -- One step stores one name in the only scope, which stays the only one.
    have hstore : store x.1.2 x.2 m =
        .ok (⟨⟩, { m with scopes := [{ s with names := s.names.put x.1.2 x.2 }] }) := by
      simp only [store, apply_modify, Machine.store, hs, hclosure]
    have hstep : (do
        store x.1.2 x.2
        pure (ForInStep.yield PUnit.unit) : Eval _) m =
          .ok (.yield ⟨⟩, { m with scopes := [{ s with names := s.names.put x.1.2 x.2 }] }) :=
            apply_bind_of_eq_ok hstore
    rw [List.forIn_cons]
    exact (apply_bind_of_eq_ok hstep).trans
      (ih (m := { m with scopes := [{ s with names := s.names.put x.1.2 x.2 }] }) rfl hclosure)

/-- What an import of names does to a machine with one scope: it stores the names. -/
theorem exec_importNames (hrun : ∀ xs, Framed (run xs)) {line : Nat} {v : Value} {names : List (String × String)}
    {s : Scope} (hcells : m.cells = #[]) (hs : m.scopes = [s]) (hclosure : s.closure? = none) {flow : Flow}
    (h : (Statement.importNames (.literal line v) names).exec run m = .ok (flow, n)) :
    ∃ ns insertedCells, (∀ name, (∀ x ∈ names, x.2 ≠ name) → ns.lookup name = s.names.lookup name) ∧
      ∀ blocks, (Statement.importNames (.literal line v) names).exec run { m with blocks := blocks } =
        .ok (.done, { m with blocks := blocks, scopes := [{ s with names := ns }], insertedCells := insertedCells })
          := by
  rw [Statement.exec] at h ⊢
  rw [apply_bind] at h
  split at h
  · rename_i values k hk
    obtain ⟨insertedCells, rfl⟩ := gives_importedNames hrun line v _ hcells values k hk
    -- A name that is not imported is not stored under.
    refine ⟨Names.putImported s.names (names.zip values).reverse, insertedCells, fun name hname => ?_, fun blocks => ?_⟩
    · refine lookup_putImported fun x hx => hname x.1 ?_
      exact (List.of_mem_zip (List.mem_reverse.1 hx)).1
    · have hblocks : HasBlocks blocks m { m with blocks := blocks } := rfl
      obtain ⟨l, hl, hblocks, -⟩ := tracks_importedNames line v (names.map Prod.fst) hblocks values _ hk
      cases hblocks
      have hstores := apply_stores (m := { m with blocks := blocks, insertedCells := insertedCells })
        (names.zip values).reverse hs hclosure
      exact (apply_bind_of_eq_ok hl).trans (apply_bind_of_eq_ok hstores)
  · cases h

end Eval

end Scaffold.Template
