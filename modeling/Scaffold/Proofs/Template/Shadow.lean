import Mathlib.Data.List.Forall2
import Scaffold.Proofs.Template.OwnFilters
import Scaffold.Proofs.Template.Uses
import Scaffold.Template.Session

namespace Scaffold.Template

/-!
# Machines that look alike

Two machines that run the same code, one of which knows other templates, holds what these have made, and has more names.

* `Machine.Plain p` — a machine without other templates, whose code uses none but names that satisfy `p`;
* `Shadow p m m'` — `m'` is the plain machine `m` but for what code of this kind cannot see;
* `Shadow.lookup?`, `Shadow.resolve` — what such code sees is the same in both.
-/

/-! ### Machines without other templates -/

section Definitions

variable (p : String → Prop)

/-- Values of the template's own behind a scope. -/
def Backing.Plain : Backing → Prop
  | .nothing => True
  | .names entries => ∀ e ∈ entries, e.2.Own
  | .closure r => r.inserted = false

/-- The cell of a loop is none of an inserted template, and its body uses names that satisfy `p`. -/
structure LoopScope.Plain (l : LoopScope) : Prop where
  at_ : l.at_.inserted = false
  recursion? : ∀ target body, l.recursion? = some (target, body) → target.Uses p ∧ Statement.UsesAll p body

/-- A scope with values of the template's own. -/
structure Scope.Plain (s : Scope) : Prop where
  names : ∀ e ∈ s.names, e.2.Own
  backing : s.backing.Plain
  closure? : ∀ r, s.closure? = some r → r.inserted = false
  loop? : ∀ l, s.loop? = some l → l.Plain p

/-- A cell with values of the template's own and code that uses names that satisfy `p`. -/
def Cell.Plain : Cell → Prop
  | .record entries => ∀ e ∈ entries, e.2.Own
  | .closure names => ∀ e ∈ names, e.2.Own
  | .loop l => ∀ (i : Nat) (v : Value), l.items[i]? = some v → v.Own
  | .definition d => (∀ x ∈ d.params, x.Uses p) ∧ Statement.UsesAll p d.body ∧ d.closure.inserted = false

/-- A machine without other templates whose code uses none but names that satisfy `p`. -/
structure Machine.Plain (m : Machine) : Prop where
  templates : m.templates = []
  insertedCells : m.insertedCells = #[]
  isInserted : m.isInserted = false
  parent? : m.parent? = none
  scopes : ∀ s ∈ m.scopes, s.Plain p
  cells : ∀ (i : Nat) (c : Cell), m.cells[i]? = some c → c.Plain p
  blocks : ∀ b ∈ m.blocks, ∀ v ∈ b.2.versions, Statement.UsesAll p v.2

/-- Scopes in which the names that satisfy `p` stand for the same. -/
structure Scope.Alike (s s' : Scope) : Prop where
  backing : s'.backing = s.backing
  closure? : s'.closure? = s.closure?
  loop? : s'.loop? = s.loop?
  names : ∀ name, p name → s'.names.lookup name = s.names.lookup name

/-- A machine with other templates, with what these have made, and with other scopes. -/
def Machine.over (m : Machine) (templates : List (String × Source)) (insertedCells : Array Cell) (scopes : List Scope) :
    Machine :=
  { m with templates := templates, insertedCells := insertedCells, scopes := scopes }

/-- `m'` is the plain machine `m` but for what code that uses names that satisfy `p` cannot see. -/
def Shadow (m m' : Machine) : Prop :=
  m.Plain p ∧ ∃ templates insertedCells scopes, List.Forall₂ (Scope.Alike p) m.scopes scopes ∧
    m' = m.over templates insertedCells scopes

end Definitions

variable {p : String → Prop}

/-- The scope of a block before anything is stored in it. -/
theorem Scope.plain_empty : Scope.empty.Plain p :=
  ⟨by simp [Scope.empty], trivial, by simp [Scope.empty], by simp [Scope.empty]⟩

/-- The scope of a loop. -/
theorem Scope.plain_ofLoop {r : Ref} (hr : r.inserted = false) (visible : Bool)
    (recursion? : Option (Target × List Statement))
    (h : ∀ target body, recursion? = some (target, body) → target.Uses p ∧ Statement.UsesAll p body) :
    ({ Scope.empty with loop? := some ⟨r, visible, recursion?⟩ } : Scope).Plain p := by
  refine ⟨by simp [Scope.empty], trivial, by simp [Scope.empty], fun l hl => ?_⟩
  cases hl
  exact ⟨hr, h⟩

/-- A scope looks like itself. -/
theorem Scope.Alike.refl (s : Scope) : s.Alike p s := ⟨rfl, rfl, rfl, fun _ _ => rfl⟩

/-! ### Entries by name -/

/-- What is found behind a name that was put in. -/
theorem lookup_put (names : Names) (name other : String) (value : Value) :
    (names.put name value).lookup other = if other = name then some value else names.lookup other := by
  -- The induction is on the names, which keep their order.
  induction names with
  | nil =>
    rw [Names.put, List.lookup_cons]
    split <;> simp_all
  | cons e names ih =>
    obtain ⟨k, v⟩ := e
    rw [Names.put]
    split
    · rename_i hk
      subst hk
      simp only [List.lookup_cons]
      split <;> simp_all
    · simp only [List.lookup_cons, ih]
      split <;> simp_all

/-- A value of the template's own that is put under a name. -/
theorem own_names_put {names : Names} {name : String} {value : Value} (h : ∀ e ∈ names, e.2.Own) (hv : value.Own) :
    ∀ e ∈ names.put name value, e.2.Own := by
  induction names with
  | nil => simpa [Names.put] using hv
  | cons e names ih =>
    obtain ⟨he, hrest⟩ := List.forall_mem_cons.1 h
    rw [Names.put]
    split
    · exact List.forall_mem_cons.2 ⟨hv, hrest⟩
    · exact List.forall_mem_cons.2 ⟨he, ih hrest⟩

/-! ### Content of objects -/

/-- What code sees of a loop: numbers, and some of its items. -/
theorem LoopState.own_entries {l : LoopState} (h : ∀ (i : Nat) (v : Value), l.items[i]? = some v → v.Own) :
    ∀ e ∈ l.entries, e.1.Own ∧ e.2.Own := by
  -- Items that are not there stand as undefined.
  have hitem (i : Nat) :
    ((l.items[i]?).getD .undefined).Own := Value.own_getD (fun w hw => h i w hw) Value.own_undefined
  have hleft (n : Nat) : ((l.length?.map fun length => Value.int (length - n : Nat)).getD .undefined).Own := by
    refine Value.own_getD (fun w hw => ?_) Value.own_undefined
    obtain ⟨_, -, rfl⟩ := Option.map_eq_some_iff.1 hw
    exact Value.own_int _
  have hprevious : (if l.index = 0 then Value.undefined else (l.items[l.index - 1]?).getD .undefined).Own := by
    split
    · exact Value.own_undefined
    · exact hitem _
  unfold LoopState.entries
  simp only [List.forall_mem_cons, Value.own_text, Value.own_int, Value.own_bool, hitem, hleft, hprevious, true_and]
  exact fun _ h => by cases h

namespace Machine

variable {m : Machine} {templates : List (String × Source)} {insertedCells : Array Cell} {scopes : List Scope}

/-- Cells of the template are the same, whatever an inserted one has made. -/
theorem cell?_over {r : Ref} (hr : r.inserted = false) :
    (m.over templates insertedCells scopes).cell? r = m.cell? r := by
  simp only [cell?, Machine.over, hr, Bool.false_eq_true, if_false]

/-- The content of a cell of the template. -/
theorem Plain.cell? (hm : m.Plain p) {r : Ref} {c : Cell} (hr : r.inserted = false) (h : m.cell? r = some c) :
    c.Plain p := by
  simp only [Machine.cell?, hr, Bool.false_eq_true, if_false] at h
  exact hm.cells r.index c h

/-- The content of an object of the template. -/
theorem content?_over {role : Role} (hrole : role.IsOwn) :
    (m.over templates insertedCells scopes).content? role = m.content? role := by
  cases role with
  | record r => simp only [content?, record?, cell?_over (show r.inserted = false from hrole)]
  | loop r => simp only [content?, loop?, cell?_over (show r.inserted = false from hrole)]
  | definition | library => rfl

/-- The content of an object: entries that are of the template's own. -/
theorem Plain.content? (hm : m.Plain p) {role role' : Role} {entries : List (Value × Value)} (hrole : role.IsOwn)
    (h : m.content? role = some (role', entries)) : role'.IsOwn ∧ ∀ e ∈ entries, e.1.Own ∧ e.2.Own := by
  cases role with
  | record r =>
    obtain ⟨names, hnames, hcontent⟩ := Option.map_eq_some_iff.1 h
    cases hcontent
    refine ⟨hrole, fun e he => ?_⟩
    obtain ⟨x, hx, rfl⟩ := List.mem_map.1 he
    -- A record is a cell of the machine.
    have hcell : m.cell? r = some (.record names) := by
      unfold record? at hnames
      split at hnames
      · rename_i hc
        cases hnames
        exact hc
      · cases hnames
    exact ⟨Value.own_text _, hm.cell? hrole hcell x (List.mem_mergeSort.1 hx)⟩
  | loop r progress =>
    obtain ⟨l, hl, hcontent⟩ := Option.map_eq_some_iff.1 h
    cases hcontent
    -- A loop is a cell of the machine, too.
    have hcell : m.cell? r = some (.loop l) := by
      unfold loop? at hl
      split at hl
      · rename_i hc
        cases hl
        exact hc
      · cases hl
    exact ⟨hrole, l.own_entries (hm.cell? hrole hcell)⟩
  | definition | library => cases h

/-- What is known of an object at present. -/
theorem Plain.own_content (hm : m.Plain p) {role : Role} {entries : List (Value × Value)} (hrole : role.IsOwn)
    (hentries : ∀ e ∈ entries, e.1.Own ∧ e.2.Own) :
    ((m.content? role).getD (role, entries)).1.IsOwn ∧
      ∀ e ∈ ((m.content? role).getD (role, entries)).2, e.1.Own ∧ e.2.Own := by
  cases h : m.content? role with
  | none => exact ⟨hrole, hentries⟩
  | some r => exact hm.content? hrole h

/-- An object of the template, looked up again. -/
theorem refreshed_over {v : Value} (hv : v.Own) :
    (m.over templates insertedCells scopes).refreshed v = m.refreshed v := by
  cases v with
  | object role entries => simp only [refreshed, content?_over (Value.own_object.1 hv).1]
  | _ => rfl

/-- An object that is looked up again is of the template's own. -/
theorem Plain.own_refreshed (hm : m.Plain p) {v : Value} (hv : v.Own) : (m.refreshed v).Own := by
  cases v with
  | object role entries =>
    obtain ⟨hrole, hentries⟩ := Value.own_object.1 hv
    exact Value.own_object.2 (hm.own_content hrole hentries)
  | _ => exact hv

end Machine

/-! ### Content of values -/

namespace Value

section MapObjects

variable {f g : Role → List (Value × Value) → Value}

mutual

/-- Two ways of changing objects that agree on objects of the template. -/
theorem mapObjects_congr (h : ∀ role entries, role.IsOwn → (∀ e ∈ entries, e.1.Own ∧ e.2.Own) →
    f role entries = g role entries) : ∀ v : Value, v.Own → mapObjects f v = mapObjects g v
  | .list kind items, hv => congrArg (list kind) (mapObjectsOfItems_congr h items hv)
  | .map entries, hv => congrArg map (mapObjectsOfEntries_congr h entries hv)
  | .object role entries, hv => h role entries hv.1 (ownEntries_iff.1 hv.2)
  | .undefined, _ | .none, _ | .bool _, _ | .int _, _ | .float _, _ | .string _ _, _ | .builtin _, _
  | .invalid _, _ => rfl

/-- The items of a list. -/
theorem mapObjectsOfItems_congr (h : ∀ role entries, role.IsOwn → (∀ e ∈ entries, e.1.Own ∧ e.2.Own) →
    f role entries = g role entries) : ∀ items : List Value, OwnItems items →
      mapObjectsOfItems f items = mapObjectsOfItems g items
  | [], _ => rfl
  | v :: items, hv => congrArg₂ List.cons (mapObjects_congr h v hv.1) (mapObjectsOfItems_congr h items hv.2)

/-- The keys and values of a mapping. -/
theorem mapObjectsOfEntries_congr (h : ∀ role entries, role.IsOwn → (∀ e ∈ entries, e.1.Own ∧ e.2.Own) →
    f role entries = g role entries) : ∀ entries : List (Value × Value), OwnEntries entries →
      mapObjectsOfEntries f entries = mapObjectsOfEntries g entries
  | [], _ => rfl
  | (k, v) :: entries, hv =>
    congrArg₂ List.cons (congrArg (Prod.mk k) (mapObjects_congr h v hv.1.2)) (mapObjectsOfEntries_congr h entries hv.2)

end

mutual

/-- A way of changing objects that makes values of the template's own. -/
theorem own_mapObjects (h : ∀ role entries, role.IsOwn → (∀ e ∈ entries, e.1.Own ∧ e.2.Own) →
    (f role entries).Own) : ∀ v : Value, v.Own → (mapObjects f v).Own
  | .list _ items, hv => own_mapObjectsOfItems h items hv
  | .map entries, hv => own_mapObjectsOfEntries h entries hv
  | .object role entries, hv => h role entries hv.1 (ownEntries_iff.1 hv.2)
  | .undefined, hv | .none, hv | .bool _, hv | .int _, hv | .float _, hv | .string _ _, hv | .builtin _, hv
  | .invalid _, hv => hv

/-- The items of a list. -/
theorem own_mapObjectsOfItems (h : ∀ role entries, role.IsOwn → (∀ e ∈ entries, e.1.Own ∧ e.2.Own) →
    (f role entries).Own) : ∀ items : List Value, OwnItems items → OwnItems (mapObjectsOfItems f items)
  | [], _ => trivial
  | v :: items, hv => ⟨own_mapObjects h v hv.1, own_mapObjectsOfItems h items hv.2⟩

/-- The keys and values of a mapping. -/
theorem own_mapObjectsOfEntries (h : ∀ role entries, role.IsOwn → (∀ e ∈ entries, e.1.Own ∧ e.2.Own) →
    (f role entries).Own) : ∀ entries : List (Value × Value), OwnEntries entries →
      OwnEntries (mapObjectsOfEntries f entries)
  | [], _ => trivial
  | (_, v) :: entries, hv => ⟨⟨hv.1.1, own_mapObjects h v hv.1.2⟩, own_mapObjectsOfEntries h entries hv.2⟩

end

mutual

/-- Objects that are put back as they are. -/
theorem mapObjects_object : ∀ v : Value, mapObjects .object v = v
  | .list kind items => congrArg (list kind) (mapObjectsOfItems_object items)
  | .map entries => congrArg map (mapObjectsOfEntries_object entries)
  | .object _ _ => rfl
  | .undefined | .none | .bool _ | .int _ | .float _ | .string _ _ | .builtin _ | .invalid _ => rfl

/-- The items of a list. -/
theorem mapObjectsOfItems_object : ∀ items : List Value, mapObjectsOfItems .object items = items
  | [] => rfl
  | v :: items => congrArg₂ List.cons (mapObjects_object v) (mapObjectsOfItems_object items)

/-- The keys and values of a mapping. -/
theorem mapObjectsOfEntries_object : ∀ entries : List (Value × Value), mapObjectsOfEntries .object entries = entries
  | [] => rfl
  | (k, v) :: entries =>
    congrArg₂ List.cons (congrArg (Prod.mk k) (mapObjects_object v)) (mapObjectsOfEntries_object entries)

end

end MapObjects

end Value

namespace Machine

variable {m : Machine} {templates : List (String × Source)} {insertedCells : Array Cell} {scopes : List Scope}

/-- A value is of the template's own behind any number of steps; the induction is on their number. -/
theorem Plain.own_resolveWithin (hm : m.Plain p) (n : Nat) {v : Value} (hv : v.Own) : (m.resolveWithin n v).Own := by
  induction n generalizing v with
  | zero => exact hv
  | succ n ih =>
    refine Value.own_mapObjects (fun role entries hrole hentries => ?_) v hv
    obtain ⟨hrole', hentries'⟩ := hm.own_content hrole hentries
    refine Value.own_object.2 ⟨hrole', fun e he => ?_⟩
    obtain ⟨x, hx, rfl⟩ := List.mem_map.1 he
    exact ⟨(hentries' x hx).1, ih (hentries' x hx).2⟩

/-- Objects inside of objects are looked up alike in both machines, up to any depth. -/
theorem resolveWithin_over (hm : m.Plain p) (n : Nat) {v : Value} (hv : v.Own) :
    (m.over templates insertedCells scopes).resolveWithin n v = m.resolveWithin n v := by
  induction n generalizing v with
  | zero => rfl
  | succ n ih =>
    refine Value.mapObjects_congr (fun role entries hrole hentries => ?_) v hv
    obtain ⟨-, hentries'⟩ := hm.own_content hrole hentries
    simp only [content?_over hrole]
    refine congrArg (Value.object _) (List.map_congr_left fun e he => ?_)
    rw [ih (hentries' e he).2]

/-- Where nothing is kept, there is nothing to bring up to date. -/
theorem resolveWithin_of_isEmpty (hcells : m.cells = #[]) (hinserted : m.insertedCells = #[]) (n : Nat) (v : Value) :
    m.resolveWithin n v = v := by
  have hcontent (role : Role) : m.content? role = none := by
    -- Without cells no reference leads to anything.
    have hcell (r : Ref) : m.cell? r = none := by
      unfold Machine.cell?
      rw [hcells, hinserted]
      split <;> rfl
    cases role with
    | record r => simp only [Machine.content?, record?, hcell, Option.map_none]
    | loop r => simp only [Machine.content?, loop?, hcell, Option.map_none]
    | definition | library => rfl
  induction n generalizing v with
  | zero => rfl
  | succ n ih =>
    rw [resolveWithin]
    simp only [hcontent, Option.getD_none, ih]
    have hid (entries : List (Value × Value)) : entries.map (fun e => (e.1, e.2)) = entries := List.map_id' _
    simp only [hid]
    exact Value.mapObjects_object v

/-- What a value refers to is of the template's own. -/
theorem Plain.own_resolve (hm : m.Plain p) {v : Value} (hv : v.Own) : (m.resolve v).Own := by
  unfold resolve
  split
  · exact hv
  · exact hm.own_resolveWithin _ hv

/-- What values of the template's own contain is the same. -/
theorem resolve_over (hm : m.Plain p) {v : Value} (hv : v.Own) :
    (m.over templates insertedCells scopes).resolve v = m.resolve v := by
  have hover : (m.over templates insertedCells scopes).resolveWithin 16 v = m.resolveWithin 16 v :=
    resolveWithin_over hm 16 hv
  unfold resolve
  rw [hover]
  rw [hm.insertedCells]
  -- With cells or without, the values are looked up in the machine's own cells, which are the same.
  by_cases hcells : m.cells = #[]
  · have hresolved := resolveWithin_of_isEmpty hcells hm.insertedCells 16 v
    simp [Machine.over, hcells, hresolved]
  · have hisEmpty : m.cells.isEmpty = false := by simpa using hcells
    simp [Machine.over, hisEmpty]

/-! ### Names -/

/-- The names that a macro has around it. -/
theorem closureNames?_over {r : Ref} (hr : r.inserted = false) :
    (m.over templates insertedCells scopes).closureNames? r = m.closureNames? r := by
  simp only [closureNames?, cell?_over hr]

/-- They stand for values of the template's own. -/
theorem Plain.closureNames? (hm : m.Plain p) {r : Ref} {names : Names} (hr : r.inserted = false)
    (h : m.closureNames? r = some names) : ∀ e ∈ names, e.2.Own := by
  unfold Machine.closureNames? at h
  split at h
  · rename_i hc
    cases h
    exact hm.cell? hr hc
  · cases h

/-- The macro that a cell holds. -/
theorem Plain.definition? (hm : m.Plain p) {r : Ref} {d : Definition} (hr : r.inserted = false)
    (h : m.definition? r = some d) : (Cell.definition d).Plain p := by
  unfold Machine.definition? at h
  split at h
  · rename_i hc
    cases h
    exact hm.cell? hr hc
  · cases h

/-- What code sees of a loop. -/
theorem loopValue_over {r : Ref} (hr : r.inserted = false) :
    (m.over templates insertedCells scopes).loopValue r = m.loopValue r :=
  refreshed_over (Value.own_object.2 ⟨hr, by simp⟩)

/-- A name that satisfies `p` stands for the same in both scopes. -/
theorem inScope?_over {s s' : Scope} (hs : s.Plain p) (hss' : s.Alike p s') {name : String} (hname : p name) :
    (m.over templates insertedCells scopes).inScope? name s' = m.inScope? name s := by
  unfold inScope?
  rw [hss'.backing, hss'.loop?, hss'.names name hname]
  dsimp only
  -- A name is looked up in the scope, then in its loop, and then in what the scope was made for.
  congr 1
  · congr 1
    split
    · cases hl : s.loop? with
      | none => rfl
      | some l =>
        have hvalue : (m.over templates insertedCells scopes).loopValue l.at_ = m.loopValue l.at_ :=
          loopValue_over (hs.loop? l hl).at_
        cases hvisible : l.visible <;> simp [Option.filter, hvisible, hvalue]
    · rfl
  · have hbacking := hs.backing
    split
    · rfl
    · rfl
    · rename_i r heq
      rw [heq] at hbacking
      rw [closureNames?_over hbacking]

/-- What a name stands for in a scope. -/
theorem Plain.own_inScope? (hm : m.Plain p) {s : Scope} (hs : s.Plain p) {name : String} {v : Value}
    (h : m.inScope? name s = some v) : v.Own := by
  unfold inScope? at h
  dsimp only at h
  -- It was found in the scope, as its loop, or in what the scope was made for.
  rcases Option.or_eq_some_iff.1 h with h | ⟨-, h⟩
  · rcases Option.or_eq_some_iff.1 h with h | ⟨-, h⟩
    · exact Value.own_of_lookup hs.names h
    · split at h
      · obtain ⟨l, hl, rfl⟩ := Option.map_eq_some_iff.1 h
        have hl := (Option.filter_eq_some_iff.1 hl).1
        exact hm.own_refreshed (Value.own_object.2 ⟨(hs.loop? l hl).at_, by simp⟩)
      · cases h
  · have hbacking := hs.backing
    split at h
    · cases h
    · rename_i entries heq
      rw [heq] at hbacking
      exact Value.own_of_lookup hbacking h
    · rename_i r heq
      rw [heq] at hbacking
      obtain ⟨names, hnames, h⟩ := Option.bind_eq_some_iff.1 h
      exact Value.own_of_lookup (hm.closureNames? hbacking hnames) h

/-- Names that are there from the start, without the one that shows the machine. -/
theorem own_builtin? {name : String} (hname : name ≠ "debug") {v : Value} (h : builtin? name = some v) : v.Own := by
  obtain ⟨f, hf, rfl⟩ := Option.map_eq_some_iff.1 h
  have hfound := List.find?_some hf
  refine Value.own_builtin.2 fun hdebug => hname ?_
  rw [hdebug] at hfound
  exact (of_decide_eq_true hfound).symm

/-- What a name stands for, in whatever scope. -/
theorem Plain.own_lookup? (hm : m.Plain p) (hdebug : ¬ p "debug") {name : String} (hname : p name) {v : Value}
    (h : m.lookup? name = some v) : v.Own := by
  rcases Option.or_eq_some_iff.1 h with h | ⟨-, h⟩
  · obtain ⟨s, hs, h⟩ := List.exists_of_findSome?_eq_some h
    exact hm.own_inScope? (hm.scopes s hs) h
  · exact own_builtin? (fun heq => hdebug (heq ▸ hname)) h

/-- A name that satisfies `p` stands for the same in both machines. -/
theorem lookup?_over (hm : m.Plain p) (hscopes : List.Forall₂ (Scope.Alike p) m.scopes scopes)
    {name : String} (hname : p name) :
    (m.over templates insertedCells scopes).lookup? name = m.lookup? name := by
  have hfind {ss ss' : List Scope} (hss' : List.Forall₂ (Scope.Alike p) ss ss') (hss : ∀ s ∈ ss, s.Plain p) :
      ss'.findSome? ((m.over templates insertedCells scopes).inScope? name) = ss.findSome? (m.inScope? name) := by
    -- The scopes are alike one by one, so the first that knows the name is at the same place.
    induction hss' with
    | nil => rfl
    | cons h _ ih =>
      obtain ⟨hs, hss⟩ := List.forall_mem_cons.1 hss
      rw [List.findSome?_cons, List.findSome?_cons, inScope?_over hs h hname, ih hss]
  unfold lookup?
  rw [show (m.over templates insertedCells scopes).scopes = scopes from rfl, hfind hscopes hm.scopes]

/-! ### Changes -/

/-- A new cell. -/
theorem Plain.keep (hm : m.Plain p) {c : Cell} (hc : c.Plain p) : (m.keep c).Plain p := by
  have hkeep : m.keep c = { m with cells := m.cells.push c } := by
    unfold Machine.keep
    rw [hm.isInserted]
    rfl
  rw [hkeep]
  refine ⟨hm.templates, hm.insertedCells, hm.isInserted, hm.parent?, hm.scopes, fun i d hd => ?_, hm.blocks⟩
  -- The cell is the new one or was there before.
  dsimp only at hd
  rw [Array.getElem?_push] at hd
  split at hd
  · cases hd
    exact hc
  · exact hm.cells i d hd

/-- A cell that is changed in place. -/
theorem Plain.changeCell (hm : m.Plain p) {r : Ref} (hr : r.inserted = false) {f : Cell → Cell}
    (hf : ∀ c : Cell, c.Plain p → (f c).Plain p) : (m.changeCell r f).Plain p := by
  -- The cell is one of the machine's own.
  have hchange : m.changeCell r f = { m with cells := m.cells.modify r.index f } := by
    unfold Machine.changeCell
    rw [hr]
    rfl
  rw [hchange]
  refine ⟨hm.templates, hm.insertedCells, hm.isInserted, hm.parent?, hm.scopes, fun i d hd => ?_, hm.blocks⟩
  dsimp only at hd
  rw [Array.getElem?_modify] at hd
  split at hd
  · obtain ⟨c, hc, rfl⟩ := Option.map_eq_some_iff.1 hd
    exact hf c (hm.cells i c hc)
  · exact hm.cells i d hd

end Machine

namespace Shadow

variable {m m' : Machine}

/-- A change of the machine that leaves alone what code cannot see. -/
theorem of_over (h : Shadow p m m') {f : Machine → Machine} (hplain : m.Plain p → (f m).Plain p)
    (hscopes : (f m).scopes = m.scopes)
    (hover : ∀ templates insertedCells scopes, f (m.over templates insertedCells scopes) =
      (f m).over templates insertedCells scopes) : Shadow p (f m) (f m') := by
  obtain ⟨hm, templates, insertedCells, scopes, hss, rfl⟩ := h
  exact ⟨hplain hm, templates, insertedCells, scopes, hscopes ▸ hss, hover _ _ _⟩

/-- The machine that is looked like. -/
theorem plain (h : Shadow p m m') : m.Plain p := h.1

/-- A value refers to the same in both machines. -/
theorem resolve (h : Shadow p m m') {v : Value} (hv : v.Own) : m'.resolve v = m.resolve v := by
  obtain ⟨hm, _, _, _, _, rfl⟩ := h
  exact Machine.resolve_over hm hv

/-- An object looked up again is the same in both machines. -/
theorem refreshed (h : Shadow p m m') {v : Value} (hv : v.Own) : m'.refreshed v = m.refreshed v := by
  obtain ⟨hm, _, _, _, _, rfl⟩ := h
  exact Machine.refreshed_over hv

/-- **Names.** The names that code uses stand for the same. -/
theorem lookup? (h : Shadow p m m') {name : String} (hname : p name) : m'.lookup? name = m.lookup? name := by
  obtain ⟨hm, _, _, _, hss, rfl⟩ := h
  exact Machine.lookup?_over hm hss hname

/-- Both machines are equally deep. -/
theorem depth (h : Shadow p m m') : m'.depth = m.depth := by
  obtain ⟨hm, _, _, scopes, hss, rfl⟩ := h
  exact congrArg (m.outerDepth + ·) hss.length_eq.symm

/-- A new cell in both machines. -/
theorem keep (h : Shadow p m m') {c : Cell} (hc : c.Plain p) : Shadow p (m.keep c) (m'.keep c) := by
  have hkeep (m : Machine) (hm : m.isInserted = false) : m.keep c = { m with cells := m.cells.push c } := by
    unfold Machine.keep
    rw [hm]
    rfl
  refine h.of_over (f := (·.keep c)) (fun hm => hm.keep hc) ?_ fun templates insertedCells scopes => ?_
  · rw [hkeep m h.plain.isInserted]
  · rw [hkeep m h.plain.isInserted, hkeep (m.over templates insertedCells scopes) h.plain.isInserted]
    rfl

/-- The next cell is the same in both machines, since the plain one counts its own only. -/
theorem nextRef (h : Shadow p m m') : m'.nextRef = m.nextRef := by
  obtain ⟨hm, _, _, _, _, rfl⟩ := h
  simp only [Machine.nextRef, Machine.over, hm.isInserted]
  rfl

/-- The next cell is none of an inserted template. -/
theorem inserted_nextRef (h : Shadow p m m') : m.nextRef.inserted = false := h.plain.isInserted

/-- A cell that is changed in both machines. -/
theorem changeCell (h : Shadow p m m') {r : Ref} (hr : r.inserted = false) {f : Cell → Cell}
    (hf : ∀ c : Cell, c.Plain p → (f c).Plain p) : Shadow p (m.changeCell r f) (m'.changeCell r f) := by
  have hchange (m : Machine) : m.changeCell r f = { m with cells := m.cells.modify r.index f } := by
    unfold Machine.changeCell
    rw [hr]
    rfl
  refine h.of_over (f := (·.changeCell r f)) (fun hm => hm.changeCell hr hf) ?_ fun templates insertedCells scopes => ?_
  · rw [hchange]
  · rw [hchange, hchange]
    rfl

/-- The scopes of both machines, one by one. -/
theorem scopes (h : Shadow p m m') : List.Forall₂ (Scope.Alike p) m.scopes m'.scopes := by
  obtain ⟨_, _, _, _, hss, rfl⟩ := h
  exact hss

/-- Scopes that look alike in the place of those that there are. -/
theorem withScopes (h : Shadow p m m') {ss ss' : List Scope} (hss : ∀ s ∈ ss, s.Plain p)
    (hss' : List.Forall₂ (Scope.Alike p) ss ss') : Shadow p { m with scopes := ss } { m' with scopes := ss' } := by
  obtain ⟨hm, templates, insertedCells, _, _, rfl⟩ := h
  exact ⟨⟨hm.templates, hm.insertedCells, hm.isInserted, hm.parent?, hss, hm.cells, hm.blocks⟩,
    templates, insertedCells, ss', hss', rfl⟩

/-- A closure that is changed in both machines. -/
theorem changeClosure (h : Shadow p m m') {r : Ref} (hr : r.inserted = false) {f : Names → Names}
    (hf : ∀ names : Names, (∀ e ∈ names, e.2.Own) → ∀ e ∈ f names, e.2.Own) :
    Shadow p (m.changeClosure r f) (m'.changeClosure r f) := by
  refine h.changeCell hr fun c hc => ?_
  cases c with
  | closure names => exact hf names hc
  | _ => exact hc

/-- A record that is changed in both machines. -/
theorem changeRecord (h : Shadow p m m') {r : Ref} (hr : r.inserted = false) {f : Names → Names}
    (hf : ∀ names : Names, (∀ e ∈ names, e.2.Own) → ∀ e ∈ f names, e.2.Own) :
    Shadow p (m.changeRecord r f) (m'.changeRecord r f) := by
  refine h.changeCell hr fun c hc => ?_
  cases c with
  | record entries => exact hf entries hc
  | _ => exact hc

/-- A loop whose round is counted in both machines. -/
theorem changeLoop (h : Shadow p m m') {r : Ref} (hr : r.inserted = false) {f : LoopState → LoopState}
    (hf : ∀ l, (f l).items = l.items) : Shadow p (m.changeLoop r f) (m'.changeLoop r f) := by
  refine h.changeCell hr fun c hc => ?_
  cases c with
  | loop l =>
    intro i v hv
    exact hc i v (by rwa [hf] at hv)
  | _ => exact hc

/-- Any name can be given a value of the template's own. -/
theorem store (h : Shadow p m m') (name : String) {value : Value} (hvalue : value.Own) :
    Shadow p (m.store name value) (m'.store name value) := by
  have hss := h.scopes
  have hplain := h.plain.scopes
  unfold Machine.store
  cases hss₁ : m.scopes with
  | nil =>
    rw [hss₁, List.forall₂_nil_left_iff] at hss
    rw [hss]
    exact h
  | cons s ss =>
    rw [hss₁] at hss hplain
    obtain ⟨s', ss', hs', hss', hss₂⟩ := List.forall₂_cons_left_iff.1 hss
    obtain ⟨hs, hothers⟩ := List.forall_mem_cons.1 hplain
    rw [hss₂]
    -- The name gets the same value in both, so the scopes stay alike at every name.
    have hput : ({ s with names := s.names.put name value } : Scope).Plain p :=
      ⟨own_names_put hs.names hvalue, hs.backing, hs.closure?, hs.loop?⟩
    have halike : ({ s with names := s.names.put name value } : Scope).Alike p
        { s' with names := s'.names.put name value } :=
      ⟨hs'.backing, hs'.closure?, hs'.loop?, fun other hother => by
        simp only [lookup_put, hs'.names other hother]⟩
    -- Both scopes have the same closure, if any, and there the name gets the value as well.
    obtain ⟨names, backing, closure?, loop?⟩ := s
    obtain ⟨names', backing', closure?', loop?'⟩ := s'
    obtain rfl : closure?' = closure? := hs'.closure?
    cases closure?' with
    | none => exact h.withScopes (List.forall_mem_cons.2 ⟨hput, hothers⟩) (.cons halike hss')
    | some r =>
      have hclosed : Shadow p (m.changeClosure r (·.put name value)) (m'.changeClosure r (·.put name value)) :=
        h.changeClosure (hs.closure? r rfl) fun _ hnames => own_names_put hnames hvalue
      exact hclosed.withScopes (List.forall_mem_cons.2 ⟨hput, hothers⟩) (.cons halike hss')

/-- The closure of the innermost scope. -/
theorem withClosure (h : Shadow p m m') :
    Shadow p m.withClosure.1 m'.withClosure.1 ∧ m'.withClosure.2 = m.withClosure.2 ∧ m.withClosure.2.inserted =
      false := by
  have hss := h.scopes
  have hplain := h.plain.scopes
  have hkeep : Shadow p (m.keep (.closure [])) (m'.keep (.closure [])) := h.keep fun _ he => by cases he
  unfold Machine.withClosure
  cases hss₁ : m.scopes with
  | nil =>
    rw [hss₁, List.forall₂_nil_left_iff] at hss
    rw [hss]
    exact ⟨hkeep, h.nextRef, h.inserted_nextRef⟩
  | cons s ss =>
    rw [hss₁] at hss hplain
    obtain ⟨s', ss', hs', hss', hss₂⟩ := List.forall₂_cons_left_iff.1 hss
    obtain ⟨hs, hss⟩ := List.forall_mem_cons.1 hplain
    rw [hss₂]
    dsimp only
    rw [hs'.closure?]
    cases hclosure : s.closure? with
    -- The scope has a closure already, or a new one is kept for it.
    | some r => exact ⟨h, rfl, hs.closure? r hclosure⟩
    | none =>
      refine ⟨hkeep.withScopes (List.forall_mem_cons.2 ⟨⟨hs.names, hs.backing, fun r hr => ?_, hs.loop?⟩, hss⟩)
        (.cons ⟨hs'.backing, congrArg some h.nextRef, hs'.loop?, hs'.names⟩ hss'), h.nextRef, h.inserted_nextRef⟩
      cases hr
      exact h.inserted_nextRef

/-- What is captured is the same and of the template's own, if the code uses it. -/
theorem captured (h : Shadow p m m') (hdebug : ¬ p "debug") {names : List String} (hnames : ∀ name ∈ names, p name)
    (closure : Names) : m'.captured names closure = m.captured names closure ∧
      ((∀ e ∈ closure, e.2.Own) → ∀ e ∈ m.captured names closure, e.2.Own) := by
  induction names generalizing closure with
  | nil => exact ⟨rfl, id⟩
  | cons name names ih =>
    obtain ⟨hname, hnames⟩ := List.forall_mem_cons.1 hnames
    -- Each name is looked up in both machines with the same result, and the value is stored once.
    simp only [Machine.captured, List.foldl_cons, h.lookup? hname] at ih ⊢
    split
    · exact ih hnames closure
    · obtain ⟨heq, hown⟩ := ih hnames (closure.put name ((m.lookup? name).getD .undefined))
      refine ⟨heq, fun hclosure => hown (own_names_put hclosure ?_)⟩
      exact Value.own_getD (fun v hv => h.plain.own_lookup? hdebug hname hv) Value.own_undefined

/-- Names that are put into the closure in both machines. -/
theorem enclose (h : Shadow p m m') (hdebug : ¬ p "debug") {names : List String} (hnames : ∀ name ∈ names, p name) :
    Shadow p (m.enclose names).1 (m'.enclose names).1 ∧ (m'.enclose names).2 = (m.enclose names).2 ∧
      (m.enclose names).2.inserted = false := by
  obtain ⟨hm, heq, hr⟩ := h.withClosure
  refine ⟨?_, heq, hr⟩
  have hcaptured : m'.withClosure.1.captured names = m.withClosure.1.captured names :=
    funext fun closure => (hm.captured hdebug hnames closure).1
  simp only [Machine.enclose, heq, hcaptured]
  exact hm.changeClosure hr fun closure => (hm.captured hdebug hnames closure).2

/-! ### What is kept -/

/-- A cell of the template is the same in both machines. -/
theorem cell? (h : Shadow p m m') {r : Ref} (hr : r.inserted = false) : m'.cell? r = m.cell? r := by
  obtain ⟨_, _, _, _, _, rfl⟩ := h
  exact Machine.cell?_over hr

/-- The state of a loop is the same in both machines. -/
theorem loop? (h : Shadow p m m') {r : Ref} (hr : r.inserted = false) : m'.loop? r = m.loop? r := by
  simp only [Machine.loop?, h.cell? hr]

/-- A macro is the same in both machines. -/
theorem definition? (h : Shadow p m m') {r : Ref} (hr : r.inserted = false) : m'.definition? r = m.definition? r := by
  simp only [Machine.definition?, h.cell? hr]

/-- The loops around the code. -/
theorem loops (h : Shadow p m m') : m'.scopes.map (·.loop?) = m.scopes.map (·.loop?) := by
  have hloops {ss ss' : List Scope} (hss : List.Forall₂ (Scope.Alike p) ss ss') :
      ss'.map (·.loop?) = ss.map (·.loop?) := by
    induction hss with
    | nil => rfl
    | cons hs _ ih => rw [List.map_cons, List.map_cons, hs.loop?, ih]
  exact hloops h.scopes

end Shadow

end Scaffold.Template
