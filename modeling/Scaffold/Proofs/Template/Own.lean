import Mathlib.Tactic.SplitIfs
import Scaffold.Proofs.Runs
import Scaffold.Template.Registry
import Scaffold.Template.Slice

namespace Scaffold.Template

/-!
# Values of a template's own

Values that have nothing to do with inserted templates, and that cannot show the names of a template.

* `Value.Own` — no part of a value refers to a cell of an inserted template or is the function `debug`;
* `returns_apply`, `returns_slice`, `returns_negate` — operators give values of this kind for values of this kind;
* `own_filter?` — so do all filters.
-/

/-- What a list is made to by a partial function comes from its items. -/
theorem exists_of_mem_mapM {α β : Type} {f : α → Option β} {xs : List α} {ys : List β} (h : xs.mapM f = some ys) {y : β}
    (hy : y ∈ ys) : ∃ x ∈ xs, f x = some y := by
  -- The first result is that of the first item, and the others are those of the rest.
  induction xs generalizing ys with
  | nil =>
    cases h
    cases hy
  | cons x xs ih =>
    rw [List.mapM_cons, Option.bind_eq_bind, Option.bind_eq_some_iff] at h
    obtain ⟨z, hz, h⟩ := h
    obtain ⟨zs, hzs, h⟩ := Option.bind_eq_some_iff.1 h
    cases h
    rcases List.mem_cons.1 hy with rfl | hy
    · exact ⟨x, List.mem_cons_self, hz⟩
    · obtain ⟨w, hw, hfw⟩ := ih hzs hy
      exact ⟨w, List.mem_cons_of_mem _ hw, hfw⟩

/-- An object that is none of an inserted template. -/
def Role.IsOwn : Role → Prop
  | .record r | .definition _ r | .loop r _ => r.inserted = false
  | .library _ => True

namespace Value

mutual

/-- No part of the value refers to a cell of an inserted template or is the function `debug`. -/
def Own : Value → Prop
  | .list _ items => OwnItems items
  | .map entries => OwnEntries entries
  | .object role entries => role.IsOwn ∧ OwnEntries entries
  | .builtin f => f ≠ .debug
  | .undefined | .none | .bool _ | .int _ | .float _ | .string _ _ | .invalid _ => True

/-- All items are of the template's own. -/
def OwnItems : List Value → Prop
  | [] => True
  | v :: items => v.Own ∧ OwnItems items

/-- All keys and values are of the template's own. -/
def OwnEntries : List (Value × Value) → Prop
  | [] => True
  | (k, v) :: entries => (k.Own ∧ v.Own) ∧ OwnEntries entries

end

/-- The same, as a statement about each item. -/
theorem ownItems_iff {items : List Value} : OwnItems items ↔ ∀ v ∈ items, v.Own := by
  induction items with
  | nil => simp [OwnItems]
  | cons v items ih => rw [OwnItems, ih, List.forall_mem_cons]

/-- The same, as a statement about each entry. -/
theorem ownEntries_iff {entries : List (Value × Value)} :
    OwnEntries entries ↔ ∀ e ∈ entries, e.1.Own ∧ e.2.Own := by
  induction entries with
  | nil => simp [OwnEntries]
  | cons e entries ih => rw [OwnEntries, ih, List.forall_mem_cons]

/-- What is not there is of the template's own. -/
@[simp] theorem own_undefined : Own .undefined := trivial

@[simp] theorem own_none : Own .none := trivial

@[simp] theorem own_bool (b : Bool) : Own (.bool b) := trivial

@[simp] theorem own_int (n : Int) : Own (.int n) := trivial

@[simp] theorem own_float (x : Float) : Own (.float x) := trivial

@[simp] theorem own_string (safe : Bool) (s : String) : Own (.string safe s) := trivial

@[simp] theorem own_text (s : String) : (text s).Own := trivial

@[simp] theorem own_invalid (fault : Fault) : Own (.invalid fault) := trivial

/-- A list is of the template's own if its items are. -/
@[simp] theorem own_list {kind : ListKind} {items : List Value} : Own (.list kind items) ↔ ∀ v ∈ items, v.Own := by
  rw [Own, ownItems_iff]

@[simp] theorem own_sequence {items : List Value} : (sequence items).Own ↔ ∀ v ∈ items, v.Own := own_list

/-- A mapping is of the template's own if its keys and values are. -/
@[simp] theorem own_map {entries : List (Value × Value)} : Own (.map entries) ↔ ∀ e ∈ entries, e.1.Own ∧ e.2.Own := by
  rw [Own, ownEntries_iff]

/-- An object is of the template's own if it is none of an inserted template, and its entries are. -/
@[simp] theorem own_object {role : Role} {entries : List (Value × Value)} :
    Own (.object role entries) ↔ role.IsOwn ∧ ∀ e ∈ entries, e.1.Own ∧ e.2.Own := by
  rw [Own, ownEntries_iff]

/-- The function that shows the machine shows other templates, too. -/
@[simp] theorem own_builtin {f : Builtin} : Own (.builtin f) ↔ f ≠ .debug := Iff.rfl

/-- The macro that a cell of the template holds. -/
theorem own_ofDefinition {s : Signature} {r : Ref} (h : r.inserted = false) : (ofDefinition s r).Own := by
  simp [ofDefinition, Role.IsOwn, h]

/-! ### Parts -/

/-- A value, or the one in its place. -/
theorem own_getD {v? : Option Value} {v : Value} (h : ∀ w, v? = some w → w.Own) (hv : v.Own) : (v?.getD v).Own := by
  cases v? with
  | none => exact hv
  | some w => exact h w rfl

/-- A value under a name. -/
theorem own_of_lookup {names : List (String × Value)} {name : String} {v : Value} (h : ∀ e ∈ names, e.2.Own)
    (hv : names.lookup name = some v) : v.Own := by
  obtain ⟨_, _, rfl, _⟩ := List.lookup_eq_some_iff.1 hv
  exact h (name, v) (by simp)

/-- The characters of a text are texts. -/
theorem own_chars (s : String) : ∀ v ∈ chars s, v.Own := by
  intro v hv
  obtain ⟨c, -, rfl⟩ := List.mem_map.1 hv
  exact own_text _

/-- The entries of a value are of its own. -/
theorem own_entries? {v : Value} {entries : List (Value × Value)} (hv : v.Own) (h : v.entries? = some entries) :
    ∀ e ∈ entries, e.1.Own ∧ e.2.Own := by
  cases v with
  | map => cases h; exact own_map.1 hv
  | object => cases h; exact (own_object.1 hv).2
  | _ => cases h

/-- The items of a value are of its own: its items, its characters or its keys. -/
theorem own_items? {v : Value} {items : List Value} (hv : v.Own) (h : v.items? = some items) : ∀ w ∈ items, w.Own := by
  -- A mapping has its keys as items.
  have hkeys {entries : List (Value × Value)} (he : ∀ e ∈ entries, e.1.Own ∧ e.2.Own) :
      ∀ w ∈ entries.map Prod.fst, w.Own := by
    intro w hw
    obtain ⟨e, he', rfl⟩ := List.mem_map.1 hw
    exact (he e he').1
  cases v with
  | undefined | none => cases h; simp
  | string safe s => cases h; exact own_chars s
  | list => cases h; exact own_list.1 hv
  | map => cases h; exact hkeys (own_map.1 hv)
  | object => cases h; exact hkeys (own_object.1 hv).2
  | _ => cases h

/-- The items of a value that has some. -/
theorem returns_items {v : Value} (hv : v.Own) : Returns v.items fun items => ∀ w ∈ items, w.Own := by
  intro vs h
  unfold items at h
  split at h
  · cases h
  · rename_i heq
    cases h
    exact own_items? hv heq
  · cases h

/-- A value that is no fault. -/
theorem returns_valid {v : Value} (hv : v.Own) : Returns v.valid Own := by
  intro w h
  unfold valid at h
  split at h
  · cases h
  · cases h
    exact hv

/-- What stands under a key. -/
theorem own_find? {key v : Value} {entries : List (Value × Value)} (h : ∀ e ∈ entries, e.1.Own ∧ e.2.Own)
    (hv : find? key entries = some v) : v.Own := by
  obtain ⟨e, he, rfl⟩ := Option.map_eq_some_iff.1 hv
  exact (h e (List.mem_of_find?_eq_some he)).2

/-- What stands under a key, the case of its letters aside. -/
theorem own_lookup? {key v : Value} {entries : List (Value × Value)} (h : ∀ e ∈ entries, e.1.Own ∧ e.2.Own)
    (hv : lookup? key entries = some v) : v.Own := by
  induction entries with
  | nil => cases hv
  | cons e entries ih =>
    -- The entry at the head is skipped, found, or cannot be compared.
    obtain ⟨he, hrest⟩ := List.forall_mem_cons.1 h
    rw [lookup?] at hv
    split at hv
    · exact ih hrest hv
    · cases hv
      exact he.2
    · cases hv

/-- The item at a place, which may be counted from the end. -/
theorem own_nth? {items : List Value} {i : Int} {v : Value} (h : ∀ w ∈ items, w.Own) (hv : nth? items i = some v) :
    v.Own := by
  unfold nth? at hv
  split_ifs at hv
  · exact h v (List.mem_of_getElem? hv)
  · exact h v (List.mem_of_getElem? hv)

/-- An item or an entry of a value. -/
theorem own_item? {v key w : Value} (hv : v.Own) (h : v.item? key = some w) : w.Own := by
  -- In a sequence, the key is a position.
  have hlist {items : List Value} {i? : Option Int} (hi : ∀ u ∈ items, u.Own) (hw : i?.bind (nth? items) = some w) :
      w.Own := by
    obtain ⟨i, -, hi'⟩ := Option.bind_eq_some_iff.1 hw
    exact own_nth? hi hi'
  unfold item? at h
  split at h
  · exact own_lookup? (own_map.1 hv) h
  · exact own_find? (own_object.1 hv).2 h
  · have hparts := own_list.1 hv
    split_ifs at h
    · cases h
      exact hparts _ (by simp)
    · cases h
      exact hparts _ (by simp)
  · exact hlist (own_list.1 hv) h
  · exact hlist (own_list.1 hv) h
  · exact hlist (own_chars _) h
  · cases h

/-- An item or an entry of a value, or undefined. -/
theorem returns_item {v : Value} (hv : v.Own) (key : Value) : Returns (v.item key) Own := by
  intro w h
  unfold item at h
  split at h
  · rename_i u hu
    exact returns_valid (own_item? hv hu) w h
  · split_ifs at h
    cases h
    exact own_undefined

/-! ### Building -/

/-- An entry that is put into a mapping. -/
theorem own_put {key value : Value} {entries : List (Value × Value)} (hk : key.Own) (hv : value.Own)
    (h : ∀ e ∈ entries, e.1.Own ∧ e.2.Own) : ∀ e ∈ put key value entries, e.1.Own ∧ e.2.Own := by
  -- The induction is on the entries; a key that is there already gets the new value.
  induction entries with
  | nil => simp [put, hk, hv]
  | cons e entries ih =>
    obtain ⟨he, hrest⟩ := List.forall_mem_cons.1 h
    rw [put]
    split
    · exact List.forall_mem_cons.2 ⟨he, ih hrest⟩
    · exact List.forall_mem_cons.2 ⟨⟨he.1, hv⟩, hrest⟩
    · exact List.forall_mem_cons.2 ⟨⟨hk, hv⟩, h⟩

/-- Entries that are put into a mapping one after the other. -/
theorem own_putAll {entries more : List (Value × Value)} (h : ∀ e ∈ entries, e.1.Own ∧ e.2.Own)
    (hmore : ∀ e ∈ more, e.1.Own ∧ e.2.Own) : ∀ e ∈ putAll entries more, e.1.Own ∧ e.2.Own := by
  induction more generalizing entries with
  | nil => exact h
  | cons e more ih =>
    obtain ⟨he, hrest⟩ := List.forall_mem_cons.1 hmore
    exact ih (own_put he.1 he.2 h) hrest

/-- A mapping that is made of entries. -/
theorem own_ofEntries {entries : List (Value × Value)} (h : ∀ e ∈ entries, e.1.Own ∧ e.2.Own) :
    (ofEntries entries).Own :=
  own_map.2 (own_putAll (by simp) h)

/-- A mapping that is made of names. -/
theorem own_ofNamed {names : List (String × Value)} (h : ∀ e ∈ names, e.2.Own) : (ofNamed names).Own := by
  refine own_ofEntries fun e he => ?_
  obtain ⟨e', he', rfl⟩ := List.mem_map.1 he
  exact ⟨own_text _, h e' he'⟩

/-! ### Operators -/

/-- A number, if it is not too large. -/
theorem returns_checked {op : BinaryOp} {v w : Value} {n : Int} : Returns (checked op v w n) Own := by
  unfold checked
  split
  · exact returns_ok.2 (own_int n)
  · exact returns_error

/-- Arithmetic makes numbers. -/
theorem returns_arithmetic {op : BinaryOp} {ints : Int → Int → Except Fault Value} {floats : Float → Float → Float}
    {v w : Value} (h : ∀ m n, Returns (ints m n) Own) : Returns (arithmetic op ints floats v w) Own := by
  unfold arithmetic
  split
  · exact h _ _
  · exact returns_ok.2 (own_float _)
  · exact returns_error

/-- Adding makes a number, a text or a list of the items of both. -/
theorem returns_add {v w : Value} (hv : v.Own) (hw : w.Own) : Returns (v.add w) Own := by
  unfold add
  split
  · exact returns_ok.2 (own_text _)
  · exact returns_ok.2 (own_list.2 (List.forall_mem_append.2 ⟨own_list.1 hv, own_list.1 hw⟩))
  · exact returns_arithmetic fun _ _ => returns_checked

/-- A text that is repeated is a text. -/
theorem returns_repeatText {s : String} {v : Value} : Returns (repeatText s v) Own :=
  returns_any.bind fun _ _ => returns_pure.2 (own_text _)

/-- A list that is repeated has the same items. -/
theorem returns_repeatItems {items : List Value} {v : Value} (h : ∀ w ∈ items, w.Own) :
    Returns (repeatItems items v) Own := by
  refine returns_any.bind fun n _ => returns_pure.2 (own_list.2 ?_)
  split
  · simp
  · intro w hw
    obtain ⟨row, hrow, hw⟩ := List.mem_flatten.1 hw
    rw [List.eq_of_mem_replicate hrow] at hw
    exact h w hw

/-- Multiplying makes a number, a text or a list. -/
theorem returns_multiply {v w : Value} (hv : v.Own) (hw : w.Own) : Returns (v.multiply w) Own := by
  unfold multiply
  split
  · exact returns_repeatText
  · exact returns_repeatText
  · exact returns_error
  · exact returns_error
  · exact returns_repeatItems (own_list.1 hv)
  · exact returns_repeatItems (own_list.1 hw)
  · exact returns_arithmetic fun _ _ => returns_checked

/-- Dividing makes a number. -/
theorem returns_divide {v w : Value} : Returns (v.divide w) Own := by
  unfold divide
  split
  · exact returns_ok.2 (own_float _)
  · exact returns_error

/-- Dividing without a rest makes a number. -/
theorem returns_wholeDivide {v w : Value} : Returns (v.wholeDivide w) Own := by
  refine returns_arithmetic fun m n => ?_
  split
  · exact returns_error
  · exact returns_checked

/-- The rest is a number. -/
theorem returns_remainder {v w : Value} : Returns (v.remainder w) Own := by
  refine returns_arithmetic fun m n => ?_
  split
  · exact returns_error
  · exact returns_checked

/-- A power is a number. -/
theorem returns_power {v w : Value} : Returns (v.power w) Own := by
  refine returns_arithmetic fun m n => ?_
  split
  · split
    · exact returns_checked
    · exact returns_error
  · exact returns_error

/-- A number with the other sign. -/
theorem returns_negate {v : Value} : Returns v.negate Own := by
  unfold negate
  split
  · split_ifs
    · exact returns_ok.2 (own_int _)
    · exact returns_ok.2 (own_int _)
    · exact returns_error
  · exact returns_ok.2 (own_float _)
  · exact returns_error

/-- **Operators.** The value of an operator is made of its operands. -/
theorem returns_apply {op : BinaryOp} {v w : Value} (hv : v.Own) (hw : w.Own) : Returns (op.apply v w) Own := by
  cases op with
  | add => exact returns_add hv hw
  | subtract => exact returns_arithmetic fun _ _ => returns_checked
  | multiply => exact returns_multiply hv hw
  | divide => exact returns_divide
  | wholeDivide => exact returns_wholeDivide
  | remainder => exact returns_remainder
  | power => exact returns_power
  | concat => exact returns_ok.2 (own_text _)
  | member => exact returns_any.bind fun _ _ => returns_pure.2 (own_bool _)
  | notMember => exact returns_any.bind fun _ _ => returns_pure.2 (own_bool _)
  -- The comparisons give a truth value, whatever they compare.
  | _ => exact returns_ok.2 (own_bool _)

/-- The items that are taken are among the items; the induction is on these. -/
theorem mem_of_mem_takeForwards {α : Type} {start stop step : Nat} {items : List α} {x : α}
    (h : x ∈ takeForwards start stop step items) : x ∈ items := by
  obtain ⟨⟨y, i⟩, hy, hx⟩ := List.mem_filterMap.1 h
  simp only [Option.ite_none_right_eq_some, Option.some.injEq] at hx
  obtain ⟨-, rfl⟩ := hx
  obtain ⟨-, -, hy⟩ := List.mem_zipIdx hy
  rw [hy]
  exact List.mem_of_mem_take (List.mem_of_mem_drop (List.getElem_mem _))

/-- The items of a slice are among the items. -/
theorem mem_of_mem_sliceItems {α : Type} {start? stop? : Option Int} {step : Int} {items : List α} {x : α}
    (h : x ∈ sliceItems start? stop? step items) : x ∈ items := by
  unfold sliceItems at h
  dsimp only at h
  split_ifs at h
  · exact mem_of_mem_takeForwards h
  · obtain ⟨i, -, hx⟩ := List.mem_filterMap.1 h
    split_ifs at hx
    exact List.mem_of_getElem? hx

/-- A slice of a text is a text, and that of a list has its items. -/
theorem returns_slice {v : Value} (hv : v.Own) (start stop step : Value) : Returns (v.slice start stop step) Own := by
  unfold slice
  refine returns_any.bind fun start? _ => returns_any.bind fun stop? _ => returns_any.bind fun step? _ => ?_
  dsimp only
  split_ifs
  · exact returns_error
  -- What is cut out of a list holds items of the list; what is cut out of a text is a text.
  · split
    · exact returns_pure.2 (by simp)
    · exact returns_pure.2 (by simp)
    · exact returns_pure.2 (own_text _)
    · exact returns_pure.2 (own_list.2 fun w hw => own_list.1 hv w (mem_of_mem_sliceItems hw))
    · exact returns_error

end Value

end Scaffold.Template
