/-!
# Tables

Finite maps from names to values that remember the order in which names were first put in.

* `Table.insert` keeps the place of a name that is there already.
* `Table.erase` leaves the order of the other names alone.
-/

namespace Scaffold

/-- The entries of a table, in order; a name is there once. -/
structure Table (α : Type) where
  entries : List (String × α)
  deriving Inhabited, Repr

namespace Table

variable {α β : Type}

/-- A table without names. -/
def empty : Table α := ⟨[]⟩

/-- What stands under a name. -/
def get? (t : Table α) (name : String) : Option α := t.entries.lookup name

/-- Whether something stands under a name. -/
def contains (t : Table α) (name : String) : Bool := (t.get? name).isSome

/-- The names, in the order in which they came first. -/
def keys (t : Table α) : List String := t.entries.map Prod.fst

/-- The values, in the order of their names. -/
def values (t : Table α) : List α := t.entries.map Prod.snd

/-- The number of names. -/
def size (t : Table α) : Nat := t.entries.length

/-- Puts `value` in the place of `name`, or behind the others if `name` is new. -/
def insertInto (name : String) (value : α) : List (String × α) → List (String × α)
  | [] => [(name, value)]
  | (k, v) :: entries =>
    if k = name then (name, value) :: entries else (k, v) :: insertInto name value entries

/-- The table with a value under a name. -/
def insert (t : Table α) (name : String) (value : α) : Table α :=
  ⟨insertInto name value t.entries⟩

/-- The table without a name. -/
def erase (t : Table α) (name : String) : Table α := ⟨t.entries.filter (·.1 != name)⟩

/-- Inserts the entries one after the other. -/
def insertAll (t : Table α) (entries : List (String × α)) : Table α :=
  entries.foldl (fun t (name, value) => t.insert name value) t

/-- The table of some entries, the later ones of which win. -/
def ofList (entries : List (String × α)) : Table α := empty.insertAll entries

/-- The table with a function of each value. -/
def map (f : α → β) (t : Table α) : Table β := ⟨t.entries.map fun (name, value) => (name, f value)⟩

/-! ### What a table holds after a change -/

/-- Looking at the first entry, and at the others behind it. -/
theorem lookup_cons_ite (key k : String) (v : α) (entries : List (String × α)) :
    ((k, v) :: entries).lookup key = if key = k then some v else entries.lookup key := by
  by_cases h : key = k
  · simp [h]
  · have hb : (key == k) = false := by simp [h]
    simp [List.lookup_cons, h, hb]

/-- Behind an insertion, the new value is found under its name, and all others as before. -/
theorem lookup_insertInto (name key : String) (value : α) (entries : List (String × α)) :
    (insertInto name value entries).lookup key =
      if key = name then some value else entries.lookup key := by
  induction entries with
  | nil => simp [insertInto, lookup_cons_ite]
  | cons e entries ih =>
    obtain ⟨k, v⟩ := e
    by_cases hk : k = name
    · simp only [insertInto, hk, if_true, lookup_cons_ite]
      split <;> rfl
    · simp only [insertInto, hk, if_false, lookup_cons_ite, ih]
      split <;> split <;> simp_all

/-- Behind an insertion, the new value is found under its name, and all others as before. -/
theorem get?_insert (t : Table α) (name key : String) (value : α) :
    (t.insert name value).get? key = if key = name then some value else t.get? key :=
  lookup_insertInto name key value t.entries

/-- Behind an erasure, nothing is found under the name, and all others as before. -/
theorem lookup_filter_ne (name key : String) (entries : List (String × α)) :
    (entries.filter (·.1 != name)).lookup key =
      if key = name then none else entries.lookup key := by
  induction entries with
  | nil => simp
  | cons e entries ih =>
    obtain ⟨k, v⟩ := e
    by_cases hk : k = name
    · have hf : ((k, v) :: entries).filter (·.1 != name) = entries.filter (·.1 != name) := by
        simp [hk]
      rw [hf, ih, lookup_cons_ite]
      split <;> simp_all
    · have hf : ((k, v) :: entries).filter (·.1 != name) =
          (k, v) :: entries.filter (·.1 != name) := by
        simp [hk]
      rw [hf, lookup_cons_ite, ih, lookup_cons_ite]
      split <;> split <;> simp_all

/-- Behind an erasure, nothing is found under the name, and all others as before. -/
theorem get?_erase (t : Table α) (name key : String) :
    (t.erase name).get? key = if key = name then none else t.get? key :=
  lookup_filter_ne name key t.entries

end Table

end Scaffold
