import Mathlib.Data.List.Induction
import Scaffold.Table

namespace Scaffold

/-!
# Tables that are filled from lists

A table keeps the place of a name that is there already and takes its new value. So what a list of entries makes
of it says for each name which value counts, the last one, and where it stands: where the name came up first.

* `Table.keys_ofList` — the names are in the order in which each of them came up first;
* `Table.get?_ofList` — a name has the value that came last;
* `Table.insertAll_ofList` — it is no matter whether entries go into a table of their own on the way;
* `Table.ofList_append` — one list behind another fills one table.
-/

namespace Table

variable {α : Type}

/-! ### One entry -/

/-- A new name comes last, and an old one stays at its place. -/
theorem keys_insertInto (name : String) (value : α) (entries : List (String × α)) :
    (insertInto name value entries).map Prod.fst
      = if name ∈ entries.map Prod.fst then entries.map Prod.fst
        else entries.map Prod.fst ++ [name] := by
  induction entries with
  | nil => simp [insertInto]
  | cons e entries ih =>
    obtain ⟨k, v⟩ := e
    by_cases hk : k = name
    · simp [insertInto, hk]
    · have hk' : name ≠ k := Ne.symm hk
      by_cases hmem : name ∈ entries.map Prod.fst
      · simp only [insertInto, hk, if_false, List.map_cons, ih, hmem, if_true,
          List.mem_cons_of_mem]
      · simp only [insertInto, hk, if_false, List.map_cons, ih, hmem, List.mem_cons, hk', or_self,
          List.cons_append]

/-- A new name comes last, and an old one stays at its place. -/
theorem keys_insert (t : Table α) (name : String) (value : α) :
    (t.insert name value).keys = if name ∈ t.keys then t.keys else t.keys ++ [name] :=
  keys_insertInto name value t.entries

/-- The later value of a name wins. -/
theorem insertInto_insertInto (name : String) (value value' : α) (entries : List (String × α)) :
    insertInto name value (insertInto name value' entries) = insertInto name value entries := by
  induction entries with
  | nil => simp [insertInto]
  | cons e entries ih =>
    obtain ⟨k, v⟩ := e
    by_cases hk : k = name
    · simp [insertInto, hk]
    · simp [insertInto, hk, ih]

/-- Where the one name has its place already, it does not matter which of two goes in first. -/
theorem insertInto_comm {name name' : String} (value value' : α) {entries : List (String × α)}
    (hne : name ≠ name') (hmem : name ∈ entries.map Prod.fst) :
    insertInto name value (insertInto name' value' entries)
      = insertInto name' value' (insertInto name value entries) := by
  induction entries with
  | nil => cases hmem
  | cons e entries ih =>
    obtain ⟨k, v⟩ := e
    -- The entry at the head is that of one of the two names or of neither.
    by_cases hk : k = name
    · have hk' : k ≠ name' := hk ▸ hne
      simp [insertInto, hk, hne]
    · have hmem' : name ∈ entries.map Prod.fst :=
        (List.mem_cons.1 hmem).resolve_left (Ne.symm hk)
      by_cases hk' : k = name'
      · simp [insertInto, hk', Ne.symm hne]
      · simp [insertInto, hk, hk', ih hmem']

/-- All other entries stay as they are, in their order. -/
theorem filter_insertInto (name : String) (value : α) (entries : List (String × α)) :
    (insertInto name value entries).filter (·.1 ≠ name) = entries.filter (·.1 ≠ name) := by
  induction entries with
  | nil => simp [insertInto]
  | cons e entries ih =>
    obtain ⟨k, v⟩ := e
    by_cases hk : k = name
    · simp [insertInto, hk]
    · simp only [insertInto, hk, if_false, List.filter_cons, ih]

/-- Erasing a name leaves the others in their order. -/
theorem keys_erase (t : Table α) (name : String) :
    (t.erase name).keys = t.keys.filter (· != name) := by
  simp only [keys, erase, List.filter_map, Function.comp_def]

/-- Names stay different. -/
theorem nodup_keys_insert {t : Table α} (ht : t.keys.Nodup) (name : String) (value : α) :
    (t.insert name value).keys.Nodup := by
  rw [keys_insert]
  split
  · exact ht
  · rename_i hnew
    refine List.nodup_append.2 ⟨ht, by simp, ?_⟩
    intro k hk k' hk' heq
    rw [heq, List.mem_singleton.1 hk'] at hk
    exact hnew hk

/-- A name of the table is the new one or an old one. -/
theorem mem_keys_insert {t : Table α} {name k : String} {value : α} :
    k ∈ (t.insert name value).keys ↔ k = name ∨ k ∈ t.keys := by
  rw [keys_insert]
  split
  · rename_i hmem
    exact ⟨.inr, fun h => h.elim (· ▸ hmem) id⟩
  · rw [List.mem_append, List.mem_singleton, or_comm]

/-! ### Many entries -/

/-- Inserting entries in two stretches. -/
theorem insertAll_append (t : Table α) (entries entries' : List (String × α)) :
    t.insertAll (entries ++ entries') = (t.insertAll entries).insertAll entries' :=
  List.foldl_append

@[simp] theorem insertAll_nil (t : Table α) : t.insertAll [] = t := rfl

@[simp] theorem insertAll_cons (t : Table α) (name : String) (value : α)
    (entries : List (String × α)) :
    t.insertAll ((name, value) :: entries) = (t.insert name value).insertAll entries := rfl

/-- A table of entries in two stretches. -/
theorem ofList_append (entries entries' : List (String × α)) :
    ofList (entries ++ entries') = (ofList entries).insertAll entries' :=
  insertAll_append empty entries entries'

/-- A table of entries, the last of which is inserted last. -/
theorem ofList_concat (entries : List (String × α)) (name : String) (value : α) :
    ofList (entries ++ [(name, value)]) = (ofList entries).insert name value :=
  ofList_append entries [(name, value)]

/-- The names of a table are in the order in which each came up first. -/
theorem keys_ofList (entries : List (String × α)) :
    (ofList entries).keys = (entries.map Prod.fst).eraseDups := by
  induction entries using List.reverseRecOn with
  | nil => rfl
  | append_singleton entries e ih =>
    obtain ⟨name, value⟩ := e
    rw [ofList_concat, keys_insert, ih, List.map_append, List.eraseDups_append]
    -- A name that is there already keeps its place; a new one comes last.
    by_cases hmem : name ∈ entries.map Prod.fst
    · have hnone : [name].removeAll (entries.map Prod.fst) = [] := by
        rw [List.removeAll, List.filter_cons, if_neg (by simpa using hmem)]
        rfl
      rw [if_pos (List.mem_eraseDups.2 hmem), List.map_singleton, hnone, List.eraseDups_nil,
        List.append_nil]
    · have hnew : [name].removeAll (entries.map Prod.fst) = [name] := by
        rw [List.removeAll, List.filter_cons, if_pos (by simpa using hmem)]
        rfl
      rw [if_neg (List.mem_eraseDups.not.2 hmem), List.map_singleton, hnew]
      rfl

/-- A name is in a table once. -/
theorem nodup_keys_ofList (entries : List (String × α)) : (ofList entries).keys.Nodup := by
  induction entries using List.reverseRecOn with
  | nil => exact List.nodup_nil
  | append_singleton entries e ih =>
    obtain ⟨name, value⟩ := e
    rw [ofList_concat]
    exact nodup_keys_insert ih name value

/-- A name has the value that came last. -/
theorem get?_ofList (entries : List (String × α)) (name : String) :
    (ofList entries).get? name
      = ((entries.filter (·.1 = name)).getLast?).map Prod.snd := by
  induction entries using List.reverseRecOn with
  | nil => rfl
  | append_singleton entries e ih =>
    obtain ⟨k, value⟩ := e
    rw [ofList_concat, get?_insert, ih, List.filter_append, List.getLast?_append]
    by_cases hk : name = k
    · simp [hk]
    · simp [hk, Ne.symm hk]

/-- Where names are there once, each entry is the one that its name is looked up by. -/
theorem get?_of_mem {t : Table α} (ht : t.keys.Nodup) {name : String} {value : α}
    (h : (name, value) ∈ t.entries) : t.get? name = some value := by
  obtain ⟨entries⟩ := t
  simp only [keys, get?] at ht h ⊢
  induction entries with
  | nil => cases h
  | cons e entries ih =>
    obtain ⟨k, v⟩ := e
    rw [List.map_cons, List.nodup_cons] at ht
    rw [lookup_cons_ite]
    -- The entry is the first one of its name, since no name is repeated.
    rcases List.mem_cons.1 h with heq | hmem
    · obtain ⟨rfl, rfl⟩ := Prod.mk.inj heq
      exact if_pos rfl
    · have hne : name ≠ k := by
        rintro rfl
        exact ht.1 (List.mem_map.2 ⟨_, hmem, rfl⟩)
      rw [if_neg hne, ih ht.2 hmem]

/-! ### Entries that go through a table of their own -/

/-- A name that has its place takes its value before or after entries with other names. -/
theorem insertAll_insert_comm {t : Table α} {name : String} (value : α)
    {entries : List (String × α)} (hmem : name ∈ t.keys) (hnew : name ∉ entries.map Prod.fst) :
    (t.insert name value).insertAll entries = (t.insertAll entries).insert name value := by
  induction entries generalizing t with
  | nil => rfl
  | cons e entries ih =>
    obtain ⟨k, v⟩ := e
    rw [List.map_cons, List.mem_cons, not_or] at hnew
    have hcomm : (t.insert name value).insert k v = (t.insert k v).insert name value :=
      congrArg Table.mk (insertInto_comm value v hnew.1 hmem).symm
    rw [insertAll_cons, hcomm, ih (mem_keys_insert.2 (.inr hmem)) hnew.2, insertAll_cons]

/-- Putting a value into entries before they go into a table, or into the table after them, is the same. -/
theorem insertAll_insertInto (t : Table α) (name : String) (value : α)
    {entries : List (String × α)} (hnodup : (entries.map Prod.fst).Nodup) :
    t.insertAll (insertInto name value entries) = (t.insertAll entries).insert name value := by
  induction entries generalizing t with
  | nil => rfl
  | cons e entries ih =>
    obtain ⟨k, v⟩ := e
    rw [List.map_cons, List.nodup_cons] at hnodup
    by_cases hk : k = name
    -- The name has its place in the list: its value is put in at once, and nothing behind it has that name.
    · subst hk
      have hplace : k ∈ (t.insert k v).keys := mem_keys_insert.2 (.inl rfl)
      have htwice : (t.insert k v).insert k value = t.insert k value :=
        congrArg Table.mk (insertInto_insertInto k value v t.entries)
      rw [insertInto, if_pos rfl, insertAll_cons, insertAll_cons,
        ← insertAll_insert_comm value hplace hnodup.1, htwice]
    · rw [insertInto, if_neg hk, insertAll_cons, insertAll_cons, ih _ hnodup.2]

/-- **Tables on the way.** Entries that are put into a table of their own first, and from there into another,
    leave there what they leave when they are put in one after the other. -/
theorem insertAll_ofList (t : Table α) (entries : List (String × α)) :
    t.insertAll (ofList entries).entries = t.insertAll entries := by
  induction entries using List.reverseRecOn with
  | nil => rfl
  | append_singleton entries e ih =>
    obtain ⟨name, value⟩ := e
    have hstep := insertAll_insertInto t name value (nodup_keys_ofList entries)
    rw [ofList_concat, insertAll_append, ← ih]
    exact hstep

end Table

end Scaffold
