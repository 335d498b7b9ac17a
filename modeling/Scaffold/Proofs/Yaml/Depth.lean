import Scaffold.Yaml.Node

namespace Scaffold.Yaml

/-!
# The depth of values

Reading opens no more collections inside of one another than there is room for. Aliases do not help: what they stand
for is read with the room that is left where they stand.

* `Value.depth` — how deep the collections of a value are nested;
* `FitsRoom`, `fitsRoom` — a node that can be read has no more depth than room;
* `depth_le_of_parse` — what a text stands for is not nested deeper than the limit.
-/

namespace Value

mutual

/-- How many collections of a value are inside of one another. -/
def depth : Value → Nat
  | .sequence items => depthOfItems items + 1
  | .mapping entries => depthOfEntries entries + 1
  | .tagged _ v => depth v
  | .null | .bool _ | .number _ | .string _ => 0

/-- The depth of the deepest of these values. -/
def depthOfItems : List Value → Nat
  | [] => 0
  | v :: items => max (depth v) (depthOfItems items)

/-- The depth of the deepest of these keys and values. -/
def depthOfEntries : List (Value × Value) → Nat
  | [] => 0
  | (key, v) :: entries => max (max (depth key) (depth v)) (depthOfEntries entries)

end

end Value

namespace Node

/-- A tag does not change the depth of a value. -/
theorem depth_of_wrapTag {how : Reading} {tag? : Option Tag} {line : Nat} {value : Option Tag → Except Fault Value}
    {room : Nat} (hvalue : ∀ tag? v, value tag? = .ok v → v.depth ≤ room) {v : Value}
    (h : wrapTag how tag? line value = .ok v) : v.depth ≤ room := by
  rw [wrapTag] at h
  split at h
  · exact hvalue tag? v h
  · split at h
    -- The value is read again without the tag.
    · cases hnone : value none with
      | error fault => rw [hnone] at h; cases h
      | ok w =>
        rw [hnone] at h
        obtain rfl := Except.ok.inj h
        exact hvalue none w hnone
    · cases h

/-- A scalar that is read as an integer has no parts. -/
theorem depth_of_int? {s : List Char} {v : Value} (h : Scalar.int? s = some (.value v)) : v.depth = 0 := by
  rw [Scalar.int?] at h
  split at h
  · cases h
    rfl
  · obtain ⟨n, -, hn⟩ := Option.map_eq_some_iff.1 h
    cases hn

/-- A scalar has no parts, whatever it is resolved to. -/
theorem depth_of_resolve {s : String} {v : Value} (h : Scalar.resolve s = .value v) : v.depth = 0 := by
  rw [Scalar.resolve] at h
  -- The cases follow the kinds of scalars, none of which has anything in it.
  split at h
  · cases h
    rfl
  · split at h
    · cases h
      rfl
    · split at h
      · rename_i r hr
        rw [h] at hr
        exact depth_of_int? hr
      · split at h
        · cases h
          rfl
        · split at h <;> cases h <;> rfl

/-- A scalar stands for no collection. -/
theorem depth_of_scalarValue {tag? : Option Tag} {text : String} {style : ScalarStyle} {line : Nat} {v : Value}
    (h : scalarValue tag? text style line = .ok v) : v.depth = 0 := by
  simp only [scalarValue] at h
  -- Without a tag the scalar is resolved or a text; with one it is what the tag says.
  split at h
  · split at h
    · split at h
      · rename_i w hw
        cases h
        exact depth_of_resolve hw
      · cases h
    · cases h
      rfl
  · split at h
    · split at h <;> cases h
      rfl
    split at h
    · split at h
      · rename_i r hr
        split at h
        · cases h
          exact depth_of_int? hr
        · cases h
      · cases h
    split at h
    · split at h <;> cases h
      rfl
    split at h
    · split at h <;> cases h
      rfl
    split at h
    · split at h
      · rename_i w hw
        cases h
        exact depth_of_resolve hw
      · cases h
    · cases h
      rfl

/-- What is read in the room for some collections has no more depth, nor has what is in them. -/
structure FitsRoom (how : Reading) (src : Source) (fuel : Nat) : Prop where
  node (room : Nat) (events : List LinkedEvent) (aliases : Nat) (v : Value)
    (h : read how (readNode src fuel room events aliases).result = .ok v) : v.depth ≤ room
  items (room : Nat) (events : List LinkedEvent) (aliases : Nat) (vs : List Value)
    (h : readAll how (readItems src fuel room events aliases).result = .ok vs) : Value.depthOfItems vs ≤ room
  entries (room : Nat) (events : List LinkedEvent) (aliases line : Nat) (before : List Value)
    (ps : List (Value × Value))
    (h : readPairs how line before (readEntries src fuel room events aliases).result = .ok ps) :
    Value.depthOfEntries ps ≤ room

/-- A result behind another one. -/
theorem bind_eq_ok {α β : Type} {x : Except Fault α} {f : α → Except Fault β} {b : β} (h : x >>= f = .ok b) :
    ∃ a, x = .ok a ∧ f a = .ok b := by
  cases x with
  | error fault => cases h
  | ok a => exact ⟨a, rfl, h⟩

/-- A function of a result. -/
theorem map_eq_ok {α β : Type} {x : Except Fault α} {f : α → β} {b : β} (h : x.map f = .ok b) :
    ∃ a, x = .ok a ∧ f a = b := by
  cases x with
  | error fault => cases h
  | ok a => exact ⟨a, rfl, Except.ok.inj h⟩

/-- A node. Those inside of it have one level less, and an alias stands for a node that was read before. -/
theorem FitsRoom.node_succ {how : Reading} {src : Source} {fuel : Nat} (ih : FitsRoom how src fuel) (room : Nat)
    (events : List LinkedEvent) (aliases : Nat) (v : Value)
    (h : read how (readNode src (fuel + 1) room events aliases).result = .ok v) : v.depth ≤ room := by
  -- The cases follow the first event.
  cases events with
  | nil =>
    rw [readNode, read] at h
    · cases h
    · simp
  | cons e events =>
    rw [readNode] at h
    split at h
    · rw [read] at h
      exact depth_of_wrapTag (fun tag? v hv => by rw [depth_of_scalarValue hv]; exact Nat.zero_le room) h
    · split at h
      -- An alias has what its anchor has, with the same room.
      · rw [read] at h
        cases h
      · exact ih.node _ _ _ v h
    · split at h
      · rw [read] at h
        cases h
      -- A sequence takes one level, and so does a mapping.
      · rw [read] at h
        refine depth_of_wrapTag (fun tag? v hv => ?_) h
        obtain ⟨vs, hvs, rfl⟩ := map_eq_ok hv
        have hle := ih.items _ _ _ vs hvs
        rw [Value.depth]
        omega
    · split at h
      · rw [read] at h
        cases h
      · rw [read] at h
        refine depth_of_wrapTag (fun tag? v hv => ?_) h
        obtain ⟨ps, hps, rfl⟩ := map_eq_ok hv
        have hle := ih.entries _ _ _ _ _ ps hps
        rw [Value.depth]
        omega
    · rw [read] at h
      cases h
    · rw [read] at h
      cases h

/-- The items of a sequence. -/
theorem FitsRoom.items_succ {how : Reading} {src : Source} {fuel : Nat} (ih : FitsRoom how src fuel) (room : Nat)
    (events : List LinkedEvent) (aliases : Nat) (vs : List Value)
    (h : readAll how (readItems src (fuel + 1) room events aliases).result = .ok vs) :
    Value.depthOfItems vs ≤ room := by
  cases events with
  | nil =>
    rw [readItems, readAll, read] at h
    cases h
  | cons e rest =>
    rw [readItems] at h
    split at h
    · rw [readAll] at h
      cases h
      exact Nat.zero_le room
    · rw [readAll] at h
      -- The item and those behind it have the same room.
      obtain ⟨v, hv, h⟩ := bind_eq_ok h
      obtain ⟨vs', hvs, h⟩ := bind_eq_ok h
      cases h
      exact Nat.max_le.2 ⟨ih.node _ _ _ v hv, ih.items _ _ _ vs' hvs⟩

/-- The entries of a mapping. -/
theorem FitsRoom.entries_succ {how : Reading} {src : Source} {fuel : Nat} (ih : FitsRoom how src fuel) (room : Nat)
    (events : List LinkedEvent) (aliases line : Nat) (before : List Value) (ps : List (Value × Value))
    (h : readPairs how line before (readEntries src (fuel + 1) room events aliases).result = .ok ps) :
    Value.depthOfEntries ps ≤ room := by
  cases events with
  | nil =>
    rw [readEntries, readPairs, read] at h
    cases h
  | cons e rest =>
    rw [readEntries] at h
    split at h
    · rw [readPairs] at h
      cases h
      exact Nat.zero_le room
    · rw [readPairs] at h
      obtain ⟨key, hkey, h⟩ := bind_eq_ok h
      split at h
      · cases h
      · obtain ⟨-, -, h⟩ := bind_eq_ok h
        obtain ⟨v, hv, h⟩ := bind_eq_ok h
        obtain ⟨ps', hps, h⟩ := bind_eq_ok h
        cases h
        exact Nat.max_le.2 ⟨Nat.max_le.2 ⟨ih.node _ _ _ key hkey, ih.node _ _ _ v hv⟩, ih.entries _ _ _ _ _ ps' hps⟩

/-- Whatever is read fits in the room that there is. -/
theorem fitsRoom (how : Reading) (src : Source) (fuel : Nat) : FitsRoom how src fuel := by
  -- The induction is on the fuel, since the events alone do not get fewer at an alias.
  induction fuel with
  | zero =>
    refine ⟨fun room events aliases v h => ?_, fun room events aliases vs h => ?_,
      fun room events aliases line before ps h => ?_⟩
    · rw [readNode, read] at h
      cases h
    · rw [readItems, readAll, read] at h
      cases h
    · rw [readEntries, readPairs, read] at h
      cases h
  | succ fuel ih => exact ⟨ih.node_succ, ih.items_succ, ih.entries_succ⟩

end Node

/-- **The depth of documents.** What a text stands for is not nested deeper than the limit. -/
theorem depth_le_of_parse {text : String} {v : Value} (h : parse text = .ok v) : v.depth ≤ Node.depthLimit := by
  rw [parse, parseWith] at h
  obtain ⟨w, hw, h⟩ := Node.bind_eq_ok h
  -- Only what was read is returned; the rest are failures.
  have hv : w = v := by
    split at h
    · cases h
    · split at h
      · cases h
      · exact Except.ok.inj h
  subst hv
  rw [Node.value, Node.ofEvents] at hw
  split at hw
  · rw [Node.read] at hw
    cases hw
    exact Nat.zero_le _
  · exact (Node.fitsRoom _ _ _).node _ _ _ w hw

end Scaffold.Yaml
