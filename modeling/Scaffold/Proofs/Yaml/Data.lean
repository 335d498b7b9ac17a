import Scaffold.Yaml.Node
import Scaffold.Yaml.Writer
import Scaffold.Proofs.Yaml.Forms

namespace Scaffold.Yaml

/-!
# Data and its tokens

Data is what is built from null, truth values, integers, texts, lists, and mappings with texts as keys. The tokens
that a written value is made of are known from the value alone, and whatever text has these tokens stands for the
value: they give its events, these give its tree, and the tree is read as the value.

* `IsData` — data, with a bound for how deep its collections are nested;
* `nodeTokens` — the tokens of a written value, by the place where it is written;
* `Spells.sequence`, `Spells.mapping` — the events of a collection from the events of what is in it;
* `Grammar.node_spells` — the grammar reads the tokens of data as events that spell it;
* `parse_of_nodeTokens` — a text with the tokens of data stands for that data.
-/

/-- Data whose collections are nested at most `n` deep. Integers have 64 bits, with a sign or without. -/
inductive IsData : Nat → Value → Prop where
  | null {n : Nat} : IsData n .null
  | bool {n : Nat} (b : Bool) : IsData n (.bool b)
  | int {n : Nat} {i : Int} (hlow : -Int.pow 2 63 ≤ i) (hhigh : i < Int.pow 2 64) : IsData n (.number (.int i))
  | string {n : Nat} (s : String) : IsData n (.string s)
  | sequence {n : Nat} {items : List Value} (hitems : ∀ v ∈ items, IsData n v) : IsData (n + 1) (.sequence items)
  | mapping {n : Nat} {fields : List (String × Value)} (hkeys : (fields.map Prod.fst).Nodup)
      (hfields : ∀ f ∈ fields, IsData n f.2) : IsData (n + 1) (.mapping (fields.map fun f => (.string f.1, f.2)))

/-! ### Tokens -/

/-- How a scalar in a form is marked. -/
def Form.style : Form → ScalarStyle
  | .plain => .plain
  | .single => .singleQuoted
  | .double => .doubleQuoted
  | .literal => .literal

namespace Value

mutual

/-- The tokens of a written value. A sequence under a key is not indented, so it has no tokens of its own. -/
def nodeTokens (slot : Slot) : Value → List TokenKind
  | .null => [.scalar "null" .plain]
  | .bool b => [.scalar (toString b) .plain]
  | .number n => [.scalar n.text .plain]
  | .string s => [.scalar s (Form.choose s).style]
  | .tagged _ v => nodeTokens slot v
  | .sequence items =>
    if items.isEmpty then [.flowSequenceStart, .flowSequenceEnd]
    -- A sequence below a key is not indented, so it has no start of its own.
    else if slot = .field then itemTokens items
    else .blockSequenceStart :: (itemTokens items ++ [.blockEnd])
  | .mapping entries =>
    if entries.isEmpty then [.flowMappingStart, .flowMappingEnd]
    else .blockMappingStart :: (entryTokens entries ++ [.blockEnd])

/-- The tokens of the items of a sequence. -/
def itemTokens : List Value → List TokenKind
  | [] => []
  | v :: items => .blockEntry :: (nodeTokens .item v ++ itemTokens items)

/-- The tokens of the entries of a mapping. -/
def entryTokens : List (Value × Value) → List TokenKind
  | [] => []
  | (key, v) :: entries =>
    .key :: (nodeTokens .complex key
      ++ .value :: (nodeTokens (if key.isSimpleKey then .field else .complex) v ++ entryTokens entries))

end

end Value

/-! ### Events that spell a value -/

/-- How documents are read: with tags, and without repeated keys. -/
def documentReading : Node.Reading := ⟨true, true⟩

/-- An event without an anchor that is no alias. -/
def EventKind.isFree : EventKind → Bool
  | .scalar anchor? _ _ _ | .sequenceStart anchor? _ | .mappingStart anchor? _ => anchor?.isNone
  | .alias _ => false
  | .sequenceEnd | .mappingEnd => true

/-- An event that ends a collection. -/
def EventKind.isEnd : EventKind → Bool
  | .sequenceEnd | .mappingEnd => true
  | _ => false

/-- Without aliases and anchors all events are linked. -/
theorem LinkedEvent.link_free (anchors : List (String × Nat)) {events : List Event}
    (h : ∀ e ∈ events, e.kind.isFree = true) (position : Nat) (stop? : Option Fault) :
    ∃ linked, link anchors position stop? events = (linked, stop?) ∧ linked.map (·.event) = events := by
  -- The induction is on the events. None of them has an anchor to be remembered.
  induction events generalizing position with
  | nil => exact ⟨[], rfl, rfl⟩
  | cons e events ih =>
    obtain ⟨linked, hlink, hevents⟩ := ih (fun e' he' => h e' (List.mem_cons_of_mem _ he')) (position + 1)
    have hfree := h e List.mem_cons_self
    refine ⟨⟨e, position⟩ :: linked, ?_, by rw [List.map_cons, hevents]⟩
    obtain ⟨kind, line⟩ := e
    rcases kind with anchor? | name | anchor? | - | anchor? | -
    · obtain rfl : anchor? = none := by simpa [EventKind.isFree] using hfree
      simp [link, hlink]
    · -- A reference to another node.
      cases hfree
    · obtain rfl : anchor? = none := by simpa [EventKind.isFree] using hfree
      simp [link, hlink]
    · simp [link, hlink]
    · obtain rfl : anchor? = none := by simpa [EventKind.isFree] using hfree
      simp [link, hlink]
    · simp [link, hlink]

/-- The events `es` are those of the value `v`, whose collections are nested at most `room` deep. -/
structure Spells (room : Nat) (v : Value) (es : List Event) : Prop where
  free : ∀ e ∈ es, e.kind.isFree = true
  opens : es.head?.any (!·.kind.isEnd) = true
  reads (src : Node.Source) (fuel : Nat) (linked rest : List LinkedEvent) (aliases : Nat) (hfuel : es.length ≤ fuel)
    (hlinked : linked.map (·.event) = es) :
    ∃ node, Node.readNode src fuel room (linked ++ rest) aliases = ⟨node, rest, aliases⟩ ∧
      Node.read documentReading node = .ok v

/-- The events `es` are those of the items `vs` of a sequence, and of its end. -/
structure SpellsItems (room : Nat) (vs : List Value) (es : List Event) : Prop where
  free : ∀ e ∈ es, e.kind.isFree = true
  pos : 0 < es.length
  reads (src : Node.Source) (fuel : Nat) (linked rest : List LinkedEvent) (aliases : Nat) (hfuel : es.length ≤ fuel)
    (hlinked : linked.map (·.event) = es) :
    ∃ nodes, Node.readItems src fuel room (linked ++ rest) aliases = ⟨nodes, rest, aliases⟩ ∧
      Node.readAll documentReading nodes = .ok vs

/-- The events `es` are those of the fields of a mapping, and of its end. -/
structure SpellsFields (room : Nat) (fields : List (String × Value)) (es : List Event) : Prop where
  free : ∀ e ∈ es, e.kind.isFree = true
  pos : 0 < es.length
  reads (src : Node.Source) (fuel : Nat) (linked rest : List LinkedEvent) (aliases : Nat) (hfuel : es.length ≤ fuel)
    (hlinked : linked.map (·.event) = es) :
    ∃ nodes, Node.readEntries src fuel room (linked ++ rest) aliases = ⟨nodes, rest, aliases⟩ ∧
      ∀ (line : Nat) (before : List String), (before ++ fields.map Prod.fst).Nodup →
        Node.readPairs documentReading line (before.map .string) nodes = .ok (fields.map fun f => (.string f.1, f.2))

/-- There is an event for every value, and it is no end. -/
theorem Spells.exists_cons {room : Nat} {v : Value} {es : List Event} (h : Spells room v es) :
    ∃ e tail, es = e :: tail ∧ e.kind.isEnd = false := by
  have hopens := h.opens
  cases es with
  | nil => cases hopens
  | cons e tail => exact ⟨e, tail, rfl, by simpa using hopens⟩

/-- A value that one scalar is resolved to. -/
theorem Spells.scalar (room : Nat) {v : Value} {text : String} {style : ScalarStyle} {line : Nat}
    (h : Node.scalarValue none text style line = .ok v) : Spells room v [⟨.scalar none none text style, line⟩] where
  free := by simp [EventKind.isFree]
  opens := rfl
  reads src fuel linked rest aliases hfuel hlinked := by
    obtain ⟨fuel, rfl⟩ : ∃ m, fuel = m + 1 := ⟨fuel - 1, by simp at hfuel; omega⟩
    obtain ⟨e, rfl, he⟩ : ∃ e, linked = [e] ∧ e.event = ⟨.scalar none none text style, line⟩ := by
      simpa [List.map_eq_cons_iff] using hlinked
    exact ⟨.scalar none text style line, by simp [Node.readNode, he], by simp [Node.read, Node.wrapTag, h]⟩

/-- No items: the end of the sequence comes next. -/
theorem SpellsItems.nil (room line : Nat) : SpellsItems room [] [⟨.sequenceEnd, line⟩] where
  free := by simp [EventKind.isFree]
  pos := Nat.one_pos
  reads src fuel linked rest aliases hfuel hlinked := by
    -- The end of the sequence is the only event.
    obtain ⟨fuel, rfl⟩ : ∃ m, fuel = m + 1 := ⟨fuel - 1, by simp at hfuel; omega⟩
    obtain ⟨e, rfl, he⟩ : ∃ e, linked = [e] ∧ e.event = ⟨.sequenceEnd, line⟩ := by
      simpa [List.map_eq_cons_iff] using hlinked
    exact ⟨[], by simp [Node.readItems, he], rfl⟩

/-- No entries: the end of the mapping comes next. -/
theorem SpellsFields.nil (room line : Nat) : SpellsFields room [] [⟨.mappingEnd, line⟩] where
  free := by simp [EventKind.isFree]
  pos := Nat.one_pos
  reads src fuel linked rest aliases hfuel hlinked := by
    -- The end of the mapping is the only event.
    obtain ⟨fuel, rfl⟩ : ∃ m, fuel = m + 1 := ⟨fuel - 1, by simp at hfuel; omega⟩
    obtain ⟨e, rfl, he⟩ : ∃ e, linked = [e] ∧ e.event = ⟨.mappingEnd, line⟩ := by
      simpa [List.map_eq_cons_iff] using hlinked
    exact ⟨[], by simp [Node.readEntries, he], fun _ _ _ => rfl⟩

/-- One more item in front of the items. The nodes of the item are read first, with the rest of the events behind
    them. -/
theorem SpellsItems.cons {room : Nat} {v : Value} {vs : List Value} {es es' : List Event}
    (h' : SpellsItems room vs es') (h : Spells room v es) : SpellsItems room (v :: vs) (es ++ es') where
  free e he := (List.mem_append.1 he).elim (h.free e) (h'.free e)
  pos := by have := h'.pos; simp; omega
  reads src fuel linked rest aliases hfuel hlinked := by
    -- The events are split as the value and the rest have them; the fuel is shared by both.
    obtain ⟨first, second, rfl, hfirst, hsecond⟩ := List.map_eq_append_iff.1 hlinked
    obtain ⟨e, es, rfl, hopen⟩ := h.exists_cons
    have hpos := h'.pos
    simp only [List.length_append, List.length_cons] at hfuel
    obtain ⟨fuel, rfl⟩ : ∃ m, fuel = m + 1 := ⟨fuel - 1, by omega⟩
    obtain ⟨node, hnode, hvalue⟩ :=
      h.reads src fuel first (second ++ rest) aliases (by rw [List.length_cons]; omega) hfirst
    obtain ⟨nodes, hnodes, hvalues⟩ := h'.reads src fuel second rest aliases (by omega) hsecond
    obtain ⟨x, first, rfl, rfl, -⟩ := List.map_eq_cons_iff.1 hfirst
    -- The first event opens a node, so the list is not at its end.
    have hstart : ¬ x.event.kind = .sequenceEnd := fun hkind => by rw [hkind] at hopen; cases hopen
    refine ⟨node :: nodes, ?_, by simp [Node.readAll, hvalue, hvalues, bind, Except.bind, pure, Except.pure]⟩
    rw [List.append_assoc, List.cons_append, Node.readItems, if_neg hstart, ← List.cons_append, hnode]
    simp only [hnodes]

/-- One more entry in front of the entries: the key, and its value behind it. -/
theorem SpellsFields.cons {room : Nat} {key : String} {v : Value} {fields : List (String × Value)}
    {es es' es'' : List Event} (h' : SpellsFields room fields es'') (hkey : Spells room (.string key) es)
    (h : Spells room v es') : SpellsFields room ((key, v) :: fields) (es ++ (es' ++ es'')) where
  free e he := by
    simp only [List.mem_append] at he
    exact he.elim (hkey.free e) fun he => he.elim (h.free e) (h'.free e)
  pos := by have := h'.pos; simp; omega
  reads src fuel linked rest aliases hfuel hlinked := by
    -- The events of the key come first, then those of the value and of the other fields.
    obtain ⟨first, more, rfl, hfirst, hmore⟩ := List.map_eq_append_iff.1 hlinked
    obtain ⟨second, third, rfl, hsecond, hthird⟩ := List.map_eq_append_iff.1 hmore
    obtain ⟨e, es, rfl, hopen⟩ := hkey.exists_cons
    have hpos := h'.pos
    simp only [List.length_append, List.length_cons] at hfuel
    obtain ⟨fuel, rfl⟩ : ∃ m, fuel = m + 1 := ⟨fuel - 1, by omega⟩
    obtain ⟨k, hk, hkvalue⟩ :=
      hkey.reads src fuel first (second ++ (third ++ rest)) aliases (by rw [List.length_cons]; omega) hfirst
    obtain ⟨node, hnode, hvalue⟩ := h.reads src fuel second (third ++ rest) aliases (by omega) hsecond
    obtain ⟨nodes, hnodes, hvalues⟩ := h'.reads src fuel third rest aliases (by omega) hthird
    obtain ⟨x, first, rfl, rfl, -⟩ := List.map_eq_cons_iff.1 hfirst
    have hstart : ¬ x.event.kind = .mappingEnd := fun hkind => by rw [hkind] at hopen; cases hopen
    refine ⟨(k, node) :: nodes, ?_, fun line before hnodup => ?_⟩
    · simp only [List.append_assoc]
      rw [List.cons_append, Node.readEntries, if_neg hstart, ← List.cons_append, hk]
      simp only [hnode, hnodes]
    -- The name is new, since no name occurs twice.
    · have hnew : key ∉ before := fun hmem =>
        (List.nodup_append.1 hnodup).2.2 key hmem key (by simp) rfl
      have hunique : (before.map Value.string).any (Value.same (.string key)) = false := by
        rw [Bool.eq_false_iff, Ne, List.any_eq_true]
        rintro ⟨_, hmem, hsame⟩
        obtain ⟨name, hname, rfl⟩ := List.mem_map.1 hmem
        obtain rfl : key = name := by simpa [Value.same] using hsame
        exact hnew hname
      -- With the name among those that were seen, the others are still new.
      have hrest := hvalues line (key :: before) (by
        rw [List.map_cons] at hnodup
        exact (List.perm_middle.nodup_iff).1 hnodup)
      simp only [Node.readPairs, hkvalue, hunique, hvalue, bind, Except.bind, Bool.and_false, Bool.false_eq_true,
        if_false, pure, Except.pure]
      rw [List.map_cons] at hrest
      simp [hrest]

/-- A sequence between its start and its end. -/
theorem Spells.sequence {room : Nat} {items : List Value} {es : List Event} (h : SpellsItems room items es)
    (line : Nat) : Spells (room + 1) (.sequence items) (⟨.sequenceStart none none, line⟩ :: es) where
  free := by simpa [EventKind.isFree] using h.free
  opens := rfl
  reads src fuel linked rest aliases hfuel hlinked := by
    -- The sequence takes one step for its start, and its items are read with what is left.
    obtain ⟨fuel, rfl⟩ : ∃ m, fuel = m + 1 := ⟨fuel - 1, by simp at hfuel; omega⟩
    obtain ⟨x, linked, rfl, hx, htail⟩ := List.map_eq_cons_iff.1 hlinked
    obtain ⟨nodes, hnodes, hvalues⟩ := h.reads src fuel linked rest aliases (by simpa using hfuel) htail
    exact ⟨.sequence none nodes line, by simp [Node.readNode, hx, hnodes],
      by simp [Node.read, Node.wrapTag, hvalues, Except.map]⟩

/-- A mapping between its start and its end. -/
theorem Spells.mapping {room : Nat} {fields : List (String × Value)} {es : List Event}
    (h : SpellsFields room fields es) (hkeys : (fields.map Prod.fst).Nodup) (line : Nat) :
    Spells (room + 1) (.mapping (fields.map fun f => (.string f.1, f.2))) (⟨.mappingStart none none, line⟩ :: es) where
  free := by simpa [EventKind.isFree] using h.free
  opens := rfl
  reads src fuel linked rest aliases hfuel hlinked := by
    -- The mapping and its start take one step each; the fields are read with the remaining room.
    obtain ⟨fuel, rfl⟩ : ∃ m, fuel = m + 1 := ⟨fuel - 1, by simp at hfuel; omega⟩
    obtain ⟨x, linked, rfl, hx, htail⟩ := List.map_eq_cons_iff.1 hlinked
    obtain ⟨nodes, hnodes, hvalues⟩ := h.reads src fuel linked rest aliases (by simpa using hfuel) htail
    have hpairs := hvalues line [] hkeys
    exact ⟨.mapping none nodes line, by simp [Node.readNode, hx, hnodes],
      by simp [Node.read, Node.wrapTag, show Node.readPairs documentReading line [] nodes = _ from hpairs, Except.map]⟩

/-! ### Events of tokens -/

/-- From `g` on the events `es` are collected, and then those from `g'` on. -/
def Grammar.Runs (g : Grammar) (es : List Event) (g' : Grammar) : Prop :=
  ∀ (fuel : Nat) (acc : List Event),
    EventStream.collect (es.length + fuel) acc g = EventStream.collect fuel (es.reverse ++ acc) g'

/-- The step reads the first of the events `es`, and the others are collected up to `g'`. -/
def Step.Runs (st : Step) (es : List Event) (g' : Grammar) : Prop :=
  ∃ e g tail, st = .event e g ∧ es = e :: tail ∧ g.Runs tail g'

namespace Grammar

/-- No event, and nothing is taken. -/
theorem Runs.refl (g : Grammar) : g.Runs [] g := fun fuel _ => by simp

/-- One stretch of events behind the other. -/
theorem Runs.trans {g g' g'' : Grammar} {es es' : List Event} (h : g.Runs es g') (h' : g'.Runs es' g'') :
    g.Runs (es ++ es') g'' := fun fuel acc => by
  rw [List.length_append, Nat.add_assoc, h, h', List.reverse_append, List.append_assoc]

/-- The events start with the one that the first step reads. -/
theorem Runs.of_step {g g' : Grammar} {es : List Event} (h : g.step.Runs es g') : g.Runs es g' := by
  obtain ⟨e, g₁, tail, hstep, rfl, hruns⟩ := h
  intro fuel acc
  rw [List.length_cons, Nat.add_right_comm, EventStream.collect, hstep]
  simp [hruns fuel (e :: acc)]

end Grammar

/-- A step that reads the only event. -/
theorem Step.Runs.event (e : Event) (g : Grammar) : (Step.event e g).Runs [e] g :=
  ⟨e, g, [], rfl, rfl, .refl g⟩

/-- A step that reads the first event of a run. -/
theorem Step.Runs.cons (e : Event) {g g' : Grammar} {es : List Event} (h : g.Runs es g') :
    (Step.event e g).Runs (e :: es) g' :=
  ⟨e, g, es, rfl, rfl, h⟩

/-- The first token of a node. -/
def TokenKind.opensNode : TokenKind → Bool
  | .scalar _ _ | .flowSequenceStart | .flowMappingStart | .blockSequenceStart | .blockMappingStart => true
  | _ => false

namespace Grammar

/-- The grammar behind the tokens in front of `rest`. -/
def behind (g : Grammar) (rest : List Token) : Grammar := { g with tokens := rest }

/-- In front of a node there are no properties. -/
theorem node_of_opensNode {g : Grammar} {t : Token} {ts : List Token} (hg : g.tokens = t :: ts)
    (ht : t.kind.opensNode = true ∨ t.kind = .blockEntry) (block indentless : Bool) :
    g.node block indentless = nodeBody {} block indentless g := by
  obtain ⟨kind, line, endLine⟩ := t
  cases kind <;> simp [TokenKind.opensNode] at ht <;> simp [node, withToken, readProperties, hg]

/-- A place where an item of a sequence is read. -/
def IsEntryPlace (p : Place) : Prop := p = .blockSequenceEntry ∨ p = .indentlessEntry

/-- A dash in front of a node: the node is read, and then the place is the same again. -/
theorem step_entry {g : Grammar} (hplace : IsEntryPlace g.place) {dash t : Token} {r : List Token}
    (hg : g.tokens = dash :: t :: r) (hdash : dash.kind = .blockEntry) (ht : t.kind.opensNode = true) :
    g.step = ((g.behind (t :: r)).pushPlace g.place).node true false := by
  obtain ⟨kind, line, endLine⟩ := t
  rcases hplace with hplace | hplace <;> cases kind <;> simp [TokenKind.opensNode] at ht <;>
    simp [step, hplace, blockSequenceEntry, indentlessEntry, withToken, hg, hdash, advance, behind, closesBlock]

/-- A key of a mapping: behind its mark the key is read, and a value is expected. -/
theorem step_key {g : Grammar} (hplace : g.place = .blockMappingKey) {key t : Token} {r : List Token}
    (hg : g.tokens = key :: t :: r) (hkey : key.kind = .key) (ht : t.kind.opensNode = true) :
    g.step = ((g.behind (t :: r)).pushPlace .blockMappingValue).node true true := by
  obtain ⟨kind, line, endLine⟩ := t
  cases kind <;> simp [TokenKind.opensNode] at ht <;>
    simp [step, hplace, blockMappingKey, withToken, hg, hkey, advance, behind, closesBlock]

/-- The value of a mapping: behind its mark it is read, and a key is expected. -/
theorem step_value {g : Grammar} (hplace : g.place = .blockMappingValue) {value t : Token} {r : List Token}
    (hg : g.tokens = value :: t :: r) (hvalue : value.kind = .value)
    (ht : t.kind.opensNode = true ∨ t.kind = .blockEntry) :
    g.step = ((g.behind (t :: r)).pushPlace .blockMappingKey).node true true := by
  obtain ⟨kind, line, endLine⟩ := t
  cases kind <;> simp [TokenKind.opensNode] at ht <;>
    simp [step, hplace, blockMappingValue, withToken, hg, hvalue, advance, behind, closesBlock]

end Grammar

/-- A node starts with the token of a scalar or of a collection, unless it is a list that is not indented. -/
theorem Value.exists_nodeTokens {n : Nat} {v : Value} (hv : IsData n v) (slot : Slot) :
    ∃ kind kinds, v.nodeTokens slot = kind :: kinds ∧
      (kind.opensNode = true ∨ (slot = .field ∧ kind = .blockEntry)) := by
  -- The cases follow the data. Only a sequence under a key has no token that opens it.
  cases hv with
  | null => exact ⟨_, _, by rw [nodeTokens], .inl rfl⟩
  | bool b => exact ⟨_, _, by rw [nodeTokens], .inl rfl⟩
  | int => exact ⟨_, _, by rw [nodeTokens], .inl rfl⟩
  | string s => exact ⟨_, _, by rw [nodeTokens], .inl rfl⟩
  | @sequence n items =>
    cases items with
    | nil => exact ⟨_, _, by simp [nodeTokens]; exact ⟨rfl, rfl⟩, .inl rfl⟩
    | cons v items =>
      by_cases hslot : slot = .field
      · exact ⟨_, _, by simp [nodeTokens, hslot, itemTokens]; rfl, .inr ⟨hslot, rfl⟩⟩
      · exact ⟨_, _, by simp [nodeTokens, hslot]; exact ⟨rfl, rfl⟩, .inl rfl⟩
  | @mapping n fields =>
    cases fields with
    | nil => exact ⟨_, _, by simp [nodeTokens]; exact ⟨rfl, rfl⟩, .inl rfl⟩
    | cons f fields => exact ⟨_, _, by simp [nodeTokens]; exact ⟨rfl, rfl⟩, .inl rfl⟩

namespace Grammar

/-- The grammar reads the tokens of `v` as events that spell it, two for each token at most. Behind a list that is
    not indented, something else than a dash must come. -/
def ReadsNode (n : Nat) (v : Value) : Prop :=
  ∀ (slot : Value.Slot) (g : Grammar) (ts rest : List Token) (indentless : Bool),
    (slot = .field → indentless = true ∧ rest.head?.any (·.kind != .blockEntry) = true) →
    ts.map (·.kind) = v.nodeTokens slot → g.tokens = ts ++ rest →
    ∃ es, Spells n v es ∧ es.length ≤ 2 * ts.length ∧ (g.node true indentless).Runs es (g.behind rest).pop

/-- Items of a sequence, whose end is read at `rest`. -/
theorem items_spell {n : Nat} {items : List Value} (hdata : ∀ v ∈ items, IsData n v)
    (hitems : ∀ v ∈ items, ReadsNode n v) {g g' : Grammar} (hplace : IsEntryPlace g.place) {ts rest : List Token}
    (hts : ts.map (·.kind) = Value.itemTokens items) (hg : g.tokens = ts ++ rest) {line : Nat}
    (hend : (g.behind rest).Runs [⟨.sequenceEnd, line⟩] g') :
    ∃ es, SpellsItems n items es ∧ es.length + 2 * items.length ≤ 2 * ts.length + 1 ∧ g.Runs es g' := by
  -- The induction is on the items; each of them is read in a place between two dashes.
  induction items generalizing g ts with
  | nil =>
    obtain rfl : ts = [] := by simpa [Value.itemTokens] using hts
    refine ⟨_, SpellsItems.nil n line, by simp, ?_⟩
    rwa [show g = g.behind rest by rw [behind, ← List.nil_append rest, ← hg]]
  | cons v items ih =>
    rw [Value.itemTokens] at hts
    obtain ⟨dash, ts, rfl, hdash, hts⟩ := List.map_eq_cons_iff.1 hts
    obtain ⟨first, more, rfl, hfirst, hmore⟩ := List.map_eq_append_iff.1 hts
    obtain ⟨kind, kinds, hkinds, hkind⟩ := Value.exists_nodeTokens (hdata v List.mem_cons_self) .item
    obtain ⟨t, first, rfl, ht, -⟩ := List.map_eq_cons_iff.1 (hfirst.trans hkinds)
    have hopens : t.kind.opensNode = true := by simpa [ht] using hkind
    have hstep := step_entry hplace (t := t) (r := first ++ (more ++ rest)) (by simpa using hg) hdash hopens
    obtain ⟨es, hes, hcount, hruns⟩ := hitems v List.mem_cons_self .item
      ((g.behind (t :: (first ++ (more ++ rest)))).pushPlace g.place) (t :: first) (more ++ rest) false (by simp)
      hfirst rfl
    -- Behind the first item the reader is in the same place as in front of it.
    obtain ⟨es', hes', hcount', hruns'⟩ := ih (fun v hv => hdata v (List.mem_cons_of_mem _ hv))
      (fun v hv => hitems v (List.mem_cons_of_mem _ hv)) (g := g.behind (more ++ rest)) hplace hmore rfl hend
    refine ⟨es ++ es', hes'.cons hes, ?_, (Runs.of_step (by rw [hstep]; exact hruns)).trans hruns'⟩
    simp only [List.length_append, List.length_cons] at hcount hcount' ⊢
    omega

/-- A field of a mapping: its key, which is a text, and its value. -/
theorem field_spells {n : Nat} {key : String} {v : Value} (hdata : IsData n v) (hkey : ReadsNode n (.string key))
    (hvalue : ReadsNode n v) {g : Grammar} (hplace : g.place = .blockMappingKey) {ts rest : List Token}
    (hts : ts.map (·.kind) = .key :: (Value.nodeTokens .complex (.string key)
      ++ .value :: Value.nodeTokens (if (Value.string key).isSimpleKey then .field else .complex) v))
    (hg : g.tokens = ts ++ rest) (hnext : rest.head?.any (·.kind != .blockEntry) = true) :
    ∃ es es', Spells n (.string key) es ∧ Spells n v es' ∧ (es ++ es').length ≤ 2 * ts.length ∧
      g.Runs (es ++ es') { g.behind rest with place := .blockMappingKey } := by
  obtain ⟨mark, ts, rfl, hmark, hts⟩ := List.map_eq_cons_iff.1 hts
  obtain ⟨first, behindKey, rfl, hfirst, hbehind⟩ := List.map_eq_append_iff.1 hts
  obtain ⟨colon, second, rfl, hcolon, hsecond⟩ := List.map_eq_cons_iff.1 hbehind
  -- The key is a scalar; what its value starts with may also be the first dash of a list.
  obtain ⟨t, rfl, ht⟩ : ∃ t, first = [t] ∧ t.kind = .scalar key (Form.choose key).style := by
    simpa [Value.nodeTokens, List.map_eq_cons_iff] using hfirst
  obtain ⟨kind, kinds, hkinds, hkind⟩ := Value.exists_nodeTokens hdata
    (if (Value.string key).isSimpleKey then .field else .complex)
  obtain ⟨u, second, rfl, hu, -⟩ := List.map_eq_cons_iff.1 (hsecond.trans hkinds)
  -- Behind the mark of a key a node is read, and then the place of the value is next.
  have hstep := step_key hplace (t := t) (r := colon :: (u :: second ++ rest)) (by simpa using hg) hmark
    (by rw [ht]; rfl)
  obtain ⟨es, hes, hcount, hruns⟩ := hkey .complex
    ((g.behind (t :: colon :: (u :: second ++ rest))).pushPlace .blockMappingValue) [t]
    (colon :: (u :: second ++ rest)) true (by simp) (by simpa using hfirst) rfl
  have hstep' := step_value (g := { g.behind (colon :: (u :: second ++ rest)) with place := .blockMappingValue }) rfl
    (t := u) (r := second ++ rest) rfl hcolon (by rw [hu]; exact hkind.imp id fun h => h.2)
  obtain ⟨es', hes', hcount', hruns'⟩ := hvalue (if (Value.string key).isSimpleKey then .field else .complex)
    (({ g.behind (u :: second ++ rest) with place := .blockMappingValue } : Grammar).pushPlace .blockMappingKey)
    (u :: second) rest true (fun _ => ⟨rfl, hnext⟩) hsecond rfl
  refine ⟨es, es', hes, hes', ?_, (Runs.of_step (by rw [hstep]; exact hruns)).trans (Runs.of_step ?_)⟩
  · simp only [List.length_append, List.length_cons, List.length_nil] at hcount hcount' ⊢
    omega
  · show Step.Runs (step { g.behind (colon :: (u :: second ++ rest)) with place := .blockMappingValue }) _ _
    rw [hstep']
    exact hruns'

/-- Behind a field there is another one, or the end of the mapping. -/
theorem head?_behind_field {fields : List (String × Value)} {ts rest : List Token}
    (hts : ts.map (·.kind) = Value.entryTokens (fields.map fun f => (.string f.1, f.2)))
    (hrest : rest.head?.any (·.kind == .blockEnd) = true) :
    (ts ++ rest).head?.any (·.kind != .blockEntry) = true := by
  -- An empty mapping is followed by the end of the block, any other by its first key.
  cases fields with
  | nil =>
    obtain rfl : ts = [] := by simpa [Value.entryTokens] using hts
    cases rest with
    | nil => cases hrest
    | cons r rest => simp at hrest; simp [hrest]
  | cons f fields =>
    rw [List.map_cons, Value.entryTokens] at hts
    obtain ⟨t, ts, rfl, ht, -⟩ := List.map_eq_cons_iff.1 hts
    simp [ht]

/-- Fields of a mapping, whose end is read at `rest`. -/
theorem fields_spell {n : Nat} {fields : List (String × Value)} (hdata : ∀ f ∈ fields, IsData n f.2)
    (hfields : ∀ f ∈ fields, ReadsNode n f.2) (hnames : ∀ key, ReadsNode n (.string key)) {g g' : Grammar}
    (hplace : g.place = .blockMappingKey) {ts rest : List Token}
    (hts : ts.map (·.kind) = Value.entryTokens (fields.map fun f => (.string f.1, f.2))) (hg : g.tokens = ts ++ rest)
    (hrest : rest.head?.any (·.kind == .blockEnd) = true) {line : Nat}
    (hend : (g.behind rest).Runs [⟨.mappingEnd, line⟩] g') :
    ∃ es, SpellsFields n fields es ∧ es.length ≤ 2 * ts.length + 1 ∧ g.Runs es g' := by
  -- The induction is on the fields; the reader is at a key again behind each of them.
  induction fields generalizing g ts with
  | nil =>
    obtain rfl : ts = [] := by simpa [Value.entryTokens] using hts
    refine ⟨_, SpellsFields.nil n line, by simp, ?_⟩
    rwa [show g = g.behind rest by rw [behind, ← List.nil_append rest, ← hg]]
  | cons f fields ih =>
    obtain ⟨key, v⟩ := f
    -- The tokens of the first field come in front of those of the others.
    have hsplit : ts.map (·.kind) = .key :: (Value.nodeTokens .complex (.string key)
          ++ .value :: Value.nodeTokens (if (Value.string key).isSimpleKey then .field else .complex) v)
        ++ Value.entryTokens (fields.map fun f => (.string f.1, f.2)) := by
      rw [hts, List.map_cons, Value.entryTokens]
      simp only [List.cons_append, List.append_assoc]
    obtain ⟨field, more, rfl, hfield, hmore⟩ := List.map_eq_append_iff.1 hsplit
    rw [List.append_assoc] at hg
    obtain ⟨es, es', hes, hes', hcount, hruns⟩ := field_spells (hdata _ List.mem_cons_self) (hnames key)
      (hfields _ List.mem_cons_self) hplace hfield hg (head?_behind_field hmore hrest)
    have hbehind : ({ g.behind (more ++ rest) with place := .blockMappingKey } : Grammar).behind rest
        = g.behind rest := by rw [behind, behind, behind, ← hplace]
    obtain ⟨es'', hes'', hcount'', hruns''⟩ := ih (fun v hv => hdata v (List.mem_cons_of_mem _ hv))
      (fun v hv => hfields v (List.mem_cons_of_mem _ hv))
      (g := { g.behind (more ++ rest) with place := .blockMappingKey }) rfl hmore rfl (hbehind ▸ hend)
    refine ⟨es ++ (es' ++ es''), hes''.cons hes hes', ?_, ?_⟩
    · simp only [List.length_append] at hcount hcount'' ⊢
      omega
    · rw [← List.append_assoc]
      exact hruns.trans hruns''

end Grammar

/-! ### Whole documents -/

/-- A string in its form is resolved to the string. -/
theorem scalarValue_string (s : String) (line : Nat) :
    Node.scalarValue none s (Form.choose s).style line = .ok (.string s) := by
  cases hform : Form.choose s with
  | plain => simp [Node.scalarValue, Form.style, Form.resolve_of_choose_plain hform]
  | single => rfl
  | double => rfl
  | literal => rfl

namespace Grammar

/-- A scalar token is a node of its own. -/
theorem readsNode_scalar (n : Nat) {v : Value} {text : String} {style : ScalarStyle}
    (htokens : ∀ slot, v.nodeTokens slot = [.scalar text style])
    (hvalue : ∀ line, Node.scalarValue none text style line = .ok v) : ReadsNode n v := by
  -- A scalar is one token, and one event.
  intro slot g ts rest indentless _ hts hg
  obtain ⟨t, rfl, ht⟩ : ∃ t, ts = [t] ∧ t.kind = .scalar text style := by
    simpa [htokens slot, List.map_eq_cons_iff] using hts
  refine ⟨_, Spells.scalar n (hvalue t.line), by simp, ?_⟩
  obtain ⟨kind, line, endLine⟩ := t
  obtain rfl : kind = .scalar text style := ht
  have hnode : g.node true indentless = .event ⟨.scalar none none text style, line⟩ (g.behind rest).pop := by
    rw [node_of_opensNode hg (.inl rfl)]
    cases indentless <;> simp [nodeBody, withToken, hg, advance, behind]
  rw [hnode]
  exact Step.Runs.event _ _

/-- A collection between the tokens of its start and its end, or a pair of brackets. -/
theorem node_collection {g : Grammar} {t : Token} {r : List Token} (hg : g.tokens = t :: r) (indentless : Bool) :
    (t.kind = .flowSequenceStart → g.node true indentless
      = .event ⟨.sequenceStart none none, t.line⟩ { g.behind r with place := .flowSequenceFirst }) ∧
    (t.kind = .flowMappingStart → g.node true indentless
      = .event ⟨.mappingStart none none, t.line⟩ { g.behind r with place := .flowMappingFirst }) ∧
    (t.kind = .blockSequenceStart → g.node true indentless
      = .event ⟨.sequenceStart none none, t.line⟩ { g.behind r with place := .blockSequenceEntry }) ∧
    (t.kind = .blockMappingStart → g.node true indentless
      = .event ⟨.mappingStart none none, t.line⟩ { g.behind r with place := .blockMappingKey }) := by
  obtain ⟨kind, line, endLine⟩ := t
  -- Each of the four starts is a token that opens a node, whether or not a dash could stand there.
  refine ⟨?_, ?_, ?_, ?_⟩ <;> rintro rfl <;> rw [node_of_opensNode hg (.inl rfl)] <;> cases indentless <;>
    simp [nodeBody, withToken, hg, advance, behind]

/-- A list that is not indented starts with its first dash. -/
theorem node_indentless {g : Grammar} {t : Token} {ts : List Token} (hg : g.tokens = t :: ts)
    (ht : t.kind = .blockEntry) :
    g.node true true = .event ⟨.sequenceStart none none, t.line⟩ { g with place := .indentlessEntry } := by
  rw [node_of_opensNode hg (.inr ht)]
  simp [nodeBody, withToken, hg, ht]

/-- Tokens between a first and a last one. -/
theorem exists_enclosed {ts : List Token} {first last : TokenKind} {k : List TokenKind}
    (h : ts.map (·.kind) = first :: (k ++ [last])) :
    ∃ t middle u, ts = t :: (middle ++ [u]) ∧ t.kind = first ∧ middle.map (·.kind) = k ∧ u.kind = last := by
  obtain ⟨t, ts, rfl, ht, hts⟩ := List.map_eq_cons_iff.1 h
  obtain ⟨middle, ending, rfl, hmiddle, hending⟩ := List.map_eq_append_iff.1 hts
  obtain ⟨u, rfl, hu⟩ : ∃ u, ending = [u] ∧ u.kind = last := by simpa [List.map_eq_cons_iff] using hending
  exact ⟨t, middle, u, rfl, ht, hmiddle, hu⟩

/-- The token behind what is in a collection ends it. -/
theorem runs_close (g : Grammar) {u : Token} {rest : List Token} :
    (u.kind = .flowSequenceEnd →
      Runs { g.behind (u :: rest) with place := .flowSequenceFirst } [⟨.sequenceEnd, u.line⟩] (g.behind rest).pop) ∧
    (u.kind = .flowMappingEnd →
      Runs { g.behind (u :: rest) with place := .flowMappingFirst } [⟨.mappingEnd, u.line⟩] (g.behind rest).pop) ∧
    (u.kind = .blockEnd →
      Runs { g.behind (u :: rest) with place := .blockSequenceEntry } [⟨.sequenceEnd, u.line⟩] (g.behind rest).pop ∧
      Runs { g.behind (u :: rest) with place := .blockMappingKey } [⟨.mappingEnd, u.line⟩] (g.behind rest).pop) := by
  -- In each of these places the token that closes is read in one step.
  have hruns {place : Place} {e : Event}
      (hstep : step { g.behind (u :: rest) with place := place } = .event e (g.behind rest).pop) :
      Runs { g.behind (u :: rest) with place := place } [e] (g.behind rest).pop :=
    Runs.of_step (hstep ▸ Step.Runs.event _ _)
  refine ⟨fun hu => hruns ?_, fun hu => hruns ?_, fun hu => ⟨hruns ?_, hruns ?_⟩⟩ <;>
    simp [step, flowSequenceItem, flowMappingItem, blockSequenceEntry, blockMappingKey, withToken, behind, hu, advance,
      pop]

/-- A list that is not indented ends in front of a token that is no dash, which is left. -/
theorem runs_close_indentless (g : Grammar) {r : Token} {rest : List Token} (hr : r.kind ≠ .blockEntry) :
    Runs { g.behind (r :: rest) with place := .indentlessEntry } [⟨.sequenceEnd, r.line⟩]
      (g.behind (r :: rest)).pop := by
  have hstep : step { g.behind (r :: rest) with place := .indentlessEntry }
      = .event ⟨.sequenceEnd, r.line⟩ (g.behind (r :: rest)).pop := by
    simp only [step, indentlessEntry, withToken, behind]
    rfl
  exact Runs.of_step (hstep ▸ Step.Runs.event _ _)

/-! ### Collections -/

/-- An empty sequence is a pair of brackets. -/
theorem readsNode_emptySequence (n : Nat) : ReadsNode (n + 1) (.sequence []) := by
  intro slot g ts rest indentless _ hts hg
  rw [Value.nodeTokens] at hts
  obtain ⟨t, middle, u, rfl, ht, hmiddle, hu⟩ := exists_enclosed (k := []) hts
  obtain rfl : middle = [] := List.map_eq_nil_iff.1 hmiddle
  -- Between the brackets there is nothing, so the items end at once.
  refine ⟨_, Spells.sequence (SpellsItems.nil n u.line) t.line, by simp, ?_⟩
  rw [(node_collection hg indentless).1 ht]
  exact .cons _ ((runs_close g).1 hu)

/-- An empty mapping is a pair of braces. -/
theorem readsNode_emptyMapping (n : Nat) : ReadsNode (n + 1) (.mapping []) := by
  intro slot g ts rest indentless _ hts hg
  rw [Value.nodeTokens] at hts
  obtain ⟨t, middle, u, rfl, ht, hmiddle, hu⟩ := exists_enclosed (k := []) hts
  obtain rfl : middle = [] := List.map_eq_nil_iff.1 hmiddle
  refine ⟨_, Spells.mapping (SpellsFields.nil n u.line) List.nodup_nil t.line, by simp, ?_⟩
  rw [(node_collection hg indentless).2.1 ht]
  exact .cons _ ((runs_close g).2.1 hu)

section Sequence

variable {n : Nat} {items : List Value} (hdata : ∀ v ∈ items, IsData n v) (hitems : ∀ v ∈ items, ReadsNode n v)
  {g : Grammar} {ts rest : List Token} (hg : g.tokens = ts ++ rest)

include hdata hitems hg

/-- A list under a key is not indented: its first dash starts it, and what is no dash ends it. -/
theorem sequence_indentless (hne : items ≠ []) (hts : ts.map (·.kind) = Value.itemTokens items)
    (hnext : rest.head?.any (·.kind != .blockEntry) = true) :
    ∃ es, Spells (n + 1) (.sequence items) es ∧ es.length ≤ 2 * ts.length ∧
      (g.node true true).Runs es (g.behind rest).pop := by
  obtain ⟨v, items, rfl⟩ := List.exists_cons_of_ne_nil hne
  obtain ⟨r, rest, rfl⟩ : ∃ r tail, rest = r :: tail := by
    cases rest with
    | nil => cases hnext
    | cons r rest => exact ⟨r, rest, rfl⟩
  obtain ⟨t, tail, rfl, ht⟩ : ∃ t tail, ts = t :: tail ∧ t.kind = .blockEntry := by
    rw [Value.itemTokens] at hts
    obtain ⟨t, tail, rfl, ht, -⟩ := List.map_eq_cons_iff.1 hts
    exact ⟨t, tail, rfl, ht⟩
  -- The list is not indented, so it ends where a token is no dash.
  have hr : r.kind ≠ .blockEntry := by simpa using hnext
  obtain ⟨es, hes, hcount, hruns⟩ := items_spell hdata hitems (g := { g with place := .indentlessEntry }) (.inr rfl)
    hts hg (runs_close_indentless g hr)
  refine ⟨_, Spells.sequence hes t.line, by simp at hcount ⊢; omega, ?_⟩
  rw [node_indentless hg ht]
  exact .cons _ hruns

/-- Another list has tokens at its start and at its end. -/
theorem sequence_indented
    (hts : ts.map (·.kind) = .blockSequenceStart :: (Value.itemTokens items ++ [.blockEnd])) (indentless : Bool) :
    ∃ es, Spells (n + 1) (.sequence items) es ∧ es.length ≤ 2 * ts.length ∧
      (g.node true indentless).Runs es (g.behind rest).pop := by
  -- Between the start and the end of the block stand the items, each behind its dash.
  obtain ⟨t, middle, u, rfl, ht, hmiddle, hu⟩ := exists_enclosed hts
  obtain ⟨es, hes, hcount, hruns⟩ := items_spell hdata hitems
    (g := { g.behind (middle ++ (u :: rest)) with place := .blockSequenceEntry }) (.inl rfl) hmiddle rfl
    ((runs_close g).2.2 hu).1
  refine ⟨_, Spells.sequence hes t.line, by simp at hcount ⊢; omega, ?_⟩
  rw [(node_collection (r := middle ++ (u :: rest)) (by simpa using hg) indentless).2.2.1 ht]
  exact .cons _ hruns

end Sequence

/-- A sequence. Its items have one level less to nest in. -/
theorem readsNode_sequence {n : Nat} {items : List Value} (hdata : ∀ v ∈ items, IsData n v)
    (hitems : ∀ v ∈ items, ReadsNode n v) : ReadsNode (n + 1) (.sequence items) := by
  by_cases hne : items = []
  · subst hne
    exact readsNode_emptySequence n
  intro slot g ts rest indentless hslot hts hg
  rw [Value.nodeTokens, if_neg (by simpa using hne)] at hts
  -- Below a key the items stand at the key's column and end where the block does.
  by_cases hfield : slot = .field
  · obtain ⟨rfl, hnext⟩ := hslot hfield
    rw [if_pos hfield] at hts
    exact sequence_indentless hdata hitems hg hne hts hnext
  · rw [if_neg hfield] at hts
    exact sequence_indented hdata hitems hg hts indentless

/-- A mapping. Its values have one level less to nest in. -/
theorem readsNode_mapping {n : Nat} {fields : List (String × Value)} (hkeys : (fields.map Prod.fst).Nodup)
    (hdata : ∀ f ∈ fields, IsData n f.2) (hfields : ∀ f ∈ fields, ReadsNode n f.2) :
    ReadsNode (n + 1) (.mapping (fields.map fun f => (.string f.1, f.2))) := by
  by_cases hne : fields = []
  · subst hne
    exact readsNode_emptyMapping n
  intro slot g ts rest indentless hslot hts hg
  rw [Value.nodeTokens, if_neg (by simpa using hne)] at hts
  obtain ⟨t, middle, u, rfl, ht, hmiddle, hu⟩ := exists_enclosed hts
  -- A key is a scalar, which is read as its text.
  have hnames (key : String) : ReadsNode n (.string key) :=
    readsNode_scalar n (fun slot => by rw [Value.nodeTokens]) fun _ => scalarValue_string key _
  obtain ⟨es, hes, hcount, hruns⟩ := fields_spell hdata hfields hnames
    (g := { g.behind (middle ++ (u :: rest)) with place := .blockMappingKey }) rfl hmiddle rfl (by simp [hu])
    ((runs_close g).2.2 hu).2
  refine ⟨_, Spells.mapping hes hkeys t.line, by simp at hcount ⊢; omega, ?_⟩
  rw [(node_collection (r := middle ++ (u :: rest)) (by simpa using hg) indentless).2.2.2 ht]
  exact .cons _ hruns

/-- **The events of data.** The grammar reads the tokens of a written value as events that spell it. -/
theorem node_spells {n : Nat} {v : Value} (hv : IsData n v) : ReadsNode n v := by
  -- A scalar is one token; a collection is read with what holds of its parts.
  induction hv with
  | null => exact readsNode_scalar _ (fun slot => by rw [Value.nodeTokens]) fun _ => rfl
  | bool b => exact readsNode_scalar _ (fun slot => by rw [Value.nodeTokens]) fun _ => by cases b <;> rfl
  | int hlow hhigh =>
    refine readsNode_scalar _ (fun slot => by rw [Value.nodeTokens, Number.text]) fun line => ?_
    rw [Node.scalarValue, if_pos rfl, Scalar.resolve_int hlow hhigh]
  | string s => exact readsNode_scalar _ (fun slot => by rw [Value.nodeTokens]) fun _ => scalarValue_string s _
  | sequence hitems ih => exact readsNode_sequence hitems ih
  | mapping hkeys hfields ih => exact readsNode_mapping hkeys hfields ih

end Grammar

/-- The tree of events that spell a value is read as that value. -/
theorem read_ofEvents {v : Value} {es : List Event} (h : Spells Node.depthLimit v es) :
    Node.value (Node.ofEvents ⟨es, none, false, false⟩) = .ok v := by
  -- There are no anchors, so each event is linked to its own place.
  obtain ⟨linked, hlink, hevents⟩ := LinkedEvent.link_free [] h.free 0 none
  have hlength : linked.length = es.length := by rw [← hevents, List.length_map]
  obtain ⟨node, hnode, hvalue⟩ := h.reads ⟨linked, ⟨"end of stream", none⟩⟩
    ((Node.depthLimit + 2) * (linked.length + 2)) linked [] 0 (by simp only [Node.depthLimit]; omega) hevents
  rw [List.append_nil] at hnode
  simp only [Node.ofEvents, hlink, Bool.false_eq_true, if_false, Option.getD_none, hnode]
  exact hvalue

/-- The events of a document with the tokens of data. -/
theorem ofTokens_spells {v : Value} {n : Nat} (hv : IsData n v) {ts : List Token}
    (hts : ts.map (·.kind) = v.nodeTokens .complex ++ [.streamEnd]) :
    ∃ es, Spells n v es ∧ EventStream.ofTokens ⟨ts, none⟩ = ⟨es, none, false, false⟩ := by
  obtain ⟨front, last, rfl, hfront, hlast⟩ := List.map_eq_append_iff.1 hts
  obtain ⟨u, rfl, hu⟩ : ∃ u, last = [u] ∧ u.kind = .streamEnd := by simpa [List.map_eq_cons_iff] using hlast
  -- The data starts with a token that opens a node, so there is no directive in front of it.
  obtain ⟨kind, kinds, hkinds, hkind⟩ := Value.exists_nodeTokens hv .complex
  obtain ⟨t, tail, rfl, ht, -⟩ := List.map_eq_cons_iff.1 (hfront.trans hkinds)
  have hopens : t.kind.opensNode = true := by simpa [ht] using hkind
  obtain ⟨es, hes, hcount, hruns⟩ := Grammar.node_spells hv .complex
    ⟨t :: (tail ++ [u]), none, Grammar.defaultHandles, .blockNode, [.documentEnd]⟩ (t :: tail) [u] false
      (by simp) hfront rfl
  refine ⟨es, hes, ?_⟩
  -- There is fuel for all events, and for the end.
  obtain ⟨fuel, hfuel⟩ : ∃ m, 4 * (t :: tail ++ [u]).length + 8 = es.length + (m + 1) :=
    ⟨4 * (t :: tail ++ [u]).length + 7 - es.length, by
      simp only [List.length_append, List.length_cons, List.length_nil] at hcount ⊢
      omega⟩
  have hcollect := Grammar.Runs.of_step (g := ⟨t :: (tail ++ [u]), none, Grammar.defaultHandles, .blockNode,
    [.documentEnd]⟩) hruns (fuel + 1) []
  have hend : EventStream.collect (fuel + 1) (es.reverse ++ [])
      (⟨[u], none, Grammar.defaultHandles, .documentEnd, []⟩ : Grammar) = ⟨es, none, false, false⟩ := by
    simp [EventStream.collect, Grammar.step, Grammar.documentEnd, Grammar.withToken, hu, EventStream.hasMore]
  have hstart : EventStream.ofTokens ⟨t :: tail ++ [u], none⟩
      = EventStream.collect (4 * (t :: tail ++ [u]).length + 8) []
        ⟨t :: (tail ++ [u]), none, Grammar.defaultHandles, .blockNode, [.documentEnd]⟩ := by
    obtain ⟨kind, line, endLine⟩ := t
    cases kind <;> simp [TokenKind.opensNode] at hopens <;>
      simp [EventStream.ofTokens, Grammar.readDirectives]
  rw [hstart, hfuel, hcollect]
  exact hend

/-- **Texts with the tokens of data.** A text whose tokens are those of data stands for that data, unless the data is
    nested too deep. -/
theorem parse_of_nodeTokens {text : String} {v : Value} (hv : IsData Node.depthLimit v) {ts : List Token}
    (htokens : TokenStream.ofText text.toList = ⟨ts, none⟩)
    (hts : ts.map (·.kind) = v.nodeTokens .complex ++ [.streamEnd]) : parse text = .ok v := by
  obtain ⟨es, hes, hevents⟩ := ofTokens_spells hv hts
  have hvalue := read_ofEvents hes
  simp only [parse, parseWith, htokens, hevents, hvalue]
  rfl

end Scaffold.Yaml
