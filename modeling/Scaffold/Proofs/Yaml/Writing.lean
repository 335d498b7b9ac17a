import Scaffold.Proofs.Yaml.Strings

namespace Scaffold.Yaml

/-!
# Written collections

What is written of data is read as that data. Each value is read where it is written, behind a dash, a colon or a
question mark, if what is in it is; behind it stands the next item or entry of the same collection, or of one of those
around it, or nothing.

* `Value.IsScanned` — a written value has the tokens of the value, wherever it is written;
* `items_scanned`, `entries_scanned` — the items of a sequence, and the entries of a mapping;
* `IsData.isScanned` — data in whatever place;
* `parse_write` — a written collection of data is read as that collection.
-/

open Scan

/-! ### Starts of texts -/

/-- A text that starts as a token does. -/
def StartsToken (text : List Char) : Prop := text.head?.any isTokenStart = true

/-- What starts with a token starts with a character. -/
theorem StartsToken.exists_cons {text : List Char} (h : StartsToken text) :
    ∃ x rest, text = x :: rest ∧ isTokenStart x = true := by
  cases text with
  | nil => cases h
  | cons x rest => exact ⟨x, rest, rfl, h⟩

/-- What starts with a token is not empty. -/
theorem StartsToken.ne_nil {text : List Char} (h : StartsToken text) : text ≠ [] := by
  rintro rfl
  cases h

/-- What follows a text does not change its first character. -/
theorem followed_cons (x : Char) (text : List Char) (next? : Option (Nat × List Char)) :
    ∃ rest, followed (x :: text) next? = x :: rest := by
  cases next? with
  | none => exact ⟨text, rfl⟩
  | some next => exact ⟨_, rfl⟩

/-- With a text behind it, a text starts with the same token. -/
theorem StartsToken.followed {text : List Char} (h : StartsToken text) (next? : Option (Nat × List Char)) :
    StartsToken (followed text next?) := by
  obtain ⟨x, rest, rfl, hx⟩ := h.exists_cons
  obtain ⟨rest', hrest⟩ := followed_cons x rest next?
  rw [hrest]
  exact hx

/-- A value in front of another line of the same collection. -/
theorem followed_line (text : List Char) (m : Nat) {more : List Char} (hmore : more ≠ [])
    (next? : Option (Nat × List Char)) :
    followed (text ++ newLine m text ++ more) next? = followed text (some (m, followed more next?)) :=
  followed_append (text ++ newLine m text) hmore next?

/-- A value on the line of the indicator in front of it. -/
theorem Scan.ReadsAt.sameLine {stack : List Nat} {allowed : Bool} {text : List Char} {next? : Option (Nat × List Char)}
    {k : Nat} {kinds : List TokenKind} (htext : StartsToken text)
    (h : ReadsAt stack allowed (followed text next?) (k + 1) kinds) :
    ReadsAt stack allowed (followed (' ' :: text) next?) k kinds := by
  obtain ⟨x, rest, hx, hstart⟩ := (htext.followed next?).exists_cons
  rw [← List.singleton_append, followed_append _ htext.ne_nil]
  rw [hx] at h ⊢
  exact ReadsAt.blanks 1 hstart h

/-- A value that starts on a line of its own. -/
theorem Scan.ReadsAt.nextLine {stack : List Nat} {allowed : Bool} {text : List Char} {next? : Option (Nat × List Char)}
    {k n : Nat} {kinds : List TokenKind} (htext : StartsToken text)
    (h : ReadsAt stack true (followed text next?) n kinds) :
    ReadsAt stack allowed (followed ('\n' :: (pad n ++ text)) next?) k kinds := by
  obtain ⟨x, rest, hx, hstart⟩ := (htext.followed next?).exists_cons
  rw [← List.cons_append, followed_append _ htext.ne_nil]
  rw [hx] at h ⊢
  exact (ReadsBehind.line n hstart h).readsAt allowed k

/-- What follows on a line of its own may be read from there. -/
theorem Follows.of_startsToken {stack : List Nat} {m : Nat} {text : List Char} {kinds : List TokenKind}
    (hm : stack.head?.any (m ≤ ·) = true) (htext : StartsToken text) (h : ReadsAt stack true text m kinds) :
    Follows stack (some (m, text)) kinds := by
  obtain ⟨x, rest, rfl, hx⟩ := htext.exists_cons
  exact .line hm hx h

/-! ### Values where they are written -/

namespace Value

/-- The value is read where it is written, with the tokens of the value. Behind a dash or a question mark it starts at
    once, on the same line. -/
def IsScanned (v : Value) : Prop :=
  ∀ (slot : Slot) (col : Nat) (stack : List Nat) (next? : Option (Nat × List Char)) (kinds : List TokenKind) (k : Nat)
    (allowed : Bool), stack.head? = some col → col < k → (slot ≠ .field → allowed = true ∧ k = col + 1) →
    Follows stack next? kinds →
    ReadsAt stack allowed (followed (writeNode slot col none v) next?) k (v.nodeTokens slot ++ kinds)

/-- A scalar behind a blank. -/
theorem isScanned_scalar {v : Value} {kind : TokenKind} (written : Nat → List Char)
    (hwritten : ∀ slot col, writeNode slot col none v = ' ' :: written col)
    (htokens : ∀ slot, v.nodeTokens slot = [kind]) (hstart : ∀ col, StartsToken (written col))
    (hread : ∀ (col : Nat) (stack : List Nat) (next? : Option (Nat × List Char)) (kinds : List TokenKind) (k : Nat)
      (allowed : Bool), stack.head? = some col → col < k → Follows stack next? kinds →
      ReadsAt stack allowed (followed (written col) next?) k (kind :: kinds)) : IsScanned v := by
  intro slot col stack next? kinds k allowed hcol hk _ hnext
  rw [hwritten, htokens]
  exact ReadsAt.sameLine (hstart col) (hread col stack next? kinds (k + 1) allowed hcol (Nat.lt_succ_of_lt hk) hnext)

/-- A scalar without quotes, in whatever place. -/
theorem isScanned_plain {v : Value} {s : String} (hs : PlainFits s.toList)
    (hwritten : ∀ slot col, writeNode slot col none v = ' ' :: s.toList)
    (htokens : ∀ slot, v.nodeTokens slot = [.scalar s .plain]) : IsScanned v := by
  have hstart : StartsToken s.toList := by
    obtain ⟨x, w, hw⟩ := List.exists_cons_of_ne_nil hs.ne
    rw [hw] at hs ⊢
    exact hs.isTokenStart
  refine isScanned_scalar (fun _ => s.toList) hwritten htokens (fun _ => hstart) ?_
  intro col stack next? kinds k allowed hcol hk hnext
  have hread : ReadsAt stack allowed (followed s.toList next?) k _ :=
    Inline.value hnext (.plain hs) (by simpa [hcol] using hk)
  rwa [String.ofList_toList] at hread

/-- A string, in whatever form. -/
theorem isScanned_string (s : String) : IsScanned (.string s) := by
  refine isScanned_scalar (fun col => writeString (col + 2) s) (fun slot col => by rw [writeNode]; rfl)
    (fun slot => by rw [nodeTokens]) (fun col => ?_) ?_
  · obtain ⟨x, rest, hwritten, hx⟩ := exists_writeString (col + 2) s
    rw [hwritten]
    exact hx
  · intro col stack next? kinds k allowed hcol hk hnext
    exact writeString_value hnext hcol hk s

/-- The word for nothing. -/
theorem isScanned_null : IsScanned .null :=
  isScanned_plain (s := "null") (plainFits_of_plainAllowed (by decide) (by decide)) (fun _ _ => by rw [writeNode]; rfl)
    fun _ => by rw [nodeTokens]

/-- A truth value. -/
theorem isScanned_bool (b : Bool) : IsScanned (.bool b) := by
  refine isScanned_plain (s := toString b) ?_ (fun _ _ => by rw [writeNode]; rfl) fun _ => by rw [nodeTokens]
  cases b <;> exact plainFits_of_plainAllowed (by decide) (by decide)

/-- An integer. -/
theorem isScanned_int (i : Int) : IsScanned (.number (.int i)) :=
  isScanned_plain (s := toString i) (plainFits_int i) (fun _ _ => by rw [writeNode]; rfl)
    fun _ => by rw [nodeTokens]; rfl

/-! ### Collections where they are written -/

/-- Behind an indicator there is a blank, or a line break. -/
theorem exists_writeNode {n : Nat} {v : Value} (hv : IsData n v) (slot : Slot) (col : Nat) :
    ∃ y rest, writeNode slot col none v = y :: rest ∧ isEdge (some y) = true ∧ (slot ≠ .field → y = ' ') := by
  have hblank (rest : List Char) (h : writeNode slot col none v = ' ' :: rest) :
      ∃ y rest, writeNode slot col none v = y :: rest ∧ isEdge (some y) = true ∧ (slot ≠ .field → y = ' ') :=
    ⟨' ', rest, h, by decide, fun _ => rfl⟩
  have hcollection (line rest : List Char)
      (h : writeNode slot col none v = if slot = .field then '\n' :: line else ' ' :: rest) :
      ∃ y rest, writeNode slot col none v = y :: rest ∧ isEdge (some y) = true ∧ (slot ≠ .field → y = ' ') := by
    -- A collection under a key starts on the next line, any other one behind the indicator.
    by_cases hslot : slot = .field
    · exact ⟨'\n', line, by rw [h, if_pos hslot], by decide, fun hne => absurd hslot hne⟩
    · exact hblank rest (by rw [h, if_neg hslot])
  -- The cases follow the data; scalars and empty collections always stand behind a blank.
  cases hv with
  | null => exact hblank _ (by rw [writeNode]; rfl)
  | bool b => exact hblank _ (by rw [writeNode]; rfl)
  | int => exact hblank _ (by rw [writeNode]; rfl)
  | string s => exact hblank _ (by rw [writeNode]; rfl)
  | @sequence n items hitems =>
    by_cases hne : items = []
    · exact hblank _ (by rw [hne, (writeNode_nil slot col).1])
    · exact hcollection _ _ (writeNode_sequence slot col hne)
  | @mapping n fields hkeys hfields =>
    by_cases hne : fields = []
    · exact hblank _ (by rw [hne]; exact (writeNode_nil slot col).2)
    · exact hcollection _ _ (writeNode_mapping slot col (by simpa using hne))

/-! ### Items -/

/-- The items of a sequence start with a dash. -/
theorem startsToken_writeItems (col : Nat) {items : List Value} (hne : items ≠ []) :
    StartsToken (writeItems col items) := by
  cases items with
  | nil => exact absurd rfl hne
  | cons v items =>
    cases items with
    | nil => rw [writeItems]; rfl
    | cons w items => rw [writeItems]; rfl

/-- An item with what stands behind it. -/
theorem item_scanned {n : Nat} {v : Value} (hv : IsData n v) (hscanned : IsScanned v) {stack : List Nat} {col : Nat}
    (hcol : stack.head?.all (· ≤ col) = true) {next? : Option (Nat × List Char)} {kinds : List TokenKind}
    (hnext : Follows (opened stack col) next? kinds) :
    ReadsAt stack true (followed ('-' :: writeNode .item col none v) next?) col
      (openedKinds stack col .blockSequenceStart ++ .blockEntry :: (v.nodeTokens .item ++ kinds)) := by
  -- The item is written behind its dash, one column further.
  obtain ⟨y, rest, hnode, hy, -⟩ := exists_writeNode hv .item col
  obtain ⟨rest', hrest⟩ := followed_cons y rest next?
  have hread := hscanned .item col (opened stack col) next? kinds (col + 1) true (head?_opened stack col)
    (Nat.lt_succ_self col) (fun _ => ⟨rfl, rfl⟩) hnext
  rw [← List.singleton_append, followed_append _ (by rw [hnode]; exact List.cons_ne_nil y rest)]
  rw [hnode, hrest] at hread ⊢
  exact ReadsAt.entry hcol hy hread

/-- The items of a sequence are read, up to what stands behind the last of them. -/
theorem items_scanned {n : Nat} {items : List Value} (hne : items ≠ []) (hitems : ∀ v ∈ items, IsData n v)
    (hscanned : ∀ v ∈ items, IsScanned v) {stack : List Nat} {col : Nat} (hcol : stack.head?.all (· ≤ col) = true)
    {next? : Option (Nat × List Char)} {kinds : List TokenKind} (hnext : Follows (opened stack col) next? kinds) :
    ReadsAt stack true (followed (writeItems col items) next?) col
      (openedKinds stack col .blockSequenceStart ++ (itemTokens items ++ kinds)) := by
  -- The induction is on the items. The first one opens the sequence, and the others find it open.
  induction items generalizing stack with
  | nil => exact absurd rfl hne
  | cons v items ih =>
    obtain ⟨hv, hitems⟩ := List.forall_mem_cons.1 hitems
    obtain ⟨hvs, hscanned⟩ := List.forall_mem_cons.1 hscanned
    cases items with
    | nil =>
      have hread := item_scanned hv hvs hcol hnext
      rw [writeItems, itemTokens, itemTokens, List.append_nil]
      exact hread
    | cons w items =>
      -- Behind the first item the column is open.
      have hopen := head?_opened stack col
      have hle : (opened stack col).head?.all (· ≤ col) = true := by simp [hopen]
      have hbehind := ih (List.cons_ne_nil w items) hitems hscanned hle (by rwa [opened_of_head? hopen])
      rw [openedKinds_of_head? hopen, List.nil_append] at hbehind
      have hstart := startsToken_writeItems col (List.cons_ne_nil w items)
      have hread := item_scanned hv hvs hcol (Follows.of_startsToken (by simp [hopen]) (hstart.followed next?) hbehind)
      rw [← followed_line _ _ hstart.ne_nil] at hread
      have hwrite : writeItems col (v :: w :: items) = '-' :: writeNode .item col none v
          ++ newLine col ('-' :: writeNode .item col none v) ++ writeItems col (w :: items) := by rw [writeItems]; rfl
      have htokens : itemTokens (v :: w :: items) ++ kinds
          = .blockEntry :: (v.nodeTokens .item ++ (itemTokens (w :: items) ++ kinds)) := by
        rw [itemTokens, List.cons_append, List.append_assoc]
      rw [hwrite, htokens]
      exact hread

/-! ### Entries -/

/-- The entries of a mapping with texts as keys. -/
def entriesOf (fields : List (String × Value)) : List (Value × Value) := fields.map fun f => (.string f.1, f.2)

/-- The place of a value behind its key. -/
def fieldSlot (key : String) : Slot := if (Value.string key).isSimpleKey then .field else .complex

/-- A key that is not in front of its colon, behind its question mark. -/
def complexKey (col : Nat) (key : String) : List Char := '?' :: ' ' :: writeString (col + 2) key

/-- An entry of a mapping. -/
def writeEntry (col : Nat) (key : String) (v : Value) : List Char :=
  let value := ':' :: writeNode (fieldSlot key) col none v
  if (Value.string key).isSimpleKey then writeString (col + 2) key ++ value
  else complexKey col key ++ newLine col (complexKey col key) ++ value

/-- The first entry, and the others on lines of their own. -/
theorem writeEntries_cons (col : Nat) (key : String) (v : Value) (fields : List (String × Value)) :
    writeEntries col (entriesOf ((key, v) :: fields))
      = if fields.isEmpty then writeEntry col key v
        else writeEntry col key v ++ newLine col (writeEntry col key v) ++ writeEntries col (entriesOf fields) := by
  have hkey : writeNode .complex col none (.string key) = ' ' :: writeString (col + 2) key := by
    rw [writeNode]
    rfl
  rw [entriesOf, List.map_cons, writeEntries, hkey]
  cases hsimple : (Value.string key).isSimpleKey <;>
    simp [writeEntry, complexKey, fieldSlot, hsimple, entriesOf]

/-- An entry starts with its key or with a question mark. -/
theorem startsToken_writeEntry (col : Nat) (key : String) (v : Value) : StartsToken (writeEntry col key v) := by
  rw [writeEntry]
  split
  · obtain ⟨x, rest, hwritten, hx⟩ := exists_writeString (col + 2) key
    rw [hwritten]
    exact hx
  · rfl

/-- The entries of a mapping start with the first of them. -/
theorem startsToken_writeEntries (col : Nat) {fields : List (String × Value)} (hne : fields ≠ []) :
    StartsToken (writeEntries col (entriesOf fields)) := by
  obtain ⟨⟨key, v⟩, fields, rfl⟩ := List.exists_cons_of_ne_nil hne
  have hentry := startsToken_writeEntry col key v
  rw [writeEntries_cons]
  split
  · exact hentry
  · obtain ⟨x, rest, hwritten, hx⟩ := hentry.exists_cons
    rw [hwritten]
    exact hx

/-- An entry with what stands behind it. -/
theorem entry_scanned {n : Nat} (key : String) {v : Value} (hv : IsData n v) (hscanned : IsScanned v) {stack : List Nat}
    {col : Nat} (hcol : stack.head?.all (· ≤ col) = true) {next? : Option (Nat × List Char)} {kinds : List TokenKind}
    (hnext : Follows (opened stack col) next? kinds) :
    ReadsAt stack true (followed (writeEntry col key v) next?) col
      (openedKinds stack col .blockMappingStart ++ .key :: .scalar key (Form.choose key).style
        :: .value :: (v.nodeTokens (fieldSlot key) ++ kinds)) := by
  have hopen := head?_opened stack col
  obtain ⟨y, rest, hnode, hy, -⟩ := exists_writeNode hv (fieldSlot key) col
  obtain ⟨rest', hrest⟩ := followed_cons y rest next?
  have hvalue (k : Nat) (allowed : Bool) (hk : col < k)
      (hslot : fieldSlot key ≠ .field → allowed = true ∧ k = col + 1) :
      ReadsAt (opened stack col) allowed (y :: rest') k (v.nodeTokens (fieldSlot key) ++ kinds) := by
    rw [← hrest, ← hnode]
    exact hscanned (fieldSlot key) col (opened stack col) next? kinds k allowed hopen hk hslot hnext
  have hcolon : followed (':' :: writeNode (fieldSlot key) col none v) next? = ':' :: y :: rest' := by
    rw [← List.singleton_append, followed_append _ (by rw [hnode]; exact List.cons_ne_nil y rest), hnode, hrest]
    rfl
  cases hsimple : (Value.string key).isSimpleKey with
  | true =>
    have hwritten : writeEntry col key v = writeString (col + 2) key
        ++ ':' :: writeNode (fieldSlot key) col none v := by
      simp [writeEntry, hsimple]
    rw [hwritten, followed_append _ (List.cons_ne_nil _ _), hcolon]
    refine writeString_key hsimple (Nat.succ_pos _) hcol hy fun k hk => hvalue k false hk fun hslot => ?_
    exact absurd (by rw [fieldSlot, hsimple]; rfl) hslot
  | false =>
    have hwritten : writeEntry col key v = complexKey col key ++ newLine col (complexKey col key)
        ++ ':' :: writeNode (fieldSlot key) col none v := by
      simp [writeEntry, hsimple]
    rw [hwritten, followed_line _ _ (List.cons_ne_nil _ _), hcolon]
    -- The key behind its question mark, and on the next line the value behind its colon.
    have hbehind : Follows (opened stack col) (some (col, ':' :: y :: rest'))
        (.value :: (v.nodeTokens (fieldSlot key) ++ kinds)) :=
      .line (by simp [hopen]) (by decide)
        (ReadsAt.colon hopen hy (hvalue (col + 1) true (Nat.lt_succ_self col) fun _ => ⟨rfl, rfl⟩))
    have hkey := isScanned_string key .complex col (opened stack col) _ _ (col + 1) true hopen (Nat.lt_succ_self col)
      (fun _ => ⟨rfl, rfl⟩) hbehind
    have hnodeKey : writeNode .complex col none (.string key) = ' ' :: writeString (col + 2) key := by
      rw [writeNode]
      rfl
    obtain ⟨rest'', hrest''⟩ := followed_cons ' ' (writeString (col + 2) key) (some (col, ':' :: y :: rest'))
    rw [hnodeKey, nodeTokens, hrest''] at hkey
    have hquestion : followed (complexKey col key) (some (col, ':' :: y :: rest')) = '?' :: ' ' :: rest'' := by
      rw [complexKey, ← List.singleton_append, followed_append _ (List.cons_ne_nil _ _), hrest'']
      rfl
    rw [hquestion]
    exact ReadsAt.question hcol (by decide) hkey

/-- The entries of a mapping are read, up to what stands behind the last of them. -/
theorem entries_scanned {n : Nat} {fields : List (String × Value)} (hne : fields ≠ [])
    (hfields : ∀ f ∈ fields, IsData n f.2) (hscanned : ∀ f ∈ fields, IsScanned f.2) {stack : List Nat} {col : Nat}
    (hcol : stack.head?.all (· ≤ col) = true) {next? : Option (Nat × List Char)} {kinds : List TokenKind}
    (hnext : Follows (opened stack col) next? kinds) :
    ReadsAt stack true (followed (writeEntries col (entriesOf fields)) next?) col
      (openedKinds stack col .blockMappingStart ++ (entryTokens (entriesOf fields) ++ kinds)) := by
  induction fields generalizing stack with
  | nil => exact absurd rfl hne
  | cons f fields ih =>
    obtain ⟨key, v⟩ := f
    obtain ⟨hv, hfields⟩ := List.forall_mem_cons.1 hfields
    obtain ⟨hvs, hscanned⟩ := List.forall_mem_cons.1 hscanned
    have htokens (kinds : List TokenKind) : entryTokens (entriesOf ((key, v) :: fields)) ++ kinds
        = .key :: .scalar key (Form.choose key).style :: .value
          :: (v.nodeTokens (fieldSlot key) ++ (entryTokens (entriesOf fields) ++ kinds)) := by
      rw [entriesOf, List.map_cons, entryTokens, nodeTokens]
      simp [fieldSlot, entriesOf]
    rw [writeEntries_cons, htokens]
    -- The last entry is followed by what comes behind the mapping.
    by_cases hlast : fields = []
    · subst hlast
      exact entry_scanned key hv hvs hcol hnext
    -- Behind the first entry the column is open.
    · have hopen := head?_opened stack col
      have hle : (opened stack col).head?.all (· ≤ col) = true := by simp [hopen]
      have hbehind := ih hlast hfields hscanned hle (by rwa [opened_of_head? hopen])
      rw [openedKinds_of_head? hopen, List.nil_append] at hbehind
      have hstart := startsToken_writeEntries col hlast
      have hread := entry_scanned key hv hvs hcol
        (Follows.of_startsToken (by simp [hopen]) (hstart.followed next?) hbehind)
      rw [← followed_line _ _ hstart.ne_nil] at hread
      rw [if_neg (by simpa using hlast)]
      exact hread

/-! ### Data -/

/-- An empty collection behind a blank. -/
theorem isScanned_brackets {v : Value} {first second : Char} {opening closing : TokenKind}
    (hbrackets : (first = '[' ∧ second = ']' ∧ opening = .flowSequenceStart ∧ closing = .flowSequenceEnd) ∨
      (first = '\x7b' ∧ second = '\x7d' ∧ opening = .flowMappingStart ∧ closing = .flowMappingEnd))
    (hwritten : ∀ slot col, writeNode slot col none v = [' ', first, second])
    (htokens : ∀ slot, v.nodeTokens slot = [opening, closing]) : IsScanned v := by
  have hstart : StartsToken [first, second] := by rcases hbrackets with ⟨rfl, -⟩ | ⟨rfl, -⟩ <;> rfl
  have hlast : ∀ c ∈ [first, second].getLast?, isBreak c = false := by
    rintro c ⟨⟩
    rcases hbrackets with ⟨rfl, rfl, -⟩ | ⟨rfl, rfl, -⟩ <;> decide
  intro slot col stack next? kinds k allowed hcol hk _ hnext
  -- What follows the brackets is further to the right than the open collections.
  have hbehind : stack.head?.all (· < k + 1) = true := by simpa [hcol] using Nat.lt_succ_of_lt hk
  rw [hwritten, htokens]
  refine ReadsAt.sameLine hstart ?_
  rw [followed_of_last hlast]
  exact ReadsAt.brackets hbrackets hbehind hnext.readsBehind

/-- A collection that is indented more than those around it is a new one. -/
theorem openedKinds_of_lt {stack : List Nat} {col n : Nat} (hcol : stack.head? = some col) (hn : col < n)
    (kind : TokenKind) : openedKinds stack n kind = [kind] ∧ opened stack n = n :: stack := by
  have hne : ¬ stack.head? = some n := by
    rw [hcol, Option.some.injEq]
    exact Nat.ne_of_lt hn
  exact ⟨if_neg hne, if_neg hne⟩

/-- A sequence whose items are scanned. -/
theorem isScanned_sequence {n : Nat} {items : List Value} (hne : items ≠ []) (hitems : ∀ v ∈ items, IsData n v)
    (hscanned : ∀ v ∈ items, IsScanned v) : IsScanned (.sequence items) := by
  intro slot col stack next? kinds k allowed hcol hk hslot hnext
  have hempty : items.isEmpty = false := by simpa using hne
  rw [writeNode_sequence slot col hne]
  by_cases hfield : slot = .field
  · -- Under a key the items are at the column of the mapping, so no collection is opened.
    have hle : stack.head?.all (· ≤ col) = true := by simp [hcol]
    have hread := items_scanned hne hitems hscanned hle (by rwa [opened_of_head? hcol])
    rw [openedKinds_of_head? hcol, List.nil_append] at hread
    rw [if_pos hfield, nodeTokens, hempty, if_neg Bool.false_ne_true, if_pos hfield]
    exact ReadsAt.nextLine (startsToken_writeItems col hne) hread
  -- Elsewhere the items are two columns further, and open a collection there.
  · obtain ⟨hkinds, hopened⟩ := openedKinds_of_lt hcol (Nat.lt_add_of_pos_right (Nat.succ_pos 1)) .blockSequenceStart
    obtain ⟨rfl, rfl⟩ := hslot hfield
    have hle : stack.head?.all (· ≤ col + 2) = true := by simp [hcol]
    have hread := items_scanned hne hitems hscanned hle (by rw [hopened]; exact hnext.close (by simp [hcol]))
    rw [hkinds, List.singleton_append] at hread
    rw [if_neg hfield, nodeTokens, hempty, if_neg Bool.false_ne_true, if_neg hfield]
    simpa using ReadsAt.sameLine (startsToken_writeItems (col + 2) hne) hread

/-- A mapping whose values are scanned. -/
theorem isScanned_mapping {n : Nat} {fields : List (String × Value)} (hne : fields ≠ [])
    (hfields : ∀ f ∈ fields, IsData n f.2) (hscanned : ∀ f ∈ fields, IsScanned f.2) :
    IsScanned (.mapping (entriesOf fields)) := by
  intro slot col stack next? kinds k allowed hcol hk hslot hnext
  have hentries : entriesOf fields ≠ [] := by simpa [entriesOf] using hne
  have hempty : (entriesOf fields).isEmpty = false := by simpa using hentries
  obtain ⟨hkinds, hopened⟩ := openedKinds_of_lt hcol (Nat.lt_add_of_pos_right (Nat.succ_pos 1)) .blockMappingStart
  have hle : stack.head?.all (· ≤ col + 2) = true := by simp [hcol]
  have hread := entries_scanned hne hfields hscanned hle (by rw [hopened]; exact hnext.close (by simp [hcol]))
  rw [hkinds, List.singleton_append] at hread
  have htokens : (Value.mapping (entriesOf fields)).nodeTokens slot ++ kinds
      = .blockMappingStart :: (entryTokens (entriesOf fields) ++ .blockEnd :: kinds) := by
    rw [nodeTokens, hempty, if_neg Bool.false_ne_true]
    simp
  rw [writeNode_mapping slot col hentries, htokens]
  -- Under a key, the entries have lines of their own; elsewhere the first one stands behind the indicator.
  by_cases hfield : slot = .field
  · rw [if_pos hfield]
    exact ReadsAt.nextLine (startsToken_writeEntries (col + 2) hne) hread
  · obtain ⟨rfl, rfl⟩ := hslot hfield
    rw [if_neg hfield]
    exact ReadsAt.sameLine (startsToken_writeEntries (col + 2) hne) hread

end Value

/-- **Data where it is written.** Whatever place it is written in, data is read with its tokens. -/
theorem IsData.isScanned {n : Nat} {v : Value} (hv : IsData n v) : v.IsScanned := by
  -- The cases follow the data. Empty collections are brackets, whose tokens do not depend on the place.
  induction hv with
  | null => exact Value.isScanned_null
  | bool b => exact Value.isScanned_bool b
  | int => exact Value.isScanned_int _
  | string s => exact Value.isScanned_string s
  | @sequence n items hitems ih =>
    by_cases hne : items = []
    · subst hne
      exact Value.isScanned_brackets (.inl ⟨rfl, rfl, rfl, rfl⟩) (fun slot col => (Value.writeNode_nil slot col).1)
        fun slot => by rw [Value.nodeTokens]; rfl
    · exact Value.isScanned_sequence hne hitems ih
  | @mapping n fields hkeys hfields ih =>
    by_cases hne : fields = []
    · subst hne
      exact Value.isScanned_brackets (.inr ⟨rfl, rfl, rfl, rfl⟩) (fun slot col => (Value.writeNode_nil slot col).2)
        fun slot => by rw [List.map_nil, Value.nodeTokens]; rfl
    · exact Value.isScanned_mapping hne hfields ih

/-! ### The characters of data -/

namespace Value

/-- A text without characters that need an escape. -/
def IsPlainText (text : List Char) : Prop := ∀ c ∈ text, isPrintable c = true

/-- Printable texts, one behind the other. -/
theorem IsPlainText.append {s t : List Char} (hs : IsPlainText s) (ht : IsPlainText t) : IsPlainText (s ++ t) :=
  fun c hc => (List.mem_append.1 hc).elim (hs c) (ht c)

/-- A printable character in front of a printable text. -/
theorem IsPlainText.cons {c : Char} {s : List Char} (hc : isPrintable c = true) (hs : IsPlainText s) :
    IsPlainText (c :: s) :=
  List.forall_mem_cons.2 ⟨hc, hs⟩

/-- Indentation is printable. -/
theorem isPlainText_pad (n : Nat) : IsPlainText (pad n) := by
  intro c hc
  rw [List.eq_of_mem_replicate hc]
  decide

/-- The start of a new line is printable. -/
theorem isPlainText_newLine (n : Nat) (text : List Char) : IsPlainText (newLine n text) := by
  refine IsPlainText.append ?_ (isPlainText_pad n)
  split
  · exact fun c hc => nomatch hc
  · exact .cons (by decide) fun c hc => nomatch hc

/-- What is written of a value has no characters that need an escape. -/
def HasPlainText (v : Value) : Prop := ∀ slot col, IsPlainText (writeNode slot col none v)

/-- The items of a sequence are printable. -/
theorem isPlainText_writeItems {items : List Value} (h : ∀ v ∈ items, HasPlainText v) (col : Nat) :
    IsPlainText (writeItems col items) := by
  induction items with
  | nil => exact fun c hc => nomatch hc
  | cons v items ih =>
    obtain ⟨hv, hitems⟩ := List.forall_mem_cons.1 h
    have hitem : IsPlainText ('-' :: writeNode .item col none v) := .cons (by decide) (hv .item col)
    rw [writeItems]
    split
    · exact hitem
    · exact (hitem.append (isPlainText_newLine col _)).append (ih hitems)

/-- The entries of a mapping are printable. -/
theorem isPlainText_writeEntries {fields : List (String × Value)} (h : ∀ f ∈ fields, HasPlainText f.2) (col : Nat) :
    IsPlainText (writeEntries col (entriesOf fields)) := by
  induction fields with
  | nil => exact fun c hc => nomatch hc
  | cons f fields ih =>
    obtain ⟨key, v⟩ := f
    obtain ⟨hv, hfields⟩ := List.forall_mem_cons.1 h
    have hkey : IsPlainText (writeString (col + 2) key) := isPrintable_of_mem_writeString (col + 2) key
    have hvalue : IsPlainText (':' :: writeNode (fieldSlot key) col none v) :=
      .cons (by decide) (hv (fieldSlot key) col)
    have hentry : IsPlainText (writeEntry col key v) := by
      -- A key with line breaks stands behind a question mark.
      have hcomplex : IsPlainText (complexKey col key) := .cons (by decide) (.cons (by decide) hkey)
      rw [writeEntry]
      split
      · exact hkey.append hvalue
      · exact (hcomplex.append (isPlainText_newLine col _)).append hvalue
    rw [writeEntries_cons]
    split
    · exact hentry
    · exact (hentry.append (isPlainText_newLine col _)).append (ih hfields)

end Value

open Value in
/-- Written data needs no escapes but those between double quotes. -/
theorem IsData.hasPlainText {n : Nat} {v : Value} (hv : IsData n v) : v.HasPlainText := by
  have hblank {text : List Char} (h : IsPlainText text) : IsPlainText (' ' :: text) := .cons (by decide) h
  have hword {text : List Char} (h : text.all isPrintable = true) : IsPlainText (' ' :: text) :=
    hblank (List.all_eq_true.1 h)
  have hline (m : Nat) {text : List Char} (h : IsPlainText text) : IsPlainText ('\n' :: (pad m ++ text)) :=
    .cons (by decide) ((isPlainText_pad m).append h)
  intro slot col
  -- The cases follow the data.
  induction hv generalizing slot col with
  | null =>
    show IsPlainText (' ' :: "null".toList)
    exact hword (by decide)
  | bool b =>
    show IsPlainText (' ' :: (toString b).toList)
    exact hword (by cases b <;> decide)
  | @int _ i => exact hblank (plainFits_int i).printable
  | string s => exact hblank (isPrintable_of_mem_writeString (col + 2) s)
  | @sequence n items hitems ih =>
    by_cases hne : items = []
    · rw [hne, (writeNode_nil slot col).1]
      exact hword (by decide)
    · rw [writeNode_sequence slot col hne]
      split
      · exact hline col (isPlainText_writeItems ih col)
      · exact hblank (isPlainText_writeItems ih (col + 2))
  | @mapping n fields hkeys hfields ih =>
    by_cases hne : fields = []
    · subst hne
      rw [List.map_nil, (writeNode_nil slot col).2]
      exact hword (by decide)
    · rw [writeNode_mapping slot col (by simpa using hne)]
      split
      · exact hline (col + 2) (isPlainText_writeEntries ih (col + 2))
      · exact hblank (isPlainText_writeEntries ih (col + 2))

/-! ### Documents -/

namespace Value

/-- Lists and mappings. -/
def isCollection : Value → Bool
  | .sequence _ | .mapping _ => true
  | _ => false

/-- A collection that is a document of its own is a collection under a key, without the line break in front of it. -/
theorem write_sequence (items : List Value) :
    (Value.sequence items).write = if items = [] then ['[', ']'] else writeItems 0 items := by
  simp [write]

/-- The text of a mapping: its entries, or brackets if it has none. -/
theorem write_mapping (fields : List (String × Value)) :
    (Value.mapping (entriesOf fields)).write
      = if fields = [] then ['\x7b', '\x7d'] else writeEntries 0 (entriesOf fields) := by
  simp [write, entriesOf]

/-- The text of a collection of data is printable. -/
theorem isPlainText_write {n : Nat} {v : Value} (hv : IsData n v) (hcollection : v.isCollection = true) :
    IsPlainText v.write := by
  cases hv with
  | null | bool | int | string => cases hcollection
  | @sequence n items hitems =>
    rw [write_sequence]
    split
    · exact List.all_eq_true.1 (by decide)
    · exact isPlainText_writeItems (fun v hv => (hitems v hv).hasPlainText) 0
  | @mapping n fields hkeys hfields =>
    have hwrite := write_mapping fields
    rw [entriesOf] at hwrite
    rw [hwrite]
    split
    · exact List.all_eq_true.1 (by decide)
    · exact isPlainText_writeEntries (fun f hf => (hfields f hf).hasPlainText) 0

/-- A collection that is a document of its own is read with its tokens. -/
theorem write_scanned {n : Nat} {v : Value} (hv : IsData n v) (hcollection : v.isCollection = true) :
    ReadsAt [] true v.write 0 (v.nodeTokens .complex ++ [.streamEnd]) := by
  -- Behind the text the stream ends, which closes the collection that is open.
  have hends : Follows [0] none [.blockEnd, .streamEnd] := .stop
  have hle : ([] : List Nat).head?.all (· ≤ 0) = true := rfl
  cases hv with
  | null | bool | int | string => cases hcollection
  | @sequence n items hitems =>
    by_cases hne : items = []
    · subst hne
      rw [nodeTokens]
      exact ReadsAt.brackets (.inl ⟨rfl, rfl, rfl, rfl⟩) rfl (ReadsBehind.stop [])
    · have hread := items_scanned hne hitems (fun v hv => (hitems v hv).isScanned) hle hends
      have htokens : (Value.sequence items).nodeTokens .complex ++ [.streamEnd]
          = .blockSequenceStart :: (itemTokens items ++ [.blockEnd, .streamEnd]) := by simp [nodeTokens, hne]
      rw [write_sequence, if_neg hne, htokens]
      exact hread
  | @mapping n fields hkeys hfields =>
    show ReadsAt [] true (Value.mapping (entriesOf fields)).write 0
      ((Value.mapping (entriesOf fields)).nodeTokens .complex ++ [.streamEnd])
    by_cases hne : fields = []
    · subst hne
      rw [entriesOf, List.map_nil, nodeTokens]
      exact ReadsAt.brackets (.inr ⟨rfl, rfl, rfl, rfl⟩) rfl (ReadsBehind.stop [])
    · have hread := entries_scanned hne hfields (fun f hf => (hfields f hf).isScanned) hle hends
      have htokens : (Value.mapping (entriesOf fields)).nodeTokens .complex ++ [.streamEnd]
          = .blockMappingStart :: (entryTokens (entriesOf fields) ++ [.blockEnd, .streamEnd]) := by
        simp [nodeTokens, entriesOf, hne]
      rw [write_mapping, if_neg hne, htokens]
      exact hread

end Value

/-- **Collections are read as they were written.** The text of a collection of data stands for that collection, unless
    it is nested too deep. -/
theorem parse_write {v : Value} (hv : IsData Node.depthLimit v) (hcollection : v.isCollection = true) :
    parse (.ofList v.write) = .ok v := by
  have hallowed : v.write.all isAllowed = true :=
    List.all_eq_true.2 fun c hc => Form.isAllowed_of_isPrintable (Value.isPlainText_write hv hcollection c hc)
  obtain ⟨ts, hread, hkinds⟩ := Value.write_scanned hv hcollection [] 0 0 (v.write.length + 2) (Nat.lt_succ_self _)
  have htokens : TokenStream.ofText (String.ofList v.write).toList = ⟨ts, none⟩ := by
    rw [String.toList_ofList, TokenStream.ofText, if_pos hallowed]
    exact hread
  exact parse_of_nodeTokens hv htokens hkinds

end Scaffold.Yaml
