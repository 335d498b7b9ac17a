import Scaffold.Yaml.Writer
import Scaffold.Proofs.Yaml.WordList

namespace Scaffold.Yaml

/-!
# Scanning block collections

What the scanner reads from a place inside block collections, told backwards: what it reads behind a token says what
it reads in front of it. The columns of the open collections are a stack of numbers, and nothing in front of the place
matters but that stack, the column, and whether a key may stand there.

* `Scan.Reads` — the kinds of the tokens that are read from a state on to the end of the text;
* `Scan.Reads.blanks`, `Scan.Reads.line` — in front of a token, blanks and line breaks are passed over;
* `Scan.Reads.close` — a token to the left of a collection closes it;
* `Scan.Reads.entry`, `Scan.Reads.question`, `Scan.Reads.colon` — indicators, which may open a collection;
* `Scan.Reads.key` — a scalar with a colon behind it is a key;
* `Scan.Reads.stop` — at the end of the text all collections are closed.
-/

namespace Scan

/-! ### States in block collections -/

/-- The columns around the innermost one. -/
def outer : List Nat → List (Option Nat)
  | [] => []
  | _ :: stack => stack.head? :: outer stack

/-- The state outside of flow collections in block collections at the columns `stack`, the innermost first. -/
def block (tokens : List Token) (stack : List Nat) (key? : Option PendingKey) (allowed : Bool) (c : Cursor) : Scan :=
  { cursor := c, tokens := tokens, indent := stack.head?, indents := outer stack, keys := [key?],
    keyAllowed := allowed }

/-- From the state on, the scanner reads tokens of these kinds, up to the end of the text. -/
def Reads (s : Scan) (kinds : List TokenKind) : Prop :=
  ∀ fuel, s.cursor.rest.length + 1 < fuel →
    ∃ ts, TokenStream.read fuel s = ⟨s.tokens.reverse ++ ts, none⟩ ∧ ts.map (·.kind) = kinds

/-- A step that reads tokens. -/
theorem Reads.step {s t : Scan} {kinds : List TokenKind} (ht : t.Reads kinds) (new : List Token)
    (h : s.fetch.bind dropStale = .ok t) (hdone : t.done = false) (htokens : t.tokens = new.reverse ++ s.tokens)
    (hlt : t.cursor.rest.length < s.cursor.rest.length) : s.Reads (new.map (·.kind) ++ kinds) := by
  intro fuel hfuel
  obtain ⟨fuel, rfl⟩ : ∃ m, fuel = m + 1 := ⟨fuel - 1, by omega⟩
  obtain ⟨ts, hread, hkinds⟩ := ht fuel (by omega)
  exact ⟨new ++ ts, by rw [TokenStream.read_succ h hdone, hread, htokens]; simp, by simp [hkinds]⟩

/-- Two steps of which the second inserts tokens in front of the first one's. -/
theorem Reads.step_step {s s' t : Scan} {kinds : List TokenKind} (ht : t.Reads kinds) (new : List Token)
    (h : s.fetch.bind dropStale = .ok s') (hdone : s'.done = false) (h' : s'.fetch.bind dropStale = .ok t)
    (hdone' : t.done = false) (htokens : t.tokens = new.reverse ++ s.tokens)
    (hlt : t.cursor.rest.length + 1 < s.cursor.rest.length) : s.Reads (new.map (·.kind) ++ kinds) := by
  intro fuel hfuel
  -- Two steps take two units of fuel, which the budget leaves.
  obtain ⟨fuel, rfl⟩ : ∃ m, fuel = m + 2 := ⟨fuel - 2, by omega⟩
  obtain ⟨ts, hread, hkinds⟩ := ht fuel (by omega)
  refine ⟨new ++ ts, ?_, by simp [hkinds]⟩
  rw [TokenStream.read_succ h hdone, TokenStream.read_succ h' hdone', hread, htokens]
  simp

/-- States from which the same token is fetched; `new` are tokens that one of them has more. -/
theorem Reads.congr {s t : Scan} {kinds : List TokenKind} (ht : t.Reads kinds) (new : List Token)
    (h : s.fetch = t.fetch) (htokens : t.tokens = new.reverse ++ s.tokens)
    (hle : t.cursor.rest.length ≤ s.cursor.rest.length) : s.Reads (new.map (·.kind) ++ kinds) := by
  intro fuel hfuel
  obtain ⟨fuel, rfl⟩ : ∃ m, fuel = m + 1 := ⟨fuel - 1, by omega⟩
  obtain ⟨ts, hread, hkinds⟩ := ht (fuel + 1) (by omega)
  refine ⟨new ++ ts, ?_, by simp [hkinds]⟩
  have hsame : TokenStream.read (fuel + 1) s = TokenStream.read (fuel + 1) t := by
    rw [TokenStream.read] at hread
    rw [TokenStream.read, TokenStream.read, h]
    cases hfetch : t.fetch.bind dropStale with
    | error fault =>
      -- The other state would stop with a fault.
      rw [hfetch] at hread
      exact absurd (congrArg TokenStream.fault? hread) (by simp)
    | ok s' => rfl
  rw [hsame, hread, htokens]
  simp

/-- Where reading a token stands once blanks, stale keys and collections that have ended are behind. -/
def ready (s : Scan) : Except Fault Scan :=
  (skipToToken (s.cursor.rest.length + 1) s).dropStale.map fun s => s.unrollIndent (some s.cursor.column)

/-- Fetching looks for the start of the next token, and fetches what starts there. -/
theorem fetch_eq (s : Scan) : s.fetch = s.ready.bind fetchHere := by
  rw [fetch, ready]
  cases (skipToToken (s.cursor.rest.length + 1) s).dropStale <;> rfl

/-- What is fetched depends on nothing else. -/
theorem fetch_congr {s t : Scan} (h : s.ready = t.ready) : s.fetch = t.fetch := by
  rw [fetch_eq, fetch_eq, h]

/-! ### Blanks, line breaks and stale keys -/

/-- A line break and the blanks behind it are passed over, and then a key may stand there. -/
theorem skipToToken_line (fuel n : Nat) {x : Char} (hx : isTokenStart x = true) (rest : List Char) (i l k : Nat)
    {s : Scan} (hs : s.cursor = ⟨'\n' :: (List.replicate n ' ' ++ x :: rest), i, l, k⟩) (hflow : s.inFlow = false) :
    skipToToken (fuel + 2) s = { s with cursor := ⟨x :: rest, i + 1 + n, l + 1, n⟩, keyAllowed := true } := by
  -- Behind the line break a key may follow again; what remains are blanks in front of a token.
  have hbreak : isBreak '\n' = true := by decide
  have hstep : skipToToken (fuel + 2) s = skipToToken (fuel + 1)
      { s with cursor := ⟨List.replicate n ' ' ++ x :: rest, i + 1, l + 1, 0⟩, keyAllowed := true } := by
    have hsize : '\n'.utf8Size = 1 := by decide
    rw [skipToToken]
    simp [hs, hflow, Cursor.peek, Cursor.skipWhile, Cursor.readWhile, Cursor.skipComment, Cursor.skipBreak,
      Cursor.readBreak, hbreak, Chars.byteLength, hsize]
  rw [hstep, skipToToken_blanks fuel n hx rest (i + 1) (l + 1) 0 rfl, Nat.zero_add]

/-- A pending key that need not be one, from this line or an earlier one. -/
def IsLoose (key? : Option PendingKey) (line : Nat) : Prop := ∀ key ∈ key?, key.required = false ∧ key.line ≤ line

/-- Without a pending key, any token may come next. -/
theorem isLoose_none (line : Nat) : IsLoose none line := by simp [IsLoose]

section Block

/-- The cursor of a scan in block style. -/
@[simp] theorem cursor_block (tokens : List Token) (stack : List Nat) (key? : Option PendingKey) (allowed : Bool)
    (c : Cursor) : (block tokens stack key? allowed c).cursor = c := rfl

/-- The pending keys of a scan in block style. -/
@[simp] theorem keys_block (tokens : List Token) (stack : List Nat) (key? : Option PendingKey) (allowed : Bool)
    (c : Cursor) : (block tokens stack key? allowed c).keys = [key?] := rfl

/-- A scan in block style is inside of no brackets. -/
@[simp] theorem inFlow_block (tokens : List Token) (stack : List Nat) (key? : Option PendingKey) (allowed : Bool)
    (c : Cursor) : (block tokens stack key? allowed c).inFlow = false := rfl

variable {tokens : List Token} {stack : List Nat} {key? : Option PendingKey} {allowed : Bool} {c : Cursor}

/-- Without a pending key there is none to forget. -/
theorem dropStale_block_none : (block tokens stack none allowed c).dropStale
    = .ok (block tokens stack none allowed c) := by
  simp [dropStale, block, bind, Except.bind, pure, Except.pure]

/-- Whether the cursor has left a key behind. -/
def isStale (key : PendingKey) (c : Cursor) : Bool := key.line < c.line || key.index + 1024 < c.index

/-- A key that is not left behind stays pending. -/
theorem dropStale_block_of_fresh {key : PendingKey} (h : isStale key c = false) :
    (block tokens stack (some key) allowed c).dropStale = .ok (block tokens stack (some key) allowed c) := by
  rw [isStale, Bool.or_eq_false_iff, decide_eq_false_iff_not, decide_eq_false_iff_not] at h
  simp [dropStale, block, bind, Except.bind, pure, Except.pure, h.1, h.2]

/-- A key that is left behind is given up, if it need not be one. -/
theorem dropStale_block_of_stale {key : PendingKey} (hoptional : key.required = false) (h : isStale key c = true) :
    (block tokens stack (some key) allowed c).dropStale = .ok (block tokens stack none allowed c) := by
  rw [isStale, Bool.or_eq_true, decide_eq_true_eq, decide_eq_true_eq] at h
  rcases h with h | h <;> simp [dropStale, block, bind, Except.bind, pure, Except.pure, h, hoptional]

/-- On a later line a key that need not be one is given up. -/
theorem dropStale_block_of_loose {line : Nat} (hkey : IsLoose key? line) (hline : line < c.line) :
    (block tokens stack key? allowed c).dropStale = .ok (block tokens stack none allowed c) := by
  cases key? with
  | none => exact dropStale_block_none
  | some key =>
    obtain ⟨hoptional, hle⟩ := hkey key rfl
    refine dropStale_block_of_stale hoptional ?_
    -- The line of the key has passed, which is enough.
    rw [isStale, Bool.or_eq_true, decide_eq_true_eq]
    exact .inl (by omega)

/-- Wherever it stands, a key that need not be one may be given up, and nothing else happens. -/
theorem exists_dropStale_block (tokens : List Token) (stack : List Nat) (allowed : Bool) (c : Cursor) {line : Nat}
    (hkey : IsLoose key? line) :
    ∃ key?', IsLoose key?' line ∧
      (block tokens stack key? allowed c).dropStale = .ok (block tokens stack key?' allowed c) := by
  -- A key that is stale is not required, so dropping it raises nothing; a fresh one stays.
  cases key? with
  | none => exact ⟨none, isLoose_none line, dropStale_block_none⟩
  | some key =>
    cases hstale : isStale key c with
    | true => exact ⟨none, isLoose_none line, dropStale_block_of_stale (hkey key rfl).1 hstale⟩
    | false => exact ⟨some key, hkey, dropStale_block_of_fresh hstale⟩

/-- Closing the collections that are indented more than a column. -/
theorem unrollIndent_block (column : Option Nat) {indents : List (Option Nat)} {indent : Option Nat}
    {tokens' : List Token}
    (h : unrollFrom column c.line (outer stack) stack.head? tokens = (indents, indent, tokens')) :
    (block tokens stack key? allowed c).unrollIndent column
      = { block tokens' stack key? allowed c with indent := indent, indents := indents } := by
  rw [unrollIndent, inFlow_block, if_neg Bool.false_ne_true]
  simp only [block, h]

/-- A collection to the right of the column is closed. -/
theorem unrollFrom_close {column : Option Nat} {k : Nat} (h : column.all (· < k) = true) (line : Nat) :
    unrollFrom column line (outer (k :: stack)) (k :: stack).head? tokens
      = unrollFrom column line (outer stack) stack.head? (⟨.blockEnd, line, line⟩ :: tokens) := by
  simp [outer, unrollFrom, h]

/-- Collections that are not to the right of the column stay open. -/
theorem unrollIndent_block_of_le {column : Nat} (h : stack.head?.all (· ≤ column) = true) :
    (block tokens stack key? allowed c).unrollIndent (some column) = block tokens stack key? allowed c := by
  -- Nothing is indented more than `column`, so no block ends.
  have hunroll : unrollFrom (some column) c.line (outer stack) stack.head? tokens
      = (outer stack, stack.head?, tokens) := by
    cases stack with
    | nil => rfl
    | cons k stack =>
      have hk : ¬ column < k := by simpa using h
      simp [outer, unrollFrom, hk]
  rw [unrollIndent_block _ hunroll]
  rfl

end Block

/-- From all states that differ in what has been read so far, the scanner reads tokens of these kinds. -/
def ReadsAt (stack : List Nat) (allowed : Bool) (rest : List Char) (column : Nat) (kinds : List TokenKind) : Prop :=
  ∀ (tokens : List Token) (i l : Nat), (block tokens stack none allowed ⟨rest, i, l, column⟩).Reads kinds

/-- The same behind a scalar, which might still be a key. -/
def ReadsBehind (stack : List Nat) (rest : List Char) (kinds : List TokenKind) : Prop :=
  ∀ (tokens : List Token) (key? : Option PendingKey) (allowed : Bool) (i l k : Nat), IsLoose key? l →
    (block tokens stack key? allowed ⟨rest, i, l, k⟩).Reads kinds

section Rules

variable {stack : List Nat} {allowed : Bool} {x : Char} {rest : List Char} {k : Nat} {kinds : List TokenKind}

/-- Blanks in front of a token. -/
theorem ReadsAt.blanks (n : Nat) (hx : isTokenStart x = true) (h : ReadsAt stack allowed (x :: rest) (k + n) kinds) :
    ReadsAt stack allowed (List.replicate n ' ' ++ x :: rest) k kinds := by
  intro tokens i l
  refine (h tokens (i + n) l).congr [] (fetch_congr ?_) rfl (by simp [block])
  rw [ready, ready, skipToToken_blanks _ n hx rest i l k rfl, skipToToken_blanks _ 0 hx rest (i + n) l (k + n) rfl]
  rfl

/-- A line break in front of a token. -/
theorem ReadsBehind.line (n : Nat) (hx : isTokenStart x = true) (h : ReadsAt stack true (x :: rest) n kinds) :
    ReadsBehind stack ('\n' :: (List.replicate n ' ' ++ x :: rest)) kinds := by
  intro tokens key? allowed i l k hkey
  -- The break makes the pending key stale, and the scanner goes on at the token.
  refine (h tokens (i + 1 + n) (l + 1)).congr [] (fetch_congr ?_) rfl (by simp [block]; omega)
  have hstale : (block tokens stack key? true ⟨x :: rest, i + 1 + n, l + 1, n⟩).dropStale
      = .ok (block tokens stack none true ⟨x :: rest, i + 1 + n, l + 1, n⟩) :=
    dropStale_block_of_loose hkey (Nat.lt_succ_self l)
  have hskip := skipToToken_line (List.replicate n ' ' ++ x :: rest).length n hx rest i l k
    (s := block tokens stack key? allowed ⟨'\n' :: (List.replicate n ' ' ++ x :: rest), i, l, k⟩) rfl rfl
  have hskip' := skipToToken_blanks (x :: rest).length 0 hx rest (i + 1 + n) (l + 1) n
    (s := block tokens stack none true ⟨x :: rest, i + 1 + n, l + 1, n⟩) rfl
  show (skipToToken ((List.replicate n ' ' ++ x :: rest).length + 2) _).dropStale.map _
    = (skipToToken ((x :: rest).length + 1) _).dropStale.map _
  rw [hskip, hskip']
  show ((block tokens stack key? true ⟨x :: rest, i + 1 + n, l + 1, n⟩).dropStale).map _
    = ((block tokens stack none true ⟨x :: rest, i + 1 + n, l + 1, n⟩).dropStale).map _
  rw [hstale, dropStale_block_none]

/-- What can be read behind a token can be read at its end, in whatever column. -/
theorem ReadsBehind.readsAt (h : ReadsBehind stack rest kinds) (allowed : Bool) (k : Nat) :
    ReadsAt stack allowed rest k kinds :=
  fun tokens i l => h tokens none allowed i l k (isLoose_none l)

/-- A token to the left of a collection closes it. -/
theorem ReadsAt.close {column : Nat} (hcolumn : k < column) (hx : isTokenStart x = true)
    (h : ReadsAt stack allowed (x :: rest) k kinds) :
    ReadsAt (column :: stack) allowed (x :: rest) k (.blockEnd :: kinds) := by
  intro tokens i l
  refine (h (⟨.blockEnd, l, l⟩ :: tokens) i l).congr [⟨.blockEnd, l, l⟩] (fetch_congr ?_) rfl (Nat.le_refl _)
  rw [ready, ready, skipToToken_blanks _ 0 hx rest i l k rfl, skipToToken_blanks _ 0 hx rest i l k rfl]
  show ((block tokens (column :: stack) none allowed ⟨x :: rest, i, l, k⟩).dropStale).map _
    = ((block (⟨.blockEnd, l, l⟩ :: tokens) stack none allowed ⟨x :: rest, i, l, k⟩).dropStale).map _
  rw [dropStale_block_none, dropStale_block_none]
  -- The collection is open further to the right, so it is closed first.
  have hclose : unrollFrom (some k) l (outer (column :: stack)) (column :: stack).head? tokens
      = unrollFrom (some k) l (outer stack) stack.head? (⟨.blockEnd, l, l⟩ :: tokens) :=
    unrollFrom_close (by simpa using hcolumn) l
  simp only [Except.map, unrollIndent, inFlow_block, Bool.false_eq_true, if_false]
  simp only [block, hclose]

end Rules

/-! ### Indicators -/

/-- The open collections once one is open at the column. -/
def opened (stack : List Nat) (column : Nat) : List Nat := if stack.head? = some column then stack else column :: stack

/-- The kinds of the tokens that open a collection at the column, unless one is open there. -/
def openedKinds (stack : List Nat) (column : Nat) (kind : TokenKind) : List TokenKind :=
  if stack.head? = some column then [] else [kind]

/-- Behind the start of a collection, its column is that of the innermost one. -/
theorem head?_opened (stack : List Nat) (column : Nat) : (opened stack column).head? = some column := by
  rw [opened]
  split
  · assumption
  · rfl

/-- A collection that is open already is not opened again. -/
theorem opened_of_head? {stack : List Nat} {column : Nat} (h : stack.head? = some column) :
    opened stack column = stack := if_pos h

/-- A collection that is open already has no token at its start. -/
theorem openedKinds_of_head? {stack : List Nat} {column : Nat} (h : stack.head? = some column) (kind : TokenKind) :
    openedKinds stack column kind = [] := if_pos h

/-- The tokens that open a collection. -/
def openedTokens (stack : List Nat) (column : Nat) (kind : TokenKind) (line : Nat) : List Token :=
  (openedKinds stack column kind).map fun kind => ⟨kind, line, line⟩

/-- The kinds of the tokens with which collections start. -/
theorem map_kind_openedTokens (stack : List Nat) (column : Nat) (kind : TokenKind) (line : Nat) :
    (openedTokens stack column kind line).map (·.kind) = openedKinds stack column kind := by
  simp [openedTokens, Function.comp_def]

/-- At a column that is not to the left of the open collections, a collection is opened there. -/
theorem rollIndent_block (behind : List Token) {tokens : List Token} {stack : List Nat} {key? : Option PendingKey}
    {allowed : Bool} {c : Cursor} {column : Nat} (h : stack.head?.all (· ≤ column) = true) (kind : TokenKind)
    (line : Nat) :
    (block (behind ++ tokens) stack key? allowed c).rollIndent column tokens.length kind line
      = block (behind ++ (openedTokens stack column kind line ++ tokens)) (opened stack column) key? allowed c := by
  -- Either a collection is open at this column already, or it is opened here.
  by_cases hopen : stack.head? = some column
  · have hany : (block (behind ++ tokens) stack key? allowed c).indent.any (column ≤ ·) = true := by
      simp [block, hopen]
    simp only [rollIndent, inFlow_block, hany, Bool.or_true, if_true, opened, openedTokens, openedKinds, hopen,
      List.map_nil, List.nil_append]
  · have hany : (block (behind ++ tokens) stack key? allowed c).indent.any (column ≤ ·) = false := by
      cases hhead : stack.head? with
      | none => simp [block, hhead]
      | some k =>
        rw [hhead] at h hopen
        have hne : k ≠ column := fun hk => hopen (by rw [hk])
        -- The columns grow from one collection to the next.
        have hle : k ≤ column := by simpa using h
        simp [block, hhead]
        omega
    simp only [rollIndent, inFlow_block, hany, Bool.or_false, Bool.false_eq_true, if_false, opened, openedTokens,
      openedKinds, hopen, List.map_cons, List.map_nil]
    simp [insert, block, outer]

/-- Where a key may stand, an indicator opens a collection. -/
theorem openBlock_block {tokens : List Token} {stack : List Nat} {c : Cursor}
    (h : stack.head?.all (· ≤ c.column) = true) (kind : TokenKind) (problem : String) :
    (block tokens stack none true c).openBlock kind problem
      = .ok (block (openedTokens stack c.column kind c.line ++ tokens) (opened stack c.column) none true c) := by
  rw [openBlock, inFlow_block, if_neg Bool.false_ne_true]
  exact congrArg Except.ok (rollIndent_block [] h kind c.line)

/-- The key that is pending once a token at the cursor is read where a key may stand. -/
def pendingKey (tokens : List Token) (stack : List Nat) (c : Cursor) : PendingKey :=
  ⟨stack.head? == some c.column, tokens.length, c.index, c.line, c.column⟩

/-- The key that is pending behind a token at the cursor. -/
def pendingKey? (tokens : List Token) (stack : List Nat) (allowed : Bool) (c : Cursor) : Option PendingKey :=
  if allowed then some (pendingKey tokens stack c) else none

/-- To the right of all open collections a token need not be a key. -/
theorem isLoose_pendingKey? {tokens : List Token} {stack : List Nat} {allowed : Bool} {c : Cursor}
    (h : stack.head?.all (· < c.column) = true) : IsLoose (pendingKey? tokens stack allowed c) c.line := by
  rintro key hkey
  rw [pendingKey?] at hkey
  split at hkey
  · obtain rfl := Option.some.inj hkey
    refine ⟨?_, Nat.le_refl _⟩
    -- A key is required in the column of its block only, and `c` stands to the right of that.
    rw [pendingKey, Bool.eq_false_iff, Ne, beq_iff_eq]
    intro hhead
    simp [hhead] at h
  · cases hkey

/-- A place where a key may start. -/
theorem saveKey_block (tokens : List Token) (stack : List Nat) (allowed : Bool) (c : Cursor) :
    (block tokens stack none allowed c).saveKey
      = .ok (block tokens stack (pendingKey? tokens stack allowed c) allowed c) := by
  cases allowed <;> rfl

/-- A scalar in quotes. -/
theorem fetchQuoted_block {tokens : List Token} {stack : List Nat} {allowed : Bool} {c c' : Cursor} {single : Bool}
    {text : List Char} (h : readQuoted single c = .ok (text, c')) :
    (block tokens stack none allowed c).fetchQuoted single
      = .ok (block
          (⟨.scalar (.ofList text) (if single then .singleQuoted else .doubleQuoted), c.line, c'.line⟩ :: tokens) stack
          (pendingKey? tokens stack allowed c) false c') := by
  rw [fetchQuoted, fetchKeyLike, saveKey_block]
  simp [bind, Except.bind, h, pure, Except.pure, take, block]

/-- A scalar without quotes. -/
theorem fetchPlain_block {tokens : List Token} {stack : List Nat} {allowed : Bool} {c c' : Cursor} {p : Plain}
    (h : readPlain false stack.head? c = .ok (p, c')) :
    (block tokens stack none allowed c).fetchPlain
      = .ok (block (⟨.scalar (.ofList p.text) .plain, c.line, p.endLine⟩ :: tokens)
          stack (pendingKey? tokens stack allowed c) p.broken c') := by
  rw [fetchPlain, saveKey_block]
  show (readPlain false stack.head? c).bind _ = _
  rw [h]
  rfl

/-- A literal block. -/
theorem fetchBlock_block {tokens : List Token} {stack : List Nat} {allowed : Bool} {c c' : Cursor} {text : List Char}
    {endLine : Nat} (h : readBlock true stack.head? c.skip = .ok (text, endLine, c')) :
    (block tokens stack none allowed c).fetchBlock true
      = .ok (block (⟨.scalar (.ofList text) .literal, c.line, endLine⟩ :: tokens) stack none true c') := by
  rw [fetchBlock]
  show (readBlock true stack.head? c.skip).bind _ = _
  rw [h]
  rfl

/-- The state inside a pair of brackets in block collections. -/
def inBrackets (tokens : List Token) (stack : List Nat) (key? : Option PendingKey) (c : Cursor) : Scan :=
  { cursor := c, tokens := tokens, indent := stack.head?, indents := outer stack, keys := [none, key?],
    keyAllowed := true }

/-- A key that may still be one stays, inside of brackets. -/
theorem dropStale_inBrackets {tokens : List Token} {stack : List Nat} {key? : Option PendingKey} {c : Cursor}
    (h : ∀ key ∈ key?, isStale key c = false) :
    (inBrackets tokens stack key? c).dropStale = .ok (inBrackets tokens stack key? c) := by
  cases key? with
  | none => simp [dropStale, inBrackets, bind, Except.bind, pure, Except.pure]
  | some key =>
    have hfresh := h key rfl
    rw [isStale, Bool.or_eq_false_iff, decide_eq_false_iff_not, decide_eq_false_iff_not] at hfresh
    simp [dropStale, inBrackets, bind, Except.bind, pure, Except.pure, hfresh.1, hfresh.2]

section Rules

variable {stack : List Nat} {y : Char} {rest : List Char} {k : Nat} {kinds : List TokenKind}

/-- The token that starts at a character which is not to the left of the open collections. -/
theorem fetch_block_of_dropStale {tokens : List Token} {key? key?' : Option PendingKey} {allowed : Bool} {x : Char}
    {i l : Nat} (hx : isTokenStart x = true) (hk : stack.head?.all (· ≤ k) = true)
    (hstale : (block tokens stack key? allowed ⟨x :: rest, i, l, k⟩).dropStale
      = .ok (block tokens stack key?' allowed ⟨x :: rest, i, l, k⟩)) :
    (block tokens stack key? allowed ⟨x :: rest, i, l, k⟩).fetch
      = (block tokens stack key?' allowed ⟨x :: rest, i, l, k⟩).fetchHere := by
  -- The scanner stands at a token already, so nothing is skipped.
  have hskip := skipToToken_blanks (x :: rest).length 0 hx rest i l k
    (s := block tokens stack key? allowed ⟨x :: rest, i, l, k⟩) rfl
  show (skipToToken ((x :: rest).length + 1) _).dropStale.bind
    (fun s => (s.unrollIndent (some s.cursor.column)).fetchHere) = _
  rw [hskip]
  show (block tokens stack key? allowed ⟨x :: rest, i, l, k⟩).dropStale.bind _ = _
  rw [hstale]
  show ((block tokens stack key?' allowed ⟨x :: rest, i, l, k⟩).unrollIndent (some k)).fetchHere = _
  rw [unrollIndent_block_of_le hk]

/-- Where a token starts at the column of the innermost collection or behind it, nothing has to be closed or skipped. -/
theorem fetch_block {tokens : List Token} {allowed : Bool} {x : Char} {i l : Nat} (hx : isTokenStart x = true)
    (hk : stack.head?.all (· ≤ k) = true) :
    (block tokens stack none allowed ⟨x :: rest, i, l, k⟩).fetch
      = (block tokens stack none allowed ⟨x :: rest, i, l, k⟩).fetchHere :=
  fetch_block_of_dropStale hx hk dropStale_block_none

/-- A mark of one character that opens a collection where none is open. -/
theorem ReadsAt.mark {mark : Char} {kind opening : TokenKind} (hk : stack.head?.all (· ≤ k) = true)
    (hstart : isTokenStart mark = true) (hkind : kind ≠ .streamEnd)
    (hfetch : ∀ (tokens : List Token) (i l : Nat),
      (block tokens stack none true ⟨mark :: rest, i, l, k⟩).fetchHere
        = .ok ((block (openedTokens stack k opening l ++ tokens) (opened stack k) none true
            ⟨mark :: rest, i, l, k⟩).pushMark kind))
    (h : ReadsAt (opened stack k) true rest (k + 1) kinds) :
    ReadsAt stack true (mark :: rest) k (openedKinds stack k opening ++ kind :: kinds) := by
  intro tokens i l
  -- One step reads the mark, and what it opens.
  have hstep : (block tokens stack none true ⟨mark :: rest, i, l, k⟩).fetch.bind dropStale
      = .ok (block (⟨kind, l, l⟩ :: (openedTokens stack k opening l ++ tokens)) (opened stack k) none true
          ⟨rest, i + mark.utf8Size, l, k + 1⟩) := by
    rw [fetch_block hstart hk, hfetch]
    exact dropStale_block_none
  have hread := (h (⟨kind, l, l⟩ :: (openedTokens stack k opening l ++ tokens)) (i + mark.utf8Size) l).step
    (openedTokens stack k opening l ++ [⟨kind, l, l⟩]) hstep (by simpa [done, block] using hkind)
    (by simp [block, openedTokens, openedKinds]; split <;> rfl) (by simp)
  simpa [map_kind_openedTokens] using hread

/-- A dash with a blank or a line break behind it. -/
theorem ReadsAt.entry (hk : stack.head?.all (· ≤ k) = true) (hy : isEdge (some y) = true)
    (h : ReadsAt (opened stack k) true (y :: rest) (k + 1) kinds) :
    ReadsAt stack true ('-' :: y :: rest) k (openedKinds stack k .blockSequenceStart ++ .blockEntry :: kinds) := by
  -- Two dashes and a blank would be no entry.
  have hmarker : y ≠ '-' := by
    rintro rfl
    cases hy
  refine ReadsAt.mark hk (by decide) (by decide) (fun tokens i l => ?_) h
  have hhere : (block tokens stack none true ⟨'-' :: y :: rest, i, l, k⟩).fetchHere
      = (block tokens stack none true ⟨'-' :: y :: rest, i, l, k⟩).fetchBlockEntry := by
    simp [fetchHere, Cursor.peek, Cursor.peekAt, Cursor.atMarker, hy, hmarker]
  rw [hhere, fetchBlockEntry, openBlock_block hk]
  rfl

/-- A question mark with a blank or a line break behind it. -/
theorem ReadsAt.question (hk : stack.head?.all (· ≤ k) = true) (hy : isEdge (some y) = true)
    (h : ReadsAt (opened stack k) true (y :: rest) (k + 1) kinds) :
    ReadsAt stack true ('?' :: y :: rest) k (openedKinds stack k .blockMappingStart ++ .key :: kinds) := by
  refine ReadsAt.mark hk (by decide) (by decide) (fun tokens i l => ?_) h
  have hhere : (block tokens stack none true ⟨'?' :: y :: rest, i, l, k⟩).fetchHere
      = (block tokens stack none true ⟨'?' :: y :: rest, i, l, k⟩).fetchKey := by
    simp [fetchHere, Cursor.peek, Cursor.peekAt, Cursor.atMarker, hy]
  rw [hhere, fetchKey, openBlock_block hk]
  rfl

/-- A colon with a blank or a line break behind it, in front of which there is no key on its line. -/
theorem ReadsAt.colon (hk : stack.head? = some k) (hy : isEdge (some y) = true)
    (h : ReadsAt stack true (y :: rest) (k + 1) kinds) :
    ReadsAt stack true (':' :: y :: rest) k (.value :: kinds) := by
  have hle : stack.head?.all (· ≤ k) = true := by simp [hk]
  have hread : ReadsAt stack true (':' :: y :: rest) k (openedKinds stack k .blockMappingStart ++ .value :: kinds) := by
    refine ReadsAt.mark hle (by decide) (by decide) (fun tokens i l => ?_) (by rwa [opened_of_head? hk])
    -- A colon with a blank behind it is a value.
    have hhere : (block tokens stack none true ⟨':' :: y :: rest, i, l, k⟩).fetchHere
        = (block tokens stack none true ⟨':' :: y :: rest, i, l, k⟩).fetchValue := by
      simp [fetchHere, Cursor.peek, Cursor.peekAt, Cursor.atMarker, hy]
    have hvalue : (block tokens stack none true ⟨':' :: y :: rest, i, l, k⟩).fetchValue
        = ((block tokens stack none true ⟨':' :: y :: rest, i, l, k⟩).openBlock .blockMappingStart
            "mapping values are not allowed in this context").bind fun s =>
          .ok ({ s with keyAllowed := !s.inFlow }.pushMark .value) := rfl
    rw [hhere, hvalue, openBlock_block hle]
    rfl
  rwa [openedKinds_of_head? hk, List.nil_append] at hread

/-! ### Scalars -/

/-- A token that leaves the scanner in front of another one, or at the end of its line. -/
theorem ReadsAt.token {allowed : Bool} {x : Char} {behind : List Char} {kind : TokenKind}
    (hstart : isTokenStart x = true) (hk : stack.head?.all (· ≤ k) = true) (hkind : kind ≠ .streamEnd)
    (hlt : behind.length < (x :: rest).length)
    (hfetch : ∀ (tokens : List Token) (i l : Nat), ∃ key? allowed' i' l' k' endLine, IsLoose key? l' ∧
      (block tokens stack none allowed ⟨x :: rest, i, l, k⟩).fetchHere
        = .ok (block (⟨kind, l, endLine⟩ :: tokens) stack key? allowed' ⟨behind, i', l', k'⟩))
    (h : ReadsBehind stack behind kinds) : ReadsAt stack allowed (x :: rest) k (kind :: kinds) := by
  intro tokens i l
  -- The token is fetched, a key that can no longer follow is dropped, and the rest is read behind it.
  obtain ⟨key?, allowed', i', l', k', endLine, hkey, hhere⟩ := hfetch tokens i l
  obtain ⟨key?', hkey', hstale⟩ := exists_dropStale_block (⟨kind, l, endLine⟩ :: tokens) stack allowed'
    ⟨behind, i', l', k'⟩ hkey
  exact (h (⟨kind, l, endLine⟩ :: tokens) key?' allowed' i' l' k' hkey').step [⟨kind, l, endLine⟩]
    (by rw [fetch_block hstart hk, hhere]; exact hstale) (by simpa [done, block] using hkind) rfl (by simpa using hlt)

/-- A token that leaves the scanner in front of the next token, on a later line. -/
theorem ReadsAt.tokenLine {allowed : Bool} {x : Char} {next : List Char} {m : Nat} {kind : TokenKind}
    (hstart : isTokenStart x = true) (hk : stack.head?.all (· ≤ k) = true) (hkind : kind ≠ .streamEnd)
    (hlt : next.length < (x :: rest).length)
    (hfetch : ∀ (tokens : List Token) (i l : Nat), ∃ key? i' l' endLine, IsLoose key? l ∧ l < l' ∧
      (block tokens stack none allowed ⟨x :: rest, i, l, k⟩).fetchHere
        = .ok (block (⟨kind, l, endLine⟩ :: tokens) stack key? true ⟨next, i', l', m⟩))
    (h : ReadsAt stack true next m kinds) : ReadsAt stack allowed (x :: rest) k (kind :: kinds) := by
  -- The key that the token leaves behind is loose and its line has passed, so it is dropped.
  intro tokens i l
  obtain ⟨key?, i', l', endLine, hkey, hline, hhere⟩ := hfetch tokens i l
  exact (h (⟨kind, l, endLine⟩ :: tokens) i' l').step [⟨kind, l, endLine⟩]
    (by rw [fetch_block hstart hk, hhere]; exact dropStale_block_of_loose hkey hline)
    (by simpa [done, block] using hkind) rfl (by simpa using hlt)

/-- A scalar with a colon behind it is a key. -/
theorem ReadsAt.key {x : Char} {behind : List Char} {kind : TokenKind} (hstart : isTokenStart x = true)
    (hk : stack.head?.all (· ≤ k) = true) (hkind : kind ≠ .streamEnd) (hy : isEdge (some y) = true)
    (hlt : behind.length + 2 < (x :: rest).length)
    (hfetch : ∀ (tokens : List Token) (i l : Nat), ∃ i' k', i' ≤ i + 1024 ∧ k < k' ∧
      (block tokens stack none true ⟨x :: rest, i, l, k⟩).fetchHere
        = .ok (block (⟨kind, l, l⟩ :: tokens) stack (some (pendingKey tokens stack ⟨x :: rest, i, l, k⟩)) false
            ⟨':' :: y :: behind, i', l, k'⟩))
    (h : ∀ k', k < k' → ReadsAt (opened stack k) false (y :: behind) k' kinds) :
    ReadsAt stack true (x :: rest) k (openedKinds stack k .blockMappingStart ++ .key :: kind :: .value :: kinds) := by
  intro tokens i l
  obtain ⟨i', k', hi, hk', hhere⟩ := hfetch tokens i l
  have hcolon : ':'.utf8Size = 1 := by decide
  -- The key is on the line of the colon, and short enough.
  have hfresh : isStale (pendingKey tokens stack ⟨x :: rest, i, l, k⟩) ⟨':' :: y :: behind, i', l, k'⟩ = false := by
    rw [isStale, Bool.or_eq_false_iff, decide_eq_false_iff_not, decide_eq_false_iff_not]
    exact ⟨Nat.lt_irrefl l, Nat.not_lt.2 hi⟩
  -- The first step reads the key, which is kept as pending.
  have hscalar : (block tokens stack none true ⟨x :: rest, i, l, k⟩).fetch.bind dropStale
      = .ok (block (⟨kind, l, l⟩ :: tokens) stack (some (pendingKey tokens stack ⟨x :: rest, i, l, k⟩)) false
          ⟨':' :: y :: behind, i', l, k'⟩) := by
    rw [fetch_block hstart hk, hhere]
    exact dropStale_block_of_fresh hfresh
  -- The second one reads the colon: the key gets its token, and the mapping is opened in front of it.
  have hvalue : (block (⟨kind, l, l⟩ :: tokens) stack (some (pendingKey tokens stack ⟨x :: rest, i, l, k⟩)) false
        ⟨':' :: y :: behind, i', l, k'⟩).fetchHere
      = .ok (block (⟨.value, l, l⟩ :: ([⟨kind, l, l⟩, ⟨.key, l, l⟩]
          ++ (openedTokens stack k .blockMappingStart l ++ tokens)))
          (opened stack k) none false ⟨y :: behind, i' + 1, l, k' + 1⟩) := by
    have hdispatch : (block (⟨kind, l, l⟩ :: tokens) stack (some (pendingKey tokens stack ⟨x :: rest, i, l, k⟩)) false
        ⟨':' :: y :: behind, i', l, k'⟩).fetchHere
        = (block (⟨kind, l, l⟩ :: tokens) stack (some (pendingKey tokens stack ⟨x :: rest, i, l, k⟩)) false
            ⟨':' :: y :: behind, i', l, k'⟩).fetchValue := by
      simp [fetchHere, Cursor.peek, Cursor.peekAt, Cursor.atMarker, hy]
    have hinsert : (block (⟨kind, l, l⟩ :: tokens) stack (some (pendingKey tokens stack ⟨x :: rest, i, l, k⟩)) false
        ⟨':' :: y :: behind, i', l, k'⟩).insert tokens.length ⟨.key, l, l⟩
        = block ([⟨kind, l, l⟩, ⟨.key, l, l⟩] ++ tokens) stack
            (some (pendingKey tokens stack ⟨x :: rest, i, l, k⟩)) false
            ⟨':' :: y :: behind, i', l, k'⟩ := by
      simp [insert, block]
    rw [hdispatch, fetchValue, keys_block]
    simp only [pendingKey] at hinsert ⊢
    rw [hinsert, rollIndent_block _ hk]
    simp [pushMark, block, Cursor.skip, hcolon]
  have hcolonStep : (block (⟨kind, l, l⟩ :: tokens) stack (some (pendingKey tokens stack ⟨x :: rest, i, l, k⟩)) false
        ⟨':' :: y :: behind, i', l, k'⟩).fetch.bind dropStale
      = .ok (block (⟨.value, l, l⟩ :: ([⟨kind, l, l⟩, ⟨.key, l, l⟩]
          ++ (openedTokens stack k .blockMappingStart l ++ tokens)))
          (opened stack k) none false ⟨y :: behind, i' + 1, l, k' + 1⟩) := by
    -- The colon is further to the right than the key.
    have hle : stack.head?.all (· ≤ k') = true := by
      cases hhead : stack.head? with
      | none => rfl
      | some m =>
        rw [hhead] at hk
        have hm : m ≤ k := by simpa using hk
        simp
        omega
    rw [fetch_block_of_dropStale (by decide) hle (dropStale_block_of_fresh hfresh), hvalue]
    exact dropStale_block_none
  have hread := (h (k' + 1) (by omega) _ (i' + 1) l).step_step
    (openedTokens stack k .blockMappingStart l ++ [⟨.key, l, l⟩, ⟨kind, l, l⟩, ⟨.value, l, l⟩]) hscalar
    (by simpa [done, block] using hkind) hcolonStep rfl
    (by simp [block, openedTokens, openedKinds]; split <;> rfl) (by simp at hlt ⊢; omega)
  simpa [map_kind_openedTokens] using hread

/-- An empty collection: an opening bracket and the closing one. -/
theorem ReadsAt.brackets {allowed : Bool} {first second : Char} {behind : List Char} {opening closing : TokenKind}
    (hbrackets : (first = '[' ∧ second = ']' ∧ opening = .flowSequenceStart ∧ closing = .flowSequenceEnd) ∨
      (first = '\x7b' ∧ second = '\x7d' ∧ opening = .flowMappingStart ∧ closing = .flowMappingEnd))
    (hk : stack.head?.all (· < k) = true) (h : ReadsBehind stack behind kinds) :
    ReadsAt stack allowed (first :: second :: behind) k (opening :: closing :: kinds) := by
  intro tokens i l
  have hle : stack.head?.all (· ≤ k) = true := by
    cases hhead : stack.head? with
    | none => rfl
    | some m =>
      rw [hhead] at hk
      exact decide_eq_true (Nat.le_of_lt (by simpa using hk))
  have hkey : IsLoose (pendingKey? tokens stack allowed ⟨first :: second :: behind, i, l, k⟩) l :=
    isLoose_pendingKey? hk
  -- The opening bracket may be a key, and is still one at the closing bracket.
  have hfresh : ∀ key ∈ pendingKey? tokens stack allowed ⟨first :: second :: behind, i, l, k⟩,
      isStale key ⟨second :: behind, i + first.utf8Size, l, k + 1⟩ = false := by
    intro key hkey
    have hsize : first.utf8Size = 1 := by rcases hbrackets with ⟨rfl, -⟩ | ⟨rfl, -⟩ <;> decide
    rw [pendingKey?] at hkey
    split at hkey
    · obtain rfl := Option.some.inj hkey
      simp [isStale, pendingKey, hsize]
    · cases hkey
  -- The first step reads the opening bracket.
  have hfirst : (block tokens stack none allowed ⟨first :: second :: behind, i, l, k⟩).fetch.bind dropStale
      = .ok (inBrackets (⟨opening, l, l⟩ :: tokens) stack
          (pendingKey? tokens stack allowed ⟨first :: second :: behind, i, l, k⟩)
          ⟨second :: behind, i + first.utf8Size, l, k + 1⟩) := by
    have hstart : isTokenStart first = true := by rcases hbrackets with ⟨rfl, -⟩ | ⟨rfl, -⟩ <;> decide
    have hhere : (block tokens stack none allowed ⟨first :: second :: behind, i, l, k⟩).fetchHere
        = (block tokens stack none allowed ⟨first :: second :: behind, i, l, k⟩).fetchFlowStart opening := by
      rcases hbrackets with ⟨rfl, rfl, rfl, rfl⟩ | ⟨rfl, rfl, rfl, rfl⟩ <;>
        simp [fetchHere, Cursor.peek, Cursor.atMarker]
    rw [fetch_block hstart hle, hhere, fetchFlowStart, saveKey_block]
    exact dropStale_inBrackets hfresh
  -- The second one reads the closing bracket, which ends the flow.
  have hsecond : (inBrackets (⟨opening, l, l⟩ :: tokens) stack
          (pendingKey? tokens stack allowed ⟨first :: second :: behind, i, l, k⟩)
          ⟨second :: behind, i + first.utf8Size, l, k + 1⟩).fetch
      = .ok (block (⟨closing, l, l⟩ :: ⟨opening, l, l⟩ :: tokens) stack
          (pendingKey? tokens stack allowed ⟨first :: second :: behind, i, l, k⟩) false
          ⟨behind, i + first.utf8Size + second.utf8Size, l, k + 2⟩) := by
    have hstart : isTokenStart second = true := by rcases hbrackets with ⟨-, rfl, -⟩ | ⟨-, rfl, -⟩ <;> decide
    have hskip := skipToToken_blanks (second :: behind).length 0 hstart behind (i + first.utf8Size) l (k + 1)
      (s := inBrackets (⟨opening, l, l⟩ :: tokens) stack
          (pendingKey? tokens stack allowed ⟨first :: second :: behind, i, l, k⟩)
          ⟨second :: behind, i + first.utf8Size, l, k + 1⟩) rfl
    show (skipToToken ((second :: behind).length + 1) _).dropStale.bind
      (fun s => (s.unrollIndent (some s.cursor.column)).fetchHere) = _
    rw [hskip]
    show (inBrackets (⟨opening, l, l⟩ :: tokens) stack
      (pendingKey? tokens stack allowed ⟨first :: second :: behind, i, l, k⟩)
      ⟨second :: behind, i + first.utf8Size, l, k + 1⟩).dropStale.bind _ = _
    rw [dropStale_inBrackets hfresh]
    show (inBrackets (⟨opening, l, l⟩ :: tokens) stack
      (pendingKey? tokens stack allowed ⟨first :: second :: behind, i, l, k⟩)
      ⟨second :: behind, i + first.utf8Size, l, k + 1⟩).fetchHere = _
    rcases hbrackets with ⟨rfl, rfl, rfl, rfl⟩ | ⟨rfl, rfl, rfl, rfl⟩ <;>
      simp [fetchHere, inBrackets, Cursor.peek, Cursor.atMarker, fetchFlowEnd, removeKey, inFlow, pushMark, Cursor.skip,
        block, bind, Except.bind, pure, Except.pure]
  obtain ⟨key?, hkey', hstale⟩ := exists_dropStale_block (⟨closing, l, l⟩ :: ⟨opening, l, l⟩ :: tokens) stack false
    ⟨behind, i + first.utf8Size + second.utf8Size, l, k + 2⟩ hkey
  have hnotEnd : opening ≠ .streamEnd ∧ closing ≠ .streamEnd := by
    rcases hbrackets with ⟨-, -, rfl, rfl⟩ | ⟨-, -, rfl, rfl⟩ <;> decide
  exact (h _ key? false (i + first.utf8Size + second.utf8Size) l (k + 2) hkey').step_step
    [⟨opening, l, l⟩, ⟨closing, l, l⟩] hfirst (by simpa [done, inBrackets] using hnotEnd.1)
    (by rw [hsecond]; exact hstale) (by simpa [done, block] using hnotEnd.2) rfl (by simp)

end Rules

/-! ### The end of the text -/

/-- The collections that end in front of a column are closed; in front of none all of them. -/
theorem exists_unrollIndent_block (column : Option Nat) (tokens : List Token) (stack : List Nat)
    (key? : Option PendingKey) (allowed : Bool) (c : Cursor) :
    ∃ n stack', (block tokens stack key? allowed c).unrollIndent column
        = block (List.replicate n ⟨.blockEnd, c.line, c.line⟩ ++ tokens) stack' key? allowed c ∧
      n + stack'.length = stack.length ∧ (column = none → stack' = []) := by
  -- Unrolling is a recursion on the columns of the open collections.
  suffices h : ∃ n stack', unrollFrom column c.line (outer stack) stack.head? tokens
      = (outer stack', stack'.head?, List.replicate n ⟨.blockEnd, c.line, c.line⟩ ++ tokens) ∧
      n + stack'.length = stack.length ∧ (column = none → stack' = []) by
    obtain ⟨n, stack', hunroll, hrest⟩ := h
    exact ⟨n, stack', by rw [unrollIndent_block _ hunroll]; rfl, hrest⟩
  -- The innermost collection comes first; one that does not end keeps all outer ones open.
  induction stack generalizing tokens with
  | nil => exact ⟨0, [], rfl, rfl, fun _ => rfl⟩
  | cons k stack ih =>
    by_cases hk : column.all (· < k) = true
    · obtain ⟨n, stack', hunroll, hlength, hnone⟩ := ih (⟨.blockEnd, c.line, c.line⟩ :: tokens)
      refine ⟨n + 1, stack', ?_, by rw [List.length_cons]; omega, hnone⟩
      rw [unrollFrom_close hk, hunroll, List.replicate_succ', List.append_assoc]
      rfl
    · refine ⟨0, k :: stack, by simp [outer, unrollFrom, hk], by simp, ?_⟩
      rintro rfl
      exact absurd rfl hk

/-- At the end of the text, all collections are closed. -/
theorem ReadsBehind.stop (stack : List Nat) :
    ReadsBehind stack [] (List.replicate stack.length .blockEnd ++ [.streamEnd]) := by
  intro tokens key? allowed i l k hkey fuel hfuel
  obtain ⟨fuel, rfl⟩ : ∃ m, fuel = m + 1 := ⟨fuel - 1, by omega⟩
  obtain ⟨key?', hkey', hstale⟩ := exists_dropStale_block tokens stack allowed ⟨[], i, l, k⟩ hkey
  -- First the collections to the right of the end are closed, then all the others.
  obtain ⟨n, stack', hunroll, hlength, -⟩ := exists_unrollIndent_block (some k) tokens stack key?' allowed ⟨[], i, l, k⟩
  have hfetch : (block tokens stack key? allowed ⟨[], i, l, k⟩).fetch
      = (block (List.replicate n ⟨.blockEnd, l, l⟩ ++ tokens) stack' key?' allowed ⟨[], i, l, k⟩).fetchEnd := by
    have hskip := skipToToken_nil 0 (s := block tokens stack key? allowed ⟨[], i, l, k⟩) rfl
    show (skipToToken (0 + 1) _).dropStale.bind (fun s => (s.unrollIndent (some s.cursor.column)).fetchHere) = _
    rw [hskip, hstale]
    show ((block tokens stack key?' allowed ⟨[], i, l, k⟩).unrollIndent (some k)).fetchHere = _
    rw [hunroll]
    rfl
  -- The end is at the start of a line.
  obtain ⟨c, hcursor⟩ : ∃ c : Cursor, (if k = 0 then (⟨[], i, l, k⟩ : Cursor) else ⟨[], i, l + 1, 0⟩) = c := ⟨_, rfl⟩
  obtain ⟨m, stack'', hunroll', hlength', hnone⟩ := exists_unrollIndent_block none
    (List.replicate n ⟨.blockEnd, l, l⟩ ++ tokens) stack' key?' allowed c
  obtain rfl := hnone rfl
  -- A pending key that is not required is given up.
  have hremove (tokens' : List Token) : (block tokens' [] key?' allowed c).removeKey
      = .ok (block tokens' [] none allowed c) := by
    cases key?' with
    | none => rfl
    | some key => simp [removeKey, block, (hkey' key rfl).1]
  have hend : (block (List.replicate n ⟨.blockEnd, l, l⟩ ++ tokens) stack' key?' allowed ⟨[], i, l, k⟩).fetchEnd
      = .ok (block (⟨.streamEnd, c.line, c.line⟩ :: (List.replicate m ⟨.blockEnd, c.line, c.line⟩
          ++ (List.replicate n ⟨.blockEnd, l, l⟩ ++ tokens))) [] none false c) := by
    have hclose : (block (List.replicate n ⟨.blockEnd, l, l⟩ ++ tokens) stack' key?' allowed c).closeAll
        = .ok (block (List.replicate m ⟨.blockEnd, c.line, c.line⟩
            ++ (List.replicate n ⟨.blockEnd, l, l⟩ ++ tokens)) [] none false c) := by
      rw [closeAll, hunroll', hremove]
      rfl
    rw [fetchEnd]
    show (closeAll (block (List.replicate n ⟨.blockEnd, l, l⟩ ++ tokens) stack' key?' allowed
      (if k = 0 then (⟨[], i, l, k⟩ : Cursor) else ⟨[], i, l + 1, 0⟩))).bind _ = _
    rw [hcursor, hclose]
    rfl
  refine ⟨List.replicate n ⟨.blockEnd, l, l⟩ ++ (List.replicate m ⟨.blockEnd, c.line, c.line⟩
    ++ [⟨.streamEnd, c.line, c.line⟩]), ?_, ?_⟩
  · rw [TokenStream.read_last (by rw [hfetch, hend]; exact dropStale_block_none) rfl]
    simp [block]
  · have hcount : stack.length = n + m := by simp at hlength'; omega
    simp only [hcount, List.map_append, List.map_replicate, List.map_cons, List.map_nil, ← List.append_assoc,
      List.replicate_append_replicate]

end Scan

end Scaffold.Yaml
