import Scaffold.Proofs.Template.Header
import Scaffold.Proofs.Template.Reading

namespace Scaffold.Template

/-!
# Reading the header of a session

The header of a session is read as one statement, and what stands behind it is read as it is without the header.

* `Gets x s a t` — from `s`, the reader `x` gives `a` and ends in `t`;
* `gets_importNames` — the names that a tag imports;
* `exists_of_gets_repeatFor` — how many pieces a template may have at most does not matter, as long as there are
  enough for its tokens;
* `read_header` — code behind the header: an import, and then the statements of the code.
-/

variable {α β : Type}

/-- The import of names from the preamble. -/
def importOf (names : List String) : Statement :=
  .importNames (.literal 1 (.text Session.preambleName)) (names.map fun name => (name, name))

namespace Reader

/-- From `s`, the reader gives `a` and ends in `t`. -/
def Gets (x : Reader α) (s : Reading) (a : α) (t : Reading) : Prop := ExceptT.run x s = (.ok a, t)

/-- A value is made without reading anything. -/
theorem gets_pure (a : α) (s : Reading) : Gets (pure a) s a s := rfl

/-- One reader behind the other. -/
theorem Gets.bind {x : Reader α} {f : α → Reader β} {s t u : Reading} {a : α} {b : β} (hx : Gets x s a t)
    (hf : Gets (f a) t b u) : Gets (x >>= f) s b u := by
  rw [Gets, run_bind, hx]
  exact hf

/-- The state is given. -/
theorem gets_get (s : Reading) : Gets get s s s := rfl

/-! ### Steps -/

section Steps

variable {s : Reading} {t : Located} {tokens : List Located} (h : s.tokens = t :: tokens)

include h

/-- The next token, which stays where it is. -/
theorem gets_peek : Gets peek s (some t.token) s := by
  obtain ⟨_, _, _⟩ := s
  cases h
  rfl

/-- The next token, which is taken off. -/
theorem gets_next : Gets next s (some t.token) { s with tokens := tokens, line := t.line } := run_next_cons h

/-- Whether the next token is of a kind. -/
theorem gets_sees (q : Token → Bool) : Gets (sees q) s (q t.token) s := (gets_peek h).bind (gets_pure _ _)

/-- A token of another kind is not taken off. -/
theorem gets_skip_of_not {q : Token → Bool} (hq : q t.token = false) : Gets (skip q) s false s := by
  refine (gets_sees h q).bind ?_
  rw [hq]
  exact gets_pure _ _

/-- A token that has to come next, and does. -/
theorem gets_expect {q : Token → Bool} (hq : q t.token = true) (what : String) :
    Gets (expect q what) s ⟨⟩ { s with tokens := tokens, line := t.line } := by
  refine (gets_next h).bind ?_
  dsimp only
  rw [if_pos hq]
  exact gets_pure _ _

end Steps

/-- Nothing is gathered if the first step finds nothing. -/
theorem gets_many_nil {step : List α → Reader (Option α)} {s t : Reading} (h : Gets (step []) s none t) :
    Gets (many step) s [] t := by
  refine (gets_get s).bind ?_
  rw [repeatFor]
  exact h.bind (gets_pure _ _)

/-! ### A text in front of a word -/

section Operators

variable {operand : Reader Expr} {s t : Reading} {e : Expr} {line : Nat} {rest : List Located}
  (h : Gets operand s e t) (ht : t.tokens = ⟨.word "import", line⟩ :: rest)

include h ht

/-- Where no operator comes next, a chain is its first operand. -/
theorem gets_chain {operator? : Token → Option (Expr → Expr → Expr)} (hop : operator? (.word "import") = none) :
    Gets (chain operator? operand) s e t := by
  refine h.bind ((gets_many_nil ((gets_peek ht).bind ?_)).bind (gets_pure _ _))
  simp only [Option.bind_some, hop]
  exact gets_pure _ _

/-- Where `import` comes next, a sum is its first operand. -/
theorem gets_sums : Gets (sums operand) s e t :=
  gets_chain (gets_chain (gets_chain (gets_chain h ht rfl) ht rfl) ht rfl) ht rfl

/-- Where `import` comes next, a comparison is its first operand. -/
theorem gets_comparisons : Gets (comparisons operand) s e t := by
  refine (gets_sums h ht).bind
    ((gets_many_nil ((gets_skip_of_not ht (by simp [Token.isWord])).bind ?_)).bind (gets_pure _ _))
  exact (gets_peek ht).bind (gets_pure _ _)

variable {first : Located} {more : List Located} (hs : s.tokens = first :: more)
  (hfirst : first.token = .string "__preamble__")

include hs hfirst

/-- Where `import` comes next, a disjunction is its first operand. -/
theorem gets_disjunctions : Gets (disjunctions operand) s e t := by
  have hcount : Gets (countOf (·.isWord "not")) s 0 s := by
    have hnot : first.token.isWord "not" = false := by rw [hfirst]; rfl
    exact (gets_many_nil ((gets_skip_of_not hs hnot).bind (gets_pure none s))).bind (gets_pure _ _)
  have hnegations : Gets (negations operand) s e t := hcount.bind ((gets_comparisons h ht).bind (gets_pure _ _))
  exact gets_chain (gets_chain hnegations ht (by decide)) ht (by decide)

/-- Where `import` comes next, no condition does. -/
theorem gets_conditionals : Gets (conditionals operand) s e t := by
  refine (gets_disjunctions h ht hs hfirst).bind ((gets_get t).bind ?_)
  rw [conditionalsFrom]
  exact (gets_skip_of_not ht (by simp [Token.isWord])).bind (gets_pure _ _)

end Operators

/-- A text is an operand, and the word `import` does not belong to it. -/
theorem gets_operand {nested other withoutIf : Reader Expr} {s : Reading} {l line : Nat} {rest : List Located}
    (hs : s.tokens = ⟨.string "__preamble__", l⟩ :: ⟨.word "import", line⟩ :: rest) :
    Gets (operand (primary nested) other withoutIf) s (.literal l (.text "__preamble__"))
      { s with tokens := ⟨.word "import", line⟩ :: rest, line := l } := by
  have hnext := gets_next hs
  generalize hbehind : { s with tokens := ⟨.word "import", line⟩ :: rest, line := l } = behind at hnext ⊢
  have ht : behind.tokens = ⟨.word "import", line⟩ :: rest := by rw [← hbehind]
  have hline : behind.line = l := by rw [← hbehind]
  have hprimary : Gets (primary nested) s (.literal l (.text "__preamble__")) behind := by
    -- What follows the string is no string, so the text ends with it.
    have htexts : Gets (moreTexts "__preamble__") behind "__preamble__" behind :=
      (gets_many_nil ((gets_peek ht).bind (gets_pure none behind))).bind (gets_pure _ _)
    refine hnext.bind (((gets_get behind).bind (gets_pure _ _)).bind (htexts.bind ?_))
    rw [hline]
    exact gets_pure _ _
  -- There is no sign in front of the string.
  have hcount : Gets (countOf (·.isSymbol .minus)) s 0 s :=
    (gets_many_nil ((gets_skip_of_not hs rfl).bind (gets_pure none s))).bind (gets_pure _ _)
  have hbare : Gets (bareOperand (primary nested) other withoutIf) s (.literal l (.text "__preamble__")) behind := by
    refine (hcount.bind (hprimary.bind (gets_pure _ _))).bind ((gets_get behind).bind ?_)
    -- Nothing follows the operand that would belong to it.
    rw [postfixes]
    refine (gets_skip_of_not ht rfl).bind ((gets_skip_of_not ht rfl).bind ?_)
    exact (gets_sees ht _).bind (gets_pure _ _)
  refine hbare.bind ((gets_get behind).bind ?_)
  rw [filters]
  refine (gets_skip_of_not ht rfl).bind ?_
  exact (gets_skip_of_not ht (by simp [Token.isWord])).bind (gets_pure _ _)

/-! ### Names that are imported -/

/-- Names that an import can ask for. -/
def isImportable (name : String) : Bool :=
  TokenList.isName name.toList && !reserved.contains name && !(["with", "without"].contains name)

/-- Whether a token ends the names of an import. -/
def endsNames (t : Token) : Bool := t.isCloseTag || t.isOneOf ["with", "without"]

/-- One name of an import; `done` holds those in front of it. -/
def importedName (done : List (String × String)) : Reader (Option (String × String)) := do
  if ← sees endsNames then return none
  if !done.isEmpty then expectSymbol .comma "`,`"
  if ← sees endsNames then return none
  let name ← assignedName
  if ← skipWord "as" then return some (name, ← assignedName) else return some (name, name)

/-- An import of names as it is read: a template, the word `import`, the names, and the mark of a context. -/
theorem importNamesStatement_eq (g : StatementGrammar) : importNamesStatement g = do
    let template ← g.expression
    expectWord "import"
    let names ← many importedName
    contextMark
    return .importNames template names := rfl

/-- The tokens of names behind the first one, and the end of the tag. -/
def moreNames (names : List String) (rest : List Located) : List Located :=
  names.flatMap (fun name => [⟨.symbol .comma, 1⟩, ⟨.word name, 1⟩]) ++ ⟨.closeTag, 1⟩ :: rest

/-- Neither a comma nor the end of a tag renames what stands in front of it. -/
theorem moreNames_eq_cons (names : List String) (rest : List Located) :
    ∃ t tokens, moreNames names rest = ⟨t, 1⟩ :: tokens ∧ t.isWord "as" = false := by
  cases names with
  | nil => exact ⟨.closeTag, rest, rfl, rfl⟩
  | cons name names => exact ⟨.symbol .comma, _, rfl, rfl⟩

section Names

variable {s : Reading} {name : String} (hname : isImportable name = true) {rest : List Located}

include hname

/-- A name that may be assigned to. -/
theorem gets_assignedName {line : Nat} (hs : s.tokens = ⟨.word name, line⟩ :: rest) :
    Gets assignedName s name { s with tokens := rest, line := line } := by
  have hreserved : reserved.contains name = false := by
    simp only [isImportable, Bool.and_eq_true, Bool.not_eq_true'] at hname
    exact hname.1.2
  refine ((gets_next hs).bind (gets_pure name _)).bind ?_
  rw [if_neg (by rw [hreserved]; exact Bool.false_ne_true)]
  exact gets_pure _ _

/-- A name that can be imported does not end the list of names. -/
theorem endsNames_of_isImportable : endsNames (.word name) = false := by
  simp only [isImportable, Bool.and_eq_true, Bool.not_eq_true'] at hname
  exact hname.2

variable {names : List String}

/-- The first name. -/
theorem gets_firstName (hs : s.tokens = ⟨.word name, 1⟩ :: moreNames names rest) :
    Gets (importedName []) s (some (name, name)) { s with tokens := moreNames names rest, line := 1 } := by
  have hends : endsNames (.word name) = false := endsNames_of_isImportable hname
  have hsees : Gets (sees endsNames) s false s := by
    have h := gets_sees hs endsNames
    rwa [hends] at h
  obtain ⟨t, tokens, htokens, has⟩ := moreNames_eq_cons names rest
  refine hsees.bind (hsees.bind ((gets_assignedName hname hs).bind ?_))
  exact (gets_skip_of_not (t := ⟨t, 1⟩) htokens has).bind (gets_pure _ _)

/-- A name behind others. -/
theorem gets_otherName {done : List (String × String)} (hdone : done ≠ [])
    (hs : s.tokens = moreNames (name :: names) rest) :
    Gets (importedName done) s (some (name, name)) { s with tokens := moreNames names rest, line := 1 } := by
  have hs : s.tokens = ⟨.symbol .comma, 1⟩ :: ⟨.word name, 1⟩ :: moreNames names rest := hs
  have hends : endsNames (.word name) = false := endsNames_of_isImportable hname
  have hisEmpty : done.isEmpty = false := List.isEmpty_eq_false_iff.2 hdone
  -- Each of the names is followed by a comma or by the end of the tag.
  have hbehind {u : Reading} (hu : u.tokens = ⟨.word name, 1⟩ :: moreNames names rest) :
    Gets (sees endsNames) u false u := by
    have h := gets_sees hu endsNames
    rwa [hends] at h
  obtain ⟨t, tokens, htokens, has⟩ := moreNames_eq_cons names rest
  refine (gets_sees hs endsNames).bind ?_
  rw [hisEmpty]
  refine (gets_expect hs rfl _).bind ((hbehind rfl).bind ((gets_assignedName hname rfl).bind ?_))
  exact (gets_skip_of_not (t := ⟨t, 1⟩) htokens has).bind (gets_pure _ _)

end Names

/-- The names behind the first one. -/
theorem gets_otherNames {names : List String} (hnames : ∀ name ∈ names, isImportable name = true) {rest : List Located}
    {s : Reading} (hs : s.tokens = moreNames names rest) (hline : s.line = 1) {n : Nat} (hn : names.length < n)
    {done : List (String × String)} (hdone : done ≠ []) :
    Gets (repeatFor n importedName done) s (done.reverse ++ names.map fun name => (name, name))
      { s with tokens := ⟨.closeTag, 1⟩ :: rest, line := 1 } := by
  -- The names that have been read stand in reverse in `done`.
  induction names generalizing s n done with
  | nil =>
    obtain ⟨n, rfl⟩ := Nat.exists_eq_succ_of_ne_zero (Nat.ne_zero_of_lt hn)
    have hs : s.tokens = ⟨.closeTag, 1⟩ :: rest := hs
    -- The tag has ended, and nothing more is read.
    have hsame : { s with tokens := ⟨.closeTag, 1⟩ :: rest, line := 1 } = s := by
      obtain ⟨_, _, _⟩ := s
      cases hs
      cases hline
      rfl
    rw [hsame, List.map_nil, List.append_nil, repeatFor]
    exact ((gets_sees hs endsNames).bind (gets_pure none s)).bind (gets_pure _ _)
  | cons name names ih =>
    obtain ⟨n, rfl⟩ := Nat.exists_eq_succ_of_ne_zero (Nat.ne_zero_of_lt hn)
    obtain ⟨hname, hnames⟩ := List.forall_mem_cons.1 hnames
    have hrest := ih hnames
      (s := { s with tokens := moreNames names rest, line := 1 }) rfl rfl (n := n) (Nat.lt_of_succ_lt_succ hn)
      (List.cons_ne_nil (name, name) done)
    rw [List.reverse_cons, List.append_assoc] at hrest
    rw [repeatFor]
    exact (gets_otherName hname hdone hs).bind hrest

/-- There are more tokens than names, so there are enough steps for the names. -/
theorem length_moreNames (names : List String) (rest : List Located) :
    names.length < (moreNames names rest).length := by
  induction names with
  | nil => exact Nat.succ_pos _
  | cons name names ih =>
    show names.length + 1 < (moreNames names rest).length + 2
    omega

/-- The names that a tag imports. -/
theorem gets_importNames {g : StatementGrammar} {s t : Reading} {e : Expr} {name : String} {names : List String}
    {rest : List Located} (hg : Gets g.expression s e t)
    (ht : t.tokens = ⟨.word "import", 1⟩ :: ⟨.word name, 1⟩ :: moreNames names rest)
    (hnames : ∀ other ∈ name :: names, isImportable other = true) :
    Gets (importNamesStatement g) s (.importNames e ((name :: names).map fun name => (name, name)))
      { t with tokens := ⟨.closeTag, 1⟩ :: rest, line := 1 } := by
  obtain ⟨hname, hnames⟩ := List.forall_mem_cons.1 hnames
  rw [importNamesStatement_eq]
  refine hg.bind ((gets_expect ht (by simp [Token.isWord]) _).bind ?_)
  have hread : Gets (many importedName) { t with tokens := ⟨.word name, 1⟩ :: moreNames names rest, line := 1 }
      ((name :: names).map fun name => (name, name)) { t with tokens := ⟨.closeTag, 1⟩ :: rest, line := 1 } := by
    refine (gets_get _).bind ?_
    rw [repeatFor]
    refine (gets_firstName hname rfl).bind ?_
    -- The first name has no comma in front of it.
    refine gets_otherNames hnames (s := { t with tokens := moreNames names rest, line := 1 }) rfl rfl ?_
      (List.cons_ne_nil _ _)
    exact Nat.lt_succ_of_lt (length_moreNames names rest)
  refine hread.bind (Gets.bind (a := ⟨⟩) ?_ (gets_pure _ _))
  exact (gets_skip_of_not (t := ⟨.closeTag, 1⟩) rfl rfl).bind (gets_pure _ _)

/-! ### The header -/

/-- The tag of an import of names starts with `from`. -/
theorem gets_from {g : StatementGrammar} {s t : Reading} {x : Statement} {line : Nat} {tokens : List Located}
    (hs : s.tokens = ⟨.word "from", line⟩ :: tokens)
    (h : Gets (importNamesStatement g) { s with tokens := tokens, line := line } x t) : Gets (statement g) s x t := by
  refine (gets_next hs).bind ?_
  dsimp only
  exact h

/-- The header is one piece of a template. -/
theorem gets_header {value : Reader Expr} {simple : Reader Expr} {body : List String → Reader (List Statement)}
    {n : Nat} {name : String} {names : List String} (hnames : ∀ other ∈ name :: names, isImportable other = true)
    {rest : List Located} {s : Reading} (hs : s.tokens = TokenList.headerTokens (name :: names) ++ rest) :
    Gets (piece value (statement ⟨expression (n + 2), simple, body⟩) []) s (some (importOf (name :: names)))
      { s with tokens := rest, line := 1 } := by
  have hs : s.tokens = ⟨.openTag, 1⟩ :: ⟨.word "from", 1⟩ :: ⟨.string "__preamble__", 1⟩ :: ⟨.word "import", 1⟩ ::
      ⟨.word name, 1⟩ :: moreNames names rest := by
    rw [hs]
    simp [TokenList.headerTokens, TokenList.nameTokens, moreNames, Session.preambleName]
  have himport (u : Reading) (hu : u.tokens = ⟨.string "__preamble__", 1⟩ :: ⟨.word "import", 1⟩ :: ⟨.word name, 1⟩ ::
      moreNames names rest) :
      Gets (importNamesStatement ⟨expression (n + 2), simple, body⟩) u (importOf (name :: names))
        { u with tokens := ⟨.closeTag, 1⟩ :: rest, line := 1 } := by
    let t : Reading := { u with tokens := ⟨.word "import", 1⟩ :: ⟨.word name, 1⟩ :: moreNames names rest, line := 1 }
    have hexpression : Gets (expression (n + 2)) u (.literal 1 (.text Session.preambleName)) t :=
      gets_conditionals (gets_operand hu) rfl hu rfl
    exact gets_importNames (t := t) hexpression rfl hnames
  -- The tag is opened, its word is read, then the names, and its end.
  refine (gets_next hs).bind ((gets_peek rfl).bind ((gets_sees rfl _).bind ?_))
  exact (gets_from rfl (himport _ rfl)).bind ((gets_expect (t := ⟨.closeTag, 1⟩) rfl rfl _).bind (gets_pure (some _) _))

/-! ### Code behind the header -/

/-- How many pieces there may be at most does not matter, as long as they are enough for the tokens, and neither does
    what has been read in front of them. -/
theorem exists_of_gets_repeatFor {p : String → Prop} {P : Option α → Prop} {x : Reader (Option α)} (hx : Reads p x P)
    (hconsumes : Consumes p x) {s t : Reading} (hs : s.Uses p) {n : Nat} (hn : s.tokens.length < n) {done r : List α}
    (h : Gets (repeatFor n (fun _ => x) done) s r t) :
    ∃ xs, r = done.reverse ++ xs ∧
      ∀ m front, n ≤ m → Gets (repeatFor m (fun _ => x) front) s (front.reverse ++ xs) t := by
  -- The induction is on the fuel of the first run; the second one has at least as much.
  induction n generalizing s done with
  | zero => exact absurd hn (Nat.not_lt_zero _)
  | succ n ih =>
    rw [repeatFor, Gets, run_bind] at h
    have hread := ends_iff.1 (hx s hs)
    have hshort := ends_iff.1 (hconsumes s hs)
    have hsucc {m : Nat} (hm : n + 1 ≤ m) : ∃ k, m = k + 1 ∧ n ≤ k := ⟨m - 1, by omega, by omega⟩
    rcases hrun : ExceptT.run x s with ⟨_ | a?, u⟩
    · rw [hrun] at h
      cases h
    · rw [hrun] at h hread hshort
      cases a? with
      | none =>
        cases h
        refine ⟨[], by simp, fun m front hm => ?_⟩
        obtain ⟨k, rfl, -⟩ := hsucc hm
        rw [repeatFor, List.append_nil]
        -- A failure on one side is a failure on the other.
        exact Gets.bind hrun (gets_pure _ _)
      | some a =>
        obtain ⟨xs, rfl, hxs⟩ := ih hread.1 (Nat.lt_of_lt_of_le (hshort a rfl) (Nat.le_of_lt_succ hn)) h
        refine ⟨a :: xs, by simp, fun m front hm => ?_⟩
        obtain ⟨k, rfl, hk⟩ := hsucc hm
        have hfront := hxs k (a :: front) hk
        rw [List.reverse_cons, List.append_assoc] at hfront
        rw [repeatFor]
        exact Gets.bind hrun hfront

/-- What is left to read at the start of a template. -/
def start (tokens : TokenList) : Reading := ⟨tokens.tokens, tokens.fault?, 1, false, false, [], []⟩

/-- What a reader makes of all tokens of a template. -/
theorem run_eq_ok_iff (template : String) {tokens : TokenList} {x : Reader α} {a : α}
    {blocks : List (String × List Statement)} :
    Reader.run template tokens x = .ok (a, blocks) ↔ ∃ t, Gets x (start tokens) a t ∧ t.blocks = blocks := by
  unfold Reader.run Gets
  rw [start]
  rcases ExceptT.run x ⟨tokens.tokens, tokens.fault?, 1, false, false, [], []⟩ with ⟨_ | b, t⟩
  · exact ⟨fun h => (by cases h), fun ⟨_, h, _⟩ => (by cases h)⟩
  · constructor
    · intro h
      cases h
      exact ⟨t, rfl, rfl⟩
    · rintro ⟨t, h, rfl⟩
      cases h
      rfl

end Reader

open Reader Session

/-- What a template is read as. -/
theorem read_eq_ok_iff {template text : String} {source : Source} :
    Source.read template text = .ok source ↔
      source.name = template ∧ ∃ t,
        Gets (statements maxNesting []) (start (TokenList.ofSource template text)) source.body t ∧
        t.blocks = source.blocks := by
  rw [← run_eq_ok_iff template, Source.read]
  obtain ⟨name, body, blocks⟩ := source
  cases Reader.run template (TokenList.ofSource template text) (statements maxNesting []) with
  | error fault => simp [bind, Except.bind]
  | ok r => simp [bind, Except.bind, pure, Except.pure, Prod.ext_iff, eq_comm]

/-- **Code behind the header.** Behind the header, sheltered code is read as it is without it. -/
theorem read_header {p : String → Prop} (hinclude : ¬ p "include") (himport : ¬ p "import") {names : List String}
    (hne : names ≠ []) (hnames : ∀ name ∈ names, isImportable name = true) {template code : String}
    (hsheltered : TokenList.isSheltered (TokenList.withoutLastBreak code.toList) = true)
    (hwords : ∀ t ∈ (TokenList.ofSource template code).tokens, ∀ w, t.token = .word w → p w) {source : Source}
    (h : Source.read template code = .ok source) :
    Source.read template (tag ("from \"" ++ preambleName ++ "\" import " ++ Text.joinWith ", " names) ++ code) =
      .ok { source with body := importOf names :: source.body } := by
  obtain ⟨hname, t, hbody, hblocks⟩ := read_eq_ok_iff.1 h
  refine read_eq_ok_iff.2 ⟨hname, t, ?_, hblocks⟩
  -- The names can be imported, so they are names for the scanner, too.
  have hisName : ∀ name ∈ names, TokenList.isName name.toList = true := by
    intro name hmem
    have h := hnames name hmem
    simp only [isImportable, Bool.and_eq_true] at h
    exact h.1.1
  -- The tokens of the header come in front of those of the code.
  rw [TokenList.ofSource_header hne hisName hsheltered]
  generalize TokenList.ofSource template code = tokens at hbody hwords
  obtain ⟨name, names, rfl⟩ := List.exists_cons_of_ne_nil hne
  have hstatements (s : Reading) : ExceptT.run (statements maxNesting []) s = ExceptT.run (many fun _ =>
      piece (expression 150) (statement ⟨expression 149, simpleExpression 150, statements 149⟩) []) s := rfl
  have hgrammar : StatementGrammar.Reads p ⟨expression 149, simpleExpression 150, statements 149⟩ :=
    ⟨reads_expression 149, reads_simpleExpression 150, reads_statements hinclude himport 149⟩
  obtain ⟨hreads, hconsumes⟩ :=
    reads_piece (reads_expression 150) (reads_statement hgrammar hinclude himport) []
  have hstart : (start tokens).Uses p := ⟨hwords, by simp [start]⟩
  rw [Gets, hstatements] at hbody ⊢
  -- The statements of the code are read from where the header ends, with whatever fuel is left.
  obtain ⟨xs, hxs, hfront⟩ := exists_of_gets_repeatFor hreads hconsumes hstart (Nat.lt_succ_self _) hbody
  rw [List.reverse_nil, List.nil_append] at hxs
  refine (gets_get _).bind ?_
  rw [repeatFor, hxs]
  refine (gets_header hnames (s := start (TokenList.prepend _ tokens)) rfl).bind (hfront _ [_] ?_)
  simp only [start, TokenList.prepend, TokenList.headerTokens, List.length_append, List.length_cons, List.length_nil]
  omega

end Scaffold.Template
