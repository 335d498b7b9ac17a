import Scaffold.Proofs.Steps
import Scaffold.Proofs.Template.Uses
import Scaffold.Template.StatementReader

namespace Scaffold.Template

/-!
# What readers read

Readers leave an end of the tokens that they were given, and what they make of tokens uses no names but those of the
tokens.

* `Reads p x P` — from tokens whose words satisfy `p`, the reader `x` makes something that satisfies `P`, and leaves
  an end of the tokens;
* `reads_expression`, `reads_statements` — expressions and statements use names that satisfy `p`.
-/

variable {α β : Type} {p : String → Prop}

/-- The words that are left satisfy `p`, as the names in the blocks do that have been read. -/
structure Reading.Uses (p : String → Prop) (s : Reading) : Prop where
  words : ∀ t ∈ s.tokens, ∀ w, t.token = .word w → p w
  blocks : ∀ b ∈ s.blocks, Statement.UsesAll p b.2

namespace Reader

/-- From tokens whose words satisfy `p`, the reader makes something that satisfies `P`, and leaves an end of the
    tokens. -/
def Reads (p : String → Prop) (x : Reader α) (P : α → Prop) : Prop :=
  ∀ s : Reading, s.Uses p → Ends x s fun r t => t.Uses p ∧ t.tokens <:+ s.tokens ∧ ∀ a, r = .ok a → P a

variable {P P' : α → Prop} {Q : β → Prop}

/-! ### Steps -/

/-- A value that is made without reading anything. -/
theorem reads_pure {a : α} (h : P a) : Reads p (pure a) P :=
  fun _ hs => ends_pure.2 ⟨hs, List.suffix_refl _, fun _ ha => by cases ha; exact h⟩

/-- A reader that fails makes nothing, so nothing is asked of what it makes. -/
theorem reads_fail {detail : String} : Reads p (fail detail : Reader α) P :=
  fun _ hs => ends_throw.2 ⟨hs, List.suffix_refl _, fun _ ha => by cases ha⟩

/-- One reader behind the other: what holds of the first value may be used for the second. -/
theorem Reads.bind {x : Reader α} {f : α → Reader β} (hx : Reads p x P) (hf : ∀ a, P a → Reads p (f a) Q) :
    Reads p (x >>= f) Q := by
  refine fun s hs => (hx s hs).bind (fun a t h => ?_) fun e t h => ⟨h.1, h.2.1, fun _ ha => by cases ha⟩
  obtain ⟨ht, hsuffix, ha⟩ := h
  exact (hf a (ha a rfl) t ht).imp fun r u h => ⟨h.1, h.2.1.trans hsuffix, h.2.2⟩

/-- What follows from the property of a value is one of its properties. -/
theorem Reads.imp {x : Reader α} (h : Reads p x P) (hP : ∀ a, P a → P' a) : Reads p x P' :=
  fun s hs => (h s hs).imp fun _ _ h => ⟨h.1, h.2.1, fun a ha => hP a (h.2.2 a ha)⟩

/-- A reader of whose value nothing is asked. -/
theorem reads_get : Reads p (get : Reader Reading) fun s => s.Uses p :=
  fun _ hs => ends_get.2 ⟨hs, List.suffix_refl _, fun _ ha => by cases ha; exact hs⟩

/-- A change that leaves tokens as they are. -/
theorem reads_modify {f : Reading → Reading} (htokens : ∀ s, (f s).tokens = s.tokens)
    (hblocks : ∀ s : Reading, (∀ b ∈ s.blocks, Statement.UsesAll p b.2) → ∀ b ∈ (f s).blocks, Statement.UsesAll p b.2) :
    Reads p (modify f : Reader PUnit) fun _ => True :=
  fun s hs => ends_modify.2
    ⟨⟨by rw [htokens]; exact hs.words, hblocks s hs.blocks⟩, htokens s ▸ List.suffix_refl _, fun _ _ => trivial⟩

/-- The tokens that a word may be. -/
def IsReadable (p : String → Prop) (token? : Option Token) : Prop := ∀ w, token? = some (.word w) → p w

/-- The next token, which stays where it is. -/
theorem reads_peek : Reads p peek (IsReadable p) := by
  refine reads_get.bind fun s hs => ?_
  split
  · rename_i t tokens htokens
    refine reads_pure fun w hw => hs.words t ?_ w (Option.some.inj hw)
    rw [htokens]
    exact List.mem_cons_self
  -- At the end of the tokens the fault that ended them is thrown.
  · exact fun _ ht => ends_throw.2 ⟨ht, List.suffix_refl _, fun _ ha => by cases ha⟩
  · exact reads_pure fun w hw => by cases hw

/-- At the end of the tokens, the fault of the text is met, if it has one. -/
theorem run_next_nil {s : Reading} (h : s.tokens = []) :
    ExceptT.run next s = (match s.fault? with
      | some fault => .error fault
      | none => .ok none, s) := by
  obtain ⟨_, fault?, _⟩ := s
  cases h
  cases fault? <;> rfl

/-- A token is taken off, and its line is remembered. -/
theorem run_next_cons {t : Located} {s : Reading} {tokens : List Located} (h : s.tokens = t :: tokens) :
    ExceptT.run next s = (.ok (some t.token), { s with tokens := tokens, line := t.line }) := by
  obtain ⟨_, _, _⟩ := s
  cases h
  rfl

/-- The next token, which is taken off. -/
theorem reads_next : Reads p next (IsReadable p) := by
  refine fun s hs => ends_iff.2 ?_
  cases htokens : s.tokens with
  | nil =>
    rw [run_next_nil htokens]
    refine ⟨hs, by simp [htokens], fun a ha w hw => ?_⟩
    dsimp only at ha
    split at ha
    · cases ha
    · cases ha
      cases hw
  | cons t tokens =>
    rw [run_next_cons htokens]
    have hmem {u : Located} (hu : u ∈ tokens) : u ∈ s.tokens := htokens ▸ List.mem_cons_of_mem _ hu
    -- The tokens that are left are some of those that were there.
    refine ⟨⟨fun u hu => hs.words u (hmem hu), hs.blocks⟩, List.suffix_cons _ _, fun a ha w hw => ?_⟩
    cases ha
    exact hs.words t (htokens ▸ List.mem_cons_self) w (Option.some.inj hw)

/-- Whether a token comes next; nothing is read. -/
theorem reads_sees {q : Token → Bool} : Reads p (sees q) fun _ => True :=
  reads_peek.bind fun _ _ => reads_pure trivial

/-- A token that may come next and is taken off then. -/
theorem reads_skip {q : Token → Bool} : Reads p (skip q) fun _ => True := by
  refine reads_sees.bind fun b _ => ?_
  split
  · exact reads_next.bind fun _ _ => reads_pure trivial
  · exact reads_pure trivial

/-- A token that has to come next. -/
theorem reads_expect {q : Token → Bool} {what : String} : Reads p (expect q what) fun _ => True := by
  refine reads_next.bind fun token? _ => ?_
  split
  · split
    · exact reads_pure trivial
    · exact reads_fail
  · exact reads_fail

/-- A token that is a given word is no other token. -/
theorem eq_word_of_isWord {t : Token} {w : String} (h : t.isWord w = true) : t = .word w := by
  cases t with
  | word s => exact congrArg Token.word (by simpa [Token.isWord] using h)
  | _ => cases h

/-- A word that may not occur is not found. -/
theorem reads_expectWord {w : String} : Reads p (expectWord w) fun _ => p w := by
  refine reads_next.bind fun token? htoken => ?_
  split
  · rename_i t
    split
    -- The word that was asked for is among the tokens.
    · rename_i h
      refine reads_pure (htoken w ?_)
      rw [eq_word_of_isWord h]
    · exact reads_fail
  · exact reads_fail

/-- The word that comes next is one of the words of the tokens. -/
theorem reads_word : Reads p word p := by
  refine reads_next.bind fun token? htoken => ?_
  split
  · exact reads_pure (htoken _ rfl)
  · exact reads_fail
  · exact reads_fail

/-- The line of the next token. -/
theorem reads_nextLine : Reads p nextLine fun _ => True := reads_get.bind fun _ _ => reads_pure trivial

/-- The line of the last token that was read. -/
theorem reads_lastLine : Reads p lastLine fun _ => True := reads_get.bind fun _ _ => reads_pure trivial

/-- A name that something may be assigned to. -/
theorem reads_assignedName : Reads p assignedName p := by
  refine reads_word.bind fun name hname => ?_
  split
  · exact reads_fail
  · exact reads_pure hname

/-! ### Repetition -/

/-- If each step keeps the property, all that is gathered has it. -/
theorem reads_repeatFor {step : List α → Reader (Option α)}
    (h : ∀ done, Reads p (step done) fun x? => ∀ x, x? = some x → P x)
    {n : Nat} {done : List α} (hdone : ∀ x ∈ done, P x) : Reads p (repeatFor n step done) fun xs => ∀ x ∈ xs, P x := by
  -- All of `done` satisfies `P` before each step.
  induction n generalizing done with
  | zero => exact reads_pure fun x hx => hdone x (List.mem_reverse.1 hx)
  | succ n ih =>
    refine (h done).bind fun x? hx => ?_
    cases x? with
    | none => exact reads_pure fun x hx => hdone x (List.mem_reverse.1 hx)
    | some x => exact ih (List.forall_mem_cons.2 ⟨hx x rfl, hdone⟩)

/-- As many steps as there are tokens. -/
theorem reads_many {step : List α → Reader (Option α)}
    (h : ∀ done, Reads p (step done) fun x? => ∀ x, x? = some x → P x) :
    Reads p (many step) fun xs => ∀ x ∈ xs, P x :=
  reads_get.bind fun _ _ => reads_repeatFor h (by simp)

/-- The end of a list. -/
theorem reads_none : Reads p (pure none : Reader (Option α)) fun x? => ∀ x, x? = some x → P x :=
  reads_pure (by simp)

/-- One more item of a list. -/
theorem reads_some {a : α} (h : P a) : Reads p (pure (some a)) fun x? => ∀ x, x? = some x → P x :=
  reads_pure fun _ hx => by cases hx; exact h

/-- Items between commas. -/
theorem reads_commaSeparated {closes : Token → Bool} {item : Reader α} (h : Reads p item P) :
    Reads p (commaSeparated closes item) fun xs => ∀ x ∈ xs, P x := by
  refine reads_many fun done => ?_
  refine reads_skip.bind fun closed _ => ?_
  split
  · exact reads_none
  · extract_lets more
    -- The reader goes on in the same way behind a comma and at the start.
    have hmore (u : PUnit) : Reads p (more u) fun x? => ∀ x, x? = some x → P x := by
      refine reads_skip.bind fun closed _ => ?_
      split
      · exact reads_none
      · exact h.bind fun x hx => reads_some hx
    split
    · exact reads_expect.bind fun u _ => hmore u
    · exact hmore ⟨⟩

/-! ### Building expressions -/

/-- A literal uses no name; it must be a value that a text can spell. -/
theorem uses_literal {line : Nat} {v : Value} (h : v.Own) : (Expr.literal line v).Uses p := h

/-- A value that is known when the expression is read is one that the expression spells. -/
theorem own_of_known? {e : Expr} {v : Value} (he : e.Uses p) (h : e.known? = some v) : v.Own := by
  cases e with
  | literal => cases h; exact he
  | _ => cases h

/-- Values that are known when the expressions are read. -/
theorem own_of_allKnown? {es : List Expr} {vs : List Value} (hes : ∀ e ∈ es, e.Uses p)
    (h : Expr.allKnown? es = some vs) :
    ∀ v ∈ vs, v.Own := by
  intro v hv
  obtain ⟨e, he, hev⟩ := exists_of_mem_mapM h hv
  exact own_of_known? (hes e he) hev

/-- A list of expressions, which may be put together as one value. -/
theorem uses_ofItems {line : Nat} {es : List Expr} (h : ∀ e ∈ es, e.Uses p) : (Expr.ofItems line es).Uses p := by
  unfold Expr.ofItems
  split
  · rename_i vs hvs
    exact Value.own_sequence.2 (own_of_allKnown? h hvs)
  · exact Expr.usesItems_iff.2 h

/-- A mapping of expressions, which may be put together as one value. -/
theorem uses_ofEntries {line : Nat} {entries : List (Expr × Expr)} (h : ∀ x ∈ entries, x.1.Uses p ∧ x.2.Uses p) :
    (Expr.ofEntries line entries).Uses p := by
  unfold Expr.ofEntries
  split
  -- Entries that are known already make a value, which is of one's own.
  · rename_i keys values hkeys hvalues
    refine Value.own_ofEntries fun x hx => ?_
    have hown := List.of_mem_zip hx
    exact ⟨own_of_allKnown? (fun e he => by obtain ⟨x, hx, rfl⟩ := List.mem_map.1 he; exact (h x hx).1) hkeys _ hown.1,
      own_of_allKnown? (fun e he => by obtain ⟨x, hx, rfl⟩ := List.mem_map.1 he; exact (h x hx).2) hvalues _ hown.2⟩
  · exact Expr.usesEntries_iff.2 h

/-- A negation, which may be put together as one value. -/
theorem uses_ofNot {e : Expr} (h : e.Uses p) : (Expr.ofNot e).Uses p := by
  unfold Expr.ofNot
  split
  · exact uses_literal (Value.own_bool _)
  · exact h

/-- A number with its sign, which may be put together as one value. -/
theorem uses_ofNegative {e : Expr} (h : e.Uses p) : (Expr.ofNegative e).Uses p := by
  unfold Expr.ofNegative
  split
  · rename_i v hv
    obtain ⟨w, -, hw⟩ := Option.map_eq_some_iff.1 hv
    exact uses_literal (Value.returns_negate v hw)
  · exact h

/-- An operator between two expressions, which may be put together as one value. -/
theorem uses_ofBinary {op : BinaryOp} {l r : Expr} (hl : l.Uses p) (hr : r.Uses p) : (Expr.ofBinary op l r).Uses p := by
  unfold Expr.ofBinary
  -- An operation on known values is carried out while reading, if it succeeds.
  split
  · rename_i v w hv hw
    split
    · rename_i u hu
      exact uses_literal (Value.returns_apply (own_of_known? hl hv) (own_of_known? hr hw) u hu)
    · exact ⟨hl, hr⟩
  · exact ⟨hl, hr⟩

/-- A chain of comparisons. -/
theorem uses_ofComparisons {first : Expr} {rest : List (BinaryOp × Expr)} (hfirst : first.Uses p)
    (hrest : ∀ x ∈ rest, x.2.Uses p) : (Expr.ofComparisons first rest).Uses p := by
  unfold Expr.ofComparisons
  split
  · exact hfirst
  · exact uses_ofBinary hfirst (hrest _ List.mem_cons_self)
  · exact ⟨hfirst, Expr.usesComparisons_iff.2 hrest⟩

/-- Two expressions with `and` between them. -/
theorem uses_ofBoth {l r : Expr} (hl : l.Uses p) (hr : r.Uses p) : (Expr.ofBoth l r).Uses p := by
  unfold Expr.ofBoth
  -- With known operands the expression is a value.
  split
  · rename_i v w hv hw
    refine uses_literal ?_
    split
    · exact own_of_known? hr hw
    · exact Value.own_bool _
  · exact ⟨hl, hr⟩

/-- Two expressions with `or` between them. -/
theorem uses_ofEither {l r : Expr} (hl : l.Uses p) (hr : r.Uses p) : (Expr.ofEither l r).Uses p := by
  unfold Expr.ofEither
  split
  · rename_i v w hv hw
    refine uses_literal ?_
    split
    · exact own_of_known? hl hv
    · exact own_of_known? hr hw
  · exact ⟨hl, hr⟩

/-- A call, whatever it is that is called. -/
theorem uses_callOf {e : Expr} {args : List Argument} (he : e.Uses p) (hargs : Argument.UsesAll p args) :
    (callOf e args).Uses p := by
  unfold callOf
  extract_lets line
  split
  · exact ⟨he, hargs⟩
  · split
    · trivial
    · exact ⟨he, hargs⟩
  · exact ⟨he, hargs⟩
  · exact ⟨he, hargs⟩

/-! ### Expressions -/

/-- A reader of expressions that use names that satisfy `p`. -/
abbrev ReadsExpr (p : String → Prop) (x : Reader Expr) : Prop := Reads p x fun e => e.Uses p

section Operators

variable {operand : Reader Expr} (h : ReadsExpr p operand)

include h

/-- Operands with operators between them, if every operator keeps to the names of its operands. -/
theorem reads_chain {operator? : Token → Option (Expr → Expr → Expr)}
    (hop : ∀ t f, operator? t = some f → ∀ l r : Expr, l.Uses p → r.Uses p → (f l r).Uses p) :
    ReadsExpr p (chain operator? operand) := by
  refine h.bind fun first hfirst => ?_
  refine (reads_many (P := fun x : (Expr → Expr → Expr) × Expr =>
    (∀ l r : Expr, l.Uses p → r.Uses p → (x.1 l r).Uses p) ∧ x.2.Uses p) fun _ => ?_).bind fun rest hrest => ?_
  · refine reads_peek.bind fun token? _ => ?_
    split
    · exact reads_none
    · rename_i f hf
      obtain ⟨t, -, hf⟩ := Option.bind_eq_some_iff.1 hf
      exact reads_next.bind fun _ _ => h.bind fun e he => reads_some ⟨hop t f hf, he⟩
  · refine reads_pure ?_
    -- The operators that were read are applied from the left.
    exact List.foldlRecOn (motive := fun e : Expr => e.Uses p) rest _ hfirst fun e he x hx =>
      (hrest x hx).1 e x.2 he (hrest x hx).2

/-- Operands with the operators of a table between them. -/
theorem reads_symbolChain {table : List (Symbol × BinaryOp)} : ReadsExpr p (chain (symbolOperator? table) operand) := by
  refine reads_chain h fun t f hf l r hl hr => ?_
  unfold symbolOperator? at hf
  split at hf
  · obtain ⟨op, -, rfl⟩ := Option.map_eq_some_iff.1 hf
    exact uses_ofBinary hl hr
  · cases hf

/-- Sums, and all that binds stronger. -/
theorem reads_sums : ReadsExpr p (sums operand) :=
  reads_symbolChain (reads_symbolChain (reads_symbolChain (reads_symbolChain h)))

/-- Comparisons of sums. -/
theorem reads_comparisons : ReadsExpr p (comparisons operand) := by
  refine (reads_sums h).bind fun first hfirst => ?_
  refine (reads_many (P := fun x : BinaryOp × Expr => x.2.Uses p) fun _ => ?_).bind fun rest hrest =>
    reads_pure (uses_ofComparisons hfirst hrest)
  refine reads_skip.bind fun negated _ => ?_
  -- `not in` is read as one operator; the others are one token each.
  split
  · exact reads_expect.bind fun _ _ => (reads_sums h).bind fun e he => reads_some he
  · refine reads_peek.bind fun token? _ => ?_
    split
    · exact reads_none
    · exact reads_next.bind fun _ _ => (reads_sums h).bind fun e he => reads_some he

omit h in
/-- Words that are counted. -/
theorem reads_countOf {q : Token → Bool} : Reads p (countOf q) fun _ => True := by
  refine (reads_many (P := fun _ => True) fun _ => reads_skip.bind fun b _ => ?_).bind fun _ _ => reads_pure trivial
  split
  · exact reads_some trivial
  · exact reads_none

/-- Negations of comparisons. -/
theorem reads_negations : ReadsExpr p (negations operand) := by
  refine reads_countOf.bind fun n _ => (reads_comparisons h).bind fun e he => reads_pure ?_
  induction n with
  | zero => exact he
  | succ n ih => exact uses_ofNot ih

/-- Disjunctions of conjunctions of negations. -/
theorem reads_disjunctions : ReadsExpr p (disjunctions operand) := by
  refine reads_chain (reads_chain (reads_negations h) fun t f hf l r hl hr => ?_) fun t f hf l r hl hr => ?_
  -- Conjunctions bind closer than disjunctions.
  · split at hf
    · cases hf
      exact uses_ofBoth hl hr
    · cases hf
  · split at hf
    · cases hf
      exact uses_ofEither hl hr
    · cases hf

/-- Conditions behind an expression, one after the other. -/
theorem reads_conditionalsFrom {n : Nat} {e : Expr} (he : e.Uses p) : ReadsExpr p (conditionalsFrom operand n e) := by
  -- Each `if` makes a new expression, whose names satisfy `p` again.
  induction n generalizing e with
  | zero => exact reads_pure he
  | succ n ih =>
    refine reads_skip.bind fun conditional _ => ?_
    split
    -- Behind the `if` stand the test and, after an `else`, the other branch.
    · refine (reads_disjunctions h).bind fun test htest => reads_skip.bind fun otherwise _ => ?_
      split
      · refine (reads_disjunctions h).bind fun no hno => (ih hno).bind fun no hno => ?_
        exact reads_pure ⟨htest, he, hno⟩
      · exact ih ⟨htest, he, Value.own_undefined⟩
    · exact reads_pure he

/-- An expression with the conditions behind it. -/
theorem reads_conditionals : ReadsExpr p (conditionals operand) :=
  (reads_disjunctions h).bind fun _ he => reads_get.bind fun _ _ => reads_conditionalsFrom h he

end Operators

section Operands

variable {primary nested withoutIf : Reader Expr} (hprimary : ReadsExpr p primary) (hnested : ReadsExpr p nested)
  (hwithoutIf : ReadsExpr p withoutIf)

include hnested hwithoutIf

/-- The arguments of a call between parentheses. -/
theorem reads_argumentList : Reads p (argumentList nested withoutIf) (Argument.UsesAll p) := by
  refine reads_expect.bind fun _ _ => Reads.bind (P := fun args => ∀ a ∈ args, a.Uses p) ?_ fun args hargs => ?_
  -- The cases follow the kinds of arguments: spread ones, named ones, and those by position.
  · refine reads_commaSeparated (reads_skip.bind fun spreadNamed _ => ?_)
    split
    · exact hnested.bind fun e he => reads_pure he
    refine reads_skip.bind fun spread _ => ?_
    split
    · exact hnested.bind fun e he => reads_pure he
    refine hnested.bind fun e he => ?_
    split
    · refine reads_skip.bind fun named _ => ?_
      split
      · exact hwithoutIf.bind fun e he => reads_pure he
      · exact reads_pure he
    · exact reads_pure he
  · split
    · exact reads_pure (Argument.usesAll_iff.2 hargs)
    · exact reads_fail

/-- Arguments, if there is a parenthesis. -/
theorem reads_optionalArguments : Reads p (optionalArguments nested withoutIf) (Argument.UsesAll p) := by
  refine reads_sees.bind fun b _ => ?_
  split
  · exact reads_argumentList hnested hwithoutIf
  · exact reads_pure trivial

omit hwithoutIf in
/-- One bound of a slice. -/
theorem reads_slicePart {line : Nat} : ReadsExpr p (slicePart nested line) := by
  refine reads_sees.bind fun b _ => ?_
  split
  · exact reads_pure Value.own_none
  · exact hnested

omit hwithoutIf in
/-- What stands between brackets behind an expression: an index, or a slice. -/
theorem reads_subscript {e : Expr} (he : e.Uses p) : ReadsExpr p (subscript nested e) := by
  refine reads_sees.bind fun bare _ => ?_
  extract_lets behindStart
  -- Behind the start there is a slice, or the end of the brackets.
  have hbehindStart (start : Expr) (hstart : start.Uses p) : ReadsExpr p (behindStart start) := by
    refine reads_skip.bind fun sliced _ => ?_
    split
    · refine (reads_slicePart hnested).bind fun stop hstop => reads_skip.bind fun stepped _ => ?_
      extract_lets behindStep
      have hbehindStep (step : Expr) (hstep : step.Uses p) : ReadsExpr p (behindStep step) :=
        reads_expect.bind fun _ _ => reads_pure ⟨he, hstart, hstop, hstep⟩
      split
      · exact (reads_slicePart hnested).bind fun step hstep => hbehindStep step hstep
      · exact hbehindStep _ Value.own_none
    · exact reads_expect.bind fun _ _ => reads_pure ⟨he, hstart⟩
  split
  · exact hbehindStart _ Value.own_none
  · exact hnested.bind fun start hstart => hbehindStart start hstart

/-- Attributes, indices and calls behind an expression. -/
theorem reads_postfixes {n : Nat} {e : Expr} (he : e.Uses p) : ReadsExpr p (postfixes nested withoutIf n e) := by
  -- Each postfix makes a new expression, whose names satisfy `p` again.
  induction n generalizing e with
  | zero => exact reads_pure he
  | succ n ih =>
    refine reads_skip.bind fun member _ => ?_
    split
    · exact reads_word.bind fun name _ => ih he
    refine reads_skip.bind fun item _ => ?_
    split
    · exact (reads_subscript hnested he).bind fun e he => ih he
    refine reads_sees.bind fun called _ => ?_
    split
    · exact (reads_argumentList hnested hwithoutIf).bind fun args hargs => ih (uses_callOf he hargs)
    · exact reads_pure he

include hprimary

/-- An operand without the filters and tests behind it. -/
theorem reads_bareOperand : ReadsExpr p (bareOperand primary nested withoutIf) := by
  refine Reads.bind (P := fun e => e.Uses p) ?_ fun e he => reads_get.bind fun _ _ =>
    reads_postfixes hnested hwithoutIf he
  refine reads_countOf.bind fun n _ => hprimary.bind fun e he => reads_pure ?_
  induction n with
  | zero => exact he
  | succ n ih => exact uses_ofNegative ih

/-- A test behind an expression. -/
theorem reads_testOf {e : Expr} (he : e.Uses p) : ReadsExpr p (testOf primary nested withoutIf e) := by
  refine reads_skip.bind fun negated _ => reads_word.bind fun name _ => ?_
  refine reads_sees.bind fun parens _ => reads_sees.bind fun bare _ => ?_
  extract_lets tested
  -- The test itself, whatever its arguments are, and with `not` in front of it or without.
  have htested (args : List Argument) (hargs : Argument.UsesAll p args) : ReadsExpr p (tested args) := by
    have htest : (Expr.test (lastLineOf e.line args) e name args).Uses p := ⟨he, hargs⟩
    refine reads_pure ?_
    split
    · exact uses_ofNot htest
    · exact htest
  split
  · exact (reads_argumentList hnested hwithoutIf).bind fun args hargs => htested args hargs
  · split
    · exact (reads_bareOperand hprimary hnested hwithoutIf).bind fun e he => htested _ ⟨he, trivial⟩
    · exact htested _ trivial

/-- Filters and tests behind an expression. -/
theorem reads_filters {n : Nat} {e : Expr} (he : e.Uses p) : ReadsExpr p (filters primary nested withoutIf n e) := by
  -- Each filter and each test takes what was read so far as its operand.
  induction n generalizing e with
  | zero => exact reads_pure he
  | succ n ih =>
    refine reads_skip.bind fun filtered _ => ?_
    split
    · refine reads_word.bind fun name _ => (reads_optionalArguments hnested hwithoutIf).bind fun args hargs => ?_
      exact ih ⟨he, hargs⟩
    refine reads_skip.bind fun tested _ => ?_
    split
    · exact (reads_testOf hprimary hnested hwithoutIf he).bind fun e he => ih he
    · exact reads_pure he

/-- An operand with the filters and tests behind it. -/
theorem reads_operand : ReadsExpr p (operand primary nested withoutIf) :=
  (reads_bareOperand hprimary hnested hwithoutIf).bind fun _ he => reads_get.bind fun _ _ =>
    reads_filters hprimary hnested hwithoutIf he

omit hprimary hwithoutIf

/-- What stands in parentheses: an expression or a tuple. -/
theorem reads_parenthesized {line : Nat} : ReadsExpr p (parenthesized nested line) := by
  refine reads_skip.bind fun closed _ => ?_
  split
  · exact reads_pure (uses_ofItems (by simp))
  refine hnested.bind fun e he => reads_skip.bind fun comma _ => ?_
  -- A comma makes a list of what stands in brackets.
  split
  · exact (reads_commaSeparated hnested).bind fun es hes => reads_pure (uses_ofItems (List.forall_mem_cons.2 ⟨he, hes⟩))
  · exact reads_expect.bind fun _ _ => reads_pure he

omit hnested in
/-- Texts one behind the other are one text. -/
theorem reads_moreTexts {s : String} : Reads p (moreTexts s) fun _ => True := by
  refine (reads_many (P := fun _ => True) fun _ => reads_peek.bind fun token? _ => ?_).bind fun _ _ =>
    reads_pure trivial
  split
  · exact reads_next.bind fun _ _ => reads_some trivial
  · exact reads_none

/-- A literal, a name, or something in brackets. -/
theorem reads_primary : ReadsExpr p (Reader.primary nested) := by
  refine reads_next.bind fun token? htoken => reads_lastLine.bind fun line _ => ?_
  split
  -- A word is a constant or a name, which is one that the code uses.
  · split
    · exact reads_pure (Value.own_bool _)
    split
    · exact reads_pure (Value.own_bool _)
    split
    · exact reads_pure Value.own_none
    · exact reads_pure (htoken _ rfl)
  · exact reads_moreTexts.bind fun _ _ => reads_pure (Value.own_text _)
  · exact reads_pure (Value.own_int _)
  · exact reads_pure (Value.own_float _)
  · exact reads_parenthesized hnested
  · exact (reads_commaSeparated hnested).bind fun es hes => reads_pure (uses_ofItems hes)
  · refine (reads_commaSeparated (P := fun x : Expr × Expr => x.1.Uses p ∧ x.2.Uses p) ?_).bind fun entries hentries =>
      reads_pure (uses_ofEntries hentries)
    exact hnested.bind fun k hk => reads_expect.bind fun _ _ => hnested.bind fun e he => reads_pure ⟨hk, he⟩
  · exact reads_fail
  · exact reads_fail

end Operands

mutual

/-- Expressions that are nested less deep than `n`. -/
theorem reads_expression : ∀ n : Nat, ReadsExpr p (expression n)
  | 0 => reads_fail
  | 1 => reads_conditionals (reads_operand reads_fail reads_fail reads_fail)
  | n + 2 => reads_conditionals
      (reads_operand (reads_primary (reads_expression n)) (reads_expression (n + 1)) (reads_simpleExpression (n + 1)))

/-- Expressions without a condition behind them, as they stand behind the `in` of a loop. -/
theorem reads_simpleExpression : ∀ n : Nat, ReadsExpr p (simpleExpression n)
  | 0 => reads_fail
  | 1 => reads_disjunctions (reads_operand reads_fail reads_fail reads_fail)
  | n + 2 => reads_disjunctions
      (reads_operand (reads_primary (reads_expression n)) (reads_expression (n + 1)) (reads_simpleExpression (n + 1)))

end

/-! ### Statements -/

/-- A grammar whose expressions and statements use names that satisfy `p`. -/
structure StatementGrammar.Reads (p : String → Prop) (g : StatementGrammar) : Prop where
  expression : ReadsExpr p g.expression
  simple : ReadsExpr p g.simple
  body : ∀ ends, Reader.Reads p (g.body ends) (Statement.UsesAll p)

/-- A reader of statements that use names that satisfy `p`. -/
abbrev ReadsStatement (p : String → Prop) (x : Reader Statement) : Prop := Reads p x (Statement.Uses p)

/-! #### Targets -/

/-- A target with a part: an attribute or an index. -/
theorem reads_entryTarget {n : Nat} {e : Expr} {target : Target} (he : e.Uses p) (htarget : target.Uses p) :
    Reads p (entryTarget n e target) (Target.Uses p) := by
  induction n generalizing e target with
  | zero => exact reads_pure htarget
  | succ n ih =>
    refine reads_skip.bind fun dotted _ => ?_
    split
    -- What has been read so far becomes the record of the next entry.
    · exact reads_word.bind fun name _ => ih he he
    · exact reads_pure htarget

/-- A target that is a name or starts with one. -/
theorem reads_nameTarget {dotted : Bool} : Reads p (nameTarget dotted) (Target.Uses p) := by
  refine reads_assignedName.bind fun name hname => ?_
  split
  · exact reads_get.bind fun _ _ => reads_lastLine.bind fun line _ => reads_entryTarget hname trivial
  · exact reads_pure trivial

/-- Targets between commas. -/
theorem reads_targetList {dotted : Bool} {n : Nat} : Reads p (targetList dotted n) (Target.Uses p) := by
  -- Targets in brackets are read with the smaller bound.
  induction n with
  | zero => exact reads_fail
  | succ n ih =>
    refine reads_nextLine.bind fun line _ => ?_
    extract_lets one
    -- One target is a name, or a list of targets in brackets.
    have hone : Reads p one (Target.Uses p) := by
      refine reads_skip.bind fun parens _ => ?_
      split
      · exact ih.bind fun target htarget => reads_expect.bind fun _ _ => reads_pure htarget
      · exact reads_nameTarget
    refine reads_sees.bind fun none _ => ?_
    split
    · exact reads_pure trivial
    refine hone.bind fun first hfirst => reads_sees.bind fun several _ => ?_
    -- A comma makes a list of it, with an end where no target follows.
    split
    · refine (reads_many (P := Target.Uses p) fun _ => reads_skip.bind fun comma _ => ?_).bind fun rest hrest =>
        reads_pure (Target.usesAll_iff.2 (List.forall_mem_cons.2 ⟨hfirst, hrest⟩))
      split
      · refine reads_sees.bind fun ended _ => ?_
        split
        · exact reads_none
        · exact hone.bind fun target htarget => reads_some htarget
      · exact reads_none
    · exact reads_pure hfirst

/-- A target, or some of them between commas. -/
theorem reads_targets {dotted : Bool} : Reads p (targets dotted) (Target.Uses p) :=
  reads_get.bind fun _ _ => reads_targetList

/-- What is known of the surroundings does not change what is read. -/
theorem reads_surrounded {inLoop inDefinition : Option Bool} {x : Reader α} (h : Reads p x P) :
    Reads p (surrounded inLoop inDefinition x) P := by
  -- What surrounds the body is put back behind it.
  refine reads_get.bind fun old _ => Reads.bind (reads_modify ?_ ?_) fun _ _ => h.bind fun a ha =>
    Reads.bind (reads_modify ?_ ?_) fun _ _ => reads_pure ha
  · exact fun _ => rfl
  · exact fun _ h => h
  · exact fun _ => rfl
  · exact fun _ h => h

section Statements

variable {g : StatementGrammar} (hg : g.Reads p)

include hg

/-- The body of a tag. -/
theorem reads_tagBody {w : String} : Reads p (tagBody g w) (Statement.UsesAll p) :=
  reads_expect.bind fun _ _ => (hg.body [w]).bind fun _ h => reads_next.bind fun _ _ => reads_pure h

/-- The body of a definition. -/
theorem reads_definitionBody {w : String} : Reads p (definitionBody g w) (Statement.UsesAll p) :=
  reads_surrounded (reads_tagBody hg)

/-- A filter with its arguments. -/
theorem reads_filterCall : Reads p (filterCall g) (FilterCall.Uses p) :=
  reads_word.bind fun _ _ => reads_lastLine.bind fun _ _ =>
    (reads_optionalArguments hg.expression hg.simple).bind fun _ hargs => reads_pure hargs

/-- Filters one behind the other. -/
theorem reads_filterCalls : Reads p (filterCalls g) fun fs => ∀ f ∈ fs, f.Uses p := by
  refine (reads_many (P := FilterCall.Uses p) fun done => ?_).bind fun calls hcalls => ?_
  · refine reads_sees.bind fun closed _ => ?_
    split
    · exact reads_none
    · extract_lets more
      -- A pipe stands between the filters.
      have hmore (u : PUnit) : Reads p (more u) fun f? => ∀ f, f? = some f → f.Uses p :=
        (reads_filterCall hg).bind fun f hf => reads_some hf
      split
      · exact reads_expect.bind fun u _ => hmore u
      · exact hmore ⟨⟩
  · split
    · exact reads_fail
    · exact reads_pure hcalls

/-- Parameters with their defaults. -/
theorem reads_params : Reads p (params g) fun xs => ∀ x ∈ xs, x.Uses p := by
  refine (reads_commaSeparated (P := Param.Uses p) ?_).bind fun xs hxs => ?_
  · refine reads_assignedName.bind fun name _ => reads_skip.bind fun default _ => ?_
    split
    · exact hg.expression.bind fun e he => reads_pure fun e' he' => by cases he'; exact he
    · exact reads_pure fun e' he' => by cases he'
  · split
    · exact reads_pure hxs
    · exact reads_fail

/-- A loop. -/
theorem reads_loopStatement : ReadsStatement p (loopStatement g) := by
  refine reads_surrounded (reads_targets.bind fun target htarget => reads_expect.bind fun _ _ =>
    hg.simple.bind fun source hsource => reads_skip.bind fun filtered _ => ?_)
  extract_lets behindCondition
  -- The reader goes on in the same way with a condition and without one.
  have hbehindCondition (condition? : Option Expr) (hcondition : ∀ e, condition? = some e → e.Uses p) :
      ReadsStatement p (behindCondition condition?) := by
    refine reads_skip.bind fun recursive _ => reads_expect.bind fun _ _ => (hg.body _).bind fun body hbody =>
      reads_skip.bind fun otherwise _ => ?_
    extract_lets behindBody
    -- And with another branch or without one.
    have hbehindBody (otherwise : List Statement) (h : Statement.UsesAll p otherwise) :
        ReadsStatement p (behindBody otherwise) :=
      reads_next.bind fun _ _ => reads_pure ⟨⟨htarget, hsource, hcondition⟩, hbody, h⟩
    split
    · exact reads_expect.bind fun _ _ => (hg.body _).bind fun otherwise h => hbehindBody otherwise h
    · exact hbehindBody [] trivial
  split
  · exact hg.expression.bind fun e he => hbehindCondition _ fun e' he' => by cases he'; exact he
  · exact hbehindCondition none fun e he => by cases he

/-- A condition with its branches. -/
theorem reads_branchStatement {n : Nat} : ReadsStatement p (branchStatement g n) := by
  induction n with
  | zero => exact reads_fail
  | succ n ih =>
    refine hg.simple.bind fun test htest => reads_expect.bind fun _ _ => (hg.body _).bind fun yes hyes =>
      reads_next.bind fun token? _ => ?_
    -- An `else` ends the branches, an `elif` starts the next one.
    split
    · exact (reads_tagBody hg).bind fun no hno => reads_pure ⟨htest, hyes, hno⟩
    · exact ih.bind fun no hno => reads_pure ⟨htest, hyes, hno, trivial⟩
    · exact reads_pure ⟨htest, hyes, trivial⟩

/-- A `with` block. -/
theorem reads_bindingsStatement : ReadsStatement p (bindingsStatement g) := by
  refine reads_lastLine.bind fun line _ => (reads_many (P := fun x : Target × Expr => x.1.Uses p ∧ x.2.Uses p)
    fun done => ?_).bind fun entries hentries => (reads_tagBody hg).bind fun body hbody => reads_pure ⟨hentries, hbody⟩
  refine reads_sees.bind fun closed _ => ?_
  split
  · exact reads_none
  · extract_lets assigned more
    -- What is assigned stands behind the target, be it a name or a tuple of targets.
    have hassigned (target : Target) (htarget : target.Uses p) :
        Reads p (assigned target) fun x? => ∀ x, x? = some x → x.1.Uses p ∧ x.2.Uses p :=
      reads_expect.bind fun _ _ => hg.expression.bind fun e he => reads_some ⟨htarget, he⟩
    have hmore (u : PUnit) : Reads p (more u) fun x? => ∀ x, x? = some x → x.1.Uses p ∧ x.2.Uses p := by
      refine reads_skip.bind fun parens _ => ?_
      split
      · exact reads_targets.bind fun target htarget => reads_expect.bind fun _ _ => hassigned target htarget
      · exact reads_nameTarget.bind fun target htarget => hassigned target htarget
    split
    · exact reads_expect.bind fun u _ => hmore u
    · exact hmore ⟨⟩

/-- An assignment of a value or of a body. -/
theorem reads_assignStatement : ReadsStatement p (assignStatement g) := by
  refine reads_targets.bind fun target htarget => reads_sees.bind fun captured _ => ?_
  split
  · refine reads_skip.bind fun filtered _ => ?_
    extract_lets behindFilters
    -- The body is read in the same way with filters and without.
    have hbehindFilters (filters : List FilterCall) (h : ∀ f ∈ filters, f.Uses p) :
        ReadsStatement p (behindFilters filters) :=
      (reads_tagBody hg).bind fun body hbody => reads_pure ⟨⟨htarget, h⟩, hbody⟩
    split
    · exact (reads_filterCalls hg).bind fun filters h => hbehindFilters filters h
    · exact hbehindFilters [] (by simp)
  · exact reads_expect.bind fun _ _ => hg.expression.bind fun e he => reads_pure ⟨htarget, he⟩

/-- A block; one name is given to one block only. -/
theorem reads_blockStatement : ReadsStatement p (blockStatement g) := by
  refine reads_get.bind fun s _ => ?_
  extract_lets begun
  -- A failure ends the reading, so only its other branch is looked at.
  have hbegun (u : Unit) : ReadsStatement p (begun u) := by
    refine reads_word.bind fun name _ => reads_lastLine.bind fun line _ => reads_get.bind fun s _ => ?_
    extract_lets named
    have hnamed (u : Unit) : ReadsStatement p (named u) := by
      refine Reads.bind (reads_modify ?_ ?_) fun _ _ => reads_skip.bind fun _ _ => reads_skip.bind fun required _ =>
        (reads_surrounded (reads_tagBody hg)).bind fun body hbody => ?_
      · exact fun _ => rfl
      · exact fun _ h => h
      extract_lets version closed checked
      -- A required block has no body of its own.
      have hversion : Statement.UsesAll p version := by
        simp only [version]
        split
        · exact ⟨trivial, trivial⟩
        · exact hbody
      have hclosed (u : Unit) : ReadsStatement p (closed u) := by
        refine Reads.bind (reads_modify ?_ ?_) fun _ _ => reads_pure trivial
        · exact fun _ => rfl
        · exact fun _ h => List.forall_mem_cons.2 ⟨hversion, h⟩
      have hchecked (u : Unit) : ReadsStatement p (checked u) := by
        refine reads_peek.bind fun token? _ => ?_
        split
        · split
          · exact reads_next.bind fun _ _ => hclosed ()
          · exact Reads.bind (P := fun _ => True) reads_fail fun _ _ => hclosed ()
        · exact hclosed ()
      split
      · exact Reads.bind (P := fun _ => True) reads_fail fun _ _ => hchecked ()
      · exact hchecked ()
    split
    · exact Reads.bind (P := fun _ => True) reads_fail fun _ _ => hnamed ()
    · exact hnamed ()
  split
  · exact Reads.bind (P := fun _ => True) reads_fail fun _ _ => hbegun ()
  · exact hbegun ()

/-- Where the word `import` may not occur, no names are imported. -/
theorem reads_importNamesStatement (himport : ¬ p "import") : ReadsStatement p (importNamesStatement g) :=
  hg.expression.bind fun _ _ => reads_expectWord.bind fun _ h => absurd h himport

/-- A macro. -/
theorem reads_defineStatement : ReadsStatement p (defineStatement g) :=
  reads_word.bind fun _ _ => reads_expect.bind fun _ _ => (reads_params hg).bind fun _ hps =>
    (reads_definitionBody hg).bind fun _ hbody => reads_pure ⟨hps, hbody⟩

/-- The call of a macro with the tag that it is in. -/
theorem reads_callExpression {tag : String} : Reads p (callExpression g tag) fun x => x.2.Uses p := by
  refine hg.expression.bind fun e he => ?_
  split
  · exact reads_pure he
  · exact reads_fail

/-- A call with a body. -/
theorem reads_callStatement : ReadsStatement p (callStatement g) := by
  refine reads_skip.bind fun params _ => ?_
  extract_lets called
  -- The call is read alike with parameters and without.
  have hcalled (ps : List Param) (hps : ∀ x ∈ ps, x.Uses p) : ReadsStatement p (called ps) :=
    (reads_callExpression hg).bind fun _ hc => (reads_definitionBody hg).bind fun _ hbody =>
      reads_pure ⟨hc, hps, hbody⟩
  split
  · exact (reads_params hg).bind fun ps hps => hcalled ps hps
  · exact hcalled [] (by simp)

/-- Any statement. Those that name other templates are left out, since their keywords do not satisfy `p`. -/
theorem reads_statement (hinclude : ¬ p "include") (himport : ¬ p "import") : ReadsStatement p (statement g) := by
  refine reads_next.bind fun token? htoken => ?_
  -- The cases follow the words that start a statement; including and importing do not occur.
  split
  · split
    · exact reads_loopStatement hg
    · exact reads_get.bind fun _ _ => reads_branchStatement hg
    · exact reads_bindingsStatement hg
    · exact reads_assignStatement hg
    · exact hg.expression.bind fun mode hmode => (reads_tagBody hg).bind fun body hbody => reads_pure ⟨hmode, hbody⟩
    · exact (reads_filterCalls hg).bind fun filters hfilters => (reads_tagBody hg).bind fun body hbody =>
        reads_pure ⟨hfilters, hbody⟩
    · exact reads_blockStatement hg
    · exact hg.expression.bind fun e he => reads_pure he
    · exact absurd (htoken _ rfl) hinclude
    · exact absurd (htoken _ rfl) himport
    · exact reads_importNamesStatement hg himport
    · exact reads_defineStatement hg
    · exact reads_callStatement hg
    · exact (reads_callExpression hg).bind fun x hc => reads_pure hc
    · refine reads_get.bind fun s _ => ?_
      split
      · exact reads_pure trivial
      · exact reads_fail
    · refine reads_get.bind fun s _ => ?_
      split
      · exact reads_pure trivial
      · exact reads_fail
    · exact reads_fail
  · exact reads_fail
  · exact reads_fail

end Statements

/-- Whenever the reader gives something, it has read a token. -/
def Consumes (p : String → Prop) (x : Reader (Option α)) : Prop :=
  ∀ s : Reading, s.Uses p → Ends x s fun r t => ∀ a, r = .ok (some a) → t.tokens.length < s.tokens.length

/-- What goes on behind a token has read one. -/
theorem reads_next_bind {f : Option Token → Reader (Option α)} {P : Option α → Prop}
    (hf : ∀ token?, IsReadable p token? → Reads p (f token?) P) (hnone : f none = pure none) :
    Reads p (next >>= f) P ∧ Consumes p (next >>= f) := by
  refine ⟨reads_next.bind hf, fun s hs => ends_bind.2 (ends_iff.2 ?_)⟩
  -- Without a token nothing was read; with one, there is one less.
  cases htokens : s.tokens with
  | nil =>
    rw [run_next_nil htokens]
    dsimp only
    split
    · rename_i a ha
      split at ha
      · cases ha
      · cases ha
        rw [hnone]
        exact ends_pure.2 fun a ha => by cases ha
    · exact fun a ha => by cases ha
  | cons t tokens =>
    rw [run_next_cons htokens]
    have hmem {u : Located} (hu : u ∈ t :: tokens) : u ∈ s.tokens := htokens ▸ hu
    have hrest : Reading.Uses p { s with tokens := tokens, line := t.line } :=
      ⟨fun u hu => hs.words u (hmem (List.mem_cons_of_mem _ hu)), hs.blocks⟩
    refine (hf (some t.token) (fun w hw => hs.words t (hmem List.mem_cons_self) w (Option.some.inj hw)) _ hrest).imp
      fun r u h a _ => ?_
    exact Nat.lt_succ_of_le h.2.1.length_le

/-- A piece of a template: a text, a value or a statement. -/
theorem reads_piece {value : Reader Expr} {tag : Reader Statement} (hvalue : ReadsExpr p value)
    (htag : ReadsStatement p tag)
    (ends : List String) :
    Reads p (piece value tag ends) (fun x? => ∀ x, x? = some x → x.Uses p) ∧ Consumes p (piece value tag ends) := by
  refine reads_next_bind (fun token? _ => ?_) rfl
  split
  · exact reads_none
  · exact reads_some trivial
  · exact hvalue.bind fun e he => reads_expect.bind fun _ _ => reads_some he
  -- A tag that is an end gives no statement.
  · refine reads_peek.bind fun token? _ => ?_
    extract_lets tagged
    have htagged (u : Unit) : Reads p (tagged u) fun x? => ∀ x, x? = some x → x.Uses p := by
      refine reads_sees.bind fun ended _ => ?_
      split
      · exact reads_none
      · exact htag.bind fun x hx => reads_expect.bind fun _ _ => reads_some hx
    split
    · exact Reads.bind (P := fun _ => True) reads_fail fun _ _ => htagged ()
    · exact htagged ()

/-- **Names.** Statements use the names of their tokens, if these hold neither `include` nor `import`. -/
theorem reads_statements (hinclude : ¬ p "include") (himport : ¬ p "import") (n : Nat) (ends : List String) :
    Reads p (statements n ends) (Statement.UsesAll p) := by
  induction n generalizing ends with
  | zero =>
    exact (reads_many fun _ => (reads_piece reads_fail reads_fail ends).1).imp fun _ h => Statement.usesAll_iff.2 h
  | succ n ih =>
    -- Expressions inside of statements are read with one level less.
    refine (reads_many fun _ => (reads_piece (reads_expression (n + 1)) ?_ ends).1).imp fun _ h =>
      Statement.usesAll_iff.2 h
    exact reads_statement ⟨reads_expression n, reads_simpleExpression (n + 1), ih⟩ hinclude himport

end Reader

end Scaffold.Template
