import Scaffold.Proofs.Substitution.Conversation

namespace Scaffold

/-!
# What is asked follows from the answers

The conversations about a text leave no choice to the filler: two of them go the same way as long as the
answers are the same, to the same end. So what a text says and what has been answered settle the next
request, or the result.

* `Forks` — two lists of exchanges that part with an answer;
* `IsSteered` — conversations that part only so; each kind of hole is about one, and what is made of them
  keeps this;
* `PassesTalk.isSteered` — the conversations about a text are;
* `Filler.fill_parted` — two engines that fill the same text are asked the same until they answer
  differently.
-/

open Placeholder (Form Piece)

variable {σ σ' α β : Type}

/-- Two lists of exchanges that are the same up to a request that is answered in two ways. -/
inductive Forks : List Exchange → List Exchange → Prop
  | here (request : Request) {answer answer' : Except CodeFailure CodeResult}
    (h : answer ≠ answer') (xs ys : List Exchange) :
    Forks ((request, answer) :: xs) ((request, answer') :: ys)
  | later (x : Exchange) {xs ys : List Exchange} (h : Forks xs ys) : Forks (x :: xs) (x :: ys)

namespace Forks

variable {xs ys : List Exchange}

/-- What is said behind the fork is immaterial. -/
theorem append (h : Forks xs ys) (xs' ys' : List Exchange) : Forks (xs ++ xs') (ys ++ ys') := by
  induction h with
  | here request h xs ys => exact .here request h _ _
  | later x h ih => exact .later x ih

/-- The fork may be further on. -/
theorem behind (before : List Exchange) (h : Forks xs ys) : Forks (before ++ xs) (before ++ ys) := by
  induction before with
  | nil => exact h
  | cons x before ih => exact .later x ih

end Forks

/-- Two conversations that are one and the same or part with an answer. -/
def Parted (xs : List Exchange) (r : Except Error α) (ys : List Exchange) (r' : Except Error α) :
    Prop :=
  (xs = ys ∧ r = r') ∨ Forks xs ys

/-- The conversations in `T` part with answers only. -/
def IsSteered (T : Talk α) : Prop := ∀ xs r ys r', T xs r → T ys r' → Parted xs r ys r'

namespace Parted

variable {xs ys : List Exchange}

/-- A conversation agrees with itself. -/
theorem refl (xs : List Exchange) (r : Except Error α) : Parted xs r xs r := .inl ⟨rfl, rfl⟩

/-- After the same request, either the answers part the conversations or the rest does. -/
theorem cons (request : Request) {answer answer' : Except CodeFailure CodeResult}
    {r r' : Except Error α} (h : answer = answer' → Parted xs r ys r') :
    Parted ((request, answer) :: xs) r ((request, answer') :: ys) r' := by
  by_cases hanswer : answer = answer'
  · subst hanswer
    rcases h rfl with ⟨rfl, rfl⟩ | hforks
    · exact .refl _ _
    · exact .inr (.later _ hforks)
  · exact .inr (.here request hanswer xs ys)

/-- What is made of both results. -/
theorem map (g : Except Error α → Except Error β) {r r' : Except Error α}
    (h : Parted xs r ys r') : Parted xs (g r) ys (g r') := by
  rcases h with ⟨rfl, rfl⟩ | hforks
  · exact .refl _ _
  · exact .inr hforks

/-- What follows on conversations with the same value may rely on the value. -/
theorem append {a a' : α} {xs' ys' : List Exchange} {r r' : Except Error β}
    (h : Parted xs (.ok a) ys (.ok a')) (h' : a = a' → Parted xs' r ys' r') :
    Parted (xs ++ xs') r (ys ++ ys') r' := by
  rcases h with ⟨rfl, ha⟩ | hforks
  · rcases h' (Except.ok.inj ha) with ⟨rfl, rfl⟩ | hforks
    · exact .refl _ _
    · exact .inr (hforks.behind xs)
  · exact .inr (hforks.append xs' ys')

/-- Which conversation is the first does not matter. -/
theorem symm {r r' : Except Error α} (h : Parted xs r ys r') : Parted ys r' xs r := by
  rcases h with ⟨rfl, rfl⟩ | hforks
  · exact .refl _ _
  · refine .inr ?_
    induction hforks with
    | here request h xs ys => exact .here request (Ne.symm h) ys xs
    | later x _ ih => exact .later x ih

/-- Conversations that fail do so whatever is to come of them. -/
theorem of_error {e e' : Error}
    (h : Parted xs (.error e : Except Error α) ys (.error e')) :
    Parted xs (.error e : Except Error β) ys (.error e') := by
  rcases h with ⟨rfl, he⟩ | hforks
  · rw [Except.error.inj he]
    exact .refl _ _
  · exact .inr hforks

/-- A conversation that fails and one that goes on have parted before. -/
theorem error_ok {a : α} {e : Error} (h : Parted xs (.error e) ys (.ok a))
    (ys' : List Exchange) (r r' : Except Error β) : Parted xs r (ys ++ ys') r' := by
  rcases h with ⟨_, h⟩ | hforks
  · cases h
  · exact .inr (by simpa using hforks.append [] ys')

end Parted

/-! ### Holes -/

/-- The answers decide how the code of a block ends. -/
theorem BlockTalk.isSteered (origin : String) (code : List Char) :
    IsSteered (BlockTalk origin code) := by
  rintro _ _ _ _ ⟨answer⟩ ⟨answer'⟩
  exact .cons _ fun h => h ▸ .refl _ _

/-- The answer decides how an expression ends. -/
theorem ExpressionTalk.isSteered (origin : String) (code : List Char) :
    IsSteered (ExpressionTalk origin code) := by
  rintro _ _ _ _ ⟨answer⟩ ⟨answer'⟩
  exact .cons _ fun h => h ▸ .refl _ _

/-- The answers decide how the code of a token ends. -/
theorem CodeTalk.isSteered (origin : String) (code : List Char) :
    IsSteered (CodeTalk origin code) := by
  -- The code itself tells blocks and blanks from the rest; with an expression, it is the answer that
  -- settles whether the code is run again.
  intro xs r ys r' h h'
  cases h with
  | lines hbreak hblock =>
    cases h' with
    | lines _ hblock' => exact BlockTalk.isSteered _ _ _ _ _ _ hblock hblock'
    | blank hno => exact absurd hbreak hno
    | expression hno => exact absurd hbreak hno
    | fallback hno => exact absurd hbreak hno
  | blank hbreak hblank =>
    cases h' with
    | lines hyes => exact absurd hyes hbreak
    | blank => exact .refl _ _
    | expression _ hcode => exact absurd hblank hcode
    | fallback _ hcode => exact absurd hblank hcode
  | expression hbreak hcode answer hread =>
    cases h' with
    | lines hyes => exact absurd hyes hbreak
    | blank _ hblank => exact absurd hblank hcode
    | expression _ _ answer' => exact .cons _ fun h => h ▸ .refl _ _
    | fallback _ _ message => exact .cons _ fun h => absurd h (hread message)
  | fallback hbreak hcode message hblock =>
    cases h' with
    | lines hyes => exact absurd hyes hbreak
    | blank _ hblank => exact absurd hblank hcode
    | expression _ _ answer' hread => exact .cons _ fun h => absurd h.symm (hread message)
    | fallback _ _ message' hblock' =>
      exact .cons _ fun _ => BlockTalk.isSteered _ _ _ _ _ _ hblock hblock'

/-- The answers decide how a token ends. -/
theorem NameTalk.isSteered (ctx : Context) (name : String) : IsSteered (NameTalk ctx name) := by
  -- A talk is steered by its first step: the name is code, a value or unknown, and two talks agree on which.
  intro xs r ys r' h h'
  cases h with
  | code hname hcode =>
    cases h' with
    | code hname' hcode' =>
      obtain rfl := Option.some.inj (hname.symm.trans hname')
      exact (CodeTalk.isSteered _ _ _ _ _ _ hcode hcode').map _
    | value hname' => cases hname.symm.trans hname'
    | unknown hname' => cases hname.symm.trans hname'
  | value hname hvalue =>
    cases h' with
    | code hname' => cases hname.symm.trans hname'
    | value _ hvalue' =>
      obtain rfl := Option.some.inj (hvalue.symm.trans hvalue')
      exact .refl _ _
    | unknown _ hvalue' => cases hvalue.symm.trans hvalue'
  | unknown hname hvalue =>
    cases h' with
    | code hname' => cases hname.symm.trans hname'
    | value _ hvalue' => cases hvalue.symm.trans hvalue'
    | unknown => exact .refl _ _

/-- The answers decide how a placeholder ends. -/
theorem HoleTalk.isSteered (ctx : Context) (form : Form) (code : List Char) :
    IsSteered (HoleTalk ctx form code) := by
  cases form with
  | block => exact BlockTalk.isSteered _ _
  | expression => exact ExpressionTalk.isSteered _ _
  | name => exact NameTalk.isSteered _ _

/-! ### Passes -/

/-- The answers decide how the placeholders of a text end. -/
theorem PiecesTalk.isSteered {hole : List Char → Talk String} (hhole : ∀ code, IsSteered (hole code))
    (pieces : List Piece) : IsSteered (PiecesTalk hole pieces) := by
  -- By induction on one conversation: the other one starts with the same piece.
  intro xs r ys r' h
  induction h generalizing ys r' with
  | nil =>
    rintro ⟨⟩
    exact .refl _ _
  | plain text _ ih =>
    rintro (_ | ⟨_, h'⟩)
    exact (ih _ _ h').map _
  | filled hsaid _ ih =>
    intro h'
    cases h' with
    | filled hsaid' h' =>
      exact (hhole _ _ _ _ _ hsaid hsaid').append fun htext => htext ▸ (ih _ _ h').map _
    | failed hsaid' => exact ((hhole _ _ _ _ _ hsaid' hsaid).error_ok _ _ _).symm
  | failed hsaid =>
    intro h'
    cases h' with
    | filled hsaid' h' => exact (hhole _ _ _ _ _ hsaid hsaid').error_ok _ _ _
    | failed hsaid' => exact (hhole _ _ _ _ _ hsaid hsaid').of_error

/-- **The filler has no choice.** Two conversations about a text, with whatever engines, are the same
    requests with the same result as long as the answers are the same. -/
theorem PassesTalk.isSteered (ctx : Context) (forms : List Form) (text : List Char) :
    IsSteered (PassesTalk ctx forms text) := by
  have hpass : ∀ form pieces, IsSteered (PiecesTalk (HoleTalk ctx form) pieces) :=
    fun form => PiecesTalk.isSteered (HoleTalk.isSteered ctx form)
  -- By induction on one conversation: as long as they are the same, the other one leaves the same text.
  intro xs r ys r' h
  induction h generalizing ys r' with
  | nil text =>
    rintro ⟨⟩
    exact .refl _ _
  | next hsaid _ ih =>
    intro h'
    cases h' with
    | next hsaid' h' =>
      exact (hpass _ _ _ _ _ _ hsaid hsaid').append fun hleft => ih _ _ (hleft ▸ h')
    | failed hsaid' => exact ((hpass _ _ _ _ _ _ hsaid' hsaid).error_ok _ _ _).symm
  | failed hsaid =>
    intro h'
    cases h' with
    | next hsaid' h' => exact (hpass _ _ _ _ _ _ hsaid hsaid').error_ok _ _ _
    | failed hsaid' => exact (hpass _ _ _ _ _ _ hsaid hsaid').of_error

/-! ### Two engines -/

namespace Filler

/-- What is said in the session. -/
def exchanges (records : List Record) : List Exchange :=
  records.filterMap fun
    | .opening _ _ _ => none
    | .exchange x => some x

/-- The exchanges of a conversation are what was asked and answered. -/
theorem exchanges_asked (xs : List Exchange) : exchanges (asked xs) = xs := by
  induction xs with
  | nil => rfl
  | cons x xs ih => exact congrArg (x :: ·) ih

/-- No session is refused. -/
def NeverRefused (records : List Record) : Prop :=
  ∀ ctx preamble? e, Record.opening ctx preamble? (.error e) ∉ records

/-- Unless its session is refused, what an engine is asked and answers is a conversation about the text. -/
theorem talk_of_fill (f : Filler σ) (ctx : Context) (text : String) (s : σ)
    (hopen : NeverRefused ((f.recorded.fill ctx text).run (s, [])).2.2) :
    PassesTalk ctx passes text.toList (exchanges ((f.recorded.fill ctx text).run (s, [])).2.2)
      ((f.recorded.fill ctx text).run (s, [])).1 := by
  obtain ⟨after, h⟩ := f.holds_fill ctx text s
  generalize ((f.recorded.fill ctx text).run (s, [])).2.2 = records at h hopen ⊢
  generalize ((f.recorded.fill ctx text).run (s, [])).1 = r at h ⊢
  -- The engine was not asked, asked with a session, or refused one, which is excluded here.
  cases h with
  | silent h => exact h
  | opened h =>
    show PassesTalk ctx passes text.toList (exchanges (asked _)) r
    rw [exchanges_asked]
    exact h
  | refused => exact absurd List.mem_cons_self (hopen _ _ _)

/-- **Engines steer by their answers alone.** Two engines that are to fill the same text in the same
    context, and do not refuse a session, are asked the same, with the same result, until they answer a
    request differently. -/
theorem fill_parted (f : Filler σ) (f' : Filler σ') (ctx : Context) (text : String) (s : σ) (s' : σ')
    (hopen : NeverRefused ((f.recorded.fill ctx text).run (s, [])).2.2)
    (hopen' : NeverRefused ((f'.recorded.fill ctx text).run (s', [])).2.2) :
    Parted (exchanges ((f.recorded.fill ctx text).run (s, [])).2.2)
      ((f.recorded.fill ctx text).run (s, [])).1
      (exchanges ((f'.recorded.fill ctx text).run (s', [])).2.2)
      ((f'.recorded.fill ctx text).run (s', [])).1 :=
  PassesTalk.isSteered ctx passes text.toList _ _ _ _ (f.talk_of_fill ctx text s hopen)
    (f'.talk_of_fill ctx text s' hopen')

end Filler

end Scaffold
