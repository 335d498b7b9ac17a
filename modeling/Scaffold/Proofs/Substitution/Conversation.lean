import Scaffold.Proofs.Substitution.Simulation

namespace Scaffold

/-!
# Conversations with an engine

To fill a text, a filler asks an engine to run code, and goes on by the answers. What it asks, in
which order, and what it makes of the answers is told here without the engine, as a relation between the
requests with their answers and the result:

* `BlockTalk`, `ExpressionTalk`, `CodeTalk`, `NameTalk` — what one hole of a text is about;
* `PiecesTalk` — the holes of one pass, from the left, up to the first failure;
* `PassesTalk` — the passes, each on the text that the one before it left;
* `Filler.fill_converses` — for every engine, filling a text is such a conversation. A session is opened
  at most once, in front of the first request.
-/

open Placeholder (Form Piece)

variable {σ α β : Type}

/-! ### Requests and answers -/

/-- Code that an engine is asked to run in its session. -/
inductive Request where
  | evaluate (code : String)
  | execute (code : String)
  deriving DecidableEq

/-- A request and the answer to it. -/
abbrev Exchange := Request × Except CodeFailure CodeResult

/-- What a filler and an engine say to each other. -/
inductive Record where
  | opening (ctx : Context) (preamble? : Option String) (answer : Except CodeFailure Unit)
  | exchange (x : Exchange)

namespace Engine

/-- Asks an engine. -/
def ask (e : Engine σ) : Request → StateM σ (Except CodeFailure CodeResult)
  | .evaluate code => e.evaluate code
  | .execute code => e.execute code

/-- An engine that keeps a record of all calls with their answers, the first one first. -/
def recorded (e : Engine σ) : Engine (σ × List Record) where
  openSession ctx preamble? := fun (s, records) =>
    let (r, s) := e.openSession ctx preamble? s
    (r, s, records ++ [.opening ctx preamble? r])
  evaluate code := fun (s, records) =>
    let (r, s) := e.evaluate code s
    (r, s, records ++ [.exchange (.evaluate code, r)])
  execute code := fun (s, records) =>
    let (r, s) := e.execute code s
    (r, s, records ++ [.exchange (.execute code, r)])

end Engine

/-- Conversations in an open session: the requests with their answers, in order, and the result. -/
abbrev Talk (α : Type) := List Exchange → Except Error α → Prop

/-! ### Conversations about a text -/

/-- A block is executed once. Its result is put in, or its failure is that of the whole. -/
inductive BlockTalk (origin : String) (code : List Char) : Talk String
  | run (answer : Except CodeFailure CodeResult) :
    BlockTalk origin code [(.execute (.ofList (dedentBlock code)), answer)]
      ((answer.map textOfBlock).mapError (Filler.failure origin))

/-- An expression is evaluated once. -/
inductive ExpressionTalk (origin : String) (code : List Char) : Talk String
  | run (answer : Except CodeFailure CodeResult) :
    ExpressionTalk origin code [(.evaluate (.ofList (Chars.trim code)), answer)]
      ((answer.map textOfExpression).mapError (Filler.failure origin))

/-- The code of a token: a block if it has a line break, nothing if it is blank, and otherwise an
    expression that, only if it cannot be read as one, is run as a block. -/
inductive CodeTalk (origin : String) (code : List Char) : Talk String
  | lines {xs : List Exchange} {r : Except Error String} (hbreak : '\n' ∈ code)
    (hblock : BlockTalk origin code xs r) : CodeTalk origin code xs r
  | blank (hbreak : '\n' ∉ code) (hblank : Chars.trim code = []) :
    CodeTalk origin code [] (.ok "")
  | expression (hbreak : '\n' ∉ code) (hcode : Chars.trim code ≠ [])
    (answer : Except CodeFailure CodeResult)
    (hread : ∀ message, answer ≠ .error (.unreadable message)) :
    CodeTalk origin code [(.evaluate (.ofList (Chars.trim code)), answer)]
      ((answer.map textOfExpression).mapError (Filler.failure origin))
  | fallback (hbreak : '\n' ∉ code) (hcode : Chars.trim code ≠ []) (message : String)
    {xs : List Exchange} {r : Except Error String} (hblock : BlockTalk origin code xs r) :
    CodeTalk origin code
      ((.evaluate (.ofList (Chars.trim code)), .error (.unreadable message)) :: xs) r

/-- A name: code if it stands for code, whose failures name the token; nothing to run otherwise. -/
inductive NameTalk (ctx : Context) (name : String) : Talk String
  | code {code : String} (hname : ctx.code? name = some code) {xs : List Exchange}
    {r : Except Error String} (hcode : CodeTalk ("token \"" ++ name ++ "\"") code.toList xs r) :
    NameTalk ctx name xs (r.mapError (Filler.ofToken name))
  | value (hname : ctx.code? name = none) {value : String} (hvalue : ctx.value? name = some value) :
    NameTalk ctx name [] (.ok value)
  | unknown (hname : ctx.code? name = none) (hvalue : ctx.value? name = none) :
    NameTalk ctx name [] (.error (.unknownToken name))

/-- What is written in a hole of the form. -/
def HoleTalk (ctx : Context) : Form → List Char → Talk String
  | .block, code => BlockTalk "\x7bmp.py|...\x7d block" code
  | .expression, code => ExpressionTalk "\x7bmp.py:...\x7d expression" code
  | .name, name => NameTalk ctx (.ofList (Chars.trim name))

/-- The holes among pieces, from the left; the first failure ends the conversation and is its result. -/
inductive PiecesTalk (hole : List Char → Talk String) : List Piece → Talk (List Char)
  | nil : PiecesTalk hole [] [] (.ok [])
  | plain (text : List Char) {pieces : List Piece} {xs : List Exchange}
    {r : Except Error (List Char)} (h : PiecesTalk hole pieces xs r) :
    PiecesTalk hole (.plain text :: pieces) xs (r.map (text ++ ·))
  | filled {code : List Char} {text : String} {pieces : List Piece} {xs ys : List Exchange}
    {r : Except Error (List Char)} (hhole : hole code xs (.ok text))
    (h : PiecesTalk hole pieces ys r) :
    PiecesTalk hole (.hole code :: pieces) (xs ++ ys) (r.map (text.toList ++ ·))
  | failed {code : List Char} {pieces : List Piece} {xs : List Exchange} {e : Error}
    (hhole : hole code xs (.error e)) : PiecesTalk hole (.hole code :: pieces) xs (.error e)

/-- Passes for the forms, one after the other, each on the text that is left by the one before it. -/
inductive PassesTalk (ctx : Context) : List Form → List Char → Talk String
  | nil (text : List Char) : PassesTalk ctx [] text [] (.ok (.ofList text))
  | next {form : Form} {forms : List Form} {text left : List Char} {xs ys : List Exchange}
    {r : Except Error String}
    (hpass : PiecesTalk (HoleTalk ctx form) (form.pieces text) xs (.ok left))
    (h : PassesTalk ctx forms left ys r) : PassesTalk ctx (form :: forms) text (xs ++ ys) r
  | failed {form : Form} {forms : List Form} {text : List Char} {xs : List Exchange} {e : Error}
    (hpass : PiecesTalk (HoleTalk ctx form) (form.pieces text) xs (.error e)) :
    PassesTalk ctx (form :: forms) text xs (.error e)

/-! ### Records of a step -/

/-- The records of a conversation in an open session. -/
def asked (xs : List Exchange) : List Record := xs.map .exchange

namespace Filler

/-- The filler whose engine writes down what it is asked. -/
def recorded (f : Filler σ) : Filler (σ × List Record) := ⟨f.engine.recorded, f.preamble?⟩

/-- Writing down what is asked changes nothing else. -/
theorem simulates_recorded (f : Filler σ) (ctx : Context) :
    Simulates (fun s p => s = p.1) f ctx f.recorded ctx where
  contexts := .refl ctx
  openSession := by rintro s p rfl; exact ⟨rfl, rfl⟩
  evaluate code := by rintro s p rfl; exact ⟨rfl, rfl⟩
  execute code := by rintro s p rfl; exact ⟨rfl, rfl⟩

/-- The records and the result of a step that holds a conversation `T`, with a session open before or not,
    and after or not. A session is opened right before the first request. If it is refused, there was a
    request to make, and the step fails as it would have failed with that request. -/
inductive Holds (f : Filler σ) (ctx : Context) (T : Talk α) :
    (before after : Bool) → List Record → Except Error α → Prop
  | silent {r : Except Error α} (h : T [] r) : Holds f ctx T false false [] r
  | inside {xs : List Exchange} {r : Except Error α} (h : T xs r) :
    Holds f ctx T true true (asked xs) r
  | opened {x : Exchange} {xs : List Exchange} {r : Except Error α} (h : T (x :: xs) r) :
    Holds f ctx T false true (.opening ctx f.preamble? (.ok ()) :: asked (x :: xs)) r
  | refused {e : CodeFailure} {request : Request} {origin : String} {token? : Option String}
    (h : ∀ message, T [(request, .error (.failed message))]
      (.error (.codeExecution origin message token?))) :
    Holds f ctx T false false [.opening ctx f.preamble? (.error e)]
      (.error (.codeExecution "preamble" e.message token?))

namespace Holds

variable {f : Filler σ} {ctx : Context} {T T' : Talk α} {U : Talk β} {before after after' : Bool}
  {records records' : List Record}

/-- What follows from the shape of a conversation. -/
theorem imp {r : Except Error α} (h : Holds f ctx T before after records r)
    (hT : ∀ xs r, T xs r → T' xs r) : Holds f ctx T' before after records r := by
  cases h with
  | silent h => exact .silent (hT _ _ h)
  | inside h => exact .inside (hT _ _ h)
  | opened h => exact .opened (hT _ _ h)
  | refused h => exact .refused fun message => hT _ _ (h message)

/-- A conversation that fails is over. -/
theorem error {e : Error} (h : Holds f ctx T before after records (.error e))
    (hU : ∀ xs e, T xs (.error e) → U xs (.error e)) :
    Holds f ctx U before after records (.error e) := by
  cases h with
  | silent h => exact .silent (hU _ _ h)
  | inside h => exact .inside (hU _ _ h)
  | opened h => exact .opened (hU _ _ h)
  | refused h => exact .refused fun message => hU _ _ (h message)

/-- The name of a token is given to the failure of a session as well. -/
theorem ofToken {r : Except Error α} (name : String) (h : Holds f ctx T before after records r)
    (hT : ∀ xs r, T xs r → T' xs (r.mapError (Filler.ofToken name))) :
    Holds f ctx T' before after records (r.mapError (Filler.ofToken name)) := by
  cases h with
  | silent h => exact .silent (hT _ _ h)
  | inside h => exact .inside (hT _ _ h)
  | opened h => exact .opened (hT _ _ h)
  | @refused e request origin token? h =>
    cases token? with
    | none => exact .refused fun message => hT _ _ (h message)
    | some token => exact .refused fun message => hT _ _ (h message)

/-- Two conversations one after the other are one. -/
theorem append {a : α} {r : Except Error β} {V : Talk β}
    (h : Holds f ctx T before after records (.ok a)) (h' : Holds f ctx U after after' records' r)
    (hV : ∀ xs ys r, T xs (.ok a) → U ys r → V (xs ++ ys) r) :
    Holds f ctx V before after' (records ++ records') r := by
  cases h with
  | silent h =>
    -- Nothing has been said so far.
    have hsame : ∀ ys r, U ys r → V ys r := fun ys r => hV [] ys r h
    exact h'.imp hsame
  | inside h =>
    cases h' with
    | inside h' =>
      rw [asked, asked, ← List.map_append]
      exact .inside (hV _ _ _ h h')
  | opened h =>
    cases h' with
    | inside h' =>
      rw [asked, asked, List.cons_append, ← List.map_append, List.cons_append]
      exact .opened (hV _ _ _ h h')

end Holds

/-- Whatever was said before, the step `x` holds a conversation `T`. -/
def Talks (f : Filler σ) (ctx : Context) (x : Running (Filling (σ × List Record)) α) (T : Talk α) :
    Prop :=
  ∀ p, Ends x p fun r p' => ∃ records, p'.engine.2 = p.engine.2 ++ records ∧
    Holds f ctx T p.isOpen p'.isOpen records r

/-! ### Rules -/

section Talks

variable {f : Filler σ} {ctx : Context} {T : Talk α} {U : Talk β}

/-- A step that says nothing and leaves everything as it is. -/
theorem talks_of_run {x : Running (Filling (σ × List Record)) α} {r : Except Error α} (h : T [] r)
    (hx : ∀ p, x.run p = (r, p)) : Talks f ctx x T := by
  intro p
  rw [ends_iff, hx p]
  refine ⟨[], by simp, ?_⟩
  show Holds f ctx T p.isOpen p.isOpen [] r
  cases p.isOpen with
  | false => exact .silent h
  | true => exact .inside h

/-- A value without a conversation. -/
theorem talks_pure {a : α} (h : T [] (.ok a)) : Talks f ctx (pure a) T :=
  talks_of_run h fun _ => rfl

/-- A failure without a conversation. -/
theorem talks_throw {e : Error} (h : T [] (.error e)) : Talks f ctx (throw e) T :=
  talks_of_run h fun _ => rfl

/-- What follows from the shape of a conversation. -/
theorem Talks.imp {x : Running (Filling (σ × List Record)) α} {T' : Talk α} (hx : Talks f ctx x T)
    (hT : ∀ xs r, T xs r → T' xs r) : Talks f ctx x T' := by
  intro p
  refine (hx p).imp ?_
  rintro r p' ⟨records, hrecords, h⟩
  exact ⟨records, hrecords, h.imp hT⟩

/-- The rule for compound steps: the conversations of the parts follow one another. -/
theorem Talks.bind {x : Running (Filling (σ × List Record)) α}
    {g : α → Running (Filling (σ × List Record)) β} {T : Talk α} {U : α → Talk β} {V : Talk β}
    (hx : Talks f ctx x T) (hg : ∀ a, Talks f ctx (g a) (U a))
    (hok : ∀ xs a ys r, T xs (.ok a) → U a ys r → V (xs ++ ys) r)
    (herror : ∀ xs e, T xs (.error e) → V xs (.error e)) : Talks f ctx (x >>= g) V := by
  intro p
  refine (hx p).bind ?_ ?_
  -- The second computation goes on with the session that the first one has left.
  · rintro a p' ⟨records, hrecords, h⟩
    refine (hg a p').imp ?_
    rintro r p'' ⟨records', hrecords', h'⟩
    refine ⟨records ++ records', ?_, h.append h' fun xs ys r => hok xs a ys r⟩
    rw [hrecords', hrecords, List.append_assoc]
  · rintro e p' ⟨records, hrecords, h⟩
    exact ⟨records, hrecords, h.error herror⟩

/-- Naming the token of failed code changes the errors, and nothing that is said. -/
theorem Talks.ofToken {x : Running (Filling (σ × List Record)) α} {V : Talk α} (name : String)
    (hx : Talks f ctx x T) (hV : ∀ xs r, T xs r → V xs (r.mapError (Filler.ofToken name))) :
    Talks f ctx (tryCatch x fun e => throw (Filler.ofToken name e)) V := by
  intro p
  have h := hx p
  rw [ends_iff] at h ⊢
  rw [run_tryCatch]
  -- The records are the same; only an error is changed on its way out.
  rcases hrun : x.run p with ⟨r, p'⟩
  rw [hrun] at h
  obtain ⟨records, hrecords, h⟩ := h
  have hmapped := h.ofToken name hV
  cases r with
  | ok a => exact ⟨records, hrecords, hmapped⟩
  | error e => exact ⟨records, hrecords, hmapped⟩

/-! Calls to the engine -/

/-- Opening a session where none is open is one call, which is recorded. -/
theorem ends_openSession {p : Filling (σ × List Record)}
    {Q : Except Error Unit → Filling (σ × List Record) → Prop} :
    Ends (f.recorded.openSession ctx) p Q ↔
      if p.isOpen then Q (.ok ()) p
      else match f.engine.openSession ctx f.preamble? p.engine.1 with
        | (.error e, s) => Q (.error (failure "preamble" e))
            ⟨(s, p.engine.2 ++ [.opening ctx f.preamble? (.error e)]), p.isOpen⟩
        | (.ok _, s) => Q (.ok ())
            ⟨(s, p.engine.2 ++ [.opening ctx f.preamble? (.ok ())]), true⟩ := by
  -- A recorded call is the call with its record behind the others.
  have hcall : call (f.recorded.engine.openSession ctx f.recorded.preamble?) p =
      ((f.engine.openSession ctx f.preamble? p.engine.1).1,
        ⟨((f.engine.openSession ctx f.preamble? p.engine.1).2, p.engine.2 ++
          [.opening ctx f.preamble? (f.engine.openSession ctx f.preamble? p.engine.1).1]),
          p.isOpen⟩) := rfl
  unfold openSession
  rw [ends_bind, ends_get]
  dsimp only
  -- A session that is open is not opened again.
  split
  · exact ends_pure
  · rw [ends_bind, ends_lift, hcall]
    rcases f.engine.openSession ctx f.preamble? p.engine.1 with ⟨e | _, s⟩
    · exact ends_throw
    · exact ends_modify

/-- In an open session, the request is made and its answer gone on with. -/
theorem ends_ask (request : Request)
    {g : Except CodeFailure CodeResult → Running (Filling (σ × List Record)) α}
    {U : Except CodeFailure CodeResult → Talk α} (hg : ∀ a, Talks f ctx (g a) (U a))
    {p : Filling (σ × List Record)} (hp : p.isOpen = true) :
    Ends (liftM (call (f.recorded.engine.ask request)) >>= g) p fun r p' =>
      ∃ a xs, p'.engine.2 = p.engine.2 ++ asked ((request, a) :: xs) ∧ p'.isOpen = true ∧ U a xs r := by
  have hcall : call (f.recorded.engine.ask request) p =
      ((f.engine.ask request p.engine.1).1, ⟨((f.engine.ask request p.engine.1).2,
        p.engine.2 ++ [.exchange (request, (f.engine.ask request p.engine.1).1)]), p.isOpen⟩) := by
    cases request <;> rfl
  rw [ends_bind, ends_lift, hcall]
  refine (hg _ _).imp ?_
  rintro r p' ⟨records, hrecords, h⟩
  change Holds f ctx _ p.isOpen p'.isOpen records r at h
  rw [hp] at h
  generalize p'.isOpen = after at h
  -- The session is open, so what follows is said inside it.
  cases h with
  | inside h =>
    refine ⟨_, _, ?_, rfl, h⟩
    rw [hrecords, List.append_assoc]
    rfl

/-- A step that opens a session to make a request, and goes on with the answer. If no session can be
    opened, it fails as it does with an answer that is a failure. -/
theorem talks_ask (request : Request)
    {g : Except CodeFailure CodeResult → Running (Filling (σ × List Record)) α}
    {U : Except CodeFailure CodeResult → Talk α} {V : Talk α} (hg : ∀ a, Talks f ctx (g a) (U a))
    (hV : ∀ a xs r, U a xs r → V ((request, a) :: xs) r) (origin : String)
    (hfailed : ∀ message,
      U (.error (.failed message)) [] (.error (.codeExecution origin message none))) :
    Talks f ctx
      (f.recorded.openSession ctx >>= fun _ => liftM (call (f.recorded.engine.ask request)) >>= g)
      V := by
  intro p
  rw [ends_bind, ends_openSession]
  -- Either the session is open, or it is opened for this request.
  split
  · rename_i hopen
    refine (ends_ask request hg hopen).imp ?_
    rintro r p' ⟨a, xs, hrecords, hp', h⟩
    refine ⟨_, hrecords, ?_⟩
    rw [hopen, hp']
    exact .inside (hV a xs r h)
  · rename_i hopen
    rw [Bool.not_eq_true] at hopen
    rcases f.engine.openSession ctx f.preamble? p.engine.1 with ⟨e | _, s⟩
    · -- No session: the request is not made, and what it would have failed with is all that is known.
      refine ⟨_, rfl, ?_⟩
      show Holds f ctx V p.isOpen p.isOpen _ _
      rw [hopen]
      exact .refused fun message => hV _ _ _ (hfailed message)
    · refine (ends_ask request hg rfl).imp ?_
      rintro r p' ⟨a, xs, hrecords, hp', h⟩
      refine ⟨_, hrecords.trans (List.append_assoc _ _ _), ?_⟩
      rw [hopen, hp']
      exact .opened (hV a xs r h)

/-! Holes -/

/-- A block of code is run, and nothing else is asked. -/
theorem talks_block (origin : String) (code : List Char) :
    Talks f ctx (f.recorded.block ctx origin code) (BlockTalk origin code) := by
  have hexecute : Talks f ctx (f.recorded.execute ctx origin code) fun xs r =>
      ∃ answer, xs = [(.execute (.ofList (dedentBlock code)), answer)] ∧
        r = answer.mapError (failure origin) := by
    -- The block is run once, and its answer is the result.
    refine talks_ask (.execute (.ofList (dedentBlock code)))
      (U := fun answer xs r => xs = [] ∧ r = answer.mapError (failure origin)) ?_ ?_ origin
      fun _ => ⟨rfl, rfl⟩
    · rintro (e | x)
      · exact talks_throw ⟨rfl, rfl⟩
      · exact talks_pure ⟨rfl, rfl⟩
    · rintro answer _ r ⟨rfl, hr⟩
      exact ⟨answer, rfl, hr⟩
  refine hexecute.bind (U := fun x xs r => xs = [] ∧ r = .ok (textOfBlock x))
    (fun x => talks_pure ⟨rfl, rfl⟩) ?_ ?_
  · rintro _ x _ _ ⟨e | _, rfl, hx⟩ ⟨rfl, rfl⟩
    · cases hx
    · cases hx
      exact .run (.ok x)
  · rintro _ e ⟨e' | _, rfl, he⟩
    · cases he
      exact .run (.error e')
    · cases he

/-- An expression is evaluated, and nothing else is asked. -/
theorem talks_expression (code : List Char) :
    Talks f ctx (f.recorded.expression ctx code)
      (ExpressionTalk "\x7bmp.py:...\x7d expression" code) := by
  unfold expression
  generalize "\x7bmp.py:...\x7d expression" = origin
  refine talks_ask (.evaluate (.ofList (Chars.trim code)))
    (U := fun answer xs r => xs = [] ∧ r = (answer.map textOfExpression).mapError (failure origin))
    ?_ ?_ origin fun _ => ⟨rfl, rfl⟩
  -- A fault of the engine is reported with the origin; an answer is written as text.
  · rintro (e | x)
    · exact talks_throw ⟨rfl, rfl⟩
    · exact talks_pure ⟨rfl, rfl⟩
  · rintro answer _ _ ⟨rfl, rfl⟩
    exact .run answer

/-- The code of a token is run as an expression or as a block. -/
theorem talks_runToken (name code : String) :
    Talks f ctx (f.recorded.runToken ctx name code)
      (CodeTalk ("token \"" ++ name ++ "\"") code.toList) := by
  simp only [runToken]
  generalize "token \"" ++ name ++ "\"" = origin
  split
  · rename_i hbreak
    exact (talks_block _ _).imp fun _ _ => .lines (by simpa using hbreak)
  · rename_i hbreak
    have hbreak : '\n' ∉ code.toList := by simpa using hbreak
    split
    · rename_i hblank
      exact talks_pure (.blank hbreak (by simpa using hblank))
    · rename_i hcode
      have hcode : Chars.trim code.toList ≠ [] := by simpa using hcode
      -- The answer settles whether there is a second request.
      refine talks_ask (.evaluate (.ofList (Chars.trim code.toList)))
        (U := fun answer xs r =>
          (∃ message, answer = .error (.unreadable message) ∧ BlockTalk origin code.toList xs r) ∨
            (∀ message, answer ≠ .error (.unreadable message)) ∧ xs = [] ∧
              r = (answer.map textOfExpression).mapError (failure origin))
        ?_ ?_ origin fun _ => .inr ⟨by simp, rfl, rfl⟩
      · intro answer
        rcases answer with (message | _) | _
        · exact (talks_block _ _).imp fun _ _ h => .inl ⟨message, rfl, h⟩
        · exact talks_throw (.inr ⟨by simp, rfl, rfl⟩)
        · exact talks_pure (.inr ⟨by simp, rfl, rfl⟩)
      · rintro answer xs r (⟨message, rfl, h⟩ | ⟨hreadable, rfl, rfl⟩)
        · exact .fallback hbreak hcode message h
        · exact .expression hbreak hcode answer hreadable

/-- A token is looked up, and its code is run if it has some. -/
theorem talks_token (name : String) :
    Talks f ctx (f.recorded.token ctx name) (NameTalk ctx name) := by
  unfold token
  split
  · rename_i code hname
    exact (talks_runToken name code).ofToken name fun _ _ => .code hname
  · rename_i hname
    split
    · rename_i value hvalue
      exact talks_pure (.value hname hvalue)
    · rename_i hvalue
      exact talks_throw (.unknown hname hvalue)

/-- A placeholder is filled in by its form. -/
theorem talks_hole (form : Form) (code : List Char) :
    Talks f ctx (f.recorded.hole ctx form code) (HoleTalk ctx form code) := by
  cases form with
  | block => exact talks_block _ code
  | expression => exact talks_expression code
  | name => exact talks_token _

/-! Passes -/

/-- The placeholders of a text are filled in from the left, up to the first failure. -/
theorem talks_fillHoles {g : List Char → Running (Filling (σ × List Record)) String}
    {hole : List Char → Talk String} (hg : ∀ code, Talks f ctx (g code) (hole code))
    (pieces : List Piece) : Talks f ctx (fillHoles g pieces) (PiecesTalk hole pieces) := by
  -- A plain piece has no exchange of its own.
  induction pieces with
  | nil => exact talks_pure .nil
  | cons piece pieces ih =>
    cases piece with
    | plain text =>
      refine ih.bind (U := fun t xs r => xs = [] ∧ r = .ok (text ++ t))
        (fun t => talks_pure ⟨rfl, rfl⟩) ?_ ?_
      · rintro xs t _ _ h ⟨rfl, rfl⟩
        rw [List.append_nil]
        exact .plain text h
      · intro xs e h
        exact .plain text h
    -- What is filled in is put in front of the rest, whose exchanges follow.
    | hole code =>
      refine (hg code).bind (U := fun v ys r => ∃ t, PiecesTalk hole pieces ys t ∧
        r = t.map (v.toList ++ ·)) (fun v => ?_) ?_ fun xs e h => .failed h
      · refine ih.bind (U := fun t xs r => xs = [] ∧ r = .ok (v.toList ++ t))
          (fun t => talks_pure ⟨rfl, rfl⟩) ?_ ?_
        · rintro xs t _ _ h ⟨rfl, rfl⟩
          rw [List.append_nil]
          exact ⟨_, h, rfl⟩
        · intro xs e h
          exact ⟨_, h, rfl⟩
      · rintro xs v ys _ hv ⟨t, h, rfl⟩
        exact .filled hv h

/-- The passes go over the text one after the other, up to the first failure. -/
theorem talks_passes (forms : List Form) (text : List Char) :
    Talks f ctx
      (do return String.ofList (← forms.foldlM (fun text form => f.recorded.pass ctx form text) text))
      (PassesTalk ctx forms text) := by
  induction forms generalizing text with
  | nil => exact talks_pure (.nil text)
  | cons form forms ih =>
    rw [List.foldlM_cons, bind_assoc]
    exact (talks_fillHoles (talks_hole form) _).bind ih (fun _ _ _ _ => .next) fun _ _ => .failed

end Talks

/-- A text without a brace is not looked into, and would not give anything to run. -/
theorem passesTalk_of_notMem (ctx : Context) (forms : List Form) {text : List Char}
    (h : '\x7b' ∉ text) : PassesTalk ctx forms text [] (.ok (.ofList text)) := by
  induction forms with
  | nil => exact .nil text
  | cons form forms ih =>
    have hpass : PiecesTalk (HoleTalk ctx form) (form.pieces text) [] (.ok text) := by
      rw [Placeholder.pieces_of_notMem h]
      have hnil : PiecesTalk (HoleTalk ctx form) [] [] (.ok []) := .nil
      simpa [Except.map] using hnil.plain text
    exact .next hpass ih

/-- Filling in a text is such a conversation. -/
theorem holds_fill (f : Filler σ) (ctx : Context) (text : String) (s : σ) :
    ∃ after, Holds f ctx (PassesTalk ctx passes text.toList) false after
      ((f.recorded.fill ctx text).run (s, [])).2.2 ((f.recorded.fill ctx text).run (s, [])).1 := by
  unfold fill
  -- Without a brace nothing is said.
  split
  · have htalks : Talks f ctx _ (PassesTalk ctx passes text.toList) := talks_passes passes text.toList
    obtain ⟨records, hrecords, h⟩ := ends_iff.1 (htalks ⟨(s, []), false⟩)
    rw [List.nil_append] at hrecords
    rw [← hrecords] at h
    exact ⟨_, h⟩
  · rename_i hbrace
    have hbrace : '\x7b' ∉ text.toList := by simpa using hbrace
    have hplain := passesTalk_of_notMem ctx passes hbrace
    rw [String.ofList_toList] at hplain
    exact ⟨false, .silent hplain⟩

/-- **Conversations of a substitution.** For every engine, context, preamble and text, filling the text does
    the same whether its calls are recorded or not, and these calls are one of the following:

    * none, and the text has nothing to run;
    * a session is opened, with the preamble, and then the blocks of the text are executed, the expressions
      of what is left are evaluated, and the code of the tokens that are named in what is then left is run,
      each from the left, up to the first failure, which is that of the text;
    * a session is refused where the first request would have been made, nothing else is asked, and the text
      fails as it would have failed with that request. -/
theorem fill_converses (f : Filler σ) (ctx : Context) (text : String) (s : σ) :
    let run := (f.recorded.fill ctx text).run (s, [])
    let talk := PassesTalk ctx [.block, .expression, .name] text.toList
    (f.fill ctx text).run s = (run.1, run.2.1) ∧
    ((run.2.2 = [] ∧ talk [] run.1) ∨
    (∃ x xs, run.2.2 = .opening ctx f.preamble? (.ok ()) :: asked (x :: xs) ∧
      talk (x :: xs) run.1) ∨
    ∃ e request origin token?, run.2.2 = [.opening ctx f.preamble? (.error e)] ∧
      (∀ message, talk [(request, .error (.failed message))]
        (.error (.codeExecution origin message token?))) ∧
      run.1 = .error (.codeExecution "preamble" e.message token?)) := by
  intro run talk
  refine ⟨run_fill_of_watched (f.simulates_recorded ctx) text s [], ?_⟩
  obtain ⟨after, h⟩ : ∃ after, Holds f ctx talk false after run.2.2 run.1 :=
    holds_fill f ctx text s
  generalize run.2.2 = records at h ⊢
  generalize run.1 = r at h ⊢
  -- The three shapes of what was said are the three cases of the theorem.
  cases h with
  | silent h => exact .inl ⟨rfl, h⟩
  | opened h => exact .inr (.inl ⟨_, _, rfl, h⟩)
  | refused h => exact .inr (.inr ⟨_, _, _, _, rfl, h, rfl⟩)

end Filler

end Scaffold
