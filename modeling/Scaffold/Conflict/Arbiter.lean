import Scaffold.Conflict
import Scaffold.Error

/-!
# Deciding conflicts

Answering conflicts by a policy or by asking. What is chosen for all is remembered for files and for
folders on their own.

* `Arbiter.decide` decides one conflict; a prompt that fails cancels.
* `Arbiter.takeFailure` gives the failure of a prompt, once.
-/

namespace Scaffold.Conflict

/-- What asks a user, with states in `π`. -/
abbrev Prompt (π : Type) := Question → StateM π (Except Error Choice)

/-- What an arbiter remembers. -/
structure Arbiter (π : Type) where
  prompt : π
  fileDefault? : Option Decision := none
  folderDefault? : Option Decision := none
  error? : Option Error := none

namespace Arbiter

variable {π : Type}

/-- The decision remembered for a kind. -/
def default? (r : Arbiter π) (isFolder : Bool) : Option Decision :=
  if isFolder then r.folderDefault? else r.fileDefault?

/-- Remembers a choice that stands for later conflicts of its kind. -/
def remember (r : Arbiter π) (isFolder : Bool) (c : Choice) : Arbiter π :=
  if !c.isLasting then r
  else if isFolder then { r with folderDefault? := some c.decision }
  else { r with fileDefault? := some c.decision }

def decide (policy : Policy) (ask : Prompt π) (q : Question) : StateM (Arbiter π) Decision :=
  fun r =>
    match policy.decision? with
    | some d => (d, r)
    | none =>
      match r.default? q.isFolder with
      | some d => (d, r)
      | none =>
        match ask q r.prompt with
        | (.ok c, p) => (c.decision, { r with prompt := p }.remember q.isFolder c)
        | (.error e, p) => (.cancel, { r with prompt := p, error? := some e })

/-- The latest failure of the prompt since the last time it was taken. -/
def takeFailure : StateM (Arbiter π) (Option Error) :=
  fun r => (r.error?, { r with error? := none })

/-- An arbiter as the callback of a generation. -/
def callback (policy : Policy) (ask : Prompt π) : Callback (Arbiter π) :=
  fun _ q => decide policy ask q

end Arbiter

end Scaffold.Conflict
