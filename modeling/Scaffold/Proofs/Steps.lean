namespace Scaffold

/-!
# Postconditions of steps

Building and generation are made of steps that may fail and that change a state, that of an engine
or that of a run. Two ways to speak about such a step:

* `Ends x s Q` — started in the state `s`, the step `x` ends with a result and a state that satisfy `Q`.
  The laws `ends_*` take a step apart along its `do` block;
* `Yields x G B` — from every state, `x` gives a value that satisfies `G` or fails with an error that
  satisfies `B`. It forgets the state, so it composes without any bookkeeping.
-/

/-- A step that may fail with an `ε` and that changes a state in `σ`. -/
abbrev Step (ε σ α : Type) : Type := ExceptT ε (StateM σ) α

variable {ε σ α β : Type}

/-! ### Runs of compound steps -/

/-- Steps are the same if all their runs are. -/
theorem step_ext {x y : Step ε σ α} (h : ∀ s, x.run s = y.run s) : x = y := funext h

/-- A compound step goes on from the state in which its first part ends. -/
theorem run_bind (x : Step ε σ α) (f : α → Step ε σ β) (s : σ) :
    (x >>= f).run s =
      match x.run s with
      | (.ok a, s') => (f a).run s'
      | (.error e, s') => (.error e, s') := by
  show (match x.run s with
    | (r, s') => ExceptT.bindCont f r s') = _
  rcases x.run s with ⟨_ | _, _⟩ <;> rfl

/-- Catching an error goes on from the state in which the step failed. -/
theorem run_tryCatch (x : Step ε σ α) (f : ε → Step ε σ α) (s : σ) :
    (tryCatch x f).run s =
      match x.run s with
      | (.ok a, s') => (.ok a, s')
      | (.error e, s') => (f e).run s' := by
  show (match x.run s with
    | (r, s') => (match r with
      | Except.ok a => pure (Except.ok a)
      | Except.error e => (f e).run : StateM σ (Except ε α)) s') = _
  rcases x.run s with ⟨_ | _, _⟩ <;> rfl

/-- Saying errors in another way changes neither the values nor the states. -/
theorem run_adapt {ε' : Type} (f : ε → ε') (x : Step ε σ α) (s : σ) :
    (ExceptT.adapt f x : Step ε' σ α).run s =
      match x.run s with
      | (.ok a, s') => (.ok a, s')
      | (.error e, s') => (.error (f e), s') := by
  show (match x.run s with
    | (r, s') => (Except.mapError f r, s')) = _
  rcases x.run s with ⟨_ | _, _⟩ <;> rfl

/-! ### Runs that can be evaluated -/

/-- Whether a step without states fails with `e`. -/
def failsWith [DecidableEq ε] (x : Step ε Unit α) (e : ε) : Bool :=
  match (x.run ()).1 with
  | .ok _ => false
  | .error e' => decide (e' = e)

/-- A step that is known to fail, by computation. -/
theorem run_of_failsWith [DecidableEq ε] {x : Step ε Unit α} {e : ε} (h : failsWith x e = true) :
    x.run () = (.error e, ()) := by
  unfold failsWith at h
  rcases hrun : x.run () with ⟨e' | a, _⟩
  · rw [hrun] at h
    rw [of_decide_eq_true h]
  · rw [hrun] at h
    cases h

/-! ### Postconditions of one run -/

/-- Started in `s`, the step `x` ends with a result and a state that satisfy `Q`. It is not to be unfolded
    by itself, since that would run `x`. -/
@[irreducible]
def Ends (x : Step ε σ α) (s : σ) (Q : Except ε α → σ → Prop) : Prop :=
  Q (x.run s).1 (x.run s).2

/-- How a step ends is what running it gives. -/
theorem ends_iff {x : Step ε σ α} {s : σ} {Q : Except ε α → σ → Prop} :
    Ends x s Q ↔ Q (x.run s).1 (x.run s).2 := by
  unfold Ends
  exact Iff.rfl

/-- What follows from how a step ends. -/
theorem Ends.imp {x : Step ε σ α} {s : σ} {P Q : Except ε α → σ → Prop} (h : Ends x s P)
    (hPQ : ∀ r s', P r s' → Q r s') : Ends x s Q := by
  rw [ends_iff] at h ⊢
  exact hPQ _ _ h

/-- Two statements about how a step ends. -/
theorem Ends.and {x : Step ε σ α} {s : σ} {P Q : Except ε α → σ → Prop} (hP : Ends x s P)
    (hQ : Ends x s Q) : Ends x s fun r s' => P r s' ∧ Q r s' := by
  rw [ends_iff] at hP hQ ⊢
  exact ⟨hP, hQ⟩

/-- A value ends the step in the same state. -/
theorem ends_pure {a : α} {s : σ} {Q : Except ε α → σ → Prop} :
    Ends (pure a) s Q ↔ Q (.ok a) s := ends_iff

/-- A failure ends the step in the same state. -/
theorem ends_throw {e : ε} {s : σ} {Q : Except ε α → σ → Prop} :
    Ends (throw e : Step ε σ α) s Q ↔ Q (.error e) s := ends_iff

/-- The state is given, and stays as it is. -/
theorem ends_get {s : σ} {Q : Except ε σ → σ → Prop} :
    Ends (get : Step ε σ σ) s Q ↔ Q (.ok s) s := ends_iff

/-- The state is put in place of the old one. -/
theorem ends_set {s s' : σ} {Q : Except ε PUnit → σ → Prop} :
    Ends (set s' : Step ε σ PUnit) s Q ↔ Q (.ok ⟨⟩) s' := ends_iff

/-- The state is changed. -/
theorem ends_modify {f : σ → σ} {s : σ} {Q : Except ε PUnit → σ → Prop} :
    Ends (modify f : Step ε σ PUnit) s Q ↔ Q (.ok ⟨⟩) (f s) := ends_iff

/-- A step that cannot fail ends with its value. -/
theorem ends_lift {x : StateM σ α} {s : σ} {Q : Except ε α → σ → Prop} :
    Ends (liftM x : Step ε σ α) s Q ↔ Q (.ok (x s).1) (x s).2 := ends_iff

/-- A compound step ends as its second part does, unless the first part fails. -/
theorem ends_bind {x : Step ε σ α} {f : α → Step ε σ β} {s : σ} {Q : Except ε β → σ → Prop} :
    Ends (x >>= f) s Q ↔
      Ends x s fun r s' =>
        match r with
        | .ok a => Ends (f a) s' Q
        | .error e => Q (.error e) s' := by
  rw [ends_iff, ends_iff, run_bind]
  rcases x.run s with ⟨_ | a, s'⟩
  · exact Iff.rfl
  · exact ends_iff.symm

/-- The rule for proofs: what the first part gives is all that the second one may rely on. -/
theorem Ends.bind {x : Step ε σ α} {f : α → Step ε σ β} {s : σ} {P : Except ε α → σ → Prop}
    {Q : Except ε β → σ → Prop} (hx : Ends x s P)
    (hok : ∀ a s', P (.ok a) s' → Ends (f a) s' Q)
    (herror : ∀ e s', P (.error e) s' → Q (.error e) s') : Ends (x >>= f) s Q := by
  rw [ends_bind]
  refine hx.imp ?_
  intro r s' h
  cases r with
  | ok a => exact hok a s' h
  | error e => exact herror e s' h

/-! ### Postconditions of all runs -/

/-- From every state, `x` gives a value in `G` or fails with an error in `B`. -/
def Yields (x : Step ε σ α) (G : α → Prop) (B : ε → Prop) : Prop :=
  ∀ s, Ends x s fun r _ =>
    match r with
    | .ok a => G a
    | .error e => B e

section Yields

variable {G G' : α → Prop} {H : β → Prop} {B B' : ε → Prop}

/-- A value that is good. -/
theorem yields_pure {a : α} (h : G a) : Yields (pure a : Step ε σ α) G B :=
  fun _ => ends_pure.2 h

/-- A failure that is allowed. -/
theorem yields_throw {e : ε} (h : B e) : Yields (throw e : Step ε σ α) G B :=
  fun _ => ends_throw.2 h

/-- The state, of which nothing is asked. -/
theorem yields_get : Yields (get : Step ε σ σ) (fun _ => True) B :=
  fun _ => ends_get.2 trivial

/-- A change of the state, of which nothing is asked. -/
theorem yields_modify (f : σ → σ) : Yields (modify f : Step ε σ PUnit) (fun _ => True) B :=
  fun _ => ends_modify.2 trivial

/-- A step that cannot fail gives a value, of which nothing is known. -/
theorem yields_lift (x : StateM σ α) : Yields (liftM x : Step ε σ α) (fun _ => True) B :=
  fun _ => ends_iff.2 trivial

/-- What follows from a property of the value and of the failure. -/
theorem Yields.imp {x : Step ε σ α} (h : Yields x G B) (hG : ∀ a, G a → G' a)
    (hB : ∀ e, B e → B' e) : Yields x G' B' := by
  intro s
  refine (h s).imp ?_
  rintro (e | a) _ hr
  · exact hB e hr
  · exact hG a hr

/-- Weaker errors, the same values. -/
theorem Yields.error_imp {x : Step ε σ α} (h : Yields x G B) (hB : ∀ e, B e → B' e) :
    Yields x G B' := h.imp (fun _ => id) hB

/-- One step behind the other: what the first one gives may be used for the second. -/
theorem Yields.bind {x : Step ε σ α} {f : α → Step ε σ β} (hx : Yields x G B)
    (hf : ∀ a, G a → Yields (f a) H B) : Yields (x >>= f) H B :=
  fun s => (hx s).bind (fun a s' ha => hf a ha s') fun _ _ he => he

/-- A first part of whose value nothing is known. -/
theorem Yields.bind_any {x : Step ε σ α} {f : α → Step ε σ β} (hx : Yields x (fun _ => True) B)
    (hf : ∀ a, Yields (f a) H B) : Yields (x >>= f) H B :=
  hx.bind fun a _ => hf a

/-- A step that turns each error into another one fails with the errors that come of it. -/
theorem Yields.mapError {x : Step ε σ α} {f : ε → ε} (hx : Yields x G B)
    (hf : ∀ e, B e → B' (f e)) : Yields (tryCatch x fun e => throw (f e)) G B' := by
  intro s
  have h := hx s
  rw [ends_iff] at h ⊢
  rw [run_tryCatch]
  rcases hr : x.run s with ⟨e | a, s'⟩
  · rw [hr] at h
    exact hf e h
  · rw [hr] at h
    exact h

/-- A value or an error that a run ends with is one of those foretold. -/
theorem Yields.ok_of_run {x : Step ε σ α} (h : Yields x G B) {s s' : σ} {a : α}
    (hr : x.run s = (.ok a, s')) : G a := by
  have := ends_iff.1 (h s)
  rw [hr] at this
  exact this

/-- The failure of a step that was run is one that is allowed. -/
theorem Yields.error_of_run {x : Step ε σ α} (h : Yields x G B) {s : σ} {e : ε}
    (hr : (x.run s).1 = .error e) : B e := by
  have := ends_iff.1 (h s)
  rw [hr] at this
  exact this

end Yields

end Scaffold
