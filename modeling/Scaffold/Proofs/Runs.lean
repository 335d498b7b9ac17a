namespace Scaffold

/-!
# Runs of steps that lose their state when they fail

Templates run in steps that change a state and that leave nothing behind when they fail.

* The laws `apply_*` run a step along its `do` block;
* `Returns x P` — if the result `x` is a value, it satisfies `P`;
* `Gives x s Q` — if the step `x` succeeds from the state `s`, its value and the state behind it satisfy `Q`;
* `Tracks R x s x' s' P` — if `x` succeeds from `s`, then `x'` succeeds from `s'` with the same value, which
  satisfies `P`, and the states behind them are related by `R`.
-/

variable {ε σ σ' α β : Type}

/-! ### Running steps -/

@[simp] theorem apply_pure (a : α) (s : σ) : (pure a : StateT σ (Except ε) α) s = .ok (a, s) := rfl

@[simp] theorem apply_throw (e : ε) (s : σ) : (throw e : StateT σ (Except ε) α) s = .error e := rfl

@[simp] theorem apply_get (s : σ) : (get : StateT σ (Except ε) σ) s = .ok (s, s) := rfl

@[simp] theorem apply_set (s s' : σ) : (set s' : StateT σ (Except ε) PUnit) s = .ok (⟨⟩, s') := rfl

@[simp] theorem apply_modify (f : σ → σ) (s : σ) : (modify f : StateT σ (Except ε) PUnit) s = .ok (⟨⟩, f s) := rfl

/-- One step behind the other starts where the first one ends, and fails with it. -/
theorem apply_bind (x : StateT σ (Except ε) α) (f : α → StateT σ (Except ε) β) (s : σ) :
    (x >>= f) s = match x s with
      | .ok (a, s') => f a s'
      | .error e => .error e := by
  show Except.bind (x s) (fun r => f r.1 r.2) = _
  rcases x s with _ | ⟨_, _⟩ <;> rfl

/-- Behind a step that succeeds, the next one is run. -/
theorem apply_bind_of_eq_ok {x : StateT σ (Except ε) α} {f : α → StateT σ (Except ε) β} {s s' : σ} {a : α}
    (h : x s = .ok (a, s')) : (x >>= f) s = f a s' := by
  rw [apply_bind, h]

/-- A function of the value leaves the state as the step does. -/
theorem apply_map (f : α → β) (x : StateT σ (Except ε) α) (s : σ) :
    (f <$> x) s = match x s with
      | .ok (a, s') => .ok (f a, s')
      | .error e => .error e := by
  show Except.bind (x s) (fun r => .ok (f r.1, r.2)) = _
  rcases x s with _ | ⟨_, _⟩ <;> rfl

/-! ### Results without a state -/

/-- If `x` is a value, it satisfies `P`. -/
def Returns (x : Except ε α) (P : α → Prop) : Prop := ∀ a, x = .ok a → P a

section Returns

variable {P : α → Prop} {Q : β → Prop}

/-- A value that is given satisfies what is asked. -/
theorem returns_ok {a : α} : Returns (.ok a : Except ε α) P ↔ P a :=
  ⟨fun h => h a rfl, fun h b hb => by cases hb; exact h⟩

/-- A value that is given satisfies what is asked. -/
theorem returns_pure {a : α} : Returns (pure a : Except ε α) P ↔ P a := returns_ok

/-- A failure gives nothing, so nothing is asked. -/
theorem returns_error {e : ε} : Returns (.error e : Except ε α) P := fun _ h => by cases h

/-- What follows from the property of a value is one of its properties. -/
theorem Returns.imp {P' : α → Prop} {x : Except ε α} (h : Returns x P) (hP : ∀ a, P a → P' a) : Returns x P' :=
  fun a ha => hP a (h a ha)

/-- Every value satisfies what is always true. -/
theorem returns_any {x : Except ε α} : Returns x fun _ => True := fun _ _ => trivial

/-- One result behind the other. -/
theorem Returns.bind {x : Except ε α} {f : α → Except ε β} (h : Returns x P) (hf : ∀ a, P a → Returns (f a) Q) :
    Returns (x >>= f) Q := by
  intro b hb
  cases x with
  | error e => cases hb
  | ok a => exact hf a (h a rfl) b hb

/-- One result for each item; the induction is on the items. -/
theorem returns_mapM {xs : List α} {f : α → Except ε β} (h : ∀ a ∈ xs, Returns (f a) Q) :
    Returns (xs.mapM f) fun ys => ∀ y ∈ ys, Q y := by
  induction xs with
  | nil => exact returns_pure.2 fun _ hy => by cases hy
  | cons a xs ih =>
    rw [List.mapM_cons]
    refine (h a List.mem_cons_self).bind fun y hy => ?_
    refine (ih fun b hb => h b (List.mem_cons_of_mem _ hb)).bind fun ys hys => ?_
    exact returns_pure.2 (List.forall_mem_cons.2 ⟨hy, hys⟩)

/-- Going through a list gives what the step gives for each element, or the step fails for one of them and the rest is
    not gone through. -/
theorem mapM_cases [Inhabited β] (f : α → Except ε β) (xs : List α) :
    (∃ g, xs.mapM f = .ok (xs.map g) ∧ ∀ a ∈ xs, f a = .ok (g a)) ∨
      ∃ e, ∃ a ∈ xs, f a = .error e ∧ xs.mapM f = .error e := by
  -- The value where there is one.
  let g (a : α) : β := (f a).toOption.getD default
  have hvalue : ∀ a b, f a = .ok b → f a = .ok (g a) := by
    intro a b h
    simp only [g, h, Except.toOption, Option.getD_some]
  suffices h : (xs.mapM f = .ok (xs.map g) ∧ ∀ a ∈ xs, f a = .ok (g a)) ∨
      ∃ e, ∃ a ∈ xs, f a = .error e ∧ xs.mapM f = .error e from h.imp_left fun h => ⟨g, h⟩
  induction xs with
  | nil => exact .inl ⟨rfl, fun _ ha => absurd ha List.not_mem_nil⟩
  | cons a xs ih =>
    rw [List.mapM_cons]
    -- The first value that is missing decides; until then the results are put together.
    cases hfirst : f a with
    | error e => exact .inr ⟨e, a, List.mem_cons_self, hfirst, rfl⟩
    | ok b =>
      have hb := hvalue a b hfirst
      rcases ih with ⟨hrest, hall⟩ | ⟨e, c, hc, hfails, hrest⟩
      · refine .inl ⟨?_, List.forall_mem_cons.2 ⟨hb, hall⟩⟩
        rw [← hfirst, hb, hrest]
        rfl
      · refine .inr ⟨e, c, List.mem_cons_of_mem _ hc, hfails, ?_⟩
        rw [hrest]
        rfl

/-- A fold keeps a property of its state if each round does. -/
theorem returns_foldlM {xs : List α} {f : β → α → Except ε β} {b : β} (hb : Q b)
    (h : ∀ b, Q b → ∀ a ∈ xs, Returns (f b a) Q) : Returns (xs.foldlM f b) Q := by
  induction xs generalizing b with
  | nil => exact returns_pure.2 hb
  | cons a xs ih =>
    rw [List.foldlM_cons]
    exact (h b hb a List.mem_cons_self).bind fun c hc =>
      ih hc fun b hb a ha => h b hb a (List.mem_cons_of_mem _ ha)

end Returns

/-! ### One run -/

/-- If `x` succeeds from `s`, its value and the state behind it satisfy `Q`. -/
def Gives (x : StateT σ (Except ε) α) (s : σ) (Q : α → σ → Prop) : Prop := ∀ a t, x s = .ok (a, t) → Q a t

section Gives

variable {x : StateT σ (Except ε) α} {s : σ} {P Q : α → σ → Prop}

/-- A value is given in the state as it is. -/
theorem gives_pure {a : α} : Gives (pure a : StateT σ (Except ε) α) s Q ↔ Q a s :=
  ⟨fun h => h a s rfl, fun h b t hb => by cases hb; exact h⟩

/-- A failure gives nothing. -/
theorem gives_throw {e : ε} : Gives (throw e : StateT σ (Except ε) α) s Q := fun _ _ h => by cases h

/-- The state is given, and stays as it is. -/
theorem gives_get {Q : σ → σ → Prop} : Gives (get : StateT σ (Except ε) σ) s Q ↔ Q s s :=
  ⟨fun h => h s s rfl, fun h b t hb => by cases hb; exact h⟩

/-- The state is changed, and nothing is given. -/
theorem gives_modify {f : σ → σ} {Q : PUnit → σ → Prop} :
    Gives (modify f : StateT σ (Except ε) PUnit) s Q ↔ Q ⟨⟩ (f s) :=
  ⟨fun h => h ⟨⟩ (f s) rfl, fun h b t hb => by cases hb; exact h⟩

/-- A result that does not depend on the state. -/
theorem gives_lift {y : Except ε α} :
    Gives (liftM y : StateT σ (Except ε) α) s Q ↔ Returns y fun a => Q a s := by
  cases y with
  | error e => exact ⟨fun _ => returns_error, fun _ _ _ h => by cases h⟩
  | ok a => exact Iff.trans (gives_pure (Q := Q)) (returns_ok (P := fun a => Q a s)).symm

/-- What follows from the property of value and state. -/
theorem Gives.imp (h : Gives x s P) (hPQ : ∀ a t, P a t → Q a t) : Gives x s Q :=
  fun a t ha => hPQ a t (h a t ha)

/-- One step behind the other: what the first one gives may be used for the second. -/
theorem Gives.bind {f : α → StateT σ (Except ε) β} {Q : β → σ → Prop} (h : Gives x s P)
    (hf : ∀ a t, P a t → Gives (f a) t Q) : Gives (x >>= f) s Q := by
  intro b t hb
  rw [apply_bind] at hb
  split at hb
  · rename_i a s' ha
    exact hf a s' (h a s' ha) b t hb
  · cases hb

/-- The step behind a value. -/
theorem gives_pure_bind {a : α} {f : α → StateT σ (Except ε) β} {Q : β → σ → Prop} (h : Gives (f a) s Q) :
    Gives ((pure a : StateT σ (Except ε) α) >>= f) s Q := h

/-- What goes on from the state goes on from it. -/
theorem gives_get_bind {f : σ → StateT σ (Except ε) β} {Q : β → σ → Prop} (h : Gives (f s) s Q) :
    Gives ((get : StateT σ (Except ε) σ) >>= f) s Q := h

/-- The step behind a change of the state. -/
theorem gives_modify_bind {g : σ → σ} {f : PUnit → StateT σ (Except ε) β} {Q : β → σ → Prop}
    (h : Gives (f ⟨⟩) (g s) Q) : Gives ((modify g : StateT σ (Except ε) PUnit) >>= f) s Q := h

/-- A function of the value. -/
theorem Gives.map {f : α → β} {Q : β → σ → Prop} (h : Gives x s fun a t => Q (f a) t) : Gives (f <$> x) s Q := by
  intro b t hb
  rw [apply_map] at hb
  split at hb
  · rename_i a s' ha
    cases hb
    exact h a t ha
  · cases hb

end Gives

/-! ### Two runs -/

/-- If `x` succeeds from `s`, then `x'` succeeds from `s'` with the same value, which satisfies `P`, and the
    states behind them are related by `R`. -/
def Tracks (R : σ → σ' → Prop) (x : StateT σ (Except ε) α) (s : σ) (x' : StateT σ' (Except ε) α) (s' : σ')
    (P : α → Prop) : Prop :=
  ∀ a t, x s = .ok (a, t) → ∃ t', x' s' = .ok (a, t') ∧ R t t' ∧ P a

section Tracks

variable {R : σ → σ' → Prop} {x : StateT σ (Except ε) α} {s : σ} {x' : StateT σ' (Except ε) α} {s' : σ'}
  {P Q : α → Prop}

/-- A value that both steps give. -/
theorem tracks_pure {a : α} (h : R s s') (ha : P a) :
    Tracks R (pure a : StateT σ (Except ε) α) s (pure a : StateT σ' (Except ε) α) s' P := by
  intro b t hb
  cases hb
  exact ⟨s', rfl, h, ha⟩

/-- A step does the same from the same state. -/
theorem tracks_refl (x : StateT σ (Except ε) α) (s : σ) : Tracks Eq x s x s fun _ => True :=
  fun _ t h => ⟨t, h, rfl, trivial⟩

/-- Where the first step fails, nothing is asked of the second. -/
theorem tracks_throw {e : ε} : Tracks R (throw e : StateT σ (Except ε) α) s x' s' P := fun _ _ h => by cases h

/-- A change of both states. -/
theorem tracks_modify {f : σ → σ} {f' : σ' → σ'} (h : R (f s) (f' s')) :
    Tracks R (modify f : StateT σ (Except ε) PUnit) s (modify f' : StateT σ' (Except ε) PUnit) s' fun _ => True := by
  intro b t hb
  cases hb
  exact ⟨f' s', rfl, h, trivial⟩

/-- What follows from the property of a value is one of its properties. -/
theorem Tracks.imp (h : Tracks R x s x' s' P) (hPQ : ∀ a, P a → Q a) : Tracks R x s x' s' Q := by
  intro a t ha
  obtain ⟨t', ha', hR, hP⟩ := h a t ha
  exact ⟨t', ha', hR, hPQ a hP⟩

/-- The states in the middle may be related in another way. -/
theorem Tracks.bind {S : σ → σ' → Prop} {f : α → StateT σ (Except ε) β} {f' : α → StateT σ' (Except ε) β}
    {Q : β → Prop} (h : Tracks R x s x' s' P) (hf : ∀ a t t', R t t' → P a → Tracks S (f a) t (f' a) t' Q) :
    Tracks S (x >>= f) s (x' >>= f') s' Q := by
  intro b u hb
  rw [apply_bind] at hb
  split at hb
  · rename_i a t ha
    obtain ⟨t', ha', hR, hP⟩ := h a t ha
    rw [apply_bind, ha']
    exact hf a t t' hR hP b u hb
  · cases hb

/-- What goes on from the states goes on from states that are related. -/
theorem tracks_get_bind {f : σ → StateT σ (Except ε) β} {f' : σ' → StateT σ' (Except ε) β} {Q : β → Prop}
    (h : Tracks R (f s) s (f' s') s' Q) :
    Tracks R ((get : StateT σ (Except ε) σ) >>= f) s ((get : StateT σ' (Except ε) σ') >>= f') s' Q := h

end Tracks

end Scaffold
