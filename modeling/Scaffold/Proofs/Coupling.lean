import Scaffold.Proofs.Steps

namespace Scaffold

/-!
# Two runs side by side

Two runs that take the same course: from states that correspond, both give values that correspond or
both fail with the same error, and the states correspond again. Steps in different monads of
states may be compared, so the same code can be run against two engines or in two contexts.

* `Agree V` — two results are values that correspond by `V`, or the same error;
* `Coupled S x x' V` — the steps `x` and `x'` take the same course, for the correspondence `S` of states;
* `Coupled.bind`, `Coupled.mapError` — the rules that follow a `do` block.
-/

variable {ε σ σ' α α' β β' : Type}

/-- Two values that correspond, or twice the same error. -/
inductive Agree (V : α → α' → Prop) : Except ε α → Except ε α' → Prop
  | ok {a : α} {a' : α'} (h : V a a') : Agree V (.ok a) (.ok a')
  | error (e : ε) : Agree V (.error e) (.error e)

/-- What follows from the relation between values. -/
theorem Agree.imp {V V' : α → α' → Prop} {r : Except ε α} {r' : Except ε α'} (h : Agree V r r')
    (hV : ∀ a a', V a a' → V' a a') : Agree V' r r' := by
  cases h with
  | ok ha => exact .ok (hV _ _ ha)
  | error e => exact .error e

/-- From states that correspond, the steps end with results that agree and in states that correspond. -/
def Coupled (S : σ → σ' → Prop) (x : Step ε σ α) (x' : Step ε σ' α') (V : α → α' → Prop) : Prop :=
  ∀ s s', S s s' → Agree V (x.run s).1 (x'.run s').1 ∧ S (x.run s).2 (x'.run s').2

variable {S : σ → σ' → Prop} {V : α → α' → Prop} {W : β → β' → Prop}

/-- Values that are related. -/
theorem coupled_pure {a : α} {a' : α'} (h : V a a') :
    Coupled S (pure a : Step ε σ α) (pure a') V :=
  fun _ _ hs => ⟨.ok h, hs⟩

/-- The same failure on both sides. -/
theorem coupled_throw (e : ε) : Coupled S (throw e : Step ε σ α) (throw e) V :=
  fun _ _ hs => ⟨.error e, hs⟩

/-- The states themselves, which are related. -/
theorem coupled_get : Coupled S (get : Step ε σ σ) (get : Step ε σ' σ') S :=
  fun _ _ hs => ⟨.ok hs, hs⟩

/-- Related states that are put in place of the old ones. -/
theorem coupled_set {s : σ} {s' : σ'} (h : S s s') :
    Coupled S (set s : Step ε σ PUnit) (set s') fun _ _ => True :=
  fun _ _ _ => ⟨.ok trivial, h⟩

/-- Changes that keep the states related. -/
theorem coupled_modify {f : σ → σ} {f' : σ' → σ'} (h : ∀ s s', S s s' → S (f s) (f' s')) :
    Coupled S (modify f : Step ε σ PUnit) (modify f') fun _ _ => True :=
  fun s s' hs => ⟨.ok trivial, h s s' hs⟩

/-- Steps that cannot fail. -/
theorem coupled_lift {x : StateM σ α} {x' : StateM σ' α'}
    (h : ∀ s s', S s s' → V (x s).1 (x' s').1 ∧ S (x s).2 (x' s').2) :
    Coupled S (liftM x : Step ε σ α) (liftM x') V :=
  fun s s' hs => ⟨.ok (h s s' hs).1, (h s s' hs).2⟩

/-- What follows from the relation between values. -/
theorem Coupled.imp {x : Step ε σ α} {x' : Step ε σ' α'} {V' : α → α' → Prop}
    (h : Coupled S x x' V) (hV : ∀ a a', V a a' → V' a a') : Coupled S x x' V' := by
  intro s s' hs
  obtain ⟨hr, ht⟩ := h s s' hs
  exact ⟨hr.imp hV, ht⟩

/-- The rule for compound steps: the second parts may rely on values that correspond. -/
theorem Coupled.bind {x : Step ε σ α} {x' : Step ε σ' α'} {f : α → Step ε σ β}
    {f' : α' → Step ε σ' β'} (hx : Coupled S x x' V)
    (hf : ∀ a a', V a a' → Coupled S (f a) (f' a') W) : Coupled S (x >>= f) (x' >>= f') W := by
  intro s s' hs
  obtain ⟨hr, ht⟩ := hx s s' hs
  rw [run_bind, run_bind]
  -- Either both first parts give a value, or both compound steps end here.
  rcases hrun : x.run s with ⟨r, t⟩
  rcases hrun' : x'.run s' with ⟨r', t'⟩
  rw [hrun, hrun'] at hr ht
  cases hr with
  | ok ha => exact hf _ _ ha t t' ht
  | error e => exact ⟨.error e, ht⟩

/-- Steps that turn each error into another one still fail alike. -/
theorem Coupled.mapError {x : Step ε σ α} {x' : Step ε σ' α'} (hx : Coupled S x x' V) (f : ε → ε) :
    Coupled S (tryCatch x fun e => throw (f e)) (tryCatch x' fun e => throw (f e)) V := by
  intro s s' hs
  obtain ⟨hr, ht⟩ := hx s s' hs
  rw [run_tryCatch, run_tryCatch]
  rcases hrun : x.run s with ⟨r, t⟩
  rcases hrun' : x'.run s' with ⟨r', t'⟩
  rw [hrun, hrun'] at hr ht
  cases hr with
  | ok ha => exact ⟨.ok ha, ht⟩
  | error e => exact ⟨.error (f e), ht⟩

end Scaffold
