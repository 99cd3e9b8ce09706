import Mathlib.Logic.Relation
import Kmip.Lib.Hoare

/-!
# Computations whose state moves by steps

`Moves A m` says that the computation `m`, wherever it starts and however it ends, has moved its state by steps of the
relation `A`; `Costs μ n m` says that it has raised the measure `μ` by at most `n`. There is one rule for each way to
build a computation, so that what a whole program does follows from what its primitive operations do.
-/

namespace Hoare

open Relation (ReflTransGen)

variable {ε σ α β : Type}

/-- From every state, steps of `A` lead to the state in which the computation ends. -/
structure Moves (A : σ → σ → Prop) (m : EStateM ε σ α) : Prop where
  run : ∀ s, ReflTransGen A s (finalState (m s))

variable {A : σ → σ → Prop} {m : EStateM ε σ α}

theorem moves_pure (a : α) : Moves A (pure a : EStateM ε σ α) := ⟨fun _ => .refl⟩

theorem moves_throw (e : ε) : Moves A (throw e : EStateM ε σ α) := ⟨fun _ => .refl⟩

theorem Moves.bind {f : α → EStateM ε σ β} (hm : Moves A m) (hf : ∀ a, Moves A (f a)) : Moves A (m >>= f) := by
  constructor
  intro s
  have hfirst := hm.run s
  rw [bind_apply]
  cases hr : m s with
  | ok a s' =>
    rw [hr] at hfirst
    exact hfirst.trans ((hf a).run s')
  | error e s' =>
    rw [hr] at hfirst
    exact hfirst

theorem moves_ite {c : Prop} [Decidable c] {m' : EStateM ε σ α} (hm : c → Moves A m) (hm' : ¬c → Moves A m') :
    Moves A (if c then m else m') := by
  split
  · exact hm (by assumption)
  · exact hm' (by assumption)

/-- The handler goes on from where the exception was thrown. -/
theorem Moves.tryCatch {handler : ε → EStateM ε σ α} (hm : Moves A m) (hh : ∀ e, Moves A (handler e)) :
    Moves A (tryCatch m handler) := by
  constructor
  intro s
  have hfirst := hm.run s
  rw [tryCatch_apply]
  cases hr : m s with
  | ok a s' =>
    rw [hr] at hfirst
    exact hfirst
  | error e s' =>
    rw [hr] at hfirst
    exact hfirst.trans ((hh e).run s')

/-! ## Costs -/

/-- From every state, the computation raises the measure by at most `n`. -/
structure Costs (μ : σ → Nat) (n : Nat) (m : EStateM ε σ α) : Prop where
  run : ∀ s, μ (finalState (m s)) ≤ μ s + n

variable {μ : σ → Nat} {n k : Nat}

theorem Costs.mono (h : Costs μ n m) (hnk : n ≤ k) : Costs μ k m :=
  ⟨fun s => (h.run s).trans (Nat.add_le_add_left hnk _)⟩

theorem costs_pure (a : α) : Costs μ n (pure a : EStateM ε σ α) := ⟨fun _ => Nat.le_add_right _ _⟩

theorem costs_throw (e : ε) : Costs μ n (throw e : EStateM ε σ α) := ⟨fun _ => Nat.le_add_right _ _⟩

theorem Costs.bind {f : α → EStateM ε σ β} (hm : Costs μ n m) (hf : ∀ a, Costs μ k (f a)) :
    Costs μ (n + k) (m >>= f) := by
  constructor
  intro s
  have hfirst := hm.run s
  rw [bind_apply]
  cases hr : m s with
  | ok a s' =>
    rw [hr] at hfirst
    have hsecond := (hf a).run s'
    simp only [finalState] at hfirst
    dsimp only
    omega
  | error e s' =>
    rw [hr] at hfirst
    simp only [finalState] at hfirst ⊢
    omega

theorem costs_ite {c : Prop} [Decidable c] {m' : EStateM ε σ α} (hm : c → Costs μ n m) (hm' : ¬c → Costs μ n m') :
    Costs μ n (if c then m else m') := by
  split
  · exact hm (by assumption)
  · exact hm' (by assumption)

theorem Costs.tryCatch {handler : ε → EStateM ε σ α} (hm : Costs μ n m) (hh : ∀ e, Costs μ k (handler e)) :
    Costs μ (n + k) (tryCatch m handler) := by
  constructor
  intro s
  have hfirst := hm.run s
  rw [tryCatch_apply]
  cases hr : m s with
  | ok a s' =>
    rw [hr] at hfirst
    simp only [finalState] at hfirst ⊢
    omega
  | error e s' =>
    rw [hr] at hfirst
    have hsecond := (hh e).run s'
    simp only [finalState] at hfirst
    dsimp only
    omega

end Hoare
