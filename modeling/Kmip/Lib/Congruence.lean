import Kmip.Lib.Moves
import Kmip.Lib.Refinement

/-!
# Relations that every way to build a computation keeps

A `Congruence` relates two computations that do nothing, and is kept by sequences. Two programs that are built alike
from related operations are then related, by one induction over the program. Its instances say that one program refines
the other (`congruence_refines`), how the first moves its state (`congruence_moves`) and what that costs
(`congruence_costs`): a property of the first computation alone is a relation to any second one.

`Agrees` is for a hypothesis about the end of a run. A run that leaves a good state was good all the time, and ends as
the other computation does.
-/

namespace Hoare

variable {ε σ τ : Type}

/-- A relation between computations that make at most `n` operations. -/
structure Congruence (Rel : Nat → (α : Type) → EStateM ε σ α → EStateM ε τ α → Prop) : Prop where
  mono : ∀ {n k : Nat} {α : Type} {m : EStateM ε σ α} {m' : EStateM ε τ α}, Rel n α m m' → n ≤ k → Rel k α m m'
  pure : ∀ (n : Nat) {α : Type} (a : α), Rel n α (pure a) (pure a)
  throw : ∀ (n : Nat) {α : Type} (e : ε), Rel n α (throw e) (throw e)
  bind : ∀ {n k : Nat} {α β : Type} {m : EStateM ε σ α} {m' : EStateM ε τ α} {f : α → EStateM ε σ β}
    {f' : α → EStateM ε τ β}, Rel n α m m' → (∀ a, Rel k β (f a) (f' a)) → Rel (n + k) β (m >>= f) (m' >>= f')

theorem Congruence.ite {Rel : Nat → (α : Type) → EStateM ε σ α → EStateM ε τ α → Prop} {n : Nat} {α : Type} {c : Prop}
    [Decidable c] {m k : EStateM ε σ α} {m' k' : EStateM ε τ α} (hm : c → Rel n α m m') (hk : ¬c → Rel n α k k') :
    Rel n α (if c then m else k) (if c then m' else k') := by
  split
  · exact hm (by assumption)
  · exact hk (by assumption)

theorem congruence_refines (R : σ → τ → Prop) (X : ε → Prop) :
    Congruence fun _ α (m : EStateM ε σ α) (m' : EStateM ε τ α) => Refines R X m m' where
  mono h _ := h
  pure _ _ a := refines_pure a
  throw _ _ e := refines_throw e
  bind := refines_bind

theorem congruence_moves (A : σ → σ → Prop) :
    Congruence fun _ α (m : EStateM ε σ α) (_ : EStateM ε τ α) => Moves A m where
  mono h _ := h
  pure _ _ a := moves_pure a
  throw _ _ e := moves_throw e
  bind hm hf := hm.bind hf

theorem congruence_costs (μ : σ → Nat) :
    Congruence fun n α (m : EStateM ε σ α) (_ : EStateM ε τ α) => Costs μ n m where
  mono := Costs.mono
  pure _ _ a := costs_pure a
  throw _ _ e := costs_throw e
  bind hm hf := hm.bind hf

/-! ## Agreement -/

/-- From a state in `Start`, a run to a good state starts from a good one and ends as every run of the other computation
does. -/
structure Agrees {α : Type} (Start Good : σ → Prop) (m : EStateM ε σ α) (m' : EStateM ε τ α) : Prop where
  start : ∀ s, Start s → Start (finalState (m s))
  good : ∀ s, Start s → Good (finalState (m s)) → Good s
  same : ∀ s t, Start s → Good (finalState (m s)) → ended (m s) = ended (m' t)

theorem Agrees.bind {α β : Type} {Start Good : σ → Prop} {m : EStateM ε σ α} {m' : EStateM ε τ α}
    {f : α → EStateM ε σ β} {f' : α → EStateM ε τ β} (hm : Agrees Start Good m m')
    (hf : ∀ a, Agrees Start Good (f a) (f' a)) : Agrees Start Good (m >>= f) (m' >>= f') := by
  have hfirst : ∀ s, Start s → Good (finalState ((m >>= f) s)) → Good (finalState (m s)) := by
    intro s hs hgood
    have hstart := hm.start s hs
    rw [bind_apply] at hgood
    cases hr : m s with
    | ok a s' =>
      rw [hr] at hgood hstart
      exact (hf a).good s' hstart hgood
    | error e s' =>
      rw [hr] at hgood
      exact hgood
  constructor
  · intro s hs
    have hstart := hm.start s hs
    rw [bind_apply]
    cases hr : m s with
    | ok a s' =>
      rw [hr] at hstart
      exact (hf a).start s' hstart
    | error e s' =>
      rw [hr] at hstart
      exact hstart
  · exact fun s hs hgood => hm.good s hs (hfirst s hs hgood)
  · intro s t hs hgood
    have hstart := hm.start s hs
    have hsame := hm.same s t hs (hfirst s hs hgood)
    rw [bind_apply] at hgood
    rw [bind_apply, bind_apply]
    cases hr : m s with
    | ok a s' =>
      cases hr' : m' t with
      | ok b t' =>
        rw [hr, hr'] at hsame
        cases hsame
        rw [hr] at hgood hstart
        exact (hf a).same s' t' hstart hgood
      | error =>
        rw [hr, hr'] at hsame
        cases hsame
    | error e s' =>
      cases hr' : m' t with
      | ok =>
        rw [hr, hr'] at hsame
        cases hsame
      | error e' t' =>
        rw [hr, hr'] at hsame
        cases hsame
        rfl

theorem congruence_agrees (Start Good : σ → Prop) :
    Congruence fun _ α (m : EStateM ε σ α) (m' : EStateM ε τ α) => Agrees Start Good m m' where
  mono h _ := h
  pure _ _ _ := ⟨fun _ h => h, fun _ _ h => h, fun _ _ _ _ => rfl⟩
  throw _ _ _ := ⟨fun _ h => h, fun _ _ h => h, fun _ _ _ _ => rfl⟩
  bind := Agrees.bind

end Hoare
