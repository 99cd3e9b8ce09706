import Kmip.Lib.Hoare

/-!
# Refinement of stateful computations that may throw

`Refines R X m m'` is about two computations with states of different types. Started in states that `R` relates, they
end alike: both return the same value or both throw the same exception, in states that `R` relates again. `X` are the
exceptions of the first computation that the second has no counterpart for. There is one rule for each way to build a
computation; what holds of every value that the second computation returns holds of those of the first (`Refines.ok`).
-/

namespace Hoare

variable {ε σ τ α β : Type}

/-- Both runs ended alike, or the first has thrown an exception without a counterpart. -/
def Alike (R : σ → τ → Prop) (X : ε → Prop) : EStateM.Result ε σ α → EStateM.Result ε τ α → Prop
  | .ok a s, .ok b t => a = b ∧ R s t
  | .error e s, .error e' t => (e = e' ∧ R s t) ∨ X e
  | .error e _, .ok _ _ => X e
  | .ok _ _, .error _ _ => False

/-- From related states the computations end alike. -/
structure Refines (R : σ → τ → Prop) (X : ε → Prop) (m : EStateM ε σ α) (m' : EStateM ε τ α) : Prop where
  run : ∀ s t, R s t → Alike R X (m s) (m' t)

variable {R : σ → τ → Prop} {X : ε → Prop} {m : EStateM ε σ α} {m' : EStateM ε τ α}

/-! ## Use -/

/-- What the first computation returns, the second returns. -/
theorem Refines.ok (h : Refines R X m m') {s s' : σ} {t : τ} {a : α} (hR : R s t) (hm : m s = .ok a s') :
    ∃ t', m' t = .ok a t' ∧ R s' t' := by
  have halike := h.run s t hR
  rw [hm] at halike
  cases hm' : m' t with
  | ok b t' =>
    rw [hm'] at halike
    obtain ⟨rfl, hR'⟩ := halike
    exact ⟨t', rfl, hR'⟩
  | error e t' =>
    rw [hm'] at halike
    exact halike.elim

/-! ## Rules -/

theorem refines_pure (a : α) : Refines R X (pure a) (pure a) := ⟨fun _ _ h => ⟨rfl, h⟩⟩

theorem refines_throw (e : ε) : Refines R X (throw e : EStateM ε σ α) (throw e) := ⟨fun _ _ h => .inl ⟨rfl, h⟩⟩

/-- The first parts end alike, and then the second parts do, after the same value. -/
theorem refines_bind {f : α → EStateM ε σ β} {f' : α → EStateM ε τ β} (hm : Refines R X m m')
    (hf : ∀ a, Refines R X (f a) (f' a)) : Refines R X (m >>= f) (m' >>= f') := by
  constructor
  intro s t hR
  have halike := hm.run s t hR
  rw [bind_apply, bind_apply]
  cases hr : m s with
  | ok a s' =>
    cases hr' : m' t with
    | ok b t' =>
      rw [hr, hr'] at halike
      obtain ⟨rfl, hR'⟩ := halike
      exact (hf a).run s' t' hR'
    | error e t' =>
      rw [hr, hr'] at halike
      exact halike.elim
  | error e s' =>
    cases hr' : m' t with
    | error e' t' =>
      rw [hr, hr'] at halike
      exact halike
    | ok b t' =>
      rw [hr, hr'] at halike
      -- the first run is over; whatever the second one does, nothing corresponds to the exception
      dsimp only
      cases f' b t' with
      | ok => exact halike
      | error => exact .inr halike

end Hoare
