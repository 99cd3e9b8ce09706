import Kmip.Lib.Hoare

/-!
# Computations with enough fuel

`m fuel` is a computation some loops of which are cut off after `fuel` rounds. `Settling P m Q E` says that from every
state with `P` there is an amount of fuel from which on the run does not depend on it: it ends in one way, with `Q` or
with `E`. With an `E` that excludes the exception of a loop that was cut off, the computation terminates. The rules are
those of triples.
-/

namespace Hoare

variable {ε σ α β : Type}

/-- With enough fuel, `m` ends in one way. -/
structure Settling (P : σ → Prop) (m : Nat → EStateM ε σ α) (Q : α → σ → Prop) (E : ε → σ → Prop) : Prop where
  settle : ∀ s, P s → ∃ r n, Ends Q E r ∧ ∀ fuel, n ≤ fuel → m fuel s = r

variable {P P' : σ → Prop} {m m' : Nat → EStateM ε σ α} {Q Q' : α → σ → Prop} {R : β → σ → Prop} {E E' : ε → σ → Prop}

theorem Settling.conseq (h : Settling P m Q E) (hp : ∀ s, P' s → P s) (hq : ∀ a s, Q a s → Q' a s)
    (he : ∀ e s, E e s → E' e s) : Settling P' m Q' E' := by
  constructor
  intro s hs
  obtain ⟨r, n, hr, hrun⟩ := h.settle s (hp s hs)
  exact ⟨r, n, hr.mono hq he, hrun⟩

/-- What holds with enough fuel holds when some of it was used. -/
theorem Settling.of_eventually (h : Settling P m Q E) (n : Nat) (heq : ∀ fuel, n ≤ fuel → m' fuel = m fuel) :
    Settling P m' Q E := by
  constructor
  intro s hs
  obtain ⟨r, k, hr, hrun⟩ := h.settle s hs
  refine ⟨r, max n k, hr, fun fuel hfuel => ?_⟩
  rw [heq fuel (by omega), hrun fuel (by omega)]

/-- A computation without fuel. -/
theorem settling_of_triple {f : EStateM ε σ α} (h : Triple P f Q E) (heq : ∀ fuel, m fuel = f) : Settling P m Q E := by
  constructor
  intro s hs
  exact ⟨f s, 0, h.run s hs, fun fuel _ => by rw [heq]⟩

theorem settling_pure {a : α} (h : ∀ s, P s → Q a s) : Settling P (fun _ => pure a) Q E :=
  settling_of_triple (triple_pure h) fun _ => rfl

theorem settling_throw {e : ε} (h : ∀ s, P s → E e s) : Settling P (fun _ => throw e) Q E :=
  settling_of_triple (triple_throw h) fun _ => rfl

theorem settling_bind {f : Nat → α → EStateM ε σ β} (hm : Settling P m Q E)
    (hf : ∀ a, Settling (Q a) (fun fuel => f fuel a) R E) : Settling P (fun fuel => m fuel >>= f fuel) R E := by
  constructor
  intro s hs
  obtain ⟨r, n, hr, hrun⟩ := hm.settle s hs
  cases r with
  | error e s' => exact ⟨.error e s', n, hr, fun fuel hfuel => bind_error (hrun fuel hfuel)⟩
  | ok a s' =>
    obtain ⟨r', n', hr', hrun'⟩ := (hf a).settle s' hr
    refine ⟨r', max n n', hr', fun fuel hfuel => ?_⟩
    rw [bind_ok (hrun fuel (by omega)), hrun' fuel (by omega)]

theorem settling_ite {c : Prop} [Decidable c] (hm : c → Settling P m Q E) (hm' : ¬c → Settling P m' Q E) :
    Settling P (fun fuel => if c then m fuel else m' fuel) Q E := by
  by_cases hc : c
  · simp only [if_pos hc]
    exact hm hc
  · simp only [if_neg hc]
    exact hm' hc

theorem settling_tryCatch {handler : Nat → ε → EStateM ε σ α} (hm : Settling P m Q E)
    (hh : ∀ e, Settling (E e) (fun fuel => handler fuel e) Q E') :
    Settling P (fun fuel => tryCatch (m fuel) (handler fuel)) Q E' := by
  constructor
  intro s hs
  obtain ⟨r, n, hr, hrun⟩ := hm.settle s hs
  cases r with
  | ok a s' =>
    refine ⟨.ok a s', n, hr, fun fuel hfuel => ?_⟩
    rw [tryCatch_apply, hrun fuel hfuel]
  | error e s' =>
    obtain ⟨r', n', hr', hrun'⟩ := (hh e).settle s' hr
    refine ⟨r', max n n', hr', fun fuel hfuel => ?_⟩
    rw [tryCatch_apply, hrun fuel (by omega)]
    exact hrun' fuel (by omega)

theorem settling_and {c : Prop} (h : c → Settling P m Q E) : Settling (fun s => c ∧ P s) m Q E :=
  ⟨fun s hs => (h hs.1).settle s hs.2⟩

end Hoare
