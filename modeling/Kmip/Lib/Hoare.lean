import Mathlib.Tactic

/-!
# Pre- and postconditions for stateful computations that may throw

`Triple P m Q E` is about a computation `m : EStateM ε σ α`: started in a state with `P`, it returns a value and a state
with `Q`, or it throws with a state and an exception with `E`. There is one rule for each way to build a computation,
and the rule of consequence.
-/

namespace Hoare

variable {ε σ α β : Type}

/-- A run that returned with `Q` or has thrown with `E`. -/
def Ends (Q : α → σ → Prop) (E : ε → σ → Prop) : EStateM.Result ε σ α → Prop
  | .ok a s => Q a s
  | .error e s => E e s

/-- Started with `P`, the computation returns with `Q` or throws with `E`. -/
structure Triple (P : σ → Prop) (m : EStateM ε σ α) (Q : α → σ → Prop) (E : ε → σ → Prop) : Prop where
  run : ∀ s, P s → Ends Q E (m s)

variable {P P' : σ → Prop} {Q Q' : α → σ → Prop} {R : β → σ → Prop} {E E' : ε → σ → Prop} {m : EStateM ε σ α}

/-! ## Use -/

theorem Triple.ok (h : Triple P m Q E) {s s' : σ} {a : α} (hs : P s) (hm : m s = .ok a s') : Q a s' := by
  have hend := h.run s hs
  rwa [hm] at hend

theorem Triple.error (h : Triple P m Q E) {s s' : σ} {e : ε} (hs : P s) (hm : m s = .error e s') : E e s' := by
  have hend := h.run s hs
  rwa [hm] at hend

/-- A computation that never throws returns. -/
theorem Triple.returns (h : Triple P m Q fun _ _ => False) {s : σ} (hs : P s) : ∃ a s', m s = .ok a s' ∧ Q a s' := by
  have hend := h.run s hs
  cases hr : m s with
  | ok a s' =>
    rw [hr] at hend
    exact ⟨a, s', rfl, hend⟩
  | error e s' =>
    rw [hr] at hend
    exact hend.elim

theorem Ends.mono {x : EStateM.Result ε σ α} (h : Ends Q E x) (hq : ∀ a s, Q a s → Q' a s)
    (he : ∀ e s, E e s → E' e s) : Ends Q' E' x := by
  cases x with
  | ok a s => exact hq a s h
  | error e s => exact he e s h

theorem Triple.conseq (h : Triple P m Q E) (hp : ∀ s, P' s → P s) (hq : ∀ a s, Q a s → Q' a s)
    (he : ∀ e s, E e s → E' e s) : Triple P' m Q' E' :=
  ⟨fun s hs => (h.run s (hp s hs)).mono hq he⟩

/-- The state after a run, whether it returned or has thrown. -/
def finalState : EStateM.Result ε σ α → σ
  | .ok _ s => s
  | .error _ s => s

/-- The value or the exception at the end of a run. -/
def ended : EStateM.Result ε σ α → Except ε α
  | .ok a _ => .ok a
  | .error e _ => .error e

theorem exists_of_ended_eq_ok {r : EStateM.Result ε σ α} {a : α} (h : ended r = .ok a) : ∃ s, r = .ok a s := by
  cases r with
  | ok b s =>
    cases h
    exact ⟨s, rfl⟩
  | error e s => cases h

theorem triple_finalState (m : EStateM ε σ α) (s : σ) :
    Triple (fun s' => s' = s) m (fun _ s' => s' = finalState (m s)) (fun _ s' => s' = finalState (m s)) := by
  constructor
  rintro _ rfl
  cases m _ <;> rfl

/-- What holds of the state at either end holds of the final state. -/
theorem Triple.final {R : σ → Prop} (h : Triple P m (fun _ => R) (fun _ => R)) {s : σ} (hs : P s) :
    R (finalState (m s)) := by
  have hend := h.run s hs
  cases hr : m s with
  | ok a s' =>
    rw [hr] at hend
    exact hend
  | error e s' =>
    rw [hr] at hend
    exact hend

/-- The second part runs from the state in which the first one has returned. -/
theorem bind_apply (m : EStateM ε σ α) (f : α → EStateM ε σ β) (s : σ) :
    (m >>= f) s =
      match m s with
      | .ok a s' => f a s'
      | .error e s' => .error e s' := by
  show EStateM.bind m f s = _
  unfold EStateM.bind
  cases m s <;> rfl

/-- The run of a sequence whose first part returns. -/
theorem bind_ok {f : α → EStateM ε σ β} {s s' : σ} {a : α} (h : m s = .ok a s') : (m >>= f) s = f a s' := by
  rw [bind_apply, h]

/-- The run of a sequence whose first part throws. -/
theorem bind_error {f : α → EStateM ε σ β} {s s' : σ} {e : ε} (h : m s = .error e s') :
    (m >>= f) s = .error e s' := by
  rw [bind_apply, h]

/-- A sequence returns when both parts return. -/
theorem bind_eq_ok {f : α → EStateM ε σ β} {s s' : σ} {b : β} (h : (m >>= f) s = .ok b s') :
    ∃ a s₁, m s = .ok a s₁ ∧ f a s₁ = .ok b s' := by
  rw [bind_apply] at h
  cases hm : m s with
  | ok a s₁ =>
    rw [hm] at h
    exact ⟨a, s₁, rfl, h⟩
  | error e s₁ =>
    rw [hm] at h
    cases h

/-- A sequence throws when its first part throws, or its second part after the first has returned. -/
theorem bind_eq_error {f : α → EStateM ε σ β} {s s' : σ} {e : ε} (h : (m >>= f) s = .error e s') :
    m s = .error e s' ∨ ∃ a s₁, m s = .ok a s₁ ∧ f a s₁ = .error e s' := by
  rw [bind_apply] at h
  cases hm : m s with
  | ok a s₁ =>
    rw [hm] at h
    exact Or.inr ⟨a, s₁, rfl, h⟩
  | error e₁ s₁ =>
    rw [hm] at h
    cases h
    exact Or.inl rfl

/-- The handler runs from the state in which the computation has thrown. -/
theorem tryCatch_apply (m : EStateM ε σ α) (handler : ε → EStateM ε σ α) (s : σ) :
    tryCatch m handler s =
      match m s with
      | .ok a s' => .ok a s'
      | .error e s' => handler e s' := by
  show EStateM.tryCatch m handler s = _
  unfold EStateM.tryCatch
  cases m s <;> rfl

/-! ## Rules -/

theorem triple_pure {a : α} (h : ∀ s, P s → Q a s) : Triple P (pure a) Q E := ⟨h⟩

theorem triple_throw {e : ε} (h : ∀ s, P s → E e s) : Triple P (throw e) Q E := ⟨h⟩

/-- The first part ends with `Q`, from which the second part starts. -/
theorem triple_bind {f : α → EStateM ε σ β} (hm : Triple P m Q E) (hf : ∀ a, Triple (Q a) (f a) R E) :
    Triple P (m >>= f) R E := by
  constructor
  intro s hs
  have h := hm.run s hs
  rw [bind_apply]
  cases hr : m s with
  | ok a s' =>
    rw [hr] at h
    exact (hf a).run s' h
  | error e s' =>
    rw [hr] at h
    exact h

theorem triple_ite {c : Prop} [Decidable c] {m' : EStateM ε σ α} (hm : c → Triple P m Q E)
    (hm' : ¬c → Triple P m' Q E) : Triple P (if c then m else m') Q E := by
  split
  · exact hm (by assumption)
  · exact hm' (by assumption)

theorem triple_modify {f : σ → σ} {Q : Unit → σ → Prop} (h : ∀ s, P s → Q () (f s)) :
    Triple P (modify f : EStateM ε σ Unit) Q E := ⟨h⟩

/-- The handler starts from the exception and the state that were thrown. -/
theorem triple_tryCatch {handler : ε → EStateM ε σ α} (hm : Triple P m Q E)
    (hh : ∀ e, Triple (E e) (handler e) Q E') : Triple P (tryCatch m handler) Q E' := by
  constructor
  intro s hs
  have h := hm.run s hs
  show Ends Q E' (EStateM.tryCatch m handler s)
  unfold EStateM.tryCatch
  cases hr : m s with
  | ok a s' =>
    rw [hr] at h
    exact h
  | error e s' =>
    rw [hr] at h
    exact (hh e).run s' h

/-- A fact that the precondition gives may be used for the computation. -/
theorem triple_of_pre {A : Prop} (ha : ∀ s, P s → A) (h : A → Triple P m Q E) : Triple P m Q E :=
  ⟨fun s hs => (h (ha s hs)).run s hs⟩

theorem triple_and {A : Prop} (h : A → Triple P m Q E) : Triple (fun s => A ∧ P s) m Q E :=
  ⟨fun s hs => (h hs.1).run s hs.2⟩

theorem triple_exists {ι : Type} {P : ι → σ → Prop} (h : ∀ i, Triple (P i) m Q E) :
    Triple (fun s => ∃ i, P i s) m Q E := by
  constructor
  rintro s ⟨i, hs⟩
  exact (h i).run s hs

end Hoare
