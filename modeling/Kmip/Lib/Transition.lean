import Mathlib.Tactic

/-!
# Transition systems

A system is an initial state and a guarded step function: `step s a` is `none` when the action `a` is not possible in
`s`. An invariant holds in every reachable state (`Reachable.invariant`), and a map of the states that takes every step
to steps of an abstract relation takes the reachable states to states that the relation reaches (`Reachable.simulates`).
A run is a list of actions; `run_induction` follows it from its start, and `EachStep` is about the steps it takes.
-/

namespace Transition

/-- An initial state and a guarded step function. -/
structure System (σ α : Type) where
  init : σ
  step : σ → α → Option σ

variable {σ α τ : Type} {sys : System σ α}

/-- The states that the system reaches. -/
inductive Reachable (sys : System σ α) : σ → Prop
  | init : Reachable sys sys.init
  | step {s s' : σ} {a : α} (h : Reachable sys s) (hs : sys.step s a = some s') : Reachable sys s'

/-- What holds at the start and is kept by every step from a reachable state holds in every reachable state. -/
theorem Reachable.invariant {I : σ → Prop} (hinit : I sys.init)
    (hstep : ∀ s a s', Reachable sys s → I s → sys.step s a = some s' → I s') {s : σ} (h : Reachable sys s) : I s := by
  induction h with
  | init => exact hinit
  | step hr hs ih => exact hstep _ _ _ hr ih hs

/-- **Simulation.** If every step is taken to steps of `A`, reachable states are taken to states that `A` reaches. -/
theorem Reachable.simulates {A : τ → τ → Prop} {f : σ → τ}
    (hstep : ∀ s a s', Reachable sys s → Relation.ReflTransGen A (f sys.init) (f s) → sys.step s a = some s' →
      Relation.ReflTransGen A (f s) (f s')) {s : σ} (h : Reachable sys s) :
    Relation.ReflTransGen A (f sys.init) (f s) := by
  induction h with
  | init => exact .refl
  | step hr hs ih => exact ih.trans (hstep _ _ _ hr ih hs)

/-- What holds of `a` and is kept by `A` holds of everything that `A` reaches from `a`. -/
theorem invariant_of_reflTransGen {A : τ → τ → Prop} {I : τ → Prop} (hstep : ∀ a b, I a → A a b → I b) {a b : τ}
    (ha : I a) (h : Relation.ReflTransGen A a b) : I b := by
  induction h with
  | refl => exact ha
  | tail _ hs ih => exact hstep _ _ ih hs

/-- Take a list of actions. -/
def run (sys : System σ α) : σ → List α → Option σ
  | s, [] => some s
  | s, a :: as => (sys.step s a).bind (fun s' => run sys s' as)

theorem run_append (s : σ) (as bs : List α) :
    run sys s (as ++ bs) = (run sys s as).bind (fun s' => run sys s' bs) := by
  induction as generalizing s with
  | nil => rfl
  | cons a as ih =>
    rw [List.cons_append, run, run, Option.bind_assoc]
    simp only [ih]

/-- A run from a reachable state ends in a reachable state. -/
theorem Reachable.run {s s' : σ} (h : Reachable sys s) (as : List α) (hr : run sys s as = some s') :
    Reachable sys s' := by
  induction as generalizing s with
  | nil =>
    unfold Transition.run at hr
    cases hr
    exact h
  | cons a as ih =>
    unfold Transition.run at hr
    obtain ⟨s₁, hs, hr⟩ := Option.bind_eq_some_iff.1 hr
    exact ih (h.step hs) hr

/-- What holds of the empty run and is kept when the run goes on holds of every run. -/
theorem run_induction {P : List α → σ → Prop} {s s' : σ} {as : List α} (hnil : P [] s)
    (hstep : ∀ as s₁ a s₂, P as s₁ → sys.step s₁ a = some s₂ → P (as ++ [a]) s₂) (h : run sys s as = some s') :
    P as s' := by
  induction as using List.reverseRecOn generalizing s' with
  | nil =>
    cases h
    exact hnil
  | append_singleton as a ih =>
    rw [run_append] at h
    obtain ⟨s₁, hs₁, h⟩ := Option.bind_eq_some_iff.1 h
    obtain ⟨s₂, hs₂, h⟩ := Option.bind_eq_some_iff.1 h
    cases h
    exact hstep as s₁ a _ (ih hs₁) hs₂

/-- Every step that the run takes, from its state to the next one. -/
def EachStep (sys : System σ α) (P : σ → α → σ → Prop) : σ → List α → Prop
  | _, [] => True
  | s, a :: as => ∀ s', sys.step s a = some s' → P s a s' ∧ EachStep sys P s' as

/-- The steps may be looked at one by one, in states with an invariant that a good step keeps. -/
theorem eachStep_congr {P Q : σ → α → σ → Prop} {I : σ → Prop}
    (hkeep : ∀ s a s', I s → sys.step s a = some s' → P s a s' → I s')
    (h : ∀ s a s', I s → sys.step s a = some s' → (P s a s' ↔ Q s a s')) {s : σ} (hs : I s) (as : List α) :
    EachStep sys P s as ↔ EachStep sys Q s as := by
  induction as generalizing s with
  | nil => exact Iff.rfl
  | cons a as ih =>
    unfold EachStep
    refine forall₂_congr fun s' hstep => ?_
    constructor
    · rintro ⟨hp, hrest⟩
      exact ⟨(h s a s' hs hstep).1 hp, (ih (hkeep s a s' hs hstep hp)).1 hrest⟩
    · rintro ⟨hq, hrest⟩
      have hp := (h s a s' hs hstep).2 hq
      exact ⟨hp, (ih (hkeep s a s' hs hstep hp)).2 hrest⟩

end Transition
