import Kmip.Lib.Refinement

/-!
# Computations against a model with a fixed environment

An implementation gets the answers of its surroundings one by one; in a model they are fixed in advance by an
environment. `Realizes P m m' Q E` says that for a run of `m` there is an environment under which `m'` does the same:
from states related by `P` both return the same value in states related by `Q`, or throw the same exception in states
related by `E`, unless `m` throws an exception that the model has no counterpart for.

A run of the model has seen its environment only so far (`Horizon`). The environment is chosen piece by piece: what a
later part of the run chooses does not change what the parts before it have seen. This makes `Realizes` compose.
-/

namespace Hoare

/-- When two environments are the same as far as a run that has come to a state can tell, and which states come
later. -/
structure Horizon (Env τ : Type) where
  Agree : τ → Env → Env → Prop
  agree_refl : ∀ t env, Agree t env env
  agree_trans : ∀ {t env env' env''}, Agree t env env' → Agree t env' env'' → Agree t env env''
  Le : τ → τ → Prop
  le_refl : ∀ t, Le t t
  le_trans : ∀ {t t' t''}, Le t t' → Le t' t'' → Le t t''
  agree_mono : ∀ {t t' env env'}, Le t t' → Agree t' env env' → Agree t env env'

variable {ε σ τ Env α β : Type}

/-- Both runs have returned the same value or thrown the same exception, in related states. -/
def Matches (Q : α → Env → σ → τ → Prop) (E : Env → σ → τ → Prop) (env : Env) :
    EStateM.Result ε σ α → EStateM.Result ε τ α → Prop
  | .ok a s, .ok b t => a = b ∧ Q a env s t
  | .error e s, .error e' t => e = e' ∧ E env s t
  | _, _ => False

/-- The run of the model that ends with `r`, under every environment that is the chosen one as far as it can tell. -/
structure Realized (H : Horizon Env τ) (Q : α → Env → σ → τ → Prop) (E : Env → σ → τ → Prop)
    (x : EStateM.Result ε σ α) (m' : Env → EStateM ε τ α) (t : τ) (env : Env) (r : EStateM.Result ε τ α) : Prop where
  later : H.Le t (finalState r)
  run : ∀ env', H.Agree (finalState r) env env' → m' env' t = r ∧ Matches Q E env' x r

/-- Every run of `m` is one of the model, under an environment that is chosen from here on. -/
structure Realizes (H : Horizon Env τ) (X : ε → Prop) (P : Env → σ → τ → Prop) (m : EStateM ε σ α)
    (m' : Env → EStateM ε τ α) (Q : α → Env → σ → τ → Prop) (E : Env → σ → τ → Prop) : Prop where
  choose : ∀ env s t, P env s t → (∃ e s', m s = .error e s' ∧ X e) ∨
    ∃ env' r, H.Agree t env env' ∧ Realized H Q E (m s) m' t env' r

variable {H : Horizon Env τ} {X : ε → Prop} {P : Env → σ → τ → Prop} {m : EStateM ε σ α}
  {m' : Env → EStateM ε τ α} {Q : α → Env → σ → τ → Prop} {R : β → Env → σ → τ → Prop} {E E' : Env → σ → τ → Prop}

/-- The model may be written in another way, as far as the related states go. -/
theorem Realizes.congr {n : EStateM ε σ α} {n' : Env → EStateM ε τ α} (h : Realizes H X P n n' Q E)
    (hm : ∀ env s t, P env s t → m s = n s ∧ ∀ env', m' env' t = n' env' t) : Realizes H X P m m' Q E := by
  constructor
  intro env s t hP
  obtain ⟨hs, ht⟩ := hm env s t hP
  rw [hs]
  refine (h.choose env s t hP).imp_right ?_
  rintro ⟨env', r, hagree, hr⟩
  exact ⟨env', r, hagree, hr.later, fun env'' h => ⟨(ht env'').trans (hr.run env'' h).1, (hr.run env'' h).2⟩⟩

/-! ## Rules -/

section Rules

variable (hP : ∀ env env' s t, H.Agree t env env' → P env s t → P env' s t)

include hP

theorem realizes_pure {a : α} (h : ∀ env s t, P env s t → Q a env s t) :
    Realizes H X P (pure a) (fun _ => pure a) Q E := by
  constructor
  intro env s t hs
  exact .inr ⟨env, .ok a t, H.agree_refl t env, H.le_refl t, fun env' hagree =>
    ⟨rfl, rfl, h env' s t (hP env env' s t hagree hs)⟩⟩

theorem realizes_throw {e : ε} (h : ∀ env s t, P env s t → E env s t) :
    Realizes H X P (throw e) (fun _ => throw e) Q E := by
  constructor
  intro env s t hs
  exact .inr ⟨env, .error e t, H.agree_refl t env, H.le_refl t, fun env' hagree =>
    ⟨rfl, rfl, h env' s t (hP env env' s t hagree hs)⟩⟩

end Rules

/-- The second part chooses the environment beyond what the first part has seen. -/
theorem realizes_bind {f : α → EStateM ε σ β} {f' : Env → α → EStateM ε τ β} (hm : Realizes H X P m m' Q E)
    (hf : ∀ a, Realizes H X (Q a) (f a) (fun env => f' env a) R E) :
    Realizes H X P (m >>= f) (fun env => m' env >>= f' env) R E := by
  constructor
  intro env s t hs
  rcases hm.choose env s t hs with ⟨e, s', hthrown, hX⟩ | ⟨env₁, r₁, hagree₁, hr₁⟩
  · exact .inl ⟨e, s', bind_error hthrown, hX⟩
  obtain ⟨hrun₁, hmatch₁⟩ := hr₁.run env₁ (H.agree_refl _ env₁)
  cases hms : m s with
  | error e s' =>
    rw [hms] at hmatch₁
    cases r₁ with
    | ok b t₁ => exact hmatch₁.elim
    | error e' t₁ =>
      refine .inr ⟨env₁, .error e' t₁, hagree₁, hr₁.later, fun env₂ hagree₂ => ?_⟩
      obtain ⟨hrun₂, hmatch₂⟩ := hr₁.run env₂ hagree₂
      rw [hms] at hmatch₂
      rw [bind_error hrun₂, bind_error hms]
      exact ⟨rfl, hmatch₂⟩
  | ok a s₁ =>
    rw [hms] at hmatch₁
    cases r₁ with
    | error e' t₁ => exact hmatch₁.elim
    | ok b t₁ =>
      obtain ⟨rfl, hQ⟩ := hmatch₁
      rw [bind_ok hms]
      refine ((hf a).choose env₁ s₁ t₁ hQ).imp_right ?_
      rintro ⟨env₂, r₂, hagree₂, hr₂⟩
      refine ⟨env₂, r₂, H.agree_trans hagree₁ (H.agree_mono hr₁.later hagree₂), H.le_trans hr₁.later hr₂.later, ?_⟩
      intro env₃ hagree₃
      have hseen := H.agree_trans hagree₂ (H.agree_mono hr₂.later hagree₃)
      rw [bind_ok (hr₁.run env₃ hseen).1]
      exact hr₂.run env₃ hagree₃

theorem realizes_ite {c : Prop} [Decidable c] {n : EStateM ε σ α} {n' : Env → EStateM ε τ α}
    (hm : c → Realizes H X P m m' Q E) (hn : ¬c → Realizes H X P n n' Q E) :
    Realizes H X P (if c then m else n) (fun env => if c then m' env else n' env) Q E := by
  by_cases hc : c
  · simp only [if_pos hc]
    exact hm hc
  · simp only [if_neg hc]
    exact hn hc

/-- The handler goes on from where the exception was thrown; what has no counterpart it throws again. -/
theorem realizes_tryCatch {handler : ε → EStateM ε σ α} {handler' : Env → ε → EStateM ε τ α}
    (hm : Realizes H X P m m' Q E) (hX : ∀ e s, X e → ∃ s', handler e s = .error e s')
    (hh : ∀ e, Realizes H X E (handler e) (fun env => handler' env e) Q E') :
    Realizes H X P (tryCatch m handler) (fun env => tryCatch (m' env) (handler' env)) Q E' := by
  constructor
  intro env s t hs
  rcases hm.choose env s t hs with ⟨e, s', hthrown, he⟩ | ⟨env₁, r₁, hagree₁, hr₁⟩
  · obtain ⟨s'', hhandler⟩ := hX e s' he
    refine .inl ⟨e, s'', ?_, he⟩
    rw [tryCatch_apply, hthrown]
    exact hhandler
  obtain ⟨hrun₁, hmatch₁⟩ := hr₁.run env₁ (H.agree_refl _ env₁)
  rw [tryCatch_apply]
  cases hms : m s with
  | ok a s₁ =>
    rw [hms] at hmatch₁
    cases r₁ with
    | error e' t₁ => exact hmatch₁.elim
    | ok b t₁ =>
      refine .inr ⟨env₁, .ok b t₁, hagree₁, hr₁.later, fun env₂ hagree₂ => ?_⟩
      obtain ⟨hrun₂, hmatch₂⟩ := hr₁.run env₂ hagree₂
      rw [hms] at hmatch₂
      rw [tryCatch_apply, hrun₂]
      exact ⟨rfl, hmatch₂⟩
  | error e s₁ =>
    rw [hms] at hmatch₁
    cases r₁ with
    | ok b t₁ => exact hmatch₁.elim
    | error e' t₁ =>
      obtain ⟨rfl, hE⟩ := hmatch₁
      refine ((hh e).choose env₁ s₁ t₁ hE).imp_right ?_
      rintro ⟨env₂, r₂, hagree₂, hr₂⟩
      refine ⟨env₂, r₂, H.agree_trans hagree₁ (H.agree_mono hr₁.later hagree₂), H.le_trans hr₁.later hr₂.later, ?_⟩
      intro env₃ hagree₃
      have hseen := H.agree_trans hagree₂ (H.agree_mono hr₂.later hagree₃)
      rw [tryCatch_apply, (hr₁.run env₃ hseen).1]
      exact hr₂.run env₃ hagree₃

end Hoare
