import Mathlib.Tactic

/-!
# Computations that may fail and that leave a log

`Traced ε σ α` is the outcome of a computation with its log of events `σ`, in the order in which they happened. The log
is kept when the computation fails. Two views of a computation are enough for its proofs:

* `result` forgets the log and is a monad morphism to `Except ε` (`result_bind`);
* `Logs P` says that every event satisfies `P`, and has one rule per way to build a computation (`logs_bind`, ...).
-/

/-! ## Sequencing in `Except` -/

namespace Except

variable {ε α β : Type}

@[simp] theorem ok_bind (a : α) (f : α → Except ε β) : (Except.ok a >>= f) = f a := rfl

@[simp] theorem error_bind (e : ε) (f : α → Except ε β) : ((Except.error e : Except ε α) >>= f) = .error e := rfl

@[simp] theorem pure_def (a : α) : (pure a : Except ε α) = .ok a := rfl

/-- A sequence that returns: both parts return. -/
theorem bind_eq_ok_iff {x : Except ε α} {f : α → Except ε β} {b : β} :
    (x >>= f) = .ok b ↔ ∃ a, x = .ok a ∧ f a = .ok b := by
  cases x <;> simp

theorem toOption_eq_some_iff {x : Except ε α} {a : α} : x.toOption = some a ↔ x = .ok a := by
  cases x <;> simp [Except.toOption]

end Except

/-- The outcome of a computation and the events it went through. -/
structure Traced (ε σ α : Type) where
  result : Except ε α
  log : List σ

namespace Traced

variable {ε σ α β : Type}

/-- Run `f` on the result of `x`; a failure of `x` keeps its log. -/
def andThen (x : Traced ε σ α) (f : α → Traced ε σ β) : Traced ε σ β :=
  match x.result with
  | .ok a => ⟨(f a).result, x.log ++ (f a).log⟩
  | .error e => ⟨.error e, x.log⟩

instance : Monad (Traced ε σ) where
  pure a := ⟨.ok a, []⟩
  bind := andThen

/-- Fail with `e`. -/
def raise (e : ε) : Traced ε σ α := ⟨.error e, []⟩

/-- Record one event. -/
def emit (s : σ) : Traced ε σ Unit := ⟨.ok (), [s]⟩

/-! ## Results -/

@[simp] theorem result_pure (a : α) : (pure a : Traced ε σ α).result = .ok a := rfl

@[simp] theorem result_raise (e : ε) : (raise e : Traced ε σ α).result = .error e := rfl

@[simp] theorem result_bind (x : Traced ε σ α) (f : α → Traced ε σ β) :
    (x >>= f).result = x.result >>= fun a => (f a).result := by
  show (andThen x f).result = _
  unfold andThen
  cases h : x.result <;> rfl

@[simp] theorem result_ite (c : Prop) [Decidable c] (x y : Traced ε σ α) :
    (if c then x else y).result = if c then x.result else y.result := by
  split <;> rfl

/-- A sequence that returns: both parts return. -/
theorem result_bind_eq_ok_iff {x : Traced ε σ α} {f : α → Traced ε σ β} {b : β} :
    (x >>= f).result = .ok b ↔ ∃ a, x.result = .ok a ∧ (f a).result = .ok b := by
  rw [result_bind, Except.bind_eq_ok_iff]

/-- `x` does not fail with `e`. -/
def Avoids (e : ε) (x : Traced ε σ α) : Prop := x.result ≠ .error e

theorem avoids_bind {e : ε} {x : Traced ε σ α} {f : α → Traced ε σ β} (hx : x.Avoids e)
    (hf : ∀ a, x.result = .ok a → (f a).Avoids e) : (x >>= f).Avoids e := by
  intro h
  rw [result_bind] at h
  cases hr : x.result with
  | error e' =>
    rw [hr, Except.error_bind] at h
    cases h
    exact hx hr
  | ok a =>
    rw [hr, Except.ok_bind] at h
    exact hf a hr h

theorem avoids_ite {e : ε} {c : Prop} [Decidable c] {x y : Traced ε σ α} (hx : c → x.Avoids e)
    (hy : ¬c → y.Avoids e) : (if c then x else y).Avoids e := by
  split
  · exact hx (by assumption)
  · exact hy (by assumption)

/-! ## Logs -/

/-- Every event of `x` satisfies `P`. -/
def Logs (P : σ → Prop) (x : Traced ε σ α) : Prop := ∀ s ∈ x.log, P s

variable {P : σ → Prop}

@[simp] theorem logs_pure (a : α) : Logs P (pure a : Traced ε σ α) := by
  intro s hs
  cases hs

@[simp] theorem logs_raise (e : ε) : Logs P (raise e : Traced ε σ α) := by
  intro s hs
  cases hs

@[simp] theorem logs_emit (s : σ) : Logs P (emit s : Traced ε σ Unit) ↔ P s := by
  simp [Logs, emit]

/-- The events of a sequence: those of the first part and, when it returns, those of the second. -/
theorem logs_bind (x : Traced ε σ α) (f : α → Traced ε σ β) :
    Logs P (x >>= f) ↔ Logs P x ∧ ∀ a, x.result = .ok a → Logs P (f a) := by
  show Logs P (andThen x f) ↔ _
  unfold andThen
  cases h : x.result with
  | error e => simp [Logs]
  | ok a =>
    simp only [Logs, List.mem_append, Except.ok.injEq, forall_eq']
    exact ⟨fun H => ⟨fun s hs => H s (.inl hs), fun s hs => H s (.inr hs)⟩,
      fun H s hs => hs.elim (H.1 s) (H.2 s)⟩

end Traced
