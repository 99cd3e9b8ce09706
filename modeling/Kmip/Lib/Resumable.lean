import Kmip.Lib.Hoare

/-!
# Programs that can be stopped between two calls

A `Program` calls the methods of an object and goes on with what they return or throw. `run` is a whole run on an
object; `advance` makes the next call only, so that the runs of several programs can be interleaved. A run can be
resumed after any call (`run_advance`), and it is a sequence or a `tryCatch` where the program is one
(`run_bind`, `run_tryCatch`).
-/

namespace Hoare

/-- A program that calls methods `op` with results in `Res op`, which may throw. -/
inductive Program (Op : Type) (Res : Op → Type) (ε α : Type) : Type
  | done (result : Except ε α)
  | call (op : Op) (next : Except ε (Res op) → Program Op Res ε α)

namespace Program

variable {Op : Type} {Res : Op → Type} {ε α β σ : Type}

def bind (p : Program Op Res ε α) (f : α → Program Op Res ε β) : Program Op Res ε β :=
  match p with
  | done (.ok a) => f a
  | done (.error e) => done (.error e)
  | call op next => call op fun result => (next result).bind f

def tryCatch (p : Program Op Res ε α) (handler : ε → Program Op Res ε α) : Program Op Res ε α :=
  match p with
  | done (.ok a) => done (.ok a)
  | done (.error e) => handler e
  | call op next => call op fun result => (next result).tryCatch handler

instance : Monad (Program Op Res ε) where
  pure a := done (.ok a)
  bind := bind

instance : MonadExceptOf ε (Program Op Res ε) where
  throw e := done (.error e)
  tryCatch := tryCatch

/-- What a method returns or throws. -/
def capture (m : EStateM ε σ α) : EStateM ε σ (Except ε α) := fun s =>
  match m s with
  | .ok a s' => .ok (.ok a) s'
  | .error e s' => .ok (.error e) s'

theorem capture_apply (m : EStateM ε σ α) (s : σ) : capture m s = .ok (ended (m s)) (finalState (m s)) := by
  unfold capture
  cases m s <;> rfl

/-- A single call. -/
def perform (op : Op) : Program Op Res ε (Res op) := call op done

section Run

variable (methods : ∀ op, EStateM ε σ (Res op))

/-- The next call of a program. -/
def advance (p : Program Op Res ε α) (s : σ) : Option (Program Op Res ε α × σ) :=
  match p with
  | done _ => none
  | call op next => some (next (ended (methods op s)), finalState (methods op s))

def run (p : Program Op Res ε α) : EStateM ε σ α :=
  match p with
  | done (.ok a) => pure a
  | done (.error e) => throw e
  | call op next => capture (methods op) >>= fun result => (next result).run

variable {methods}

/-- What is left after a call ends as the whole run does. -/
theorem run_advance {p p' : Program Op Res ε α} {s s' : σ} (h : p.advance methods s = some (p', s')) :
    p'.run methods s' = p.run methods s := by
  cases p with
  | done => cases h
  | call op next =>
    cases h
    rw [run, bind_ok (capture_apply (methods op) s)]

theorem run_perform (op : Op) : (perform op : Program Op Res ε (Res op)).run methods = methods op := by
  funext s
  rw [perform, run, bind_ok (capture_apply (methods op) s)]
  cases methods op s <;> rfl

theorem run_bind (p : Program Op Res ε α) (f : α → Program Op Res ε β) :
    (p >>= f).run methods = p.run methods >>= fun a => (f a).run methods := by
  show (p.bind f).run methods = _
  induction p with
  | done result => cases result <;> rfl
  | call op next ih =>
    rw [bind, run, run, bind_assoc]
    simp only [ih]

theorem run_tryCatch (p : Program Op Res ε α) (handler : ε → Program Op Res ε α) :
    (MonadExcept.tryCatch p handler).run methods =
      MonadExcept.tryCatch (p.run methods) fun e => (handler e).run methods := by
  show (p.tryCatch handler).run methods = _
  induction p with
  | done result => cases result <;> rfl
  | call op next ih =>
    funext s
    rw [tryCatch, run, run, tryCatch_apply, bind_ok (capture_apply (methods op) s),
      bind_ok (capture_apply (methods op) s), ih, tryCatch_apply]

theorem run_ite {c : Prop} [Decidable c] (p q : Program Op Res ε α) :
    (if c then p else q).run methods = if c then p.run methods else q.run methods := by
  split <;> rfl

end Run

end Program

end Hoare
