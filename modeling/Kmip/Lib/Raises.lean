import Kmip.Lib.Traced

/-!
# What a computation raises

`Raises P x` says that `x` returns or fails with an exception that satisfies `P`. There is one rule for each way to
build a computation, so the exceptions of a function are read off its parts.
-/

namespace Except

variable {ε α β γ : Type} {P : ε → Prop}

/-- Every exception of `x` satisfies `P`. -/
def Raises (P : ε → Prop) (x : Except ε α) : Prop := ∀ e, x = .error e → P e

@[simp] theorem raises_ok (a : α) : Raises P (.ok a : Except ε α) := by
  intro e h
  cases h

@[simp] theorem raises_error (e : ε) : Raises P (.error e : Except ε α) ↔ P e := by
  constructor
  · intro h
    exact h e rfl
  · intro he e' h
    cases h
    exact he

theorem Raises.bind {x : Except ε α} {f : α → Except ε β} (hx : Raises P x) (hf : ∀ a, x = .ok a → Raises P (f a)) :
    Raises P (x >>= f) := by
  cases x with
  | error e =>
    intro e' h
    cases h
    exact hx e rfl
  | ok a => exact hf a rfl

theorem Raises.ite {c : Prop} [Decidable c] {x y : Except ε α} (hx : c → Raises P x) (hy : ¬c → Raises P y) :
    Raises P (if c then x else y) := by
  split
  case isTrue h => exact hx h
  case isFalse h => exact hy h

theorem Raises.mono {Q : ε → Prop} {x : Except ε α} (hx : Raises P x) (hpq : ∀ e, P e → Q e) : Raises Q x :=
  fun e h => hpq e (hx e h)

/-- After a part that raises nothing else, the rest decides. -/
theorem raises_bind {x : Except ε α} {f : α → Except ε β} (hx : Raises P x) :
    Raises P (x >>= f) ↔ ∀ a, x = .ok a → Raises P (f a) := by
  constructor
  · rintro h a rfl
    exact h
  · exact hx.bind

/-- Returning something else raises nothing more. -/
@[simp] theorem raises_bind_ok {x : Except ε α} {f : α → β} : Raises P (x >>= fun a => .ok (f a)) ↔ Raises P x := by
  cases x <;> simp

@[simp] theorem raises_ite {c : Prop} [Decidable c] {x y : Except ε α} :
    Raises P (if c then x else y) ↔ (c → Raises P x) ∧ (¬c → Raises P y) := by
  split <;> simp [*]

theorem Raises.foldlM {f : β → α → Except ε β} (h : ∀ b a, Raises P (f b a)) : ∀ (l : List α) (b : β),
    Raises P (l.foldlM f b)
  | [], b => raises_ok b
  | a :: l, b => by
    rw [List.foldlM_cons]
    exact (h b a).bind fun b' _ => Raises.foldlM h l b'

theorem Raises.mapM {f : α → Except ε β} : ∀ {l : List α}, (∀ a ∈ l, Raises P (f a)) → Raises P (l.mapM f)
  | [], _ => raises_ok []
  | a :: l, h => by
    rw [List.mapM_cons]
    refine (h a List.mem_cons_self).bind fun b _ => ?_
    refine (Raises.mapM fun a' ha' => h a' (List.mem_cons_of_mem _ ha')).bind fun bs _ => ?_
    exact raises_ok _

/-- A loop over a list in which no element fails. -/
theorem mapM_map_eq_ok {f : α → β} {g : β → Except ε γ} {h : α → γ} (hg : ∀ a, g (f a) = .ok (h a)) (l : List α) :
    (l.map f).mapM g = .ok (l.map h) := by
  induction l with
  | nil => rfl
  | cons a l ih => rw [List.map_cons, List.mapM_cons, hg, ok_bind, ih, ok_bind, List.map_cons, pure_def]

end Except
