import Mathlib.Tactic

/-!
# Windows of an endless sequence

`window stream start n` are the `n` elements of a sequence from position `start` on. Adjacent windows are put together
to one (`window_append`).
-/

variable {α : Type}

/-- The `n` elements of `stream` from `start` on. -/
def window (stream : Nat → α) (start n : Nat) : List α := (List.range n).map (fun i => stream (start + i))

@[simp] theorem length_window (stream : Nat → α) (start n : Nat) : (window stream start n).length = n := by
  simp [window]

@[simp] theorem window_zero (stream : Nat → α) (start : Nat) : window stream start 0 = [] := rfl

theorem window_append (stream : Nat → α) (start m n : Nat) :
    window stream start m ++ window stream (start + m) n = window stream start (m + n) := by
  simp [window, List.range_add, Nat.add_assoc]

/-- A list, as the beginning of a sequence. -/
theorem window_getD (l : List α) (d : α) : window (fun i => l.getD i d) 0 l.length = l := by
  refine List.ext_getElem (length_window ..) fun i _ hi => ?_
  simp [window, hi]
