import Kmip.Lib.Transition

/-!
# A bounded pool with waiting threads, by its numbers

Resources are idle, borrowed, or reserved while they are being made; their total is bounded by a capacity. A thread that
finds no idle resource and no room to make one goes to sleep; whoever gives capacity back wakes one sleeper. A sleeper
may also wake by itself. A thread that was woken looks again and takes, reserves, sleeps again or gives up; until then
other threads may take what it was woken for.

Two facts hold in every state: the total is the sum of its parts and at most the capacity, and as long as somebody
sleeps, at least as many threads have been woken as there is free capacity (`Ledger.Balanced.step`).
-/

namespace BoundedPool

/-- The numbers of a pool. -/
@[ext] structure Ledger where
  idle : Nat
  borrowed : Nat
  reserved : Nat
  sleeping : Nat
  woken : Nat
  total : Nat

namespace Ledger

/-- Wake one sleeper, if there is one. -/
def notify (l : Ledger) : Ledger :=
  if l.sleeping = 0 then l else { l with sleeping := l.sleeping - 1, woken := l.woken + 1 }

/-- The moves of a pool. In the moves of a thread that looks for a resource, `w` is 1 if it was woken to look again and
0 if it comes from outside. -/
inductive Step (capacity : Nat) : Ledger → Ledger → Prop
  | take (l : Ledger) (w : Nat) (hw : w ≤ 1) (hwoken : w ≤ l.woken) (hidle : 0 < l.idle) :
    Step capacity l { l with idle := l.idle - 1, borrowed := l.borrowed + 1, woken := l.woken - w }
  | reserve (l : Ledger) (w : Nat) (hw : w ≤ 1) (hwoken : w ≤ l.woken) (hidle : l.idle = 0)
      (htotal : l.total < capacity) :
    Step capacity l { l with reserved := l.reserved + 1, total := l.total + 1, woken := l.woken - w }
  | sleep (l : Ledger) (w : Nat) (hw : w ≤ 1) (hwoken : w ≤ l.woken) (hidle : l.idle = 0)
      (htotal : capacity ≤ l.total) :
    Step capacity l { l with sleeping := l.sleeping + 1, woken := l.woken - w }
  | giveUp (l : Ledger) (hwoken : 0 < l.woken) (hidle : l.idle = 0) (htotal : capacity ≤ l.total) :
    Step capacity l { l with woken := l.woken - 1 }
  | wake (l : Ledger) (hsleeping : 0 < l.sleeping) :
    Step capacity l { l with sleeping := l.sleeping - 1, woken := l.woken + 1 }
  | made (l : Ledger) (hreserved : 0 < l.reserved) :
    Step capacity l { l with reserved := l.reserved - 1, borrowed := l.borrowed + 1 }
  | failed (l : Ledger) (hreserved : 0 < l.reserved) :
    Step capacity l (notify { l with reserved := l.reserved - 1, total := l.total - 1 })
  | keep (l : Ledger) (hborrowed : 0 < l.borrowed) :
    Step capacity l (notify { l with borrowed := l.borrowed - 1, idle := l.idle + 1 })
  | discard (l : Ledger) (hborrowed : 0 < l.borrowed) :
    Step capacity l (notify { l with borrowed := l.borrowed - 1, total := l.total - 1 })

/-- The books are in order. -/
structure Balanced (capacity : Nat) (l : Ledger) : Prop where
  total_eq : l.total = l.idle + l.borrowed + l.reserved
  total_le : l.total ≤ capacity
  covered : 0 < l.sleeping → l.idle + (capacity - l.total) ≤ l.woken

variable {capacity : Nat} {l l' : Ledger}

theorem balanced_empty : Balanced capacity ⟨0, 0, 0, 0, 0, 0⟩ := ⟨rfl, Nat.zero_le _, fun h => absurd h (by decide)⟩

/-- Capacity was given back and one sleeper is woken for it. -/
theorem balanced_notify (htotal : l.total = l.idle + l.borrowed + l.reserved) (hle : l.total ≤ capacity)
    (hcovered : 0 < l.sleeping → l.idle + (capacity - l.total) ≤ l.woken + 1) : Balanced capacity l.notify := by
  unfold notify
  split
  case isTrue hzero => exact ⟨htotal, hle, fun h => absurd hzero (Nat.pos_iff_ne_zero.1 h)⟩
  case isFalse hne => exact ⟨htotal, hle, fun _ => hcovered (Nat.pos_iff_ne_zero.2 hne)⟩

/-- Every move keeps the books in order. -/
theorem Balanced.step (h : Balanced capacity l) (hs : Step capacity l l') : Balanced capacity l' := by
  obtain ⟨htotal, hle, hcovered⟩ := h
  cases hs with
  | take w hw hwoken hidle =>
    refine ⟨?_, hle, ?_⟩
    · show l.total = l.idle - 1 + (l.borrowed + 1) + l.reserved
      omega
    · intro hsleeping
      have := hcovered hsleeping
      show l.idle - 1 + (capacity - l.total) ≤ l.woken - w
      omega
  | reserve w hw hwoken hidle hroom =>
    refine ⟨?_, hroom, ?_⟩
    · show l.total + 1 = l.idle + l.borrowed + (l.reserved + 1)
      omega
    · intro hsleeping
      have := hcovered hsleeping
      show l.idle + (capacity - (l.total + 1)) ≤ l.woken - w
      omega
  | sleep w hw hwoken hidle hfull =>
    refine ⟨htotal, hle, fun _ => ?_⟩
    show l.idle + (capacity - l.total) ≤ l.woken - w
    omega
  | giveUp hwoken hidle hfull =>
    refine ⟨htotal, hle, fun _ => ?_⟩
    show l.idle + (capacity - l.total) ≤ l.woken - 1
    omega
  | wake hsleeping =>
    refine ⟨htotal, hle, fun _ => ?_⟩
    exact Nat.le_succ_of_le (hcovered hsleeping)
  | made hreserved =>
    refine ⟨?_, hle, hcovered⟩
    show l.total = l.idle + (l.borrowed + 1) + (l.reserved - 1)
    omega
  | failed hreserved =>
    refine balanced_notify ?_ ?_ ?_
    · show l.total - 1 = l.idle + l.borrowed + (l.reserved - 1)
      omega
    · exact (Nat.sub_le _ _).trans hle
    · intro hsleeping
      have := hcovered hsleeping
      show l.idle + (capacity - (l.total - 1)) ≤ l.woken + 1
      omega
  | keep hborrowed =>
    refine balanced_notify ?_ hle ?_
    · show l.total = l.idle + 1 + (l.borrowed - 1) + l.reserved
      omega
    · intro hsleeping
      have := hcovered hsleeping
      show l.idle + 1 + (capacity - l.total) ≤ l.woken + 1
      omega
  | discard hborrowed =>
    refine balanced_notify ?_ ?_ ?_
    · show l.total - 1 = l.idle + (l.borrowed - 1) + l.reserved
      omega
    · exact (Nat.sub_le _ _).trans hle
    · intro hsleeping
      have := hcovered hsleeping
      show l.idle + (capacity - (l.total - 1)) ≤ l.woken + 1
      omega

/-- The books are in order in every state that the pool reaches. -/
theorem Balanced.of_reaches (h : Relation.ReflTransGen (Step capacity) ⟨0, 0, 0, 0, 0, 0⟩ l) : Balanced capacity l :=
  Transition.invariant_of_reflTransGen (fun _ _ h hs => h.step hs) balanced_empty h

end Ledger

end BoundedPool
