import Mathlib.Tactic

/-!
# Lists that occur at a position

`OccursAt l o s` says that `s` stands in `l` from position `o` on, and lies inside `l`. A decoder that returns has
found an encoding at its position, whatever stands around it; the facts that its proofs need are that occurrences are
unique (`OccursAt.unique`), that they split (`occursAt_append`, `occursAt_cons`) and what a narrowed view sees of them
(`occursAt_take`).
-/

variable {α : Type}

/-- `s` stands in `l` at position `o`. -/
def OccursAt (l : List α) (o : Nat) (s : List α) : Prop := ∃ pre suf, l = pre ++ s ++ suf ∧ pre.length = o

variable {l s t : List α} {o : Nat}

theorem OccursAt.le (h : OccursAt l o s) : o + s.length ≤ l.length := by
  obtain ⟨pre, suf, rfl, rfl⟩ := h
  simp

/-- What follows position `o`. -/
theorem OccursAt.drop_eq (h : OccursAt l o s) : l.drop o = s ++ l.drop (o + s.length) := by
  obtain ⟨pre, suf, rfl, rfl⟩ := h
  rw [List.append_assoc, List.drop_left, ← List.append_assoc, ← List.length_append, List.drop_left]

theorem occursAt_of_drop_eq {r : List α} (ho : o ≤ l.length) (h : l.drop o = s ++ r) : OccursAt l o s := by
  refine ⟨l.take o, r, ?_, by simp [ho]⟩
  rw [List.append_assoc, ← h, List.take_append_drop]

/-- Lists of the same length at the same position are the same. -/
theorem OccursAt.unique (hs : OccursAt l o s) (ht : OccursAt l o t) (hl : s.length = t.length) : s = t := by
  have h := hs.drop_eq.symm.trans ht.drop_eq
  exact (List.append_inj h hl).1

theorem OccursAt.slice_eq (h : OccursAt l o s) : (l.drop o).take s.length = s := by
  rw [h.drop_eq, List.take_left]

theorem occursAt_slice {n : Nat} (h : o + n ≤ l.length) : OccursAt l o ((l.drop o).take n) :=
  occursAt_of_drop_eq (by omega) (List.take_append_drop n _).symm

@[simp] theorem occursAt_nil : OccursAt l o [] ↔ o ≤ l.length := by
  refine ⟨fun h => by simpa using h.le, fun h => occursAt_of_drop_eq h rfl⟩

/-- The second part starts where the first one ends. -/
theorem occursAt_append : OccursAt l o (s ++ t) ↔ OccursAt l o s ∧ OccursAt l (o + s.length) t := by
  constructor
  · rintro ⟨pre, suf, rfl, rfl⟩
    exact ⟨⟨pre, t ++ suf, by simp, rfl⟩, ⟨pre ++ s, suf, by simp, by simp⟩⟩
  · rintro ⟨hs, ht⟩
    have := ht.le
    refine occursAt_of_drop_eq (by omega) (r := l.drop (o + s.length + t.length)) ?_
    rw [hs.drop_eq, ht.drop_eq, List.append_assoc]

theorem occursAt_cons {a : α} : OccursAt l o (a :: s) ↔ l[o]? = some a ∧ OccursAt l (o + 1) s := by
  rw [← List.singleton_append, occursAt_append]
  refine and_congr_left fun _ => ⟨?_, ?_⟩
  · rintro ⟨pre, suf, rfl, rfl⟩
    simp
  · intro h
    obtain ⟨ho, rfl⟩ := List.getElem?_eq_some_iff.1 h
    exact occursAt_of_drop_eq (Nat.le_of_lt ho) (List.drop_eq_getElem_cons ho)

/-- A view that ends at `n` sees the occurrences that end there or before. -/
theorem occursAt_take {n : Nat} : OccursAt (l.take n) o s ↔ OccursAt l o s ∧ o + s.length ≤ min n l.length := by
  constructor
  · intro h
    have hle := h.le
    rw [List.length_take] at hle
    obtain ⟨pre, suf, hl, rfl⟩ := h
    refine ⟨⟨pre, suf ++ l.drop n, ?_, rfl⟩, hle⟩
    rw [← List.append_assoc, ← hl, List.take_append_drop]
  · rintro ⟨⟨pre, suf, rfl, rfl⟩, hle⟩
    refine ⟨pre, suf.take (n - (pre ++ s).length), ?_, rfl⟩
    rw [List.take_append, List.take_of_length_le (by simp; omega)]

/-- A view that ends with `s` has nothing else from its position on. -/
theorem OccursAt.drop_take (h : OccursAt l o s) : (l.take (o + s.length)).drop o = s := by
  rw [List.drop_take, Nat.add_sub_cancel_left, h.slice_eq]
