import Mathlib.Tactic

/-!
# Counting the values of a finite family

`countWhere p f` is the number of indices at which the family `f` has a value with `p`. One lemma says how it changes
when the family is updated at one index, and everything else follows from it by arithmetic.
-/

variable {ι α : Type} [Fintype ι]

/-- The number of indices `i` with `p (f i)`. -/
def countWhere (p : α → Bool) (f : ι → α) : Nat := (Finset.univ.filter (fun i => p (f i))).card

/-- An update takes the old value out of the count and puts the new one in. -/
theorem countWhere_update [DecidableEq ι] (p : α → Bool) (f : ι → α) (i : ι) (a : α) :
    countWhere p (Function.update f i a) + (p (f i)).toNat = countWhere p f + (p a).toNat := by
  have hsum : ∀ g : ι → α, countWhere p g = (p (g i)).toNat + ∑ j ∈ Finset.univ.erase i, (p (g j)).toNat := by
    intro g
    unfold countWhere
    rw [Finset.card_filter, ← Finset.add_sum_erase _ _ (Finset.mem_univ i)]
    simp only [Bool.toNat, Bool.cond_eq_ite]
  have hrest : ∑ j ∈ Finset.univ.erase i, (p (Function.update f i a j)).toNat =
      ∑ j ∈ Finset.univ.erase i, (p (f j)).toNat := by
    refine Finset.sum_congr rfl fun j hj => ?_
    rw [Function.update_of_ne (Finset.ne_of_mem_erase hj)]
  rw [hsum (Function.update f i a), hsum f, hrest, Function.update_self]
  omega

/-- The count after an update. -/
theorem countWhere_update_eq [DecidableEq ι] (p : α → Bool) (f : ι → α) (i : ι) (a : α) :
    countWhere p (Function.update f i a) = countWhere p f + (p a).toNat - (p (f i)).toNat := by
  have := countWhere_update p f i a
  omega

theorem toNat_le_countWhere (p : α → Bool) (f : ι → α) (i : ι) : (p (f i)).toNat ≤ countWhere p f := by
  cases h : p (f i) with
  | false => exact Nat.zero_le _
  | true =>
    unfold countWhere
    exact Finset.card_pos.2 ⟨i, Finset.mem_filter.2 ⟨Finset.mem_univ i, h⟩⟩

theorem countWhere_eq_zero {p : α → Bool} {f : ι → α} : countWhere p f = 0 ↔ ∀ i, p (f i) = false := by
  unfold countWhere
  rw [Finset.card_eq_zero, Finset.filter_eq_empty_iff]
  simp

theorem countWhere_pos {p : α → Bool} {f : ι → α} : 0 < countWhere p f ↔ ∃ i, p (f i) = true := by
  unfold countWhere
  rw [Finset.card_pos]
  simp [Finset.Nonempty]

/-- At most one index: two indices that count are equal. -/
theorem countWhere_le_one {p : α → Bool} {f : ι → α} :
    countWhere p f ≤ 1 ↔ ∀ i j, p (f i) = true → p (f j) = true → i = j := by
  unfold countWhere
  rw [Finset.card_le_one]
  simp only [Finset.mem_filter, Finset.mem_univ, true_and]
  exact ⟨fun h i j hi hj => h i hi j hj, fun h i hi j hj => h i j hi hj⟩
