import Mathlib.Tactic

/-!
# Collecting first occurrences

`appendNew l page` goes through `page` and appends every element that the list does not hold yet. The result keeps `l`
as its beginning, has no duplicates if `l` has none, and holds what `l` and `page` hold. Pages may be appended one after
the other, also to a list that is cut at some length (`take_appendNew_append`). A page that is a slice of a list without
duplicates continues a beginning of that list (`appendNew_slice`).
-/

namespace List

variable {α : Type} [DecidableEq α]

/-- Append the elements of a page that are not in the list yet, in the order of the page. -/
def appendNew (l : List α) : List α → List α
  | [] => l
  | a :: page => if a ∈ l then appendNew l page else appendNew (l ++ [a]) page

theorem mem_appendNew {x : α} : ∀ (page l : List α), x ∈ l.appendNew page ↔ x ∈ l ∨ x ∈ page
  | [], l => by simp [appendNew]
  | a :: page, l => by
    unfold appendNew
    split
    case isTrue h =>
      rw [mem_appendNew page l, mem_cons]
      constructor
      · rintro (hx | hx)
        · exact .inl hx
        · exact .inr (.inr hx)
      · rintro (hx | rfl | hx)
        · exact .inl hx
        · exact .inl h
        · exact .inr hx
    case isFalse h => rw [mem_appendNew page (l ++ [a]), mem_append, mem_singleton, mem_cons, or_assoc]

theorem nodup_appendNew : ∀ (page : List α) {l : List α}, l.Nodup → (l.appendNew page).Nodup
  | [], _, h => h
  | a :: page, l, h => by
    unfold appendNew
    split
    case isTrue => exact nodup_appendNew page h
    case isFalse ha =>
      have hl : (l ++ [a]).Nodup := by
        rw [← concat_eq_append]
        exact h.concat ha
      exact nodup_appendNew page hl

theorem prefix_appendNew : ∀ (page l : List α), l <+: l.appendNew page
  | [], l => prefix_refl l
  | a :: page, l => by
    unfold appendNew
    split
    · exact prefix_appendNew page l
    · exact (prefix_append l [a]).trans (prefix_appendNew page (l ++ [a]))

theorem appendNew_append : ∀ (page page' l : List α), l.appendNew (page ++ page') = (l.appendNew page).appendNew page'
  | [], _, _ => rfl
  | a :: page, page', l => by
    rw [cons_append, appendNew, appendNew]
    split
    · exact appendNew_append page page' l
    · exact appendNew_append page page' (l ++ [a])

/-- A list that is cut at `n` elements after each page is the list of all pages, cut at `n`. -/
theorem take_appendNew_append (page page' l : List α) (n : Nat) :
    (((l.appendNew page).take n).appendNew page').take n = (l.appendNew (page ++ page')).take n := by
  rw [appendNew_append]
  rcases le_total (l.appendNew page).length n with hle | hle
  · rw [take_of_length_le hle]
  · -- the list is full: both sides are its first `n` elements
    have hlen : ((l.appendNew page).take n).length = n := length_take_of_le hle
    have hcut := prefix_iff_eq_take.1 (prefix_appendNew page' ((l.appendNew page).take n))
    rw [hlen] at hcut
    rw [← hcut]
    obtain ⟨more, hmore⟩ := prefix_appendNew page' (l.appendNew page)
    rw [← hmore, take_append_of_le_length hle]

theorem appendNew_of_subset : ∀ {page l : List α}, page ⊆ l → l.appendNew page = l
  | [], _, _ => rfl
  | a :: page, l, h => by
    obtain ⟨ha, hpage⟩ := cons_subset.1 h
    rw [appendNew, if_pos ha]
    exact appendNew_of_subset hpage

theorem appendNew_of_nodup : ∀ {page l : List α}, (l ++ page).Nodup → l.appendNew page = l ++ page
  | [], l, _ => (append_nil l).symm
  | a :: page, l, h => by
    have ha : a ∉ l := fun hl => (nodup_append.1 h).2.2 a hl a mem_cons_self rfl
    rw [append_cons] at h
    rw [appendNew, if_neg ha, appendNew_of_nodup h, ← append_cons]

/-- First occurrences and a map that is injective on what there is. -/
theorem map_appendNew {β : Type} [DecidableEq β] {f : α → β} : ∀ (page l : List α),
    (∀ a, a ∈ l ∨ a ∈ page → ∀ b, b ∈ l ∨ b ∈ page → f a = f b → a = b) →
      (l.appendNew page).map f = (l.map f).appendNew (page.map f)
  | [], _, _ => rfl
  | a :: page, l, h => by
    have hmem : f a ∈ l.map f ↔ a ∈ l := by
      constructor
      · intro hfa
        obtain ⟨b, hb, hab⟩ := mem_map.1 hfa
        rw [← h b (.inl hb) a (.inr mem_cons_self) hab]
        exact hb
      · exact mem_map_of_mem
    rw [appendNew, map_cons, appendNew]
    by_cases ha : a ∈ l
    · rw [if_pos ha, if_pos (hmem.2 ha)]
      refine map_appendNew page l fun x hx y hy => h x ?_ y ?_
      · exact hx.imp id (mem_cons_of_mem a)
      · exact hy.imp id (mem_cons_of_mem a)
    · have hkeep : ∀ {x}, x ∈ l ++ [a] ∨ x ∈ page → x ∈ l ∨ x ∈ a :: page := by
        intro x hx
        rcases hx with hx | hx
        · rcases mem_append.1 hx with hx | hx
          · exact .inl hx
          · exact .inr (mem_singleton.1 hx ▸ mem_cons_self)
        · exact .inr (mem_cons_of_mem a hx)
      rw [if_neg ha, if_neg (mt hmem.1 ha), map_appendNew page (l ++ [a]) fun x hx y hy => h x (hkeep hx) y (hkeep hy),
        map_append, map_singleton]

/-- A slice that starts within the first `k` elements of a list. -/
theorem appendNew_slice {l : List α} (hl : l.Nodup) {j k : Nat} (hj : j ≤ k) (m : Nat) :
    (l.take k).appendNew ((l.drop j).take m) = l.take (max k (j + m)) := by
  have hwithin : ∀ {n}, j + n ≤ k → (l.drop j).take n ⊆ l.take k := by
    intro n hn
    rw [take_drop]
    exact Subset.trans (drop_subset _ _) (take_subset_take_left l hn)
  rcases le_total (j + m) k with hle | hle
  · rw [max_eq_left hle]
    exact appendNew_of_subset (hwithin hle)
  · -- the slice goes beyond the first `k` elements
    have hsplit : (l.drop j).take m = (l.drop j).take (k - j) ++ (l.drop k).take (j + m - k) := by
      conv_lhs => rw [show m = (k - j) + (j + m - k) by omega, take_add, drop_drop]
      rw [show j + (k - j) = k by omega]
    have hsum : l.take k ++ (l.drop k).take (j + m - k) = l.take (j + m) := by
      rw [← take_add]
      congr 1
      omega
    rw [max_eq_right hle, hsplit, appendNew_append, appendNew_of_subset (hwithin (by omega)), appendNew_of_nodup, hsum]
    rw [hsum]
    exact hl.sublist (take_sublist _ _)

end List
