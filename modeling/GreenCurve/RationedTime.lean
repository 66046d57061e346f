import Mathlib.Algebra.Order.BigOperators.Group.List
import Mathlib.Tactic.Ring

/-! # Time rationed by gaps

Busy periods that are each followed by a gap of `factor` times what they used take
at most one part in `1 + factor` of any window, and one period more: the last one
may reach the end of the window before it has been repaid. -/

/-- How much of `[lo, hi]` lies in the window `[u, v]`. -/
def overlap (u v lo hi : Nat) : Nat := min v hi - max u lo

namespace RationedTime

variable {α : Type*} {start finish used within : α → Nat} {factor u v most : Nat}

/-- Periods that start when the window is over use nothing of it. -/
theorem sum_eq_zero {l : List α} {c : Nat} (hstart : ∀ i ∈ l, c ≤ start i) (hc : v < c)
    (hwin : ∀ i ∈ l, within i ≤ overlap u v (start i) (finish i)) : (l.map within).sum = 0 := by
  rw [List.sum_eq_zero_iff]
  intro x hx
  obtain ⟨i, hi, rfl⟩ := List.mem_map.mp hx
  have h1 := hstart i hi
  have h2 := hwin i hi
  simp only [overlap] at h2
  omega

/-- The rest of a rationed schedule, from a time `c` in the window on. -/
theorem total_from_le {l : List α} {c : Nat} (huc : u ≤ c)
    (hsep : l.Pairwise fun i j => finish i + factor * used i ≤ start j)
    (hused : ∀ i ∈ l, within i ≤ used i) (hmost : ∀ i ∈ l, within i ≤ most)
    (hwin : ∀ i ∈ l, within i ≤ overlap u v (start i) (finish i))
    (hfrom : ∀ i ∈ l, within i ≤ finish i - c) :
    (1 + factor) * (l.map within).sum ≤ (v - c) + (1 + factor) * most := by
  induction l generalizing c with
  | nil => simp
  | cons i rest ih =>
    obtain ⟨hnext, hsep⟩ := List.pairwise_cons.mp hsep
    simp only [List.forall_mem_cons] at hused hmost hwin hfrom
    rw [List.map_cons, List.sum_cons, Nat.mul_add]
    have hlast : (1 + factor) * within i ≤ (1 + factor) * most := Nat.mul_le_mul_left _ hmost.1
    let c' := max c (finish i + factor * used i)
    by_cases hc' : v < finish i + factor * used i
    · rw [sum_eq_zero hnext hc' hwin.2]
      omega
    · have hrest : (1 + factor) * (rest.map within).sum ≤ (v - c') + (1 + factor) * most := by
        refine ih (huc.trans (Nat.le_max_left _ _)) hsep hused.2 hmost.2 hwin.2 ?_
        intro j hj
        have h1 := hwin.2 j hj
        have h2 := hfrom.2 j hj
        have h3 := hnext j hj
        simp only [overlap] at h1
        omega
      have hrepaid : (1 + factor) * within i ≤ within i + factor * used i := by
        have := Nat.mul_le_mul_left factor hused.1
        rw [Nat.add_mul, Nat.one_mul]
        omega
      have hspent := hfrom.1
      rcases Nat.eq_zero_or_pos (within i) with hzero | hpos
      · rw [hzero, Nat.mul_zero]
        omega
      · omega

/-- **One part in `1 + factor`, and one period more.** -/
theorem total_within_le (start finish used : α → Nat) {l : List α}
    (hsep : l.Pairwise fun i j => finish i + factor * used i ≤ start j)
    (hused : ∀ i ∈ l, within i ≤ used i) (hmost : ∀ i ∈ l, within i ≤ most)
    (hwin : ∀ i ∈ l, within i ≤ overlap u v (start i) (finish i)) :
    (1 + factor) * (l.map within).sum ≤ (v - u) + (1 + factor) * most := by
  refine total_from_le (Nat.le_refl u) hsep hused hmost hwin ?_
  intro i hi
  have := hwin i hi
  simp only [overlap] at this
  omega

end RationedTime
