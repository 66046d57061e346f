import Mathlib.Data.List.FinRange
import Mathlib.Data.List.Induction

/-! # The sole match of a list

A scan that counts what matches and remembers where it last saw a match.  If it counted
one match, the remembered position is the only one that matches; which position that is
depends on the order of the list, and that there is one does not. -/

namespace GreenCurve

variable {α : Type*} {p q : α → Bool} {xs : List α} {i : Nat}

/-- The matches seen so far and the position of the last one. -/
structure Tally where
  count : Nat := 0
  last : Option Nat := none
deriving DecidableEq, Repr

namespace Tally

def note (t : Tally) (i : Nat) : Tally := ⟨t.count + 1, some i⟩

/-- The tally of a whole list. -/
def of (p : α → Bool) (xs : List α) : Tally :=
  xs.zipIdx.foldl (fun t entry => if p entry.1 then t.note entry.2 else t) {}

theorem of_append_singleton (x : α) :
    of p (xs ++ [x]) = if p x then (of p xs).note xs.length else of p xs := by
  simp only [of, List.zipIdx_append, List.foldl_append, List.zipIdx_singleton, List.foldl_cons,
    List.foldl_nil, Nat.zero_add]

theorem of_count (p : α → Bool) (xs : List α) : (of p xs).count = xs.countP p := by
  induction xs using List.reverseRecOn with
  | nil => rfl
  | append_singleton xs x ih =>
    rw [of_append_singleton, List.countP_append, List.countP_singleton, ← ih]
    by_cases hx : p x = true
    · rw [if_pos hx, if_pos hx]
      rfl
    · rw [if_neg hx, if_neg hx]
      rfl

end Tally

/-- One position matches and no other does. -/
structure Sole (p : α → Bool) (xs : List α) (i : Nat) : Prop where
  found : ∃ x, xs[i]? = some x ∧ p x = true
  sole : ∀ j x, xs[j]? = some x → p x = true → j = i

namespace Sole

theorem unique {j : Nat} (h : Sole p xs i) (h' : Sole p xs j) : i = j := by
  obtain ⟨x, hx, hp⟩ := h.found
  exact h'.sole i x hx hp

theorem congr (h : Sole p xs i) (hpq : ∀ x ∈ xs, p x = q x) : Sole q xs i where
  found := by
    obtain ⟨x, hx, hp⟩ := h.found
    exact ⟨x, hx, (hpq x (List.mem_of_getElem? hx)).symm.trans hp⟩
  sole := fun j x hx hq => h.sole j x hx ((hpq x (List.mem_of_getElem? hx)).trans hq)

theorem append_match {x : α} (hx : p x = true) (hnone : ∀ y ∈ xs, ¬p y = true) :
    Sole p (xs ++ [x]) xs.length where
  found := ⟨x, by simp, hx⟩
  sole := by
    intro j y hy hp
    by_cases hj : j < xs.length
    · rw [List.getElem?_append_left hj] at hy
      exact absurd hp (hnone y (List.mem_of_getElem? hy))
    · rw [List.getElem?_append_right (by omega)] at hy
      have hlt := (List.getElem?_eq_some_iff.mp hy).1
      rw [List.length_singleton] at hlt
      omega

theorem append_other {x : α} (h : Sole p xs i) (hx : ¬p x = true) : Sole p (xs ++ [x]) i where
  found := by
    obtain ⟨y, hy, hp⟩ := h.found
    have hi := (List.getElem?_eq_some_iff.mp hy).1
    exact ⟨y, by rwa [List.getElem?_append_left hi], hp⟩
  sole := by
    intro j y hy hp
    by_cases hj : j < xs.length
    · rw [List.getElem?_append_left hj] at hy
      exact h.sole j y hy hp
    · rw [List.getElem?_append_right (by omega)] at hy
      obtain rfl : x = y := by
        have hmem := List.mem_of_getElem? hy
        exact (List.mem_singleton.mp hmem).symm
      exact absurd hp hx

end Sole

namespace Tally

/-- **One match counted is the sole match remembered.** -/
theorem sole_of_count (h : (of p xs).count = 1) : ∃ i, (of p xs).last = some i ∧ Sole p xs i := by
  induction xs using List.reverseRecOn with
  | nil => cases h
  | append_singleton xs x ih =>
    rw [of_append_singleton] at h ⊢
    by_cases hx : p x = true
    · rw [if_pos hx] at h ⊢
      have hzero : xs.countP p = 0 := by
        rw [← of_count]
        exact Nat.succ_injective h
      exact ⟨xs.length, rfl, .append_match hx (List.countP_eq_zero.mp hzero)⟩
    · rw [if_neg hx] at h ⊢
      obtain ⟨i, hlast, hsole⟩ := ih h
      exact ⟨i, hlast, hsole.append_other hx⟩

end Tally

/-- A list in which one position matches counts one match. -/
theorem Sole.countP_eq_one (h : Sole p xs i) : xs.countP p = 1 := by
  induction xs using List.reverseRecOn with
  | nil =>
    obtain ⟨x, hx, -⟩ := h.found
    cases hx
  | append_singleton xs x ih =>
    rw [List.countP_append, List.countP_singleton]
    by_cases hx : p x = true
    · have hi := h.sole xs.length x (by simp) hx
      have hnone : xs.countP p = 0 := by
        refine List.countP_eq_zero.mpr fun y hy hp => ?_
        obtain ⟨j, hj, rfl⟩ := List.getElem_of_mem hy
        have hji := h.sole j xs[j] (by rw [List.getElem?_append_left hj]; simp) hp
        omega
      rw [hnone, if_pos hx]
    · rw [if_neg hx, Nat.add_zero]
      refine ih ⟨?_, fun j y hy hp => ?_⟩
      · obtain ⟨y, hy, hp⟩ := h.found
        by_cases hi : i < xs.length
        · exact ⟨y, by rwa [List.getElem?_append_left hi] at hy, hp⟩
        · rw [List.getElem?_append_right (by omega)] at hy
          have hmem := List.mem_of_getElem? hy
          rw [List.mem_singleton.mp hmem] at hp
          exact absurd hp hx
      · have hj := (List.getElem?_eq_some_iff.mp hy).1
        exact h.sole j y (by rwa [List.getElem?_append_left hj]) hp

/-- The tally of a list with a sole match. -/
theorem Sole.tally (h : Sole p xs i) : Tally.of p xs = ⟨1, some i⟩ := by
  have hcount : (Tally.of p xs).count = 1 := (Tally.of_count p xs).trans h.countP_eq_one
  obtain ⟨j, hlast, hsole⟩ := Tally.sole_of_count hcount
  rw [h.unique hsole, ← hlast, ← hcount]

/-- The sole match of an image. -/
theorem sole_map {β : Type*} {f : β → α} {ys : List β} :
    Sole p (ys.map f) i ↔ Sole (p ∘ f) ys i := by
  constructor
  · intro h
    obtain ⟨x, hx, hp⟩ := h.found
    rw [List.getElem?_map] at hx
    obtain ⟨y, hy, rfl⟩ := Option.map_eq_some_iff.mp hx
    refine ⟨⟨y, hy, hp⟩, fun j z hz hq => h.sole j (f z) ?_ hq⟩
    rw [List.getElem?_map, hz]
    rfl
  · intro h
    obtain ⟨y, hy, hp⟩ := h.found
    refine ⟨⟨f y, by rw [List.getElem?_map, hy]; rfl, hp⟩, fun j x hx hq => ?_⟩
    rw [List.getElem?_map] at hx
    obtain ⟨z, hz, rfl⟩ := Option.map_eq_some_iff.mp hx
    exact h.sole j z hz hq

/-! ## Order -/

theorem sole_ofFn {n : Nat} {f : Fin n → α} {i : Fin n} :
    Sole p (List.ofFn f) i ↔ p (f i) = true ∧ ∀ j, p (f j) = true → j = i := by
  have hget : ∀ (j : Nat) (x : α), (List.ofFn f)[j]? = some x ↔ ∃ h : j < n, f ⟨j, h⟩ = x := by
    intro j x
    rw [List.getElem?_eq_some_iff]
    simp
  constructor
  · intro h
    obtain ⟨x, hx, hp⟩ := h.found
    obtain ⟨_, rfl⟩ := (hget i x).mp hx
    exact ⟨hp, fun j hj => Fin.ext (h.sole j (f j) ((hget j _).mpr ⟨j.isLt, rfl⟩) hj)⟩
  · rintro ⟨hp, honly⟩
    refine ⟨⟨f i, (hget i _).mpr ⟨i.isLt, rfl⟩, hp⟩, fun j x hx hpx => ?_⟩
    obtain ⟨hj, rfl⟩ := (hget j x).mp hx
    exact congrArg Fin.val (honly ⟨j, hj⟩ hpx)

/-- The sole match moves with the order of the list. -/
theorem sole_ofFn_comp {n : Nat} {f : Fin n → α} (σ : Equiv.Perm (Fin n)) {i : Fin n} :
    Sole p (List.ofFn (f ∘ σ)) i ↔ Sole p (List.ofFn f) (σ i) := by
  rw [sole_ofFn, sole_ofFn]
  refine and_congr_right fun _ => ⟨fun h j hj => ?_, fun h j hj => σ.injective (h (σ j) hj)⟩
  rw [← h (σ.symm j) (by simpa using hj), Equiv.apply_symm_apply]

/-- How many match does not depend on the order of the list. -/
theorem countP_ofFn_comp {n : Nat} (f : Fin n → α) (σ : Equiv.Perm (Fin n)) (p : α → Bool) :
    (List.ofFn (f ∘ σ)).countP p = (List.ofFn f).countP p :=
  (σ.ofFn_comp_perm f).countP_eq p

end GreenCurve
