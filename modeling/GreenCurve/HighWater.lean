import Mathlib.Order.Lattice
import Mathlib.Data.List.Basic

/-! # High-water marks

A mark kept beside a history: of all elements seen so far it is one of greatest rank, and it
is raised only by an element of strictly greater rank.  An element is below the mark exactly
when it is below something that was seen. -/

namespace HighWater

variable {α β : Type} [LinearOrder β] (rank : α → β)

/-- The mark of a history; there is none while nothing was seen. -/
def Marks (seen : List α) : Option α → Prop
  | none => seen = []
  | some mark => mark ∈ seen ∧ ∀ a ∈ seen, rank a ≤ rank mark

/-- The mark with one more element seen. -/
def raise (mark : Option α) (a : α) : α :=
  match mark with
  | none => a
  | some m => if rank m < rank a then a else m

variable {rank}

/-- Raising keeps the mark. -/
theorem Marks.raise {seen : List α} {mark : Option α} (h : Marks rank seen mark) (a : α) :
    Marks rank (a :: seen) (some (raise rank mark a)) := by
  cases mark with
  | none =>
    obtain rfl : seen = [] := h
    exact ⟨List.mem_cons_self, by simp [HighWater.raise]⟩
  | some m =>
    obtain ⟨hmem, hmax⟩ := h
    by_cases hlt : rank m < rank a
    · simp only [HighWater.raise, if_pos hlt]
      refine ⟨List.mem_cons_self, List.forall_mem_cons.mpr ⟨le_rfl, fun b hb => ?_⟩⟩
      exact (hmax b hb).trans hlt.le
    · simp only [HighWater.raise, if_neg hlt]
      exact ⟨List.mem_cons_of_mem _ hmem, List.forall_mem_cons.mpr ⟨not_lt.mp hlt, hmax⟩⟩

/-- **Below the mark is below something seen.** -/
theorem Marks.lt_iff {seen : List α} {m : α} (h : Marks rank seen (some m)) (a : α) :
    rank a < rank m ↔ ∃ b ∈ seen, rank a < rank b := by
  constructor
  · exact fun hlt => ⟨m, h.1, hlt⟩
  · rintro ⟨b, hb, hlt⟩
    exact hlt.trans_le (h.2 b hb)

/-- A history that is not empty has a mark. -/
theorem Marks.exists_of_mem {seen : List α} {mark : Option α} (h : Marks rank seen mark) {a : α}
    (ha : a ∈ seen) : ∃ m, mark = some m := by
  cases mark with
  | none =>
    obtain rfl : seen = [] := h
    cases ha
  | some m => exact ⟨m, rfl⟩

end HighWater
