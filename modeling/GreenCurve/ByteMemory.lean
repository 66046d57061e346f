import Mathlib.Data.UInt
import Mathlib.Tactic.Common

/-! # Bytes in memory

A piece of memory is a list of bytes of fixed length.  `overwrite` replaces the bytes at an
offset; a ring is memory that is addressed by positions which only grow, each at its
remainder.  A ring holds a text at a position when each byte of it is found there
(`Holds`): writing makes it hold what was written, keeps what lies elsewhere in the window of
one length, and reading gives back what it holds. -/

namespace ByteMemory

variable {memory bytes : List UInt8} {offset position : Nat}

/-! ## Overwriting -/

/-- The bytes at an offset replaced. -/
def overwrite (memory : List UInt8) (offset : Nat) (bytes : List UInt8) : List UInt8 :=
  memory.take offset ++ bytes ++ memory.drop (offset + bytes.length)

theorem length_overwrite (h : offset + bytes.length ≤ memory.length) :
    (overwrite memory offset bytes).length = memory.length := by
  simp only [overwrite, List.length_append, List.length_take, List.length_drop]
  omega

theorem take_overwrite (h : offset ≤ memory.length) :
    (overwrite memory offset bytes).take (offset + bytes.length) = memory.take offset ++ bytes := by
  have hlength : (memory.take offset ++ bytes).length = offset + bytes.length := by
    rw [List.length_append, List.length_take, Nat.min_eq_left h]
  rw [overwrite, ← hlength, List.take_left]

@[simp] theorem overwrite_nil : overwrite memory offset [] = memory := by
  simp [overwrite]

theorem getElem?_overwrite_inside {i : Nat} (h : offset + bytes.length ≤ memory.length)
    (hi : i < bytes.length) : (overwrite memory offset bytes)[offset + i]? = bytes[i]? := by
  have hlength : (memory.take offset).length = offset := by
    rw [List.length_take]
    omega
  rw [overwrite, List.append_assoc, List.getElem?_append_right (by omega), hlength,
    Nat.add_sub_cancel_left, List.getElem?_append_left hi]

theorem getElem?_overwrite_outside {i : Nat} (h : offset + bytes.length ≤ memory.length)
    (hi : i < offset ∨ offset + bytes.length ≤ i) :
    (overwrite memory offset bytes)[i]? = memory[i]? := by
  have hlength : (memory.take offset).length = offset := by
    rw [List.length_take]
    omega
  rcases hi with hi | hi
  · rw [overwrite, List.append_assoc, List.getElem?_append_left (by omega),
      List.getElem?_take_of_lt hi]
  · have hboth : (memory.take offset ++ bytes).length = offset + bytes.length := by
      rw [List.length_append, hlength]
    rw [overwrite, List.getElem?_append_right (by omega), hboth, List.getElem?_drop]
    congr 1
    omega

/-! ## Rings -/

/-- A text written at a position, around the end of the ring. -/
def ringWrite (memory : List UInt8) (position : Nat) (bytes : List UInt8) : List UInt8 :=
  let offset := position % memory.length
  let span := min bytes.length (memory.length - offset)
  overwrite (overwrite memory offset (bytes.take span)) 0 (bytes.drop span)

/-- The bytes at a position. -/
def ringRead (memory : List UInt8) (position n : Nat) : List UInt8 :=
  let offset := position % memory.length
  let span := min n (memory.length - offset)
  (memory.drop offset).take span ++ memory.take (n - span)

/-- The ring holds a text at a position. -/
def Holds (memory : List UInt8) (position : Nat) (bytes : List UInt8) : Prop :=
  ∀ i < bytes.length, memory[(position + i) % memory.length]? = bytes[i]?

/-- Where a position of the window lies. -/
theorem window_mod {position i capacity : Nat} (hi : i < capacity) :
    (position + i) % capacity =
      if position % capacity + i < capacity then position % capacity + i
      else position % capacity + i - capacity := by
  have hlt := Nat.mod_lt position (Nat.zero_lt_of_lt hi)
  rw [← Nat.mod_add_mod]
  split_ifs with h
  · exact Nat.mod_eq_of_lt h
  · rw [Nat.mod_eq_sub_mod (by omega), Nat.mod_eq_of_lt (by omega)]

theorem length_ringWrite (h : bytes.length ≤ memory.length) :
    (ringWrite memory position bytes).length = memory.length := by
  rcases Nat.eq_zero_or_pos memory.length with hzero | hpos
  · have hnil : bytes = [] := List.length_eq_zero_iff.mp (by omega)
    simp [ringWrite, hnil]
  have hoffset := Nat.mod_lt position hpos
  have hfirst : (overwrite memory (position % memory.length)
      (bytes.take (min bytes.length (memory.length - position % memory.length)))).length =
        memory.length := by
    apply length_overwrite
    rw [List.length_take]
    omega
  rw [ringWrite, length_overwrite, hfirst]
  rw [hfirst, List.length_drop]
  omega

/-- **What a write leaves**, position by position in the window that begins with it. -/
theorem getElem?_ringWrite {i : Nat} (h : bytes.length ≤ memory.length) (hi : i < memory.length) :
    (ringWrite memory position bytes)[(position + i) % memory.length]? =
      if i < bytes.length then bytes[i]? else memory[(position + i) % memory.length]? := by
  have hoffset := Nat.mod_lt position (Nat.zero_lt_of_lt hi)
  set offset := position % memory.length with hoffset_eq
  set span := min bytes.length (memory.length - offset) with hspan
  have htake : (bytes.take span).length = span := by
    rw [List.length_take]
    omega
  have hdrop : (bytes.drop span).length = bytes.length - span := List.length_drop
  have hfits : offset + (bytes.take span).length ≤ memory.length := by omega
  have hfirst := length_overwrite hfits
  have hrest : 0 + (bytes.drop span).length ≤
      (overwrite memory offset (bytes.take span)).length := by omega
  rw [ringWrite, ← hoffset_eq, ← hspan, window_mod hi, ← hoffset_eq]
  by_cases hwrap : offset + i < memory.length
  · -- before the end of the ring
    rw [if_pos hwrap, getElem?_overwrite_outside hrest (by omega)]
    by_cases hin : i < bytes.length
    · rw [if_pos hin, getElem?_overwrite_inside hfits (by omega),
        List.getElem?_take_of_lt (by omega)]
    · rw [if_neg hin, getElem?_overwrite_outside hfits (by omega)]
  · -- from its beginning on
    rw [if_neg hwrap]
    by_cases hin : i < bytes.length
    · have hplace : offset + i - memory.length = 0 + (offset + i - memory.length) := by omega
      rw [if_pos hin, hplace, getElem?_overwrite_inside hrest (by omega), List.getElem?_drop]
      congr 1
      omega
    · rw [if_neg hin, getElem?_overwrite_outside hrest (by omega),
        getElem?_overwrite_outside hfits (by omega)]

theorem holds_ringWrite (h : bytes.length ≤ memory.length) :
    Holds (ringWrite memory position bytes) position bytes := by
  intro i hi
  rw [length_ringWrite h, getElem?_ringWrite h (by omega), if_pos hi]

/-- What lies elsewhere in the window is kept. -/
theorem Holds.ringWrite {start : Nat} {text : List UInt8} (htext : Holds memory start text)
    (h : bytes.length ≤ memory.length) (hbefore : start + text.length ≤ position)
    (hwindow : position + bytes.length ≤ start + memory.length) :
    Holds (ringWrite memory position bytes) start text := by
  intro i hi
  have hplace : (start + i) % memory.length =
      (position + (start + i + memory.length - position)) % memory.length := by
    rw [show position + (start + i + memory.length - position) = start + i + memory.length by omega,
      Nat.add_mod_right]
  rw [length_ringWrite h, hplace, getElem?_ringWrite h (by omega), if_neg (by omega), ← hplace]
  exact htext i hi

theorem length_ringRead {n : Nat} (h : n ≤ memory.length) :
    (ringRead memory position n).length = n := by
  rcases Nat.eq_zero_or_pos memory.length with hzero | hpos
  · have hn : n = 0 := by omega
    simp [ringRead, hn]
  have hoffset := Nat.mod_lt position hpos
  simp only [ringRead, List.length_append, List.length_take, List.length_drop]
  omega

/-- **Reading gives back what the ring holds.** -/
theorem ringRead_eq (h : bytes.length ≤ memory.length) (hholds : Holds memory position bytes) :
    ringRead memory position bytes.length = bytes := by
  apply List.ext_getElem?
  intro i
  by_cases hi : i < bytes.length
  · have hoffset := Nat.mod_lt position (show 0 < memory.length by omega)
    rw [← hholds i hi, window_mod (by omega), ringRead]
    have hlength : ((memory.drop (position % memory.length)).take
        (min bytes.length (memory.length - position % memory.length))).length =
          min bytes.length (memory.length - position % memory.length) := by
      rw [List.length_take, List.length_drop]
      omega
    split_ifs with hwrap
    · rw [List.getElem?_append_left (by omega), List.getElem?_take_of_lt (by omega),
        List.getElem?_drop]
    · rw [List.getElem?_append_right (by omega), hlength, List.getElem?_take_of_lt (by omega)]
      congr 1
      omega
  · rw [List.getElem?_eq_none (by rw [length_ringRead h]; omega),
      List.getElem?_eq_none (by omega)]

theorem holds_append {text rest : List UInt8} :
    Holds memory position (text ++ rest) ↔
      Holds memory position text ∧ Holds memory (position + text.length) rest := by
  constructor
  · intro h
    refine ⟨fun i hi => ?_, fun i hi => ?_⟩
    · rw [h i (by rw [List.length_append]; omega), List.getElem?_append_left hi]
    · rw [Nat.add_assoc, h (text.length + i) (by rw [List.length_append]; omega),
        List.getElem?_append_right (by omega), Nat.add_sub_cancel_left]
  · rintro ⟨htext, hrest⟩ i hi
    rw [List.length_append] at hi
    by_cases hin : i < text.length
    · rw [htext i hin, List.getElem?_append_left hin]
    · have hr := hrest (i - text.length) (by omega)
      rw [show position + text.length + (i - text.length) = position + i by omega] at hr
      rw [hr, List.getElem?_append_right (by omega)]

theorem holds_nil : Holds memory position [] := fun _ hi => absurd hi (Nat.not_lt_zero _)

end ByteMemory
