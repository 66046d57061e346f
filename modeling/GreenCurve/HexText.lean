import GreenCurve.IniText
import Mathlib.Tactic.IntervalCases

/-! # Hexadecimal fields

Numbers as `"%0*x"` prints them, and the reader of the fields of a PCI location: up to
eight digits and a greatest value.  What is printed is read back. -/

namespace GreenCurve.Hex

open Ini (Text)

def isHexDigit (c : Char) : Bool :=
  c.isDigit || decide ('a' ≤ c ∧ c ≤ 'f') || decide ('A' ≤ c ∧ c ≤ 'F')

def hexValue (c : Char) : Nat :=
  if c.isDigit then c.toNat - '0'.toNat
  else if 'a' ≤ c ∧ c ≤ 'f' then c.toNat - 'a'.toNat + 10
  else c.toNat - 'A'.toNat + 10

/-- The value of a run of digits. -/
def ofDigits (digits : Text) : Nat := digits.foldl (fun n c => n * 16 + hexValue c) 0

/-- `parse_hex_u32_field`: the value of the digits in front and the text behind them. -/
def parseHexU32Field (t : Text) (maxVal : Nat) : Option (Nat × Text) :=
  let digits := t.takeWhile isHexDigit
  if digits = [] ∨ digits.length > 8 ∨ ofDigits digits > maxVal then none
  else some (ofDigits digits, t.dropWhile isHexDigit)

/-- `"%0*x"`. -/
def print (width n : Nat) : Text := (Nat.toDigits 16 n).leftpad width '0'

theorem digitChar_hex {d : Nat} (h : d < 16) :
    isHexDigit d.digitChar = true ∧ hexValue d.digitChar = d := by
  have hall : ∀ d ∈ List.range 16, isHexDigit d.digitChar = true ∧ hexValue d.digitChar = d := by
    decide
  exact hall d (List.mem_range.mpr h)

theorem ofDigits_append_singleton (digits : Text) (c : Char) :
    ofDigits (digits ++ [c]) = ofDigits digits * 16 + hexValue c := by
  simp only [ofDigits, List.foldl_append, List.foldl_cons, List.foldl_nil]

/-- The digits of a number are digits and have its value. -/
theorem toDigits_hex (n : Nat) :
    (∀ c ∈ Nat.toDigits 16 n, isHexDigit c = true) ∧ ofDigits (Nat.toDigits 16 n) = n := by
  induction n using Nat.strongRecOn with
  | _ n ih =>
    by_cases hn : n < 16
    · rw [Nat.toDigits_of_lt_base hn]
      obtain ⟨hdigit, hvalue⟩ := digitChar_hex hn
      refine ⟨fun c hc => ?_, ?_⟩
      · rw [List.mem_singleton.mp hc]
        exact hdigit
      · simp only [ofDigits, List.foldl_cons, List.foldl_nil, hvalue]
        omega
    · rw [Nat.toDigits_of_base_le (by decide) (Nat.le_of_not_lt hn)]
      obtain ⟨hdigits, hvalue⟩ := ih (n / 16) (by omega)
      obtain ⟨hlast, hlastValue⟩ := digitChar_hex (Nat.mod_lt n (show 16 > 0 by decide))
      refine ⟨fun c hc => ?_, ?_⟩
      · rcases List.mem_append.mp hc with hc | hc
        · exact hdigits c hc
        · rw [List.mem_singleton.mp hc]
          exact hlast
      · rw [ofDigits_append_singleton, hvalue, hlastValue]
        omega

theorem ofDigits_replicate_zero (k : Nat) (digits : Text) :
    ofDigits (List.replicate k '0' ++ digits) = ofDigits digits := by
  have hzero : ∀ k, (List.replicate k '0').foldl (fun n c => n * 16 + hexValue c) 0 = 0 := by
    intro k
    induction k with
    | zero => rfl
    | succ k ih =>
      rw [List.replicate_succ, List.foldl_cons]
      exact ih
  simp only [ofDigits, List.foldl_append, hzero]

theorem print_hex (width n : Nat) :
    (∀ c ∈ print width n, isHexDigit c = true) ∧ ofDigits (print width n) = n := by
  obtain ⟨hdigits, hvalue⟩ := toDigits_hex n
  refine ⟨fun c hc => ?_, ?_⟩
  · rcases List.mem_append.mp hc with hc | hc
    · rw [List.eq_of_mem_replicate hc]
      rfl
    · exact hdigits c hc
  · exact (ofDigits_replicate_zero _ _).trans hvalue

theorem length_print {width n : Nat} (hwidth : 0 < width) (h : n < 16 ^ width) :
    (print width n).length = width := by
  have hle := (Nat.length_toDigits_le_iff (show 1 < 16 by decide) hwidth).mpr h
  rw [print, List.leftpad, List.length_append, List.length_replicate]
  omega

/-- **A field that was printed is read back**, up to what is no digit. -/
theorem parse_print {width n maxVal : Nat} (hwidth : 0 < width ∧ width ≤ 8) (h : n < 16 ^ width)
    (hmax : n ≤ maxVal) {rest : Text} (hrest : ∀ c ∈ rest.head?, isHexDigit c = false) :
    parseHexU32Field (print width n ++ rest) maxVal = some (n, rest) := by
  obtain ⟨hdigits, hvalue⟩ := print_hex width n
  have hlength := length_print hwidth.1 h
  have hrestTake : rest.takeWhile isHexDigit = [] := by
    cases rest with
    | nil => rfl
    | cons c rest => exact List.takeWhile_cons_of_neg (by simp [hrest c rfl])
  have hrestDrop : rest.dropWhile isHexDigit = rest := by
    cases rest with
    | nil => rfl
    | cons c rest => exact List.dropWhile_cons_of_neg (by simp [hrest c rfl])
  have htake : (print width n ++ rest).takeWhile isHexDigit = print width n := by
    rw [List.takeWhile_append_of_pos hdigits, hrestTake, List.append_nil]
  have hdrop : (print width n ++ rest).dropWhile isHexDigit = rest := by
    rw [List.dropWhile_append_of_pos hdigits, hrestDrop]
  have hne : print width n ≠ [] := by
    intro hnil
    rw [hnil, List.length_nil] at hlength
    omega
  rw [parseHexU32Field, htake, hdrop, hvalue, if_neg]
  rintro (hnil | hlong | hlarge)
  · exact hne hnil
  · omega
  · omega

end GreenCurve.Hex
