import GreenCurve.IniText
import Mathlib.Tactic.Ring

/-! # Integers as decimal text

`printInt` is what `"%d"` writes, `parseIntStrict` reads a whole text as a 32-bit
integer, the way `strtol` does: blanks in front and a sign are taken, anything behind
the digits is refused.  A printed integer is read back as itself. -/

namespace GreenCurve

open Ini (Text)

/-- `"%d"`, and `"%u"` for a value that is not negative. -/
def printInt : Int → Text
  | .ofNat n => Nat.toDigits 10 n
  | .negSucc n => '-' :: Nat.toDigits 10 (n + 1)

def isSpace (c : Char) : Bool := c == ' ' || decide ('\t' ≤ c ∧ c ≤ '\r')

/-- The sign in front of a number: whether it is a minus, and what follows. -/
def takeSign : Text → Bool × Text
  | '-' :: rest => (true, rest)
  | '+' :: rest => (false, rest)
  | t => (false, t)

/-- The integer in front of a text and what is left behind it; nothing where there is
no digit. -/
def strtol (t : Text) : Option (Int × Text) :=
  let signed := takeSign (t.dropWhile isSpace)
  let digits := signed.2.takeWhile Char.isDigit
  let magnitude : Int := Nat.ofDigitChars 10 digits 0
  if digits = [] then none
  else some (if signed.1 then -magnitude else magnitude, signed.2.dropWhile Char.isDigit)

/-- `parse_int_strict`.  A number beyond `long` is refused there, as it is here with
every number beyond `int`. -/
def parseIntStrict (t : Text) : Option Int :=
  match strtol (Ini.cString t) with
  | some (value, []) => if -2147483648 ≤ value ∧ value ≤ 2147483647 then some value else none
  | _ => none

theorem isDigit_toDigits (n : Nat) : ∀ c ∈ Nat.toDigits 10 n, c.isDigit = true :=
  fun _ => Nat.isDigit_of_mem_toDigits (by decide) (by decide)

theorem takeWhile_isDigit_toDigits (n : Nat) :
    (Nat.toDigits 10 n).takeWhile Char.isDigit = Nat.toDigits 10 n :=
  List.takeWhile_eq_self_iff.mpr (isDigit_toDigits n)

theorem dropWhile_isDigit_toDigits (n : Nat) :
    (Nat.toDigits 10 n).dropWhile Char.isDigit = [] :=
  List.dropWhile_eq_nil_iff.mpr (isDigit_toDigits n)

theorem exists_toDigits_cons (n : Nat) : ∃ c rest, Nat.toDigits 10 n = c :: rest ∧
    c.isDigit = true := by
  cases h : Nat.toDigits 10 n with
  | nil => exact absurd h Nat.toDigits_ne_nil
  | cons c rest => exact ⟨c, rest, rfl, isDigit_toDigits n c (by simp [h])⟩

theorem ne_of_isDigit {c d : Char} (hc : c.isDigit = true) (hd : d.isDigit = false) : c ≠ d := by
  rintro rfl
  rw [hc] at hd
  cases hd

theorem isSpace_of_isDigit {c : Char} (h : c.isDigit = true) : isSpace c = false := by
  have hge : 48 ≤ c.toNat := by
    simp only [Char.isDigit, ge_iff_le, Bool.and_eq_true, decide_eq_true_eq,
      UInt32.le_iff_toNat_le] at h
    exact h.1
  have hspace : c ≠ ' ' := ne_of_isDigit h (by decide)
  have hreturn : ¬c ≤ '\r' := by
    intro hle
    have hle : c.toNat ≤ 13 := hle
    omega
  simp [isSpace, hspace, hreturn]

/-- The digits of a number are read whole. -/
theorem strtol_digits {c : Char} {rest : Text} {n : Nat} (hdigits : Nat.toDigits 10 n = c :: rest)
    (hc : c.isDigit = true) : strtol (c :: rest) = some ((n : Int), []) := by
  have htake := takeWhile_isDigit_toDigits n
  have hdrop := dropWhile_isDigit_toDigits n
  have hvalue := Nat.ofDigitChars_ten_toDigits (n := n)
  rw [hdigits] at htake hdrop hvalue
  have hblank : (c :: rest).dropWhile isSpace = c :: rest :=
    List.dropWhile_cons_of_neg (by simp [isSpace_of_isDigit hc])
  have hsign : takeSign (c :: rest) = (false, c :: rest) := by
    have hminus : c ≠ '-' := ne_of_isDigit hc (by decide)
    have hplus : c ≠ '+' := ne_of_isDigit hc (by decide)
    unfold takeSign
    split <;> simp_all
  simp [strtol, hblank, hsign, htake, hdrop, hvalue]

theorem strtol_printInt (value : Int) : strtol (printInt value) = some (value, []) := by
  cases value with
  | ofNat n =>
    obtain ⟨c, rest, hdigits, hc⟩ := exists_toDigits_cons n
    rw [printInt, hdigits, strtol_digits hdigits hc]
    rfl
  | negSucc n =>
    have hblank : ('-' :: Nat.toDigits 10 (n + 1)).dropWhile isSpace =
        '-' :: Nat.toDigits 10 (n + 1) := List.dropWhile_cons_of_neg (by decide)
    have hvalue : -((n + 1 : Nat) : Int) = Int.negSucc n := by omega
    unfold strtol printInt
    rw [hblank]
    simp only [takeSign, takeWhile_isDigit_toDigits, dropWhile_isDigit_toDigits,
      Nat.toDigits_ne_nil, if_false, if_true, Nat.ofDigitChars_ten_toDigits, hvalue]

theorem printInt_isDigit_or_minus (value : Int) :
    ∀ c ∈ printInt value, c.isDigit = true ∨ c = '-' := by
  intro c hc
  cases value with
  | ofNat n => exact .inl (isDigit_toDigits n c hc)
  | negSucc n =>
    rcases List.mem_cons.mp hc with rfl | hc
    · exact .inr rfl
    · exact .inl (isDigit_toDigits _ c hc)

theorem printInt_ne_nil (value : Int) : printInt value ≠ [] := by
  cases value with
  | ofNat n => exact Nat.toDigits_ne_nil
  | negSucc n => exact List.cons_ne_nil _ _

/-- **A printed integer is read back as itself.** -/
theorem parseIntStrict_printInt {value : Int} (h : -2147483648 ≤ value ∧ value ≤ 2147483647) :
    parseIntStrict (printInt value) = some value := by
  have hnul : '\x00' ∉ printInt value := by
    intro hmem
    rcases printInt_isDigit_or_minus value _ hmem with hc | hc <;> exact absurd hc (by decide)
  rw [parseIntStrict, Ini.cString_eq_self.mpr hnul, strtol_printInt]
  exact if_pos h

theorem printInt_injective : Function.Injective printInt := by
  intro a b h
  have ha := strtol_printInt a
  rw [h, strtol_printInt b] at ha
  exact (congrArg Prod.fst (Option.some.inj ha)).symm

end GreenCurve
