import Mathlib.Logic.Function.Iterate
import Mathlib.Data.UInt

/-! # CRC-32

The checksum of the installer's container, in the two programs that compute it.  The
installer shifts bit by bit; `zlib`, which the build tool calls, looks up what eight
shifts of a byte give.  A shift is linear in the register, so the two agree
(`gcCrc32_eq_zlib`). -/

namespace GreenCurve.Crc32

def polynomial : UInt32 := 0xEDB88320

/-- One bit of the register: `mask` is all ones where the bit is set. -/
def bitStep (crc : UInt32) : UInt32 := (crc >>> 1) ^^^ (polynomial &&& (0 - (crc &&& 1)))

def byteStep (crc : UInt32) (byte : UInt8) : UInt32 := bitStep^[8] (crc ^^^ byte.toUInt32)

/-- `gc_crc32`. -/
def gcCrc32 (data : List UInt8) (seed : UInt32) : UInt32 := ~~~(data.foldl byteStep (~~~seed))

/-- An entry of the table of `zlib`. -/
def tableEntry (index : UInt32) : UInt32 :=
  (fun c : UInt32 => if c &&& 1 ≠ 0 then polynomial ^^^ (c >>> 1) else c >>> 1)^[8] index

/-- `zlib.crc32(data)`. -/
def zlibCrc32 (data : List UInt8) : UInt32 :=
  data.foldl (fun crc byte => tableEntry ((crc ^^^ byte.toUInt32) &&& 0xFF) ^^^ (crc >>> 8))
    0xFFFFFFFF ^^^ 0xFFFFFFFF

/-! ## Shifts -/

theorem and_one (crc : UInt32) : crc &&& 1 = 0 ∨ crc &&& 1 = 1 := by
  have hmod : (crc &&& 1).toNat = crc.toNat % 2 := by
    rw [UInt32.toNat_and]
    exact Nat.and_one_is_mod _
  rcases Nat.mod_two_eq_zero_or_one crc.toNat with h | h
  · exact .inl (UInt32.toNat.inj (hmod.trans h))
  · exact .inr (UInt32.toNat.inj (hmod.trans h))

/-- A clear bit is shifted out and nothing else happens. -/
theorem bitStep_of_clear {crc : UInt32} (h : crc &&& 1 = 0) : bitStep crc = crc >>> 1 := by
  simp [bitStep, h]

theorem bitStep_of_set {crc : UInt32} (h : crc &&& 1 = 1) :
    bitStep crc = (crc >>> 1) ^^^ polynomial := by
  have hmask : polynomial &&& (0 - 1) = polynomial := by decide
  rw [bitStep, h, hmask]

/-- The step of the table is the step of the register. -/
theorem tableStep_eq (crc : UInt32) :
    (if crc &&& 1 ≠ 0 then polynomial ^^^ (crc >>> 1) else crc >>> 1) = bitStep crc := by
  rcases and_one crc with h | h
  · rw [if_neg (not_not.mpr h), bitStep_of_clear h]
  · rw [if_pos (by rw [h]; decide), bitStep_of_set h, UInt32.xor_comm]

/-- **A shift is linear in the register.** -/
theorem bitStep_xor (a b : UInt32) : bitStep (a ^^^ b) = bitStep a ^^^ bitStep b := by
  have hshift : (a ^^^ b) >>> 1 = (a >>> 1) ^^^ (b >>> 1) := UInt32.shiftRight_xor
  have hlow : (a ^^^ b) &&& 1 = (a &&& 1) ^^^ (b &&& 1) := by
    refine UInt32.toNat.inj ?_
    simp only [UInt32.toNat_and, UInt32.toNat_xor]
    exact Nat.and_xor_distrib_right
  rcases and_one a with ha | ha <;> rcases and_one b with hb | hb <;> rw [ha, hb] at hlow
  · rw [bitStep_of_clear hlow, bitStep_of_clear ha, bitStep_of_clear hb, hshift]
  · rw [bitStep_of_set hlow, bitStep_of_clear ha, bitStep_of_set hb, hshift, UInt32.xor_assoc]
  · rw [bitStep_of_set hlow, bitStep_of_set ha, bitStep_of_clear hb, hshift, UInt32.xor_assoc,
      UInt32.xor_assoc, UInt32.xor_comm (b >>> 1)]
  · rw [bitStep_of_clear hlow, bitStep_of_set ha, bitStep_of_set hb, hshift, UInt32.xor_assoc,
      UInt32.xor_comm (b >>> 1), ← UInt32.xor_assoc polynomial, UInt32.xor_self, UInt32.zero_xor]

theorem iterate_xor (n : Nat) (a b : UInt32) :
    bitStep^[n] (a ^^^ b) = bitStep^[n] a ^^^ bitStep^[n] b := by
  induction n generalizing a b with
  | zero => rfl
  | succ n ih => rw [Function.iterate_succ_apply, Function.iterate_succ_apply,
      Function.iterate_succ_apply, bitStep_xor, ih]

/-- What is above the bits that are shifted out only moves down. -/
theorem iterate_of_clear {n : Nat} (crc : UInt32) (h : 2 ^ n ∣ crc.toNat) :
    (bitStep^[n] crc).toNat = crc.toNat / 2 ^ n := by
  induction n generalizing crc with
  | zero => simp
  | succ n ih =>
    have hclear : crc &&& 1 = 0 := by
      have hmod : (crc &&& 1).toNat = crc.toNat % 2 := by
        rw [UInt32.toNat_and]
        exact Nat.and_one_is_mod _
      have htwo : 2 ∣ crc.toNat := (Dvd.intro_left (2 ^ n) (pow_succ 2 n).symm).trans h
      exact UInt32.toNat.inj (hmod.trans (Nat.mod_eq_zero_of_dvd htwo))
    have hshift : (crc >>> 1).toNat = crc.toNat / 2 := by
      rw [UInt32.toNat_shiftRight]
      exact Nat.shiftRight_one _
    have hdvd : 2 ^ n ∣ (crc >>> 1).toNat := by
      rw [hshift]
      exact Nat.dvd_div_of_mul_dvd (by rwa [← pow_succ'])
    rw [Function.iterate_succ_apply, bitStep_of_clear hclear, ih _ hdvd, hshift,
      Nat.div_div_eq_div_mul, ← pow_succ']

/-- A register is its low byte and what is above it. -/
theorem split_low (crc : UInt32) :
    crc = (crc &&& (0xFF : UInt32)) ^^^ ((crc >>> 8) <<< 8) := by
  have hlow : (crc &&& (0xFF : UInt32)).toNat = crc.toNat % 2 ^ 8 := by
    rw [UInt32.toNat_and]
    exact Nat.and_two_pow_sub_one_eq_mod crc.toNat 8
  have hhigh : ((crc >>> 8) <<< 8).toNat = crc.toNat / 2 ^ 8 * 2 ^ 8 := by
    have hlt := crc.toNat_lt
    rw [UInt32.toNat_shiftLeft, UInt32.toNat_shiftRight]
    change (crc.toNat >>> 8) <<< 8 % 2 ^ 32 = _
    rw [Nat.shiftRight_eq_div_pow, Nat.shiftLeft_eq]
    omega
  refine UInt32.toNat.inj (Nat.eq_of_testBit_eq fun i => ?_)
  rw [UInt32.toNat_xor, hlow, hhigh, Nat.testBit_xor, Nat.testBit_mod_two_pow,
    Nat.testBit_mul_two_pow, Nat.testBit_div_two_pow]
  rcases Nat.lt_or_ge i 8 with hi | hi
  · simp [hi, Nat.not_le.mpr hi]
  · simp [Nat.not_lt.mpr hi, hi, Nat.sub_add_cancel hi]

/-- Eight shifts look up the low byte and move the rest down. -/
theorem iterate_eight (crc : UInt32) :
    bitStep^[8] crc = bitStep^[8] (crc &&& 0xFF) ^^^ (crc >>> 8) := by
  have hhigh : ((crc >>> 8) <<< 8).toNat = (crc >>> 8).toNat * 2 ^ 8 := by
    have hlt : (crc >>> 8).toNat < 2 ^ 24 := by
      have hlt := crc.toNat_lt
      rw [UInt32.toNat_shiftRight]
      change crc.toNat >>> 8 < _
      rw [Nat.shiftRight_eq_div_pow]
      omega
    rw [UInt32.toNat_shiftLeft]
    change (crc >>> 8).toNat <<< 8 % 2 ^ 32 = _
    rw [Nat.shiftLeft_eq]
    omega
  have hmoved : bitStep^[8] ((crc >>> 8) <<< 8) = crc >>> 8 := by
    refine UInt32.toNat.inj ?_
    rw [iterate_of_clear _ (hhigh ▸ Nat.dvd_mul_left _ _), hhigh, Nat.mul_div_cancel _ (by decide)]
  conv_lhs => rw [split_low crc]
  rw [iterate_xor, hmoved]

/-- **The two checksums agree.** -/
theorem gcCrc32_eq_zlib (data : List UInt8) : gcCrc32 data 0 = zlibCrc32 data := by
  have htable : tableEntry = bitStep^[8] := by
    funext index
    rw [tableEntry, funext tableStep_eq]
  have hbyte : ∀ byte : UInt8, byte.toUInt32 >>> 8 = 0 := by
    intro byte
    refine UInt32.toNat.inj ?_
    rw [UInt32.toNat_shiftRight, UInt8.toNat_toUInt32]
    change byte.toNat >>> 8 = 0
    rw [Nat.shiftRight_eq_div_pow]
    exact Nat.div_eq_of_lt byte.toNat_lt
  have hstep : byteStep = fun crc byte =>
      tableEntry ((crc ^^^ byte.toUInt32) &&& 0xFF) ^^^ (crc >>> 8) := by
    funext crc byte
    have hshift : (crc ^^^ byte.toUInt32) >>> 8 = (crc >>> 8) ^^^ (byte.toUInt32 >>> 8) :=
      UInt32.shiftRight_xor
    rw [byteStep, iterate_eight, htable, hshift, hbyte, UInt32.xor_zero]
  have hnot : ∀ crc : UInt32, ~~~crc = crc ^^^ 0xFFFFFFFF := fun crc =>
    (UInt32.xor_neg_one).symm
  rw [gcCrc32, zlibCrc32, hstep, hnot]
  rfl

end GreenCurve.Crc32
