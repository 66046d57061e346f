import Mathlib.Data.UInt
import Mathlib.Tactic.Common

/-! # Base64

The padded base64 encoding of a byte string: each three bytes are four sextets, each sextet
a letter of the alphabet; one or two bytes at the end are filled up with zero bits and the
letters that hold no bit of them are written as padding. -/

namespace Base64

def pad : UInt8 := 0x3D

/-- The letter of a sextet: `A`–`Z`, `a`–`z`, `0`–`9`, `+` and `/`. -/
def letter (v : Nat) : UInt8 :=
  if v < 26 then (0x41 + v).toUInt8
  else if v < 52 then (0x61 + (v - 26)).toUInt8
  else if v < 62 then (0x30 + (v - 52)).toUInt8
  else if v = 62 then 0x2B else 0x2F

/-- The standard encoding of a byte string. -/
def encode : List UInt8 → List UInt8
  | [] => []
  | [a] => [letter (a.toNat / 4), letter (a.toNat % 4 * 16), pad, pad]
  | [a, b] =>
      [letter (a.toNat / 4), letter (a.toNat % 4 * 16 + b.toNat / 16),
        letter (b.toNat % 16 * 4), pad]
  | a :: b :: c :: rest =>
      letter (a.toNat / 4) :: letter (a.toNat % 4 * 16 + b.toNat / 16) ::
        letter (b.toNat % 16 * 4 + c.toNat / 64) :: letter (c.toNat % 64) :: encode rest

example : encode [0x4D, 0x61, 0x6E] = [0x54, 0x57, 0x46, 0x75] := by
  rw [encode, encode]
  decide

/-! ## The alphabet -/

theorem toNat_letter {v : Nat} (hv : v < 64) :
    (letter v).toNat =
      if v < 26 then 0x41 + v
      else if v < 52 then 0x61 + (v - 26)
      else if v < 62 then 0x30 + (v - 52)
      else if v = 62 then 0x2B else 0x2F := by
  rw [letter]
  split_ifs
  · rw [Nat.toUInt8_eq, UInt8.toNat_ofNat']
    omega
  · rw [Nat.toUInt8_eq, UInt8.toNat_ofNat']
    omega
  · rw [Nat.toUInt8_eq, UInt8.toNat_ofNat']
    omega
  · rfl
  · rfl

theorem letter_inj {v w : Nat} (hv : v < 64) (hw : w < 64) (h : letter v = letter w) : v = w := by
  have hnat : (letter v).toNat = (letter w).toNat := congrArg UInt8.toNat h
  rw [toNat_letter hv, toNat_letter hw] at hnat
  split_ifs at hnat <;> omega

/-- Padding is no letter. -/
theorem letter_ne_pad {v : Nat} (hv : v < 64) : letter v ≠ pad := by
  intro h
  have hnat : (letter v).toNat = 0x3D := congrArg UInt8.toNat h
  rw [toNat_letter hv] at hnat
  split_ifs at hnat <;> omega

/-! ## Sextets and bytes -/

/-- The bytes of four sextets. -/
def byte0 (v0 v1 : Nat) : UInt8 := (v0 * 4 + v1 / 16).toUInt8
def byte1 (v1 v2 : Nat) : UInt8 := (v1 % 16 * 16 + v2 / 4).toUInt8
def byte2 (v2 v3 : Nat) : UInt8 := (v2 % 4 * 64 + v3).toUInt8

theorem toNat_byte0 {v0 v1 : Nat} (h0 : v0 < 64) (h1 : v1 < 64) :
    (byte0 v0 v1).toNat = v0 * 4 + v1 / 16 := by
  rw [byte0, Nat.toUInt8_eq, UInt8.toNat_ofNat']
  omega

theorem toNat_byte1 {v1 v2 : Nat} (h2 : v2 < 64) :
    (byte1 v1 v2).toNat = v1 % 16 * 16 + v2 / 4 := by
  rw [byte1, Nat.toUInt8_eq, UInt8.toNat_ofNat']
  omega

theorem toNat_byte2 {v2 v3 : Nat} (h3 : v3 < 64) :
    (byte2 v2 v3).toNat = v2 % 4 * 64 + v3 := by
  rw [byte2, Nat.toUInt8_eq, UInt8.toNat_ofNat']
  omega

theorem byte_eq {b : UInt8} {n : Nat} (h : b.toNat = n) : n.toUInt8 = b := by
  rw [← h]
  exact UInt8.ofNat_toNat

/-- The bytes of the sextets of three bytes are these bytes. -/
theorem byte0_sextets (a b : UInt8) :
    byte0 (a.toNat / 4) (a.toNat % 4 * 16 + b.toNat / 16) = a := by
  have hb := b.toNat_lt
  exact byte_eq (by omega)

theorem byte1_sextets (a b c : UInt8) :
    byte1 (a.toNat % 4 * 16 + b.toNat / 16) (b.toNat % 16 * 4 + c.toNat / 64) = b := by
  have hb := b.toNat_lt
  have hc := c.toNat_lt
  exact byte_eq (by omega)

theorem byte2_sextets (b c : UInt8) :
    byte2 (b.toNat % 16 * 4 + c.toNat / 64) (c.toNat % 64) = c := by
  have hc := c.toNat_lt
  exact byte_eq (by omega)

/-! ## One group at a time -/

section Groups

variable {v0 v1 v2 v3 : Nat} (h0 : v0 < 64) (h1 : v1 < 64) (h2 : v2 < 64) (h3 : v3 < 64)

include h0 h1 h2 h3 in
/-- Four letters are the encoding of the three bytes of their sextets. -/
theorem encode_group (rest : List UInt8) :
    encode (byte0 v0 v1 :: byte1 v1 v2 :: byte2 v2 v3 :: rest) =
      letter v0 :: letter v1 :: letter v2 :: letter v3 :: encode rest := by
  rw [encode, toNat_byte0 h0 h1, toNat_byte1 h2, toNat_byte2 h3]
  have e0 : (v0 * 4 + v1 / 16) / 4 = v0 := by omega
  have e1 : (v0 * 4 + v1 / 16) % 4 * 16 + (v1 % 16 * 16 + v2 / 4) / 16 = v1 := by omega
  have e2 : (v1 % 16 * 16 + v2 / 4) % 16 * 4 + (v2 % 4 * 64 + v3) / 64 = v2 := by omega
  have e3 : (v2 % 4 * 64 + v3) % 64 = v3 := by omega
  rw [e0, e1, e2, e3]

include h0 h1 h2 in
/-- Three letters with no bit to spare and one padding. -/
theorem encode_two (hbits : v2 % 4 = 0) :
    encode [byte0 v0 v1, byte1 v1 v2] = [letter v0, letter v1, letter v2, pad] := by
  rw [encode, toNat_byte0 h0 h1, toNat_byte1 h2]
  have e0 : (v0 * 4 + v1 / 16) / 4 = v0 := by omega
  have e1 : (v0 * 4 + v1 / 16) % 4 * 16 + (v1 % 16 * 16 + v2 / 4) / 16 = v1 := by omega
  have e2 : (v1 % 16 * 16 + v2 / 4) % 16 * 4 = v2 := by omega
  rw [e0, e1, e2]

include h0 h1 in
/-- Two letters with no bit to spare and two paddings. -/
theorem encode_one (hbits : v1 % 16 = 0) :
    encode [byte0 v0 v1] = [letter v0, letter v1, pad, pad] := by
  rw [encode, toNat_byte0 h0 h1]
  have e0 : (v0 * 4 + v1 / 16) / 4 = v0 := by omega
  have e1 : (v0 * 4 + v1 / 16) % 4 * 16 = v1 := by omega
  rw [e0, e1]

end Groups

/-! ## The encoded text -/

@[simp] theorem encode_eq_nil {bytes : List UInt8} : encode bytes = [] ↔ bytes = [] := by
  fun_cases encode bytes <;> simp

theorem length_encode_mod (bytes : List UInt8) : (encode bytes).length % 4 = 0 := by
  fun_induction encode bytes with
  | case1 => rfl
  | case2 | case3 => simp only [List.length_cons, List.length_nil]
  | case4 a b c rest ih =>
    simp only [List.length_cons]
    omega

/-- The text holds letters and padding only. -/
theorem mem_encode {bytes : List UInt8} {c : UInt8} (h : c ∈ encode bytes) :
    c = pad ∨ ∃ v < 64, c = letter v := by
  fun_induction encode bytes with
  | case1 => cases h
  | case2 a =>
    have ha := a.toNat_lt
    simp only [List.mem_cons, List.not_mem_nil, or_false] at h
    rcases h with rfl | rfl | rfl | rfl
    · exact .inr ⟨_, by omega, rfl⟩
    · exact .inr ⟨_, by omega, rfl⟩
    · exact .inl rfl
    · exact .inl rfl
  | case3 a b =>
    have ha := a.toNat_lt
    have hb := b.toNat_lt
    simp only [List.mem_cons, List.not_mem_nil, or_false] at h
    rcases h with rfl | rfl | rfl | rfl
    · exact .inr ⟨_, by omega, rfl⟩
    · exact .inr ⟨_, by omega, rfl⟩
    · exact .inr ⟨_, by omega, rfl⟩
    · exact .inl rfl
  | case4 a b c rest ih =>
    have ha := a.toNat_lt
    have hb := b.toNat_lt
    have hc := c.toNat_lt
    simp only [List.mem_cons] at h
    rcases h with rfl | rfl | rfl | rfl | h
    · exact .inr ⟨_, by omega, rfl⟩
    · exact .inr ⟨_, by omega, rfl⟩
    · exact .inr ⟨_, by omega, rfl⟩
    · exact .inr ⟨_, by omega, rfl⟩
    · exact ih h

/-- Every character of the text is printable. -/
theorem encode_gt {bytes : List UInt8} {c : UInt8} (h : c ∈ encode bytes) : 0x20 < c.toNat := by
  rcases mem_encode h with rfl | ⟨v, hv, rfl⟩
  · decide
  · rw [toNat_letter hv]
    split_ifs <;> omega

end Base64
