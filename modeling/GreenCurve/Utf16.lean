import Mathlib.Data.Char

/-! # UTF-16 code units and code points as text

A program that reads wide characters sees 16-bit code units on one system and whole code
points on another, and neither has to be well formed.  `scalars` says what text such a
sequence is: a high surrogate and the low surrogate behind it are one character, and
every other unit that is no character of its own stands for the replacement character.
The encodings of well-formed text are read back as the text. -/

namespace GreenCurve.Utf16

/-- The character that stands for whatever is none. -/
def replacement : Char := '\uFFFD'

def IsHigh (u : UInt32) : Prop := 0xD800 ≤ u ∧ u ≤ 0xDBFF

def IsLow (u : UInt32) : Prop := 0xDC00 ≤ u ∧ u ≤ 0xDFFF

instance (u : UInt32) : Decidable (IsHigh u) := inferInstanceAs (Decidable (_ ∧ _))

instance (u : UInt32) : Decidable (IsLow u) := inferInstanceAs (Decidable (_ ∧ _))

/-- A unit on its own: the character it numbers, if there is one. -/
def scalar (u : UInt32) : Char := if h : u.isValidChar then ⟨u, h⟩ else replacement

/-- The character of a surrogate pair. -/
def pairChar (high low : UInt32) : Char :=
  .ofNat (0x10000 + (high.toNat - 0xD800) * 0x400 + (low.toNat - 0xDC00))

/-- **The text of a sequence of units.** -/
def scalars : List UInt32 → List Char
  | [] => []
  | [u] => [scalar u]
  | u :: v :: rest =>
      if IsHigh u ∧ IsLow v then pairChar u v :: scalars rest
      else scalar u :: scalars (v :: rest)

example : scalars [0xD83D, 0xDE00, 0xD83D, 0x41] = ['😀', replacement, 'A'] := by decide

theorem IsHigh.toNat {u : UInt32} (h : IsHigh u) : 0xD800 ≤ u.toNat ∧ u.toNat ≤ 0xDBFF := h

theorem IsLow.toNat {u : UInt32} (h : IsLow u) : 0xDC00 ≤ u.toNat ∧ u.toNat ≤ 0xDFFF := h

theorem not_isLow_zero : ¬IsLow 0 := by decide

theorem IsHigh.ne_zero {u : UInt32} (h : IsHigh u) : u ≠ 0 := by
  rintro rfl
  exact absurd h (by decide)

theorem IsLow.ne_zero {u : UInt32} (h : IsLow u) : u ≠ 0 := by
  rintro rfl
  exact not_isLow_zero h

/-- A pair never numbers a surrogate, so it is a character. -/
theorem pairChar_toNat {high low : UInt32} (hh : IsHigh high) (hl : IsLow low) :
    (pairChar high low).toNat
      = 0x10000 + (high.toNat - 0xD800) * 0x400 + (low.toNat - 0xDC00) := by
  have hvalid : (0x10000 + (high.toNat - 0xD800) * 0x400 + (low.toNat - 0xDC00)).isValidChar := by
    obtain ⟨_, hh⟩ := hh.toNat
    obtain ⟨_, hl⟩ := hl.toNat
    right
    omega
  rw [pairChar, Char.ofNat, dif_pos hvalid]
  rfl

theorem scalar_val (c : Char) : scalar c.val = c := dif_pos c.valid

theorem not_isHigh_val (c : Char) : ¬IsHigh c.val := by
  intro h
  obtain ⟨hlow, hhigh⟩ := h.toNat
  rcases c.valid with hc | ⟨hc, _⟩
  · have hlt : c.val.toNat < 0xD800 := hc
    omega
  · have hgt : 0xDFFF < c.val.toNat := hc
    omega

theorem scalars_cons_pair {u v : UInt32} (hu : IsHigh u) (hv : IsLow v) (rest : List UInt32) :
    scalars (u :: v :: rest) = pairChar u v :: scalars rest := if_pos ⟨hu, hv⟩

/-- A unit that starts no pair is read on its own. -/
theorem scalars_cons_single {u : UInt32} {rest : List UInt32}
    (h : ¬(IsHigh u ∧ IsLow (rest.headD 0))) : scalars (u :: rest) = scalar u :: scalars rest := by
  cases rest with
  | nil => rfl
  | cons v rest => exact if_neg h

theorem scalars_cons_of_not_high {u : UInt32} (h : ¬IsHigh u) (rest : List UInt32) :
    scalars (u :: rest) = scalar u :: scalars rest :=
  scalars_cons_single fun hpair => h hpair.1

/-- Code points are read back as the text they number. -/
theorem scalars_points (text : List Char) : scalars (text.map Char.val) = text := by
  induction text with
  | nil => rfl
  | cons c rest ih =>
      rw [List.map_cons, scalars_cons_of_not_high (not_isHigh_val c), scalar_val, ih]

/-- The units of one character. -/
def encodeChar (c : Char) : List UInt32 :=
  if c.toNat < 0x10000 then [c.val]
  else
    [.ofNat (0xD800 + (c.toNat - 0x10000) / 0x400),
      .ofNat (0xDC00 + (c.toNat - 0x10000) % 0x400)]

/-- A character beyond the first plane, from its own surrogates. -/
theorem pair_of_encode {c : Char} (h : 0x10000 ≤ c.toNat) :
    let high : UInt32 := .ofNat (0xD800 + (c.toNat - 0x10000) / 0x400)
    let low : UInt32 := .ofNat (0xDC00 + (c.toNat - 0x10000) % 0x400)
    IsHigh high ∧ IsLow low ∧ pairChar high low = c := by
  intro high low
  have hmax : c.toNat < 0x110000 := by
    rcases c.valid with hc | ⟨_, hc⟩
    · exact Nat.lt_trans hc (by decide)
    · exact hc
  have hhigh : high.toNat = 0xD800 + (c.toNat - 0x10000) / 0x400 :=
    UInt32.toNat_ofNat_of_lt (by show _ < 4294967296; omega)
  have hlow : low.toNat = 0xDC00 + (c.toNat - 0x10000) % 0x400 :=
    UInt32.toNat_ofNat_of_lt (by show _ < 4294967296; omega)
  have hh : IsHigh high := by
    constructor <;> rw [UInt32.le_iff_toNat_le, hhigh]
    · exact Nat.le_add_right _ _
    · show _ ≤ 0xDBFF
      omega
  have hl : IsLow low := by
    constructor <;> rw [UInt32.le_iff_toNat_le, hlow]
    · exact Nat.le_add_right _ _
    · show _ ≤ 0xDFFF
      omega
  refine ⟨hh, hl, Char.toNat_inj.mp ?_⟩
  rw [pairChar_toNat hh hl, hhigh, hlow]
  omega

theorem encodeChar_ne_zero {c : Char} (hc : c.val ≠ 0) : ∀ u ∈ encodeChar c, u ≠ 0 := by
  rw [encodeChar]
  split
  · intro u hu
    rwa [List.mem_singleton.mp hu]
  · rename_i hplane
    obtain ⟨hh, hl, _⟩ := pair_of_encode (Nat.le_of_not_lt hplane)
    simp only [List.forall_mem_cons]
    exact ⟨hh.ne_zero, hl.ne_zero, nofun⟩

/-- **UTF-16 is read back as the text it encodes.** -/
theorem scalars_encode (text : List Char) : scalars (text.flatMap encodeChar) = text := by
  induction text with
  | nil => rfl
  | cons c rest ih =>
      rw [List.flatMap_cons, encodeChar]
      split
      · rw [List.singleton_append, scalars_cons_of_not_high (not_isHigh_val c), scalar_val, ih]
      · rename_i hplane
        obtain ⟨hh, hl, hpair⟩ := pair_of_encode (Nat.le_of_not_lt hplane)
        rw [List.cons_append, List.singleton_append, scalars_cons_pair hh hl, hpair, ih]

end GreenCurve.Utf16
