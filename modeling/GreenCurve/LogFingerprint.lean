import GreenCurve.CString
import GreenCurve.Utf16

/-! # Log tokens

A support log names a path or an account by a token, the FNV-1a hash of its bytes, so that
two events about one name can be matched and the name is not given away.  Wide names are
hashed as their UTF-8 encoding, which `gc_log_fingerprint_wide` produces as it goes.  Here
that running encoder is held against Lean's own: a wide name and the narrow spelling of the
same text have one fingerprint, whatever the surrogates in it. -/

namespace GreenCurve.LogRedaction

open Utf16 (scalars)

/-- One byte into the running hash. -/
def mix (hash : UInt64) (byte : UInt8) : UInt64 := (hash ^^^ byte.toUInt64) * 1099511628211

/-- What the hash starts from. -/
def hashBasis : UInt64 := 1469598103934665603

/-- The loop of `gc_log_fingerprint_bytes`: the list is the memory at the pointer, and what
lies behind it is the terminator. -/
def mixBytes (hash : UInt64) : List UInt8 → UInt64
  | [] => hash
  | byte :: rest => if byte = 0 then hash else mixBytes (mix hash byte) rest

/-- `gc_log_fingerprint_bytes`. -/
def gcLogFingerprintBytes (value : List UInt8) : UInt64 := mixBytes hashBasis value

/-- The lambda `mix` of `gc_log_fingerprint_wide`, which is handed a wider number. -/
def mixLong (hash : UInt64) (byte : UInt32) : UInt64 := mix hash (byte &&& 0xFF).toUInt8

/-- The code point at a unit, given the unit behind it, and whether it took that too. -/
def codePointAt (cp next : UInt32) : UInt32 × Bool :=
  if cp ≥ 0xD800 ∧ cp ≤ 0xDBFF ∧ next ≥ 0xDC00 ∧ next ≤ 0xDFFF then
    ((0x10000 : UInt32) + ((cp - 0xD800) <<< 10) + (next - 0xDC00), true)
  else if (cp ≥ 0xD800 ∧ cp ≤ 0xDFFF) ∨ cp > 0x10FFFF then (0xFFFD, false)
  else (cp, false)

/-- The bytes of a code point into the hash.  No number here needs more than 32 bits, so
the width of `unsigned long` does not matter. -/
def mixCodePoint (hash : UInt64) (cp : UInt32) : UInt64 :=
  if cp < 0x80 then mixLong hash cp
  else if cp < 0x800 then
    let hash := mixLong hash ((0xC0 : UInt32) ||| (cp >>> 6))
    mixLong hash (0x80 ||| (cp &&& 0x3F))
  else if cp < 0x10000 then
    let hash := mixLong hash ((0xE0 : UInt32) ||| (cp >>> 12))
    let hash := mixLong hash ((0x80 : UInt32) ||| (cp >>> 6 &&& 0x3F))
    mixLong hash (0x80 ||| (cp &&& 0x3F))
  else
    let hash := mixLong hash ((0xF0 : UInt32) ||| (cp >>> 18))
    let hash := mixLong hash ((0x80 : UInt32) ||| (cp >>> 12 &&& 0x3F))
    let hash := mixLong hash ((0x80 : UInt32) ||| (cp >>> 6 &&& 0x3F))
    mixLong hash (0x80 ||| (cp &&& 0x3F))

/-- The loop of `gc_log_fingerprint_wide`. -/
def mixWide (hash : UInt64) : List UInt32 → UInt64
  | [] => hash
  | [cp] =>
      -- What follows the last unit is the terminator.
      if cp = 0 then hash else mixCodePoint hash (codePointAt cp 0).1
  | cp :: next :: rest =>
      if cp = 0 then hash
      else if (codePointAt cp next).2 then mixWide (mixCodePoint hash (codePointAt cp next).1) rest
      else mixWide (mixCodePoint hash (codePointAt cp next).1) (next :: rest)

/-- `gc_log_fingerprint_wide`: each `wchar_t` is widened through `unsigned int`. -/
def gcLogFingerprintWide (value : List UInt32) : UInt64 := mixWide hashBasis value

/-- The part of the memory that is the string. -/
def wideString (value : List UInt32) : List UInt32 := value.takeWhile (· ≠ 0)

/-- The UTF-8 encoding of a text. -/
def utf8 (text : List Char) : List UInt8 := text.flatMap String.utf8EncodeChar

/-! ## Tokens

The functions that print a token differ in its label and in the width of the name. -/

/-- `"0123456789abcdef"[(hash >> shift) & 0xfU]`. -/
def hexDigit (hash : UInt64) (shift : UInt64) : UInt8 :=
  (ascii "0123456789abcdef").getD ((hash >>> shift) &&& 0xF).toNat 0

/-- The digits of a hash, the highest first. -/
def hexDigits (hash : UInt64) : List UInt8 :=
  [60, 56, 52, 48, 44, 40, 36, 32, 28, 24, 20, 16, 12, 8, 4, 0].map (hexDigit hash)

/-- `[path #0123456789abcdef]` and its like. -/
def token (label : String) (hash : UInt64) : List UInt8 :=
  ascii "[" ++ ascii label ++ ascii " #" ++ hexDigits hash ++ ascii "]"

/-- What a token function leaves in a buffer: nothing is printed for an empty name, and
nothing fits into fewer than 32 bytes. -/
def nameToken (label : String) (isEmpty : Bool) (hash : UInt64) (outSize : Nat) : List UInt8 :=
  if outSize = 0 then ascii "<log-error>"
  else if isEmpty then ascii "-"
  else if outSize < 32 then ascii "<log-error>"
  else token label hash

/-- `gc_log_path_token`. -/
def gcLogPathToken (path : List UInt8) (outSize : Nat) : List UInt8 :=
  nameToken "path" (path.headD 0 == 0) (gcLogFingerprintBytes path) outSize

/-- `gc_log_identifier_token`. -/
def gcLogIdentifierToken (value : List UInt8) (outSize : Nat) : List UInt8 :=
  nameToken "id" (value.headD 0 == 0) (gcLogFingerprintBytes value) outSize

/-- `gc_log_wide_identifier_token`. -/
def gcLogWideIdentifierToken (value : List UInt32) (outSize : Nat) : List UInt8 :=
  nameToken "id" (value.headD 0 == 0) (gcLogFingerprintWide value) outSize

/-- `gc_log_path` of a narrow path: the argument buffers have 32 bytes. -/
def gcLogPath (path : List UInt8) : List UInt8 := gcLogPathToken path 32

/-- `gc_log_path` of a wide path. -/
def gcLogWidePath (path : List UInt32) : List UInt8 :=
  nameToken "path" (path.headD 0 == 0) (gcLogFingerprintWide path) 32

/-! ## One code point -/

theorem mixLong_eq (hash : UInt64) (byte : UInt32) : mixLong hash byte = mix hash byte.toUInt8 := by
  rw [mixLong, UInt32.toUInt8_and]
  exact congrArg (mix hash) UInt8.and_neg_one

/-- A lead byte: its low bits are all there is of the number. -/
theorem leadByte {v tag : UInt32} {width : Nat} (h : v.toNat < 2 ^ width) (mask lead : UInt8)
    (hmask : mask.toNat = 2 ^ width - 1) (htag : tag.toUInt8 = lead) :
    (tag ||| v).toUInt8 = v.toUInt8 &&& mask ||| lead := by
  have hkept : v.toUInt8 &&& mask = v.toUInt8 := by
    have hsmall : v.toUInt8.toNat < 2 ^ width :=
      Nat.lt_of_le_of_lt (by rw [UInt32.toNat_toUInt8]; exact Nat.mod_le _ _) h
    apply UInt8.toNat_inj.mp
    rw [UInt8.toNat_and, hmask, Nat.and_two_pow_sub_one_of_lt_two_pow hsmall]
  rw [UInt32.toUInt8_or, hkept, htag, UInt8.or_comm]

/-- A continuation byte. -/
theorem tailByte (v : UInt32) : (0x80 ||| (v &&& 0x3F)).toUInt8 = v.toUInt8 &&& 0x3F ||| 0x80 := by
  rw [UInt32.toUInt8_or, UInt32.toUInt8_and, UInt8.or_comm]
  rfl

theorem toNat_shiftRight_lt (bits : Nat) {v : UInt32} {n shift : Nat} (h : v.toNat < n)
    (hn : n ≤ 2 ^ bits * 2 ^ shift) (s : UInt32) (hs : s.toNat = shift) (hshift : shift < 32) :
    (v >>> s).toNat < 2 ^ bits := by
  rw [UInt32.toNat_shiftRight, hs, Nat.mod_eq_of_lt hshift, Nat.shiftRight_eq_div_pow]
  exact Nat.div_lt_of_lt_mul (by rw [Nat.mul_comm]; omega)

/-- **The bytes mixed in for a character are its UTF-8 encoding.** -/
theorem mixCodePoint_eq (hash : UInt64) (c : Char) :
    mixCodePoint hash c.val = (String.utf8EncodeChar c).foldl mix hash := by
  have hmax : c.val.toNat < 0x110000 := by
    rcases c.valid with hc | ⟨_, hc⟩
    · exact Nat.lt_trans hc (by decide)
    · exact hc
  rw [String.utf8EncodeChar_eq_utf8EncodeCharFast, mixCodePoint, String.utf8EncodeCharFast]
  simp only [mixLong_eq, tailByte]
  by_cases h1 : c.val < 0x80
  · rw [if_pos h1, if_pos (show c.val ≤ 0x7F from Nat.le_of_lt_succ h1)]
    rfl
  rw [if_neg h1, if_neg (show ¬c.val ≤ 0x7F from fun h => h1 (Nat.lt_succ_of_le h))]
  by_cases h2 : c.val < 0x800
  · rw [if_pos h2, if_pos (show c.val ≤ 0x7FF from Nat.le_of_lt_succ h2)]
    have hlead := toNat_shiftRight_lt 5 h2 (by decide) 6 rfl (by decide)
    rw [leadByte hlead 0x1F 0xC0 rfl rfl]
    simp only [List.foldl_cons, List.foldl_nil]
  rw [if_neg h2, if_neg (show ¬c.val ≤ 0x7FF from fun h => h2 (Nat.lt_succ_of_le h))]
  by_cases h3 : c.val < 0x10000
  · rw [if_pos h3, if_pos (show c.val ≤ 0xFFFF from Nat.le_of_lt_succ h3)]
    have hlead := toNat_shiftRight_lt 4 h3 (by decide) 12 rfl (by decide)
    rw [leadByte hlead 0x0F 0xE0 rfl rfl]
    simp only [List.foldl_cons, List.foldl_nil]
  · rw [if_neg h3, if_neg (show ¬c.val ≤ 0xFFFF from fun h => h3 (Nat.lt_succ_of_le h))]
    have hlead := toNat_shiftRight_lt 3 hmax (by decide) 18 rfl (by decide)
    rw [leadByte hlead 0x07 0xF0 rfl rfl]
    simp only [List.foldl_cons, List.foldl_nil]

/-- No byte of a character is the terminator, unless the character is. -/
theorem utf8EncodeChar_ne_zero {c : Char} (hc : c.val ≠ 0) :
    ∀ byte ∈ String.utf8EncodeChar c, byte ≠ 0 := by
  have hor : ∀ {a b : UInt8}, b ≠ 0 → a ||| b ≠ 0 := fun hb h => hb (UInt8.or_eq_zero_iff.mp h).2
  rw [String.utf8EncodeChar_eq_utf8EncodeCharFast, String.utf8EncodeCharFast]
  split_ifs with h1
  · intro byte hb hzero
    rw [List.mem_singleton.mp hb] at hzero
    have hsmall : c.val.toNat ≤ 0x7F := h1
    have hmod : c.val.toNat % 256 = 0 := congrArg UInt8.toNat hzero
    exact hc (UInt32.toNat_inj.mp (show c.val.toNat = 0 by omega))
  · simp only [List.forall_mem_cons]
    exact ⟨hor (by decide), hor (by decide), nofun⟩
  · simp only [List.forall_mem_cons]
    exact ⟨hor (by decide), hor (by decide), hor (by decide), nofun⟩
  · simp only [List.forall_mem_cons]
    exact ⟨hor (by decide), hor (by decide), hor (by decide), hor (by decide), nofun⟩

/-! ## The units of a string -/

theorem toNat_combine {a b : UInt32} {x y : Nat} (ha : a.toNat = x) (hb : b.toNat = y)
    (hlt : 0x10000 + x * 0x400 + y < 2 ^ 32) :
    ((0x10000 : UInt32) + (a <<< 10) + b).toNat = 0x10000 + x * 0x400 + y := by
  have hten : 2 ^ ((10 : UInt32).toNat % 32) = 0x400 := by decide
  have hshift : (a <<< 10).toNat = x * 0x400 := by
    have hx : x * 0x400 < 2 ^ 32 := by omega
    rw [UInt32.toNat_shiftLeft, ha, Nat.shiftLeft_eq, hten, Nat.mod_eq_of_lt hx]
  rw [UInt32.toNat_add, UInt32.toNat_add, hshift, hb,
    show (0x10000 : UInt32).toNat = 0x10000 from rfl, Nat.mod_add_mod, Nat.mod_eq_of_lt hlt]

theorem codePointAt_pair {u v : UInt32} (hu : Utf16.IsHigh u) (hv : Utf16.IsLow v) :
    codePointAt u v = ((Utf16.pairChar u v).val, true) := by
  have hvalue : ((0x10000 : UInt32) + ((u - 0xD800) <<< 10) + (v - 0xDC00)).toNat
      = (Utf16.pairChar u v).val.toNat := by
    have hhigh := UInt32.toNat_sub_of_le u 0xD800 hu.1
    have hlow := UInt32.toNat_sub_of_le v 0xDC00 hv.1
    rw [toNat_combine hhigh hlow]
    · exact (Utf16.pairChar_toNat hu hv).symm
    · obtain ⟨_, hu⟩ := hu.toNat
      obtain ⟨_, hv⟩ := hv.toNat
      show 0x10000 + (u.toNat - 0xD800) * 0x400 + (v.toNat - 0xDC00) < 2 ^ 32
      omega
  rw [codePointAt, if_pos ⟨hu.1, hu.2, hv.1, hv.2⟩, UInt32.toNat_inj.mp hvalue]

theorem codePointAt_single {u v : UInt32} (h : ¬(Utf16.IsHigh u ∧ Utf16.IsLow v)) :
    codePointAt u v = ((Utf16.scalar u).val, false) := by
  have hpair : ¬(u ≥ 0xD800 ∧ u ≤ 0xDBFF ∧ v ≥ 0xDC00 ∧ v ≤ 0xDFFF) :=
    fun hp => h ⟨⟨hp.1, hp.2.1⟩, hp.2.2⟩
  rw [codePointAt, if_neg hpair, Utf16.scalar]
  by_cases hvalid : u.isValidChar
  · rw [dif_pos hvalid, if_neg]
    have hrange : u.toNat < 0xD800 ∨ 0xDFFF < u.toNat ∧ u.toNat < 0x110000 := hvalid
    rintro (⟨hlow, hhigh⟩ | hbig)
    · have hlow : 0xD800 ≤ u.toNat := hlow
      have hhigh : u.toNat ≤ 0xDFFF := hhigh
      omega
    · have hbig : 0x10FFFF < u.toNat := hbig
      omega
  · rw [dif_neg hvalid, if_pos]
    · rfl
    by_contra hout
    apply hvalid
    have hsurrogate : ¬(0xD800 ≤ u.toNat ∧ u.toNat ≤ 0xDFFF) := fun hs => hout (.inl hs)
    have hbig : ¬0x10FFFF < u.toNat := fun hb => hout (.inr hb)
    show u.toNat < 0xD800 ∨ 0xDFFF < u.toNat ∧ u.toNat < 0x110000
    omega

theorem mixBytes_append {text rest : List UInt8} (h : ∀ byte ∈ text, byte ≠ 0) (hash : UInt64) :
    mixBytes hash (text ++ rest) = mixBytes (text.foldl mix hash) rest := by
  induction text generalizing hash with
  | nil => rfl
  | cons byte text ih =>
      rw [List.forall_mem_cons] at h
      rw [List.cons_append, mixBytes, if_neg h.1, ih h.2, List.foldl_cons]

theorem utf8_cons (c : Char) (text : List Char) :
    utf8 (c :: text) = String.utf8EncodeChar c ++ utf8 text := List.flatMap_cons

/-- A character in front: its bytes go into both hashes. -/
theorem mixBytes_utf8_cons {c : Char} (hc : c.val ≠ 0) (hash : UInt64) (text : List Char) :
    mixBytes hash (utf8 (c :: text)) = mixBytes (mixCodePoint hash c.val) (utf8 text) := by
  rw [utf8_cons, mixBytes_append (utf8EncodeChar_ne_zero hc), mixCodePoint_eq]

theorem scalar_ne_zero {u : UInt32} (hu : u ≠ 0) : (Utf16.scalar u).val ≠ 0 := by
  rw [Utf16.scalar]
  split
  · exact hu
  · decide

theorem pairChar_ne_zero {u v : UInt32} (hu : Utf16.IsHigh u) (hv : Utf16.IsLow v) :
    (Utf16.pairChar u v).val ≠ 0 := by
  intro hzero
  have hvalue := Utf16.pairChar_toNat hu hv
  have hnum : (Utf16.pairChar u v).toNat = 0 := congrArg UInt32.toNat hzero
  omega

theorem wideString_cons {u : UInt32} (hu : u ≠ 0) (rest : List UInt32) :
    wideString (u :: rest) = u :: wideString rest :=
  List.takeWhile_cons_of_pos (decide_eq_true hu)

theorem wideString_headD (units : List UInt32) : (wideString units).headD 0 = units.headD 0 := by
  cases units with
  | nil => rfl
  | cons u rest =>
      by_cases hu : u = 0
      · rw [wideString, List.takeWhile_cons_of_neg (by simpa using hu), hu]
        rfl
      · rw [wideString_cons hu]
        rfl

theorem mixWide_took {u v cp : UInt32} (hu : u ≠ 0) (h : codePointAt u v = (cp, true))
    (rest : List UInt32) (hash : UInt64) :
    mixWide hash (u :: v :: rest) = mixWide (mixCodePoint hash cp) rest := by
  simp only [mixWide, if_neg hu, h, if_true]

theorem mixWide_left {u cp : UInt32} {rest : List UInt32} (hu : u ≠ 0)
    (h : codePointAt u (rest.headD 0) = (cp, false)) (hash : UInt64) :
    mixWide hash (u :: rest) = mixWide (mixCodePoint hash cp) rest := by
  cases rest with
  | nil =>
      rw [List.headD_nil] at h
      simp only [mixWide, if_neg hu, h]
  | cons v rest =>
      rw [List.headD_cons] at h
      simp only [mixWide, if_neg hu, h, Bool.false_eq_true, if_false]

/-- A unit of its own in front of a string that is already understood. -/
theorem mixWide_single_eq {u : UInt32} {rest : List UInt32}
    (h : ¬(Utf16.IsHigh u ∧ Utf16.IsLow (rest.headD 0)))
    (ih : ∀ hash, mixWide hash rest = mixBytes hash (utf8 (scalars (wideString rest))))
    (hash : UInt64) :
    mixWide hash (u :: rest) = mixBytes hash (utf8 (scalars (wideString (u :: rest)))) := by
  by_cases hu : u = 0
  · have hend : wideString (u :: rest) = [] := List.takeWhile_cons_of_neg (by simpa using hu)
    have hstop : mixWide hash (u :: rest) = hash := by
      cases rest with
      | nil => exact if_pos hu
      | cons v rest => exact if_pos hu
    rw [hend, hstop]
    rfl
  · have hpart : ¬(Utf16.IsHigh u ∧ Utf16.IsLow ((wideString rest).headD 0)) := by
      rwa [wideString_headD]
    rw [mixWide_left hu (codePointAt_single h), ih, wideString_cons hu,
      Utf16.scalars_cons_single hpart, mixBytes_utf8_cons (scalar_ne_zero hu)]

/-- One walk over the units does what a decoder, an encoder and a walk over the bytes do. -/
theorem mixWide_eq : ∀ (units : List UInt32) (hash : UInt64),
    mixWide hash units = mixBytes hash (utf8 (scalars (wideString units)))
  | [], _ => rfl
  | [u], hash =>
      @mixWide_single_eq u [] (fun h => Utf16.not_isLow_zero h.2) (fun _ => rfl) hash
  | u :: v :: rest, hash => by
      by_cases hpair : Utf16.IsHigh u ∧ Utf16.IsLow v
      · obtain ⟨hu, hv⟩ := hpair
        rw [mixWide_took hu.ne_zero (codePointAt_pair hu hv), mixWide_eq rest,
          wideString_cons hu.ne_zero, wideString_cons hv.ne_zero, Utf16.scalars_cons_pair hu hv,
          mixBytes_utf8_cons (pairChar_ne_zero hu hv)]
      · exact mixWide_single_eq hpair (mixWide_eq (v :: rest)) hash

/-- **Wide and narrow tokens agree.**  For any UTF-16 code units and for any 32-bit code
points, the wide fingerprint is the fingerprint of the UTF-8 encoding, in which the
replacement character stands for each lone surrogate and each number out of range. -/
theorem fingerprint_wide_agrees :
    (∀ units : List UInt16,
      gcLogFingerprintWide (units.map UInt16.toUInt32)
        = gcLogFingerprintBytes (utf8 (scalars (wideString (units.map UInt16.toUInt32)))))
      ∧ ∀ points : List UInt32,
          gcLogFingerprintWide points
            = gcLogFingerprintBytes (utf8 (scalars (wideString points))) :=
  ⟨fun _ => mixWide_eq _ _, fun _ => mixWide_eq _ _⟩

/-! ## One text, one token -/

theorem exists_scalars_cons {u : UInt32} (hu : u ≠ 0) (rest : List UInt32) :
    ∃ c text, scalars (u :: rest) = c :: text ∧ c.val ≠ 0 := by
  by_cases hpair : Utf16.IsHigh u ∧ Utf16.IsLow (rest.headD 0)
  · cases rest with
    | nil => exact absurd hpair.2 Utf16.not_isLow_zero
    | cons v rest =>
        obtain ⟨hhigh, hlow⟩ := hpair
        exact ⟨_, _, Utf16.scalars_cons_pair hhigh hlow rest, pairChar_ne_zero hhigh hlow⟩
  · exact ⟨_, _, Utf16.scalars_cons_single hpair, scalar_ne_zero hu⟩

/-- The wide and the narrow spelling are empty together. -/
theorem headD_utf8 (units : List UInt32) :
    ((utf8 (scalars (wideString units))).headD 0 == 0) = (units.headD 0 == 0) := by
  cases units with
  | nil => rfl
  | cons u rest =>
      by_cases hu : u = 0
      · rw [wideString, List.takeWhile_cons_of_neg (by simpa using hu), hu]
        rfl
      · obtain ⟨c, text, htext, hc⟩ := exists_scalars_cons hu (wideString rest)
        obtain ⟨byte, tail, hbytes⟩ :=
          List.exists_cons_of_ne_nil (@String.utf8EncodeChar_ne_nil c)
        have hbyte : byte ≠ 0 := utf8EncodeChar_ne_zero hc byte (hbytes ▸ List.mem_cons_self)
        rw [wideString_cons hu, htext, utf8_cons, hbytes, List.cons_append, List.headD_cons,
          List.headD_cons, beq_eq_false_iff_ne.mpr hbyte, beq_eq_false_iff_ne.mpr hu]

/-- **One name has one token, however wide it was logged.** -/
theorem wideIdentifierToken_agrees (units : List UInt32) (outSize : Nat) :
    gcLogWideIdentifierToken units outSize
      = gcLogIdentifierToken (utf8 (scalars (wideString units))) outSize := by
  rw [gcLogWideIdentifierToken, gcLogIdentifierToken, headD_utf8, gcLogFingerprintWide, mixWide_eq,
    gcLogFingerprintBytes]

/-- The same of paths. -/
theorem widePath_agrees (units : List UInt32) :
    gcLogWidePath units = gcLogPath (utf8 (scalars (wideString units))) := by
  rw [gcLogWidePath, gcLogPath, gcLogPathToken, headD_utf8, gcLogFingerprintWide, mixWide_eq,
    gcLogFingerprintBytes]

theorem wideString_of_forall {units : List UInt32} (h : ∀ u ∈ units, u ≠ 0) :
    wideString units = units := by
  induction units with
  | nil => rfl
  | cons u rest ih =>
      rw [List.forall_mem_cons] at h
      rw [wideString_cons h.1, ih h.2]

/-- A text without a terminator in it, read on a system whose wide characters are UTF-16
and on one where they are code points. -/
theorem fingerprint_of_text {text : List Char} (h : ∀ c ∈ text, c.val ≠ 0) :
    gcLogFingerprintWide (text.flatMap Utf16.encodeChar) = gcLogFingerprintBytes (utf8 text)
      ∧ gcLogFingerprintWide (text.map Char.val) = gcLogFingerprintBytes (utf8 text) := by
  have hunits : ∀ u ∈ text.flatMap Utf16.encodeChar, u ≠ 0 := by
    intro u hu
    obtain ⟨c, hc, hu⟩ := List.mem_flatMap.mp hu
    exact Utf16.encodeChar_ne_zero (h c hc) u hu
  have hpoints : ∀ u ∈ text.map Char.val, u ≠ 0 := by
    intro u hu
    obtain ⟨c, hc, rfl⟩ := List.mem_map.mp hu
    exact h c hc
  constructor
  · rw [gcLogFingerprintWide, mixWide_eq, wideString_of_forall hunits, Utf16.scalars_encode,
      gcLogFingerprintBytes]
  · rw [gcLogFingerprintWide, mixWide_eq, wideString_of_forall hpoints, Utf16.scalars_points,
      gcLogFingerprintBytes]

end GreenCurve.LogRedaction
