import Mathlib.Data.UInt

/-! # C strings

A string in C memory ends at its terminator, so it holds no zero byte. -/

namespace GreenCurve

/-- A NUL-terminated string, without its terminator. -/
@[ext] structure CString where
  bytes : List UInt8
  nulFree : 0 ∉ bytes
  deriving DecidableEq

/-- The bytes of a string literal. -/
def ascii (text : String) : List UInt8 := text.toList.map fun c => c.toNat.toUInt8

namespace CString

theorem ne_zero (text : CString) {b : UInt8} (h : b ∈ text.bytes) : b ≠ 0 :=
  fun hb => text.nulFree (hb ▸ h)

end CString

end GreenCurve
