import GreenCurve.DecimalText
import Mathlib.Data.Prod.Lex

/-! # Release versions

The version text of a release, read as two or three decimal components, and the order the
updater compares releases by.  A version that was read keeps its text, since the names of the
release files are built from it. -/

namespace GreenCurve

open Ini (Text)

abbrev GC_UPDATE_VERSION_MAX_CHARS : Nat := 24
abbrev GC_UPDATE_VERSION_MAX_COMPONENT : Nat := 999999
abbrev GC_UPDATE_VERSION_MAX_COMPONENT_DIGITS : Nat := 6

/-- A version that parsed; `valid` is that there is one. -/
structure GcUpdateVersion where
  major : Nat
  minor : Nat
  patch : Nat
  text : Text
  deriving DecidableEq, Repr

/-- The digits in front of a text: how many there are, their value, and what follows.  One
digit more than the limit ends the parse, before it is multiplied in. -/
def digitRun (limit : Nat) : Text → Nat → Nat → Option (Nat × Nat × Text)
  | [], digits, value => some (digits, value, [])
  | c :: rest, digits, value =>
    if c.isDigit then
      if digits ≥ limit then none
      else digitRun limit rest (digits + 1) (value * 10 + (c.toNat - '0'.toNat))
    else some (digits, value, c :: rest)

/-- `gc_update_parse_component`: the component in front of a text and what is left. -/
def gcUpdateParseComponent (p : Text) : Option (Nat × Text) := do
  let (digits, value, rest) ← digitRun GC_UPDATE_VERSION_MAX_COMPONENT_DIGITS p 0 0
  guard (digits ≠ 0 ∧ ¬(digits > 1 ∧ p.head? = some '0') ∧ value ≤ GC_UPDATE_VERSION_MAX_COMPONENT)
  return (value, rest)

/-- The patch component, which may be absent. -/
def gcUpdateParsePatch (rest : Text) : Option (Nat × Text) :=
  if rest.head? = some '.' then gcUpdateParseComponent rest.tail else some (0, rest)

/-- `gc_update_version_parse`, of a text without NUL. -/
def gcUpdateVersionParse (text : Text) : Option GcUpdateVersion := do
  guard (text ≠ [] ∧ text.length < GC_UPDATE_VERSION_MAX_CHARS)
  let (major, rest) ← gcUpdateParseComponent text
  guard (rest.head? = some '.')
  let (minor, rest) ← gcUpdateParseComponent rest.tail
  let (patch, rest) ← gcUpdateParsePatch rest
  guard (rest = [])
  return { major, minor, patch, text }

/-- `gc_update_version_compare` on versions that parsed. -/
def gcUpdateVersionCompare (a b : GcUpdateVersion) : Int :=
  if a.major ≠ b.major then if a.major < b.major then -1 else 1
  else if a.minor ≠ b.minor then if a.minor < b.minor then -1 else 1
  else if a.patch ≠ b.patch then if a.patch < b.patch then -1 else 1
  else 0

/-- `gc_update_meets_minimum_from`. -/
def gcUpdateMeetsMinimumFrom (installed : GcUpdateVersion) (minimumFrom : Option GcUpdateVersion) :
    Bool :=
  match minimumFrom with
  | none => true
  | some floor => decide (gcUpdateVersionCompare installed floor ≥ 0)

/-! ## Runs of digits -/

theorem digitRun_aux (limit : Nat) (t : Text) (digits value : Nat) (hdigits : digits ≤ limit) :
    digitRun limit t digits value =
      if digits + (t.takeWhile Char.isDigit).length ≤ limit then
        some (digits + (t.takeWhile Char.isDigit).length,
          Nat.ofDigitChars 10 (t.takeWhile Char.isDigit) value, t.dropWhile Char.isDigit)
      else none := by
  induction t generalizing digits value with
  | nil => simp [digitRun, hdigits]
  | cons c rest ih =>
    by_cases hc : c.isDigit = true
    · rw [digitRun, if_pos hc, List.takeWhile_cons_of_pos hc, List.dropWhile_cons_of_pos hc,
        List.length_cons]
      by_cases hfull : digits ≥ limit
      · rw [if_pos hfull, if_neg (by omega)]
      · rw [if_neg hfull, ih _ _ (by omega), Nat.ofDigitChars_cons, Nat.mul_comm 10 value]
        simp only [Nat.add_assoc, Nat.add_comm 1]
    · simp [digitRun, hc, hdigits]

/-- A run of digits is read as the number it writes. -/
theorem digitRun_eq_some {limit : Nat} {t : Text} {digits value : Nat} {rest : Text} :
    digitRun limit t 0 0 = some (digits, value, rest) ↔
      digits = (t.takeWhile Char.isDigit).length ∧ digits ≤ limit ∧
        value = Nat.ofDigitChars 10 (t.takeWhile Char.isDigit) 0 ∧
        rest = t.dropWhile Char.isDigit := by
  rw [digitRun_aux limit t 0 0 (Nat.zero_le _), Nat.zero_add]
  split_ifs with h
  · constructor
    · intro heq
      cases heq
      exact ⟨rfl, h, rfl, rfl⟩
    · rintro ⟨rfl, -, rfl, rfl⟩
      rfl
  · constructor
    · exact fun heq => nomatch heq
    · rintro ⟨rfl, hle, -⟩
      exact absurd hle h

/-! ## The order of releases -/

namespace GcUpdateVersion

/-- What a release is ordered by. -/
def rank (v : GcUpdateVersion) : Nat ×ₗ Nat ×ₗ Nat := toLex (v.major, toLex (v.minor, v.patch))

theorem compare_eq_cmp (a b : GcUpdateVersion) :
    gcUpdateVersionCompare a b =
      if a.rank < b.rank then -1 else if b.rank < a.rank then 1 else 0 := by
  simp only [gcUpdateVersionCompare, rank, Prod.Lex.toLex_lt_toLex]
  split_ifs <;> first | rfl | omega

theorem compare_neg_iff {a b : GcUpdateVersion} :
    gcUpdateVersionCompare a b < 0 ↔ a.rank < b.rank := by
  rw [compare_eq_cmp]
  split_ifs with h h' <;> simp [h]

theorem compare_pos_iff {a b : GcUpdateVersion} :
    gcUpdateVersionCompare a b > 0 ↔ b.rank < a.rank := by
  rw [compare_eq_cmp]
  split_ifs with h h'
  · simp [h.asymm]
  · simp [h']
  · simp [h']

end GcUpdateVersion

/-! ## What a parsed version is -/

/-- A version keeps the text it was read from. -/
theorem text_of_gcUpdateVersionParse {text : Text} {v : GcUpdateVersion}
    (h : gcUpdateVersionParse text = some v) : v.text = text := by
  simp only [gcUpdateVersionParse, bind, pure, Option.bind_eq_some_iff] at h
  obtain ⟨_, -, major, -, _, -, minor, -, patch, -, _, -, h⟩ := h
  cases h
  rfl

/-- The text of a version is read back as that version. -/
theorem gcUpdateVersionParse_text {text : Text} {v : GcUpdateVersion}
    (h : gcUpdateVersionParse text = some v) : gcUpdateVersionParse v.text = some v := by
  rw [text_of_gcUpdateVersionParse h, h]

theorem gcUpdateVersionParse_nil : gcUpdateVersionParse [] = none := rfl

end GreenCurve
