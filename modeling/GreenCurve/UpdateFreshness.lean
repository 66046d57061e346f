import GreenCurve.UpdateManifest

/-! # The signed freshness envelope

A fixed header in front of the manifest says when it was issued and when it expires.  The
reader of the envelope runs after the signature was verified, on a fetched document and on a
cached one alike. -/

namespace GreenCurve

open Ini (Text)

abbrev GC_UPDATE_FRESH_MAX_BYTES : Nat := GC_UPDATE_MANIFEST_MAX_BYTES + 128
abbrev GC_UPDATE_FRESH_MAX_LIFETIME : Int := 30 * 24 * 60 * 60
abbrev GC_UPDATE_FRESH_CLOCK_SKEW : Int := 300

structure GcUpdateFreshness where
  issued : Int := 0
  expires : Int := 0
  manifestOffset : Nat := 0
  deriving DecidableEq, Repr

inductive GcUpdateFreshStatus where
  | ok | malformed | badLifetime | noClock | future | expired
  deriving DecidableEq, Repr

/-- `gc_update_fresh_time_status`. -/
def gcUpdateFreshTimeStatus (fresh : GcUpdateFreshness) (now : Int) : GcUpdateFreshStatus :=
  if fresh.issued ≤ 0 ∨ fresh.expires ≤ fresh.issued ∨
      fresh.expires - fresh.issued > GC_UPDATE_FRESH_MAX_LIFETIME then .badLifetime
  else if now ≤ 0 then .noClock
  else if fresh.issued > now ∧ fresh.issued - now > GC_UPDATE_FRESH_CLOCK_SKEW then .future
  else if now ≥ fresh.expires then .expired
  else .ok

/-- `gc_update_fresh_time_valid`. -/
def gcUpdateFreshTimeValid (fresh : GcUpdateFreshness) (now : Int) : Bool :=
  gcUpdateFreshTimeStatus fresh now == .ok

/-- The text behind the given front of it. -/
def behind? (front : Text) (t : Text) : Option Text :=
  if t.take front.length = front then some (t.drop front.length) else none

/-- `gc_update_fresh_number`: a named number of at most twelve digits, on a line of its own. -/
def gcUpdateFreshNumber (name : Text) (t : Text) : Option (Int × Text) := do
  let t ← behind? name t
  let (digits, value, rest) ← digitRun 12 t 0 0
  guard (digits ≠ 0)
  let rest ← behind? ['\n'] rest
  return ((value : Int), rest)

/-- `gc_update_fresh_parse_status`: the status and the header as it was read. -/
def gcUpdateFreshParseStatus (text : Text) (now : Int) : GcUpdateFreshStatus × GcUpdateFreshness :=
  let header : Option (Int × Int × Text) := do
    guard (text.length ≤ GC_UPDATE_FRESH_MAX_BYTES)
    let rest ← behind? "freshness=1\n".toList text
    let (issued, rest) ← gcUpdateFreshNumber "issued=".toList rest
    let (expires, rest) ← gcUpdateFreshNumber "expires=".toList rest
    guard (rest ≠ [] ∧ rest.length ≤ GC_UPDATE_MANIFEST_MAX_BYTES)
    return (issued, expires, rest)
  match header with
  | none => (.malformed, {})
  | some (issued, expires, rest) =>
    let fresh : GcUpdateFreshness := { issued, expires }
    let status := gcUpdateFreshTimeStatus fresh now
    if status ≠ .ok then (status, fresh)
    else (.ok, { fresh with manifestOffset := text.length - rest.length })

/-- The envelope and the manifest behind it, where both are accepted: what a check does with
a document whose signature verified. -/
def readEnvelope (text : Text) (now : Int) : Option (GcUpdateFreshness × GcUpdateManifest) :=
  let (status, fresh) := gcUpdateFreshParseStatus text now
  if status ≠ .ok then none
  else
    match gcUpdateManifestParse (text.drop fresh.manifestOffset) with
    | .ok manifest => some (fresh, manifest)
    | .error _ => none

/-- The validity window an envelope declares, for a clock that can be read. -/
theorem gcUpdateFreshTimeStatus_eq_ok {fresh : GcUpdateFreshness} {now : Int} :
    gcUpdateFreshTimeStatus fresh now = .ok ↔
      0 < fresh.issued ∧ fresh.issued < fresh.expires ∧
        fresh.expires ≤ fresh.issued + GC_UPDATE_FRESH_MAX_LIFETIME ∧
        0 < now ∧ fresh.issued ≤ now + GC_UPDATE_FRESH_CLOCK_SKEW ∧ now < fresh.expires := by
  have hskew : (0 : Int) ≤ GC_UPDATE_FRESH_CLOCK_SKEW := by decide
  unfold gcUpdateFreshTimeStatus
  split_ifs <;> simp only [false_iff, true_iff] <;> omega

theorem behind?_eq_some {front t rest : Text} : behind? front t = some rest ↔ t = front ++ rest := by
  unfold behind?
  split_ifs with h
  · constructor
    · intro heq
      calc t = t.take front.length ++ t.drop front.length := (List.take_append_drop _ _).symm
        _ = front ++ rest := by rw [h, Option.some.inj heq]
    · rintro rfl
      rw [List.drop_left]
  · constructor
    · exact fun heq => nomatch heq
    · rintro rfl
      exact absurd List.take_left h

/-- **The header of an envelope**, as one equation on its text. -/
theorem gcUpdateFreshNumber_eq_some {name t rest : Text} {value : Int} :
    gcUpdateFreshNumber name t = some (value, rest) ↔
      ∃ digits : Text, t = name ++ digits ++ '\n' :: rest ∧ digits ≠ [] ∧ digits.length ≤ 12 ∧
        (∀ c ∈ digits, c.isDigit = true) ∧ value = Nat.ofDigitChars 10 digits 0 := by
  simp only [gcUpdateFreshNumber, bind, pure, Option.bind_eq_some_iff, behind?_eq_some]
  constructor
  · rintro ⟨t', rfl, ⟨n, v, t''⟩, hrun, _, hguard, rest', hrest, heq⟩
    obtain ⟨rfl, hle, rfl, rfl⟩ := digitRun_eq_some.mp hrun
    cases heq
    refine ⟨t'.takeWhile Char.isDigit, ?_, ?_, hle, fun c hc => List.mem_takeWhile_imp hc, rfl⟩
    · rw [List.append_assoc, show '\n' :: rest = ['\n'] ++ rest from rfl, ← hrest,
        List.takeWhile_append_dropWhile]
    · rintro hnil
      simp [hnil, guard, failure] at hguard
  · rintro ⟨digits, rfl, hne, hle, hdigits, rfl⟩
    have htake : (digits ++ '\n' :: rest).takeWhile Char.isDigit = digits := by
      rw [List.takeWhile_append_of_pos hdigits, List.takeWhile_cons_of_neg (by decide),
        List.append_nil]
    have hdrop : (digits ++ '\n' :: rest).dropWhile Char.isDigit = '\n' :: rest := by
      rw [List.dropWhile_append_of_pos hdigits, List.dropWhile_cons_of_neg (by decide)]
    refine ⟨digits ++ '\n' :: rest, by rw [List.append_assoc],
      (digits.length, Nat.ofDigitChars 10 digits 0, '\n' :: rest),
      digitRun_eq_some.mpr ⟨by rw [htake], hle, by rw [htake], hdrop.symm⟩, (), ?_, rest, rfl, rfl⟩
    have : digits.length ≠ 0 := by simpa using hne
    simp [guard, this]

end GreenCurve
