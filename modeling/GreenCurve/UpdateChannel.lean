import GreenCurve.UpdateVersion

/-! # What the update channel says about itself

The policy behind the channel warnings: the highest release ever advertised, how it is raised,
and the classifier the response is filled from.  The schedule's settings that the classifier
reads, and the two halves a time is stored in, are here too. -/

namespace GreenCurve

open Ini (Text)

inductive GcUpdateAutoCheck where
  | unset | off | on
  deriving DecidableEq, Repr

/-- The value of the setting in the settings file. -/
def GcUpdateAutoCheck.toInt : GcUpdateAutoCheck → Int
  | .unset => 0
  | .off => 1
  | .on => 2

/-- A value the file should not have reads as no answer at all. -/
def GcUpdateAutoCheck.ofInt (mode : Int) : GcUpdateAutoCheck :=
  if mode = 2 then .on else if mode = 1 then .off else .unset

@[simp] theorem GcUpdateAutoCheck.ofInt_toInt (setting : GcUpdateAutoCheck) :
    ofInt setting.toInt = setting := by
  cases setting <;> rfl

abbrev GC_UPDATE_INTERVAL_DEFAULT_SECONDS : Int := 86400
abbrev GC_UPDATE_INTERVAL_MIN_SECONDS : Int := 3600
abbrev GC_UPDATE_INTERVAL_MAX_SECONDS : Int := 2592000
abbrev GC_UPDATE_CHANNEL_STALE_SECONDS : Int := 30 * 24 * 60 * 60

/-- `gc_update_clamp_interval`. -/
def gcUpdateClampInterval (seconds : Int) : Int :=
  if seconds < GC_UPDATE_INTERVAL_MIN_SECONDS then GC_UPDATE_INTERVAL_MIN_SECONDS
  else if seconds > GC_UPDATE_INTERVAL_MAX_SECONDS then GC_UPDATE_INTERVAL_MAX_SECONDS
  else seconds

/-! ## The stored time -/

/-- `service_update_now_unix`: ticks of 100 ns since 1601 as seconds since 1970. -/
def serviceUpdateNowUnix (fileTime : UInt64) : Int :=
  ((fileTime.toNat / 10000000 : Nat) : Int) - 11644473600

/-- `(int)(unsigned int)` of a 32-bit half. -/
def asInt (half : Nat) : Int := if half < 2 ^ 31 then half else (half : Int) - 2 ^ 32

/-- `(unsigned int)` of an `int`. -/
def asUnsigned (value : Int) : Nat := (value % 2 ^ 32).toNat

/-- `gc_update_split_timestamp`: the high and the low half. -/
def gcUpdateSplitTimestamp (unixSeconds : Int) : Int × Int :=
  let value := (if unixSeconds < 0 then 0 else unixSeconds).toNat
  (asInt (value / 2 ^ 32 % 2 ^ 32), asInt (value % 2 ^ 32))

/-- `gc_update_join_timestamp`. -/
def gcUpdateJoinTimestamp (high low : Int) : Int :=
  let value : Nat := asUnsigned high * 2 ^ 32 + asUnsigned low
  if value > 0x7FFFFFFFFFFFFFFF then 0 else (value : Int)

theorem asUnsigned_asInt {half : Nat} (h : half < 2 ^ 32) : asUnsigned (asInt half) = half := by
  unfold asUnsigned asInt
  split_ifs with hsmall <;> omega

theorem serviceUpdateNowUnix_lt (fileTime : UInt64) : serviceUpdateNowUnix fileTime < 2 ^ 41 := by
  have h := fileTime.toNat_lt
  unfold serviceUpdateNowUnix
  omega

/-- **A time of the clock survives the settings file**, and one before 1970 is stored as zero. -/
theorem join_split_timestamp {t : Int} (h : t < 2 ^ 63) :
    gcUpdateJoinTimestamp (gcUpdateSplitTimestamp t).1 (gcUpdateSplitTimestamp t).2 = max t 0 := by
  obtain ⟨n, hn, hvalue⟩ : ∃ n : Nat, n < 2 ^ 63 ∧ (n : Int) = max t 0 ∧
      (if t < 0 then 0 else t).toNat = n := by
    refine ⟨(max t 0).toNat, by omega, by omega, ?_⟩
    split_ifs <;> omega
  have hhigh : n / 2 ^ 32 < 2 ^ 32 := by omega
  simp only [gcUpdateJoinTimestamp, gcUpdateSplitTimestamp, hvalue.2]
  rw [Nat.mod_eq_of_lt hhigh, asUnsigned_asInt hhigh, asUnsigned_asInt (Nat.mod_lt _ (by decide)),
    Nat.div_add_mod', if_neg (by omega)]
  exact hvalue.1

/-! ## The policy -/

inductive GcUpdateChannelState where
  | ok | stale | regressed
  deriving DecidableEq, Repr

/-- `gc_update_channel_note_version`: the mark with an advertised version folded in.  The
longest version text fits the buffer. -/
def gcUpdateChannelNoteVersion (highestSeenText advertisedText : Text) : Option Text :=
  match gcUpdateVersionParse advertisedText, gcUpdateVersionParse highestSeenText with
  | some advertised, some highest =>
    some (if gcUpdateVersionCompare advertised highest > 0 then advertised.text else highest.text)
  | some advertised, none => some advertised.text
  | none, some highest => some highest.text
  | none, none => none

/-- `gc_update_channel_state`. -/
def gcUpdateChannelState (setting : GcUpdateAutoCheck) (lastSuccessUnix nowUnix : Int)
    (highestSeenText advertisedText : Text) : GcUpdateChannelState :=
  let regressed : Bool :=
    match gcUpdateVersionParse highestSeenText, gcUpdateVersionParse advertisedText with
    | some highest, some advertised => decide (gcUpdateVersionCompare advertised highest < 0)
    | _, _ => false
  if regressed then .regressed
  else if setting ≠ .on then .ok
  else if lastSuccessUnix ≤ 0 then .ok
  else if nowUnix < lastSuccessUnix then .ok
  else if nowUnix - lastSuccessUnix > GC_UPDATE_CHANNEL_STALE_SECONDS then .stale
  else .ok

end GreenCurve
