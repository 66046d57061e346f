import Mathlib.Data.UInt
import Mathlib.Tactic.Common

/-! # The automatic-restore guard

The crash-loop guard of the Linux daemon and its stored record: a count of the
start-time writes of one boot, and a lockout with its reason.  `GuardSound` is
what every operation keeps; the flag and the reason are then one fact told
twice. -/

namespace GreenCurve

abbrev LINUX_BOOT_ID_MAX : Nat := 40
abbrev LINUX_AUTO_RESTORE_MAX_START_ATTEMPTS : UInt32 := 3
abbrev LINUX_AUTO_RESTORE_MAX_RESUME_PER_WINDOW : UInt32 := 8
abbrev LINUX_AUTO_RESTORE_RESUME_WINDOW_MS : UInt32 := 60000

abbrev SERVICE_AUTO_RESTORE_LOCKOUT_NONE : UInt32 := 0
abbrev SERVICE_AUTO_RESTORE_LOCKOUT_UNSTABLE_APPLY : UInt32 := 1
abbrev SERVICE_AUTO_RESTORE_LOCKOUT_TDR_SPAM : UInt32 := 2
abbrev SERVICE_AUTO_RESTORE_LOCKOUT_AUTOMATIC_APPLY_FAILED : UInt32 := 3
abbrev SERVICE_AUTO_RESTORE_LOCKOUT_HANDBACK_INCOMPLETE : UInt32 := 4
abbrev SERVICE_AUTO_RESTORE_LOCKOUT_MAX : UInt32 := 4

/-- The text of a boot id; empty when it is unknown. -/
abbrev BootId := List Char

/-- What a boot-id field of the guard holds of a text. -/
def bootIdField (text : BootId) : BootId := text.take (LINUX_BOOT_ID_MAX - 1)

theorem bootIdField_length_lt (text : BootId) :
    (bootIdField text).length < LINUX_BOOT_ID_MAX := by
  rw [bootIdField, List.length_take]
  exact lt_of_le_of_lt (Nat.min_le_left _ _) (by decide)

theorem bootIdField_eq {text : BootId} (h : text.length < LINUX_BOOT_ID_MAX) :
    bootIdField text = text :=
  List.take_of_length_le (Nat.le_pred_of_lt h)

inductive LinuxAutoRestoreTrigger where
  | none | bootRestoreLast | bootProfile | resume
  deriving DecidableEq, Repr

inductive LinuxAutoRestoreVerdict where
  | allow | denyLockedOut | denyAttemptsExhausted | denyNoTrigger | denyStateUncertain
  | denyResumeRateLimited
  deriving DecidableEq, Repr

structure LinuxAutoRestoreGuard where
  lockoutReason : UInt32 := 0
  bootId : BootId := []
  lockedOut : Bool := false
  startAttempts : UInt32 := 0
  resumeAttempts : UInt32 := 0
  resumeWindowStartMs : UInt32 := 0
  deriving DecidableEq, Repr

def linuxAutoRestoreTriggerIsStart (trigger : LinuxAutoRestoreTrigger) : Bool :=
  trigger == .bootRestoreLast || trigger == .bootProfile

section Operations
variable (guard : LinuxAutoRestoreGuard)

def linuxAutoRestoreNoteResumeAttempt (nowMs : UInt32) : LinuxAutoRestoreGuard :=
  let rolled : LinuxAutoRestoreGuard :=
    if guard.resumeAttempts = 0 ∨
        nowMs - guard.resumeWindowStartMs ≥ LINUX_AUTO_RESTORE_RESUME_WINDOW_MS then
      { guard with resumeAttempts := 0, resumeWindowStartMs := nowMs }
    else guard
  if rolled.resumeAttempts < 0xFFFFFFFF then
    { rolled with resumeAttempts := rolled.resumeAttempts + 1 }
  else rolled

def linuxAutoRestoreResumeBudgetSpent (nowMs : UInt32) : Bool :=
  if guard.resumeAttempts = 0 then false
  else if nowMs - guard.resumeWindowStartMs ≥ LINUX_AUTO_RESTORE_RESUME_WINDOW_MS then false
  else decide (guard.resumeAttempts > LINUX_AUTO_RESTORE_MAX_RESUME_PER_WINDOW)

/-- A new boot resets the attempt count but not the lockout.  The result also says
whether the guard was already bound to this boot. -/
def linuxAutoRestoreGuardAdoptBoot (currentBootId : BootId) : LinuxAutoRestoreGuard × Bool :=
  if currentBootId = [] then (guard, false)
  else
    if guard.bootId ≠ [] ∧ bootIdField guard.bootId = bootIdField currentBootId then (guard, true)
    else ({ guard with startAttempts := 0, bootId := bootIdField currentBootId }, false)

def linuxAutoRestoreDecide (trigger : LinuxAutoRestoreTrigger) (stateUncertain : Bool)
    (nowMs : UInt32) : LinuxAutoRestoreVerdict :=
  if trigger = .none then .denyNoTrigger
  else if guard.lockedOut then .denyLockedOut
  else if stateUncertain then .denyStateUncertain
  else if !linuxAutoRestoreTriggerIsStart trigger then
    if linuxAutoRestoreResumeBudgetSpent guard nowMs then .denyResumeRateLimited else .allow
  else if guard.startAttempts ≥ LINUX_AUTO_RESTORE_MAX_START_ATTEMPTS then .denyAttemptsExhausted
  else .allow

def linuxAutoRestoreMayWriteAfterPrepare
    (stateUncertain fanHandbackPending selectedFanTargetOwned : Bool) : Bool :=
  !guard.lockedOut && !stateUncertain && !fanHandbackPending && selectedFanTargetOwned

def linuxAutoRestoreNoteStartAttempt : LinuxAutoRestoreGuard :=
  if guard.startAttempts < 0xFFFFFFFF then
    { guard with startAttempts := guard.startAttempts + 1 }
  else guard

/-- The reason a lockout is recorded under. -/
def lockoutReasonOrGeneric (reason : UInt32) : UInt32 :=
  if reason = SERVICE_AUTO_RESTORE_LOCKOUT_NONE ∨ reason > SERVICE_AUTO_RESTORE_LOCKOUT_MAX then
    SERVICE_AUTO_RESTORE_LOCKOUT_AUTOMATIC_APPLY_FAILED
  else reason

/-- The first cause wins, except that an incomplete handback replaces it. -/
def linuxAutoRestoreNoteLockout (reason : UInt32) : LinuxAutoRestoreGuard :=
  let reason := lockoutReasonOrGeneric reason
  { guard with
    lockedOut := true
    lockoutReason :=
      if guard.lockoutReason = SERVICE_AUTO_RESTORE_LOCKOUT_NONE ∨
          reason = SERVICE_AUTO_RESTORE_LOCKOUT_HANDBACK_INCOMPLETE then reason
      else guard.lockoutReason }

def linuxAutoRestorePublishedLockoutReason (stateUncertain : Bool) : UInt32 :=
  if guard.lockedOut then lockoutReasonOrGeneric guard.lockoutReason
  else if stateUncertain then SERVICE_AUTO_RESTORE_LOCKOUT_AUTOMATIC_APPLY_FAILED
  else SERVICE_AUTO_RESTORE_LOCKOUT_NONE

/-- The counter cleared by an orderly stop, if there was anything to clear. -/
def linuxAutoRestoreNoteCleanStop : Option LinuxAutoRestoreGuard :=
  if guard.startAttempts = 0 then none else some { guard with startAttempts := 0 }

/-- The guard re-armed by an explicit Apply or Reset, if there was anything to
clear. -/
def linuxAutoRestoreNoteExplicitSuccess : Option LinuxAutoRestoreGuard :=
  if !guard.lockedOut ∧ guard.startAttempts = 0 ∧
      guard.lockoutReason = SERVICE_AUTO_RESTORE_LOCKOUT_NONE then none
  else
    some
      { guard with
        lockedOut := false
        startAttempts := 0
        lockoutReason := SERVICE_AUTO_RESTORE_LOCKOUT_NONE }

end Operations

/-! ## The stored record -/

structure LinuxDaemonRestoreGuardRecord where
  lockedOut : UInt32 := 0
  startAttempts : UInt32 := 0
  lockoutReason : UInt32 := 0
  bootId : BootId := []
  deriving DecidableEq, Repr

def linuxDaemonGuardInitialize (guard : LinuxAutoRestoreGuard) : LinuxDaemonRestoreGuardRecord where
  lockedOut := if guard.lockedOut then 1 else 0
  startAttempts := guard.startAttempts
  lockoutReason :=
    if guard.lockedOut then linuxAutoRestorePublishedLockoutReason guard false
    else SERVICE_AUTO_RESTORE_LOCKOUT_NONE
  bootId := bootIdField guard.bootId

def linuxDaemonGuardValid (record : LinuxDaemonRestoreGuardRecord) : Bool :=
  decide (record.lockedOut ≤ 1) &&
    decide (record.lockoutReason ≤ SERVICE_AUTO_RESTORE_LOCKOUT_MAX) &&
    (decide (record.lockedOut ≠ 0) ==
      decide (record.lockoutReason ≠ SERVICE_AUTO_RESTORE_LOCKOUT_NONE)) &&
    decide (record.bootId.length < LINUX_BOOT_ID_MAX)

def linuxDaemonGuardToPolicy (record : LinuxDaemonRestoreGuardRecord) : LinuxAutoRestoreGuard where
  lockedOut := decide (record.lockedOut ≠ 0)
  startAttempts := record.startAttempts
  lockoutReason :=
    if record.lockedOut ≠ 0 then record.lockoutReason else SERVICE_AUTO_RESTORE_LOCKOUT_NONE
  bootId := bootIdField record.bootId

/-! ## What every operation keeps -/

/-- A guard locks out exactly when it names a reason, the reason is one of the
wire's, and the boot id fits its field. -/
structure GuardSound (guard : LinuxAutoRestoreGuard) : Prop where
  coherent : guard.lockedOut = true ↔ guard.lockoutReason ≠ SERVICE_AUTO_RESTORE_LOCKOUT_NONE
  reason_le : guard.lockoutReason ≤ SERVICE_AUTO_RESTORE_LOCKOUT_MAX
  bootId_lt : guard.bootId.length < LINUX_BOOT_ID_MAX

section Soundness
variable {guard : LinuxAutoRestoreGuard}

theorem guardSound_zero : GuardSound {} :=
  ⟨by decide, by decide, by decide⟩

theorem lockoutReasonOrGeneric_ne_none (reason : UInt32) :
    lockoutReasonOrGeneric reason ≠ SERVICE_AUTO_RESTORE_LOCKOUT_NONE := by
  unfold lockoutReasonOrGeneric
  split_ifs with h
  · decide
  · exact fun hnone => h (.inl hnone)

theorem lockoutReasonOrGeneric_le (reason : UInt32) :
    lockoutReasonOrGeneric reason ≤ SERVICE_AUTO_RESTORE_LOCKOUT_MAX := by
  unfold lockoutReasonOrGeneric
  split_ifs with h
  · decide
  · exact UInt32.not_lt.mp fun hlt => h (.inr hlt)

/-- A reason of the wire is recorded as it is. -/
theorem lockoutReasonOrGeneric_eq {reason : UInt32}
    (hne : reason ≠ SERVICE_AUTO_RESTORE_LOCKOUT_NONE)
    (hle : reason ≤ SERVICE_AUTO_RESTORE_LOCKOUT_MAX) : lockoutReasonOrGeneric reason = reason := by
  unfold lockoutReasonOrGeneric
  rw [if_neg]
  rintro (h | h)
  · exact hne h
  · exact absurd hle (UInt32.not_le.mpr h)

theorem open_of_mayWriteAfterPrepare {stateUncertain fanHandbackPending selectedFanTargetOwned : Bool}
    (h : linuxAutoRestoreMayWriteAfterPrepare guard stateUncertain fanHandbackPending
      selectedFanTargetOwned = true) : guard.lockedOut = false := by
  simp only [linuxAutoRestoreMayWriteAfterPrepare, Bool.and_eq_true, Bool.not_eq_true'] at h
  exact h.1.1.1

theorem GuardSound.noteResumeAttempt (h : GuardSound guard) (nowMs : UInt32) :
    GuardSound (linuxAutoRestoreNoteResumeAttempt guard nowMs) := by
  obtain ⟨hcoherent, hreason, hboot⟩ := h
  simp only [linuxAutoRestoreNoteResumeAttempt]
  split_ifs <;> exact ⟨hcoherent, hreason, hboot⟩

theorem GuardSound.adoptBoot (h : GuardSound guard) (current : BootId) :
    GuardSound (linuxAutoRestoreGuardAdoptBoot guard current).1 := by
  obtain ⟨hcoherent, hreason, hboot⟩ := h
  simp only [linuxAutoRestoreGuardAdoptBoot]
  split_ifs
  · exact ⟨hcoherent, hreason, hboot⟩
  · exact ⟨hcoherent, hreason, hboot⟩
  · exact ⟨hcoherent, hreason, bootIdField_length_lt current⟩

theorem GuardSound.noteStartAttempt (h : GuardSound guard) :
    GuardSound (linuxAutoRestoreNoteStartAttempt guard) := by
  obtain ⟨hcoherent, hreason, hboot⟩ := h
  unfold linuxAutoRestoreNoteStartAttempt
  split_ifs <;> exact ⟨hcoherent, hreason, hboot⟩

theorem GuardSound.noteLockout (h : GuardSound guard) (reason : UInt32) :
    GuardSound (linuxAutoRestoreNoteLockout guard reason) := by
  refine ⟨?_, ?_, h.bootId_lt⟩
  · refine iff_of_true rfl ?_
    simp only [linuxAutoRestoreNoteLockout]
    split_ifs with hfirst
    · exact lockoutReasonOrGeneric_ne_none reason
    · exact fun hnone => hfirst (.inl hnone)
  · simp only [linuxAutoRestoreNoteLockout]
    split_ifs
    · exact lockoutReasonOrGeneric_le reason
    · exact h.reason_le

theorem GuardSound.noteCleanStop (h : GuardSound guard) {guard' : LinuxAutoRestoreGuard}
    (hstop : linuxAutoRestoreNoteCleanStop guard = some guard') : GuardSound guard' := by
  unfold linuxAutoRestoreNoteCleanStop at hstop
  split_ifs at hstop
  cases hstop
  exact ⟨h.coherent, h.reason_le, h.bootId_lt⟩

theorem GuardSound.noteExplicitSuccess (h : GuardSound guard) {guard' : LinuxAutoRestoreGuard}
    (hsuccess : linuxAutoRestoreNoteExplicitSuccess guard = some guard') : GuardSound guard' := by
  unfold linuxAutoRestoreNoteExplicitSuccess at hsuccess
  split_ifs at hsuccess
  cases hsuccess
  exact ⟨by simp, UInt32.zero_le, h.bootId_lt⟩

/-! ## The record and the guard -/

/-- Every guard is stored as a record that passes its own check. -/
theorem linuxDaemonGuardValid_stored (guard : LinuxAutoRestoreGuard) :
    linuxDaemonGuardValid (linuxDaemonGuardInitialize guard) = true := by
  have hboot := bootIdField_length_lt guard.bootId
  cases hlock : guard.lockedOut with
  | false => simp [linuxDaemonGuardValid, linuxDaemonGuardInitialize, hlock, hboot]
  | true =>
    have hne := lockoutReasonOrGeneric_ne_none guard.lockoutReason
    have hle := lockoutReasonOrGeneric_le guard.lockoutReason
    simp [linuxDaemonGuardValid, linuxDaemonGuardInitialize,
      linuxAutoRestorePublishedLockoutReason, hlock, hboot, hne, hle]

/-- A record that passes its check is read as a sound guard. -/
theorem guardSound_toPolicy {record : LinuxDaemonRestoreGuardRecord}
    (h : linuxDaemonGuardValid record = true) : GuardSound (linuxDaemonGuardToPolicy record) := by
  simp only [linuxDaemonGuardValid, Bool.and_eq_true, decide_eq_true_eq, beq_iff_eq] at h
  obtain ⟨⟨⟨_, hreason⟩, hcoherent⟩, _⟩ := h
  have hboot := bootIdField_length_lt record.bootId
  by_cases hlock : record.lockedOut = 0
  · exact ⟨by simp [linuxDaemonGuardToPolicy, hlock],
      by simp [linuxDaemonGuardToPolicy, hlock], hboot⟩
  · have hne : record.lockoutReason ≠ SERVICE_AUTO_RESTORE_LOCKOUT_NONE := by
      simpa [hlock] using hcoherent
    exact ⟨by simp [linuxDaemonGuardToPolicy, hlock, hne],
      by simpa [linuxDaemonGuardToPolicy, hlock] using hreason, hboot⟩

/-- A stored guard is read back, without its resume window. -/
theorem toPolicy_stored (h : GuardSound guard) :
    linuxDaemonGuardToPolicy (linuxDaemonGuardInitialize guard) =
      { guard with resumeAttempts := 0, resumeWindowStartMs := 0 } := by
  have hboot := bootIdField_eq h.bootId_lt
  cases hlock : guard.lockedOut with
  | false =>
    have hnone : guard.lockoutReason = SERVICE_AUTO_RESTORE_LOCKOUT_NONE := by
      by_contra hne
      exact absurd (h.coherent.mpr hne) (by simp [hlock])
    simp [linuxDaemonGuardToPolicy, linuxDaemonGuardInitialize, hlock, hboot, hnone]
  | true =>
    have hgeneric := lockoutReasonOrGeneric_eq (h.coherent.mp hlock) h.reason_le
    simp [linuxDaemonGuardToPolicy, linuxDaemonGuardInitialize,
      linuxAutoRestorePublishedLockoutReason, hlock, hboot, hgeneric]

end Soundness

end GreenCurve
