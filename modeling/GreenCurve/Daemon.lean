import GreenCurve.CrashProgram
import GreenCurve.DesiredSettings
import GreenCurve.RestoreGuard
import GreenCurve.EventMachine

/-! # The Linux daemon

The daemon as a program over its files and its process memory.  Every call that
leaves the process (the driver, a file, the clock) consumes one answer of the
environment, and a process that is given no answer dies there: files keep what
was stored, memory is lost.  Which adapter a record names is not modelled;
resolving it is an answer. -/

namespace GreenCurve

inductive LinuxDaemonRecordState where
  | prepared | active | uncertain
  deriving DecidableEq, Repr

inductive ServiceOperationState where
  | none | inProgress | succeeded | failed | outcomeUnknown
  deriving DecidableEq, Repr

inductive ServiceStartupPolicyMode where
  | restoreLast | none | profile
  deriving DecidableEq, Repr

structure LinuxDaemonStateRecord where
  state : LinuxDaemonRecordState
  desired : DesiredSettings
  operationId : UInt64 := 0
  operationState : ServiceOperationState := .none

structure LinuxDaemonStartupRecord where
  mode : ServiceStartupPolicyMode := .restoreLast
  desired : DesiredSettings := {}

/-- `targetValid`: the marker names the adapter whose fan was taken. -/
structure LinuxFanOwnershipMarker where
  handbackAttempts : Nat := 0
  bootId : BootId := []
  targetValid : Bool := false
  deriving DecidableEq, Repr

/-- A file of the state directory.  A damaged file does not decode. -/
inductive DaemonFile (α : Type) where
  | absent
  | damaged
  | record (a : α)

structure DaemonDisk where
  state : DaemonFile LinuxDaemonStateRecord := .absent
  guard : DaemonFile LinuxDaemonRestoreGuardRecord := .absent
  fanMarker : DaemonFile LinuxFanOwnershipMarker := .absent
  startup : DaemonFile LinuxDaemonStartupRecord := .absent

/-- The globals of `linux_fan_ownership.h`. -/
structure FanOwnership where
  markerCommitted : Bool := false
  handbackPending : Bool := false
  handbackDeferred : Bool := false
  record : LinuxFanOwnershipMarker := {}
  deriving DecidableEq, Repr

/-- The globals of a daemon process. -/
structure DaemonMemory where
  gpuReady : Bool := false
  /-- `g_activeDesired`, when `g_hasActiveDesired`. -/
  activeDesired : Option DesiredSettings := none
  stateUncertain : Bool := false
  startupPolicy : LinuxDaemonStartupRecord := {}
  autoRestoreGuard : LinuxAutoRestoreGuard := {}
  fan : FanOwnership := {}

structure LinuxMutationResult where
  success : Bool := true
  anyWrite : Bool := true
  rollbackSucceeded : Bool := false
  deriving DecidableEq, Repr

/-- What one call of the environment answers; a call reads the part it needs. -/
structure Answer where
  ok : Bool := true
  nowMs : UInt32 := 0
  mutation : LinuxMutationResult := {}
  deriving DecidableEq, Repr

/-- What the daemon does to the hardware and to its records. -/
inductive DaemonAction where
  | automaticWrite (trigger : LinuxAutoRestoreTrigger) (request : DesiredSettings)
  | explicitWrite (request : DesiredSettings)
  | mutated (result : LinuxMutationResult)
  | rolledBack (ok : Bool)
  | stateStored (state : LinuxDaemonRecordState) (ok : Bool)
  | stateRemoved (ok : Bool)
  /-- An explicit Apply or Reset reached its durable record. -/
  | committed
  /-- The guard an explicit Apply or Reset cleared was stored. -/
  | rearmed
  | cleanStop
  deriving DecidableEq

/-- A running process: its files, its memory, the boot it runs in, and what it has
done since it was called. -/
structure DaemonWorld where
  disk : DaemonDisk
  memory : DaemonMemory
  bootId : BootId
  trace : List DaemonAction := []

namespace DaemonWorld
variable (w : DaemonWorld)

def log (action : DaemonAction) : DaemonWorld := { w with trace := w.trace ++ [action] }

def setGpuReady (ready : Bool) : DaemonWorld := { w with memory.gpuReady := ready }

def setUncertain : DaemonWorld := { w with memory.stateUncertain := true }

def setFan (fan : FanOwnership) : DaemonWorld := { w with memory.fan := fan }

def setFanMarker (file : DaemonFile LinuxFanOwnershipMarker) : DaemonWorld :=
  { w with disk.fanMarker := file }

def setGuard (guard : LinuxAutoRestoreGuard) : DaemonWorld :=
  { w with memory.autoRestoreGuard := guard }

def setPolicy (policy : LinuxDaemonStartupRecord) : DaemonWorld :=
  { w with memory.startupPolicy := policy }

/-- The intent is committed and known to be what the hardware holds. -/
def setActive (desired : Option DesiredSettings) : DaemonWorld :=
  { w with memory.activeDesired := desired, memory.stateUncertain := false }

def setState (file : DaemonFile LinuxDaemonStateRecord) : DaemonWorld :=
  { w with disk.state := file }

def setStartup (file : DaemonFile LinuxDaemonStartupRecord) : DaemonWorld :=
  { w with disk.startup := file }

/-- The guard in memory, as the guard file. -/
def storeGuard : DaemonWorld :=
  { w with disk.guard := .record (linuxDaemonGuardInitialize w.memory.autoRestoreGuard) }

/-- A store of the state record; one that fails leaves the file as it was. -/
def storeState (record : LinuxDaemonStateRecord) (ok : Bool) : DaemonWorld :=
  (if ok then w.setState (.record record) else w).log (.stateStored record.state ok)

def removeState (ok : Bool) : DaemonWorld :=
  (if ok then w.setState .absent else w).log (.stateRemoved ok)

end DaemonWorld

abbrev DaemonM := CrashM Answer DaemonWorld

open CrashM

/-- A call that succeeds or fails. -/
def succeeds : DaemonM Bool := do
  let answer ← ask
  return answer.ok

/-! ## The state record -/

def storeRecord (record : LinuxDaemonStateRecord) : DaemonM Bool := do
  let ok ← succeeds
  modify fun w => w.storeState record ok
  return ok

/-- `store_daemon_record`. -/
def storeDaemonRecord (state : LinuxDaemonRecordState) (desired : DesiredSettings)
    (operationId : UInt64) (operationState : ServiceOperationState) : DaemonM Bool :=
  storeRecord { state, desired, operationId, operationState }

def linuxDaemonStateRemove : DaemonM Bool := do
  let ok ← succeeds
  modify fun w => w.removeState ok
  return ok

/-- `LEGACY_REMOVED` and `INVALID_REMOVED` are one result. -/
inductive LinuxDaemonStateLoadResult where
  | missing
  | loaded (record : LinuxDaemonStateRecord)
  | removed
  | ioError

/-- `linux_daemon_state_load`: a file that does not decode is removed. -/
def linuxDaemonStateLoad : DaemonM LinuxDaemonStateLoadResult := do
  let readable ← succeeds
  if !readable then return .ioError else
  let w ← get
  match w.disk.state with
  | .absent => return .missing
  | .record record => return .loaded record
  | .damaged =>
    let unlinked ← succeeds
    if !unlinked then return .ioError else
    modify fun w => w.setState .absent
    return .removed

/-- `linux_daemon_record_as_uncertain`. -/
def linuxDaemonRecordAsUncertain (previous : LinuxDaemonStateRecord) : LinuxDaemonStateRecord :=
  { previous with state := .uncertain }

inductive LinuxFailedOperationRecord where
  | removeRecord | restoreActive | keepUncertain
  deriving DecidableEq, Repr

def linuxFailedOperationRecord (wasUncertain hadPrevious : Bool) : LinuxFailedOperationRecord :=
  if wasUncertain then .keepUncertain
  else if hadPrevious then .restoreActive
  else .removeRecord

def linuxFailedOperationLeavesUncertain (wasUncertain rollbackOk recordOk : Bool) : Bool :=
  wasUncertain || !rollbackOk || !recordOk

/-- What a failed explicit operation puts back on disk. -/
def restoreCommittedRecord (wasUncertain : Bool) (previous : Option DesiredSettings)
    (uncertainRecord : Option LinuxDaemonStateRecord) : DaemonM Bool :=
  match linuxFailedOperationRecord wasUncertain previous.isSome with
  | .keepUncertain =>
    match uncertainRecord with
    | some record => storeRecord (linuxDaemonRecordAsUncertain record)
    | none => storeDaemonRecord .uncertain (previous.getD {}) 0 .none
  | .restoreActive => storeDaemonRecord .active (previous.getD {}) 0 .none
  | .removeRecord => linuxDaemonStateRemove

/-- `capture_uncertain_record`: `none` refuses the operation. -/
def captureUncertainRecord (uncertain : Bool) :
    DaemonM (Option (Option LinuxDaemonStateRecord)) :=
  if !uncertain then return some none
  else do
    let result ← linuxDaemonStateLoad
    match result with
    | .ioError => return none
    | .loaded record => return some (some record)
    | .missing => return some none
    | .removed => return some none

/-! ## The guard -/

/-- `persist_auto_restore_guard`. -/
def persistAutoRestoreGuard : DaemonM Bool := do
  let ok ← succeeds
  modify fun w => if ok then w.storeGuard else w
  return ok

/-- An exhausted boot latches the lockout, so that the next boot does not get
fresh attempts. -/
def latchExhausted (verdict : LinuxAutoRestoreVerdict) (guard : LinuxAutoRestoreGuard) :
    DaemonM Unit :=
  CrashM.when (verdict == .denyAttemptsExhausted && !guard.lockedOut) do
    modify fun w => w.setGuard
      (linuxAutoRestoreNoteLockout guard SERVICE_AUTO_RESTORE_LOCKOUT_UNSTABLE_APPLY)
    let _ ← persistAutoRestoreGuard
    return ()

/-- A start-time attempt is counted and stored before the write it authorises. -/
def countStartAttempt (guard : LinuxAutoRestoreGuard) : DaemonM Bool := do
  modify fun w => w.setGuard (linuxAutoRestoreNoteStartAttempt guard)
  let persisted ← persistAutoRestoreGuard
  if !persisted then
    modify fun w => w.setGuard guard
    return false
  else return true

/-- The guard once the resume is counted; a start-time trigger is not a resume. -/
def noteResumeTrigger (trigger : LinuxAutoRestoreTrigger) (guard : LinuxAutoRestoreGuard)
    (nowMs : UInt32) : LinuxAutoRestoreGuard :=
  if !linuxAutoRestoreTriggerIsStart trigger then linuxAutoRestoreNoteResumeAttempt guard nowMs
  else guard

/-- `auto_restore_authorize`. -/
def autoRestoreAuthorize (trigger : LinuxAutoRestoreTrigger) : DaemonM Bool := do
  let clock ← ask
  modify fun w => w.setGuard (noteResumeTrigger trigger w.memory.autoRestoreGuard clock.nowMs)
  let w ← get
  let guard := w.memory.autoRestoreGuard
  let verdict := linuxAutoRestoreDecide guard trigger w.memory.stateUncertain clock.nowMs
  if verdict ≠ .allow then
    latchExhausted verdict guard
    return false
  else if !linuxAutoRestoreTriggerIsStart trigger then return true
  else countStartAttempt guard

/-- `auto_restore_note_explicit_success`. -/
def autoRestoreNoteExplicitSuccess : DaemonM Bool := do
  let w ← get
  if w.memory.fan.handbackPending then return false
  else match linuxAutoRestoreNoteExplicitSuccess w.memory.autoRestoreGuard with
  | none => return true
  | some cleared =>
    modify fun w => w.setGuard cleared
    let persisted ← persistAutoRestoreGuard
    if !persisted then
      modify fun w' => w'.setGuard w.memory.autoRestoreGuard
      return false
    else
      modify fun w => w.log .rearmed
      return true

/-- `auto_restore_note_automatic_failure`. -/
def autoRestoreNoteAutomaticFailure : DaemonM Unit := do
  let w ← get
  CrashM.when (!w.memory.autoRestoreGuard.lockedOut) do
    modify fun w => w.setGuard (linuxAutoRestoreNoteLockout w.memory.autoRestoreGuard
      SERVICE_AUTO_RESTORE_LOCKOUT_AUTOMATIC_APPLY_FAILED)
    let _ ← persistAutoRestoreGuard
    return ()

/-- What a start can read of the files it decides on. -/
structure StartReads where
  bootIdKnown : Bool := true
  guardReadable : Bool := true
  policyReadable : Bool := true
  deriving DecidableEq, Repr

/-- `linux_daemon_guard_load`: the guard, or whether the file is corrupt. -/
def linuxDaemonGuardLoad (file : DaemonFile LinuxDaemonRestoreGuardRecord) (readable : Bool) :
    LinuxAutoRestoreGuard ⊕ Bool :=
  match file with
  | .absent => .inr (!readable)
  | .damaged => .inr true
  | .record record =>
    if readable && linuxDaemonGuardValid record then .inl (linuxDaemonGuardToPolicy record)
    else .inr true

/-- The guard as it is loaded: a file that cannot be read locks out. -/
def loadedGuard (file : DaemonFile LinuxDaemonRestoreGuardRecord) (readable : Bool) :
    LinuxAutoRestoreGuard :=
  match linuxDaemonGuardLoad file readable with
  | .inl guard => guard
  | .inr true =>
    linuxAutoRestoreNoteLockout {} SERVICE_AUTO_RESTORE_LOCKOUT_AUTOMATIC_APPLY_FAILED
  | .inr false => {}

/-- `load_auto_restore_guard_at_boot`: without a boot id the count carries over. -/
def loadAutoRestoreGuardAtBoot (file : DaemonFile LinuxDaemonRestoreGuardRecord)
    (bootId : BootId) (reads : StartReads) : LinuxAutoRestoreGuard :=
  if !reads.bootIdKnown then loadedGuard file reads.guardReadable
  else (linuxAutoRestoreGuardAdoptBoot (loadedGuard file reads.guardReadable) bootId).1

/-! ## Fan ownership -/

/-- `daemon_fan_ownership_allows_selected_write`: an outstanding marker must
resolve to the selected adapter. -/
def daemonFanOwnershipAllowsSelectedWrite : DaemonM Bool := do
  let w ← get
  if !w.memory.fan.markerCommitted then return true
  else succeeds

def daemonDesiredTakesManualFan (desired : DesiredSettings) : Bool :=
  desired.hasFan && desired.fanMode != .auto

def linuxFanOwnershipMarkerStore (marker : LinuxFanOwnershipMarker) : DaemonM Bool := do
  let ok ← succeeds
  modify fun w => if ok then w.setFanMarker (.record marker) else w
  return ok

/-- The marker of this boot is stored before the first manual write. -/
def commitFanMarker : DaemonM Bool := do
  let bootKnown ← succeeds
  if !bootKnown then return false else
  let w ← get
  let marker : LinuxFanOwnershipMarker := { bootId := w.bootId, targetValid := true }
  let stored ← linuxFanOwnershipMarkerStore marker
  if !stored then return false else
  modify fun w => w.setFan
    { w.memory.fan with markerCommitted := true, handbackPending := false, record := marker }
  return true

/-- `daemon_fan_ownership_ensure_before_write`. -/
def daemonFanOwnershipEnsureBeforeWrite (committed : DesiredSettings) : DaemonM Bool := do
  if !daemonDesiredTakesManualFan committed then return true else
  let resolved ← succeeds
  if !resolved then return false else
  let allowed ← daemonFanOwnershipAllowsSelectedWrite
  if !allowed then return false else
  let w ← get
  if w.memory.fan.markerCommitted && !w.memory.fan.handbackPending then return true
  else commitFanMarker

/-- `daemon_fan_ownership_retire`. -/
def daemonFanOwnershipRetire : DaemonM Unit := do
  let allowed ← daemonFanOwnershipAllowsSelectedWrite
  CrashM.when allowed do
    let removed ← succeeds
    CrashM.when removed do
      modify fun w => (w.setFanMarker .absent).setFan
        { w.memory.fan with markerCommitted := false, handbackPending := false, record := {} }

/-- Full duty is forced on a fan the driver refused to take. -/
def forceEmergencyDuty (autoOk : Bool) : DaemonM Unit :=
  CrashM.when (!autoOk) do
    let _ ← succeeds
    return ()

def returnFanToDriver : DaemonM Bool := do
  let autoOk ← succeeds
  forceEmergencyDuty autoOk
  return autoOk

/-- `daemon_fan_ownership_release_for_uncertain`. -/
def daemonFanOwnershipReleaseForUncertain : DaemonM Unit := do
  let w ← get
  CrashM.when (w.memory.fan.markerCommitted && w.memory.gpuReady) do
    let allowed ← daemonFanOwnershipAllowsSelectedWrite
    CrashM.when allowed do
      let autoOk ← returnFanToDriver
      CrashM.when autoOk daemonFanOwnershipRetire

/-- `daemon_enter_uncertain_state`. -/
def daemonEnterUncertainState : DaemonM Unit := do
  modify fun w => w.setUncertain
  daemonFanOwnershipReleaseForUncertain

/-- `daemon_fan_ownership_latch_incomplete`. -/
def daemonFanOwnershipLatchIncomplete : DaemonM Unit := do
  modify fun w => w.setGuard (linuxAutoRestoreNoteLockout w.memory.autoRestoreGuard
    SERVICE_AUTO_RESTORE_LOCKOUT_HANDBACK_INCOMPLETE)
  let _ ← persistAutoRestoreGuard
  return ()

abbrev OWNERSHIP_HANDBACK_MAX_ATTEMPTS : Nat := 2

inductive OwnershipHandbackVerdict where
  | noMarker | run | discardOtherBoot | discardUnproven | giveUpPreviousAttemptDied
  deriving DecidableEq, Repr

/-- `ownership_handback_plan` for the fan-only scope. -/
def ownershipHandbackPlan (markerPresent markerValid currentBootKnown sameBoot : Bool)
    (previousAttempts : Nat) : OwnershipHandbackVerdict :=
  if !markerPresent then .noMarker
  else if !markerValid || !currentBootKnown then .discardUnproven
  else if !sameBoot then .discardOtherBoot
  else if previousAttempts ≥ OWNERSHIP_HANDBACK_MAX_ATTEMPTS then .giveUpPreviousAttemptDied
  else .run

/-- The handback of a marker whose adapter is selected: the attempt is counted on
disk before the fan is written. -/
def handBackSelected (marker : LinuxFanOwnershipMarker) : DaemonM Unit := do
  let inFlight := { marker with handbackAttempts := marker.handbackAttempts + 1 }
  let stored ← linuxFanOwnershipMarkerStore inFlight
  CrashM.when stored do
    modify fun w => w.setFan { w.memory.fan with record := inFlight }
    let autoOk ← returnFanToDriver
    if autoOk then daemonFanOwnershipRetire
    else
      let _ ← linuxFanOwnershipMarkerStore { inFlight with handbackAttempts := 0 }
      daemonFanOwnershipLatchIncomplete

/-- A marker without an adapter is only resolved when one adapter is there. -/
def handbackTargetKnown (marker : LinuxFanOwnershipMarker) : DaemonM Bool :=
  if marker.targetValid then return true
  else succeeds

/-- `daemon_fan_ownership_run_handback`. -/
def daemonFanOwnershipRunHandback (marker : LinuxFanOwnershipMarker) : DaemonM Unit := do
  let known ← handbackTargetKnown marker
  if !known then daemonFanOwnershipLatchIncomplete else
  let selected ← succeeds
  if !selected then daemonFanOwnershipLatchIncomplete
  else handBackSelected { marker with targetValid := true }

/-- An outstanding marker is kept whether or not it can be handed back now. -/
def handBackOutstanding (verdict : OwnershipHandbackVerdict) (marker : LinuxFanOwnershipMarker) :
    DaemonM Unit := do
  modify fun w => w.setFan
    { w.memory.fan with markerCommitted := true, handbackPending := true, record := marker }
  let w ← get
  if verdict = .giveUpPreviousAttemptDied then daemonFanOwnershipLatchIncomplete
  else if !w.memory.gpuReady then
    modify fun w => w.setFan { w.memory.fan with handbackDeferred := true }
  else daemonFanOwnershipRunHandback marker

/-- `linux_fan_ownership_marker_load`: whether a file is there, and its marker. -/
def linuxFanOwnershipMarkerLoad (file : DaemonFile LinuxFanOwnershipMarker) (readable : Bool) :
    Bool × Option LinuxFanOwnershipMarker :=
  match file with
  | .absent => (!readable, none)
  | .damaged => (true, none)
  | .record marker => (true, if readable then some marker else none)

def followHandbackVerdict (verdict : OwnershipHandbackVerdict)
    (marker : LinuxFanOwnershipMarker) : DaemonM Unit :=
  match verdict with
  | .noMarker => return ()
  | .discardOtherBoot => daemonFanOwnershipRetire
  | .discardUnproven => daemonFanOwnershipRetire
  | .run => handBackOutstanding verdict marker
  | .giveUpPreviousAttemptDied => handBackOutstanding verdict marker

/-- `daemon_fan_ownership_handback_at_start`. -/
def daemonFanOwnershipHandbackAtStart : DaemonM Unit := do
  let readable ← succeeds
  let bootKnown ← succeeds
  let w ← get
  let loaded := linuxFanOwnershipMarkerLoad w.disk.fanMarker readable
  let marker := loaded.2.getD {}
  followHandbackVerdict
    (ownershipHandbackPlan loaded.1 loaded.2.isSome bootKnown (marker.bootId == w.bootId)
      marker.handbackAttempts) marker

/-- `daemon_fan_ownership_resume_deferred_handback`. -/
def daemonFanOwnershipResumeDeferredHandback : DaemonM Unit := do
  let w ← get
  CrashM.when (w.memory.fan.handbackDeferred && w.memory.gpuReady) do
    modify fun w => w.setFan { w.memory.fan with handbackDeferred := false }
    CrashM.when (w.memory.fan.markerCommitted && w.memory.fan.handbackPending)
      (daemonFanOwnershipRunHandback w.memory.fan.record)

/-! ## The unattended write -/

/-- `auto_restore_prepare_backend`. -/
def autoRestorePrepareBackend : DaemonM Bool := do
  let w ← get
  if w.memory.gpuReady then succeeds else
  let initialized ← succeeds
  if !initialized then return false else
  modify fun w => w.setGpuReady true
  daemonFanOwnershipResumeDeferredHandback
  succeeds

/-- `linux_backend_apply` or `linux_backend_reset`, by its result. -/
def mutateHardware : DaemonM LinuxMutationResult := do
  let answer ← ask
  modify fun w => w.log (.mutated answer.mutation)
  return answer.mutation

/-- `linux_backend_restore_snapshot`. -/
def linuxBackendRestoreSnapshot : DaemonM Bool := do
  let ok ← succeeds
  modify fun w => w.log (.rolledBack ok)
  return ok

/-- The end of an unattended write that failed: the record and the guard say so. -/
def failAutomaticRestore (committed : DesiredSettings) : DaemonM Bool := do
  let _ ← storeDaemonRecord .uncertain committed 0 .none
  daemonEnterUncertainState
  autoRestoreNoteAutomaticFailure
  return false

def settleAutomaticRestore (committed : DesiredSettings) (mutation : LinuxMutationResult) :
    DaemonM Bool :=
  if !mutation.success then failAutomaticRestore committed
  else do
    let stored ← storeDaemonRecord .active committed 0 .none
    if !stored then
      let _ ← linuxBackendRestoreSnapshot
      failAutomaticRestore committed
    else
      modify fun w => w.setActive (some committed)
      CrashM.when (committed.hasFan && committed.fanMode == .auto) daemonFanOwnershipRetire
      return true

/-- `daemon_automatic_restore_write`, past its authorisation. -/
def writeAutomaticRestore (trigger : LinuxAutoRestoreTrigger) (intent : DesiredSettings) :
    DaemonM Bool := do
  let prepared ← autoRestorePrepareBackend
  if !prepared then return false else
  let owned ← daemonFanOwnershipAllowsSelectedWrite
  let w ← get
  if !linuxAutoRestoreMayWriteAfterPrepare w.memory.autoRestoreGuard w.memory.stateUncertain
      w.memory.fan.handbackPending owned then return false else
  let committed : DesiredSettings :=
    { intent with lockMode := profileLockModeAfterLoad intent.hasLock true intent.lockMode }
  let captured ← succeeds
  if !captured then return false else
  let recorded ← daemonFanOwnershipEnsureBeforeWrite committed
  if !recorded then return false else
  modify fun w => w.log (.automaticWrite trigger (serviceBuildFullRestoreRequest committed))
  let mutation ← mutateHardware
  settleAutomaticRestore committed mutation

/-- `daemon_automatic_restore_write`. -/
def daemonAutomaticRestoreWrite (trigger : LinuxAutoRestoreTrigger) (intent : DesiredSettings) :
    DaemonM Bool := do
  let authorized ← autoRestoreAuthorize trigger
  if !authorized then return false
  else writeAutomaticRestore trigger intent

/-- `daemon_handle_resume_restore`. -/
def daemonHandleResumeRestore : DaemonM Unit := do
  let w ← get
  match w.memory.activeDesired with
  | none => return ()
  | some intent =>
    let _ ← daemonAutomaticRestoreWrite .resume intent
    return ()

/-! ## The start -/

/-- `load_startup_policy_at_boot`: a record that cannot be read applies nothing. -/
def loadStartupPolicyAtBoot (file : DaemonFile LinuxDaemonStartupRecord) (readable : Bool) :
    LinuxDaemonStartupRecord :=
  match file with
  | .absent => if readable then {} else { mode := .none }
  | .damaged => { mode := .none }
  | .record record => if readable then record else { mode := .none }

/-- `apply_startup_profile_policy`, under its policy. -/
def applyStartupProfilePolicy : DaemonM Unit := do
  let w ← get
  CrashM.when (w.memory.startupPolicy.mode == .profile) do
    let _ ← daemonAutomaticRestoreWrite .bootProfile w.memory.startupPolicy.desired
    return ()

/-- The record a start finds, under the policy it has loaded. -/
def resumeCommittedState (saved : LinuxDaemonStateRecord) : DaemonM Unit := do
  let w ← get
  if w.memory.startupPolicy.mode ≠ .restoreLast then return ()
  else if saved.state ≠ .active then modify fun w => w.setUncertain
  else
    let _ ← daemonAutomaticRestoreWrite .bootRestoreLast saved.desired
    return ()

def restoreLastAtStart : DaemonM Unit := do
  let result ← linuxDaemonStateLoad
  match result with
  | .missing => return ()
  | .removed => return ()
  | .ioError => modify fun w => w.setUncertain
  | .loaded saved => resumeCommittedState saved

/-- The start of `linux_daemon_run`, up to serving; the result says whether it
serves. -/
def linuxDaemonRun (reads : StartReads) : DaemonM Bool := do
  let backend ← succeeds
  modify fun w => w.setGpuReady backend
  modify fun w => w.setGuard (loadAutoRestoreGuardAtBoot w.disk.guard w.bootId reads)
  daemonFanOwnershipHandbackAtStart
  modify fun w => w.setPolicy (loadStartupPolicyAtBoot w.disk.startup reads.policyReadable)
  applyStartupProfilePolicy
  restoreLastAtStart
  succeeds

/-! ## Explicit requests -/

/-- An explicit operation whose hardware or record did not settle. -/
def leaveUncertain (desired : DesiredSettings) : DaemonM Unit := do
  let _ ← storeDaemonRecord .uncertain desired 0 .none
  daemonEnterUncertainState

/-- The end of `SERVICE_CMD_APPLY` after the hardware call: whether it committed. -/
def settleApply (wasUncertain : Bool) (previous : Option DesiredSettings)
    (captured : Option LinuxDaemonStateRecord) (committed : DesiredSettings)
    (operationId : UInt64) (mutation : LinuxMutationResult) : DaemonM Bool :=
  if mutation.success then do
    let stored ← storeDaemonRecord .active committed operationId .succeeded
    if stored then
      modify fun w => w.log .committed
      return true
    else
      let rollbackOk ← linuxBackendRestoreSnapshot
      let recordOk ← restoreCommittedRecord wasUncertain previous captured
      CrashM.when (!rollbackOk || !recordOk) do
        let _ ← storeDaemonRecord .uncertain committed 0 .none
        return ()
      CrashM.when (linuxFailedOperationLeavesUncertain wasUncertain rollbackOk recordOk)
        daemonEnterUncertainState
      return false
  else if mutation.rollbackSucceeded || !mutation.anyWrite then do
    let recordOk ← restoreCommittedRecord wasUncertain previous captured
    CrashM.when (!recordOk) (leaveUncertain committed)
    return false
  else do
    leaveUncertain committed
    return false

/-- What a committed Apply leaves in memory. -/
def finishApply (d committed : DesiredSettings) : DaemonM Unit := do
  modify fun w => w.setActive (some committed)
  let w ← get
  CrashM.when (w.memory.fan.markerCommitted && d.hasFan && d.fanMode == .auto)
    daemonFanOwnershipRetire
  let _ ← autoRestoreNoteExplicitSuccess
  return ()

/-- The hardware part of an Apply whose preparation is durable. -/
def performApply (d : DesiredSettings) (operationId : UInt64) (wasUncertain : Bool)
    (previous : Option DesiredSettings) (captured : Option LinuxDaemonStateRecord) :
    DaemonM Unit := do
  let merged := serviceMergeDesiredAfterMutation previous d
  modify fun w => w.log (.explicitWrite d)
  let mutation ← mutateHardware
  let committed ← settleApply wasUncertain previous captured merged operationId mutation
  CrashM.when committed (finishApply d merged)

/-- `SERVICE_CMD_APPLY`, of a request that passed the boundary checks of its fields. -/
def handleApply (d : DesiredSettings) (operationId : UInt64) : DaemonM Unit := do
  let w ← get
  if !w.memory.gpuReady then return () else
  let selected ← succeeds
  if !selected then return () else
  if d.hasLock && d.lockMode == .none then return () else
  let previous := w.memory.activeDesired
  let merged := serviceMergeDesiredAfterMutation previous d
  let capture ← captureUncertainRecord w.memory.stateUncertain
  match capture with
  | none => return ()
  | some captured =>
    let owned ← daemonFanOwnershipAllowsSelectedWrite
    if !owned then return () else
    let snapshot ← succeeds
    if !snapshot then return () else
    let recorded ← daemonFanOwnershipEnsureBeforeWrite merged
    if !recorded then return () else
    let prepared ← storeDaemonRecord .prepared merged operationId .inProgress
    if !prepared then return ()
    else performApply d operationId w.memory.stateUncertain previous captured

/-- The end of `SERVICE_CMD_RESET` after the hardware call: whether it committed. -/
def settleReset (wasUncertain : Bool) (previous : Option DesiredSettings)
    (captured : Option LinuxDaemonStateRecord) (mutation : LinuxMutationResult) : DaemonM Bool :=
  if mutation.success then do
    let removed ← linuxDaemonStateRemove
    if removed then
      modify fun w => w.log .committed
      return true
    else
      let rollbackOk ← linuxBackendRestoreSnapshot
      let recordOk ← restoreCommittedRecord wasUncertain previous captured
      CrashM.when (linuxFailedOperationLeavesUncertain wasUncertain rollbackOk recordOk)
        daemonEnterUncertainState
      return false
  else if !(mutation.rollbackSucceeded || !mutation.anyWrite) then do
    leaveUncertain {}
    return false
  else do
    let recordOk ← restoreCommittedRecord wasUncertain previous captured
    CrashM.when (!recordOk) (leaveUncertain {})
    return false

def finishReset : DaemonM Unit := do
  modify fun w => w.setActive none
  daemonFanOwnershipRetire
  let _ ← autoRestoreNoteExplicitSuccess
  return ()

def performReset (wasUncertain : Bool) (previous : Option DesiredSettings)
    (captured : Option LinuxDaemonStateRecord) : DaemonM Unit := do
  modify fun w => w.log (.explicitWrite {})
  let mutation ← mutateHardware
  let committed ← settleReset wasUncertain previous captured mutation
  CrashM.when committed finishReset

/-- `SERVICE_CMD_RESET`. -/
def handleReset (operationId : UInt64) : DaemonM Unit := do
  let w ← get
  if !w.memory.gpuReady then return () else
  let selected ← succeeds
  if !selected then return () else
  let capture ← captureUncertainRecord w.memory.stateUncertain
  match capture with
  | none => return ()
  | some captured =>
    let owned ← daemonFanOwnershipAllowsSelectedWrite
    if !owned then return () else
    let snapshot ← succeeds
    if !snapshot then return () else
    let prepared ← storeDaemonRecord .prepared {} operationId .inProgress
    if !prepared then return ()
    else performReset w.memory.stateUncertain w.memory.activeDesired captured

/-- `SERVICE_CMD_SET_STARTUP_POLICY` and the profile refresh: memory follows the
file. -/
def daemonHandleSetStartupPolicy (record : LinuxDaemonStartupRecord) : DaemonM Unit := do
  let stored ← succeeds
  CrashM.when stored do
    modify fun w => (w.setStartup (.record record)).setPolicy record

/-- `daemon_retry_backend_for_read`. -/
def daemonRetryBackendForRead : DaemonM Unit := do
  let w ← get
  CrashM.when (!w.memory.gpuReady) do
    let initialized ← succeeds
    CrashM.when initialized do
      modify fun w => w.setGpuReady true

/-! ## The fan worker and the stop -/

/-- The fan worker gives up on a manual fan after repeated failures. -/
def fanWorkerLockout : DaemonM Unit := do
  let w ← get
  match w.memory.activeDesired with
  | none => return ()
  | some intent =>
    CrashM.when (w.memory.gpuReady && !w.memory.stateUncertain &&
        daemonDesiredTakesManualFan intent) do
      let autoOk ← succeeds
      let _ ← storeDaemonRecord .uncertain intent 0 .none
      forceEmergencyDuty autoOk
      modify fun w => w.setUncertain
      CrashM.when (w.memory.fan.markerCommitted && autoOk) daemonFanOwnershipRetire

/-- `clear_auto_restore_attempts_on_clean_stop`. -/
def clearAutoRestoreAttemptsOnCleanStop : DaemonM Unit := do
  modify fun w => w.log .cleanStop
  let w ← get
  match linuxAutoRestoreNoteCleanStop w.memory.autoRestoreGuard with
  | none => return ()
  | some cleared =>
    modify fun w => w.setGuard cleared
    let _ ← persistAutoRestoreGuard
    return ()

/-- `daemon_release_fan_to_driver`. -/
def daemonReleaseFanToDriver : DaemonM Unit := do
  let w ← get
  let activeManual := (w.memory.activeDesired.map daemonDesiredTakesManualFan).getD false
  CrashM.when (w.memory.gpuReady && (activeManual ||
      (w.memory.fan.markerCommitted && !w.memory.fan.handbackPending))) do
    let allowed ← daemonFanOwnershipAllowsSelectedWrite
    CrashM.when allowed do
      let autoOk ← returnFanToDriver
      CrashM.when autoOk daemonFanOwnershipRetire

/-- The orderly end of `linux_daemon_run`. -/
def orderlyStop : DaemonM Unit := do
  clearAutoRestoreAttemptsOnCleanStop
  daemonReleaseFanToDriver

/-! ## The machine -/

/-- The machine between two events: the files, the boot, and the memory of the
daemon if one is serving. -/
structure DaemonMachine where
  disk : DaemonDisk := {}
  bootId : BootId := []
  process : Option DaemonMemory := none

inductive DaemonFileName where
  | state | guard | fanMarker | startup
  deriving DecidableEq, Repr

/-- What a serving daemon does for a client or in its fan worker. -/
inductive DaemonTask where
  | apply (desired : DesiredSettings) (operationId : UInt64)
  | reset (operationId : UInt64)
  | resumeRestore
  | setStartupPolicy (record : LinuxDaemonStartupRecord)
  | retryBackend
  | deferredHandback
  | fanLockout

/-- `handle_request` and the steps of the fan worker. -/
def DaemonTask.program : DaemonTask → DaemonM Unit
  | .apply desired operationId => handleApply desired operationId
  | .reset operationId => handleReset operationId
  | .resumeRestore => daemonHandleResumeRestore
  | .setStartupPolicy record => daemonHandleSetStartupPolicy record
  | .retryBackend => daemonRetryBackendForRead
  | .deferredHandback => daemonFanOwnershipResumeDeferredHandback
  | .fanLockout => fanWorkerLockout

/-- What happens to the machine; a run of the daemon carries the answers it gets. -/
inductive DaemonEvent where
  | boot (bootId : BootId)
  | start (reads : StartReads) (answers : List Answer)
  | serve (task : DaemonTask) (answers : List Answer)
  | stop (answers : List Answer)
  | kill
  | damage (file : DaemonFileName)

/-- The file is replaced by one that does not decode. -/
def DaemonDisk.damage (disk : DaemonDisk) : DaemonFileName → DaemonDisk
  | .state => { disk with state := .damaged }
  | .guard => { disk with guard := .damaged }
  | .fanMarker => { disk with fanMarker := .damaged }
  | .startup => { disk with startup := .damaged }

/-- A process that is about to run. -/
def DaemonMachine.world (m : DaemonMachine) (memory : DaemonMemory) : DaemonWorld :=
  { disk := m.disk, memory := memory, bootId := m.bootId }

/-- The machine a run leaves, with the process that goes on serving. -/
def DaemonWorld.leave (w : DaemonWorld) (process : Option DaemonMemory) :
    DaemonMachine × List DaemonAction :=
  ({ disk := w.disk, bootId := w.bootId, process := process }, w.trace)

/-- A task of the running daemon, if there is one. -/
def DaemonMachine.serve (m : DaemonMachine) (program : DaemonM Unit) (answers : List Answer) :
    DaemonMachine × List DaemonAction :=
  match m.process with
  | none => (m, [])
  | some memory =>
    match program.exec answers (m.world memory) with
    | (some _, w) => w.leave (some w.memory)
    | (none, w) => w.leave none

/-- A start of the daemon, if none is running. -/
def DaemonMachine.start (m : DaemonMachine) (reads : StartReads) (answers : List Answer) :
    DaemonMachine × List DaemonAction :=
  match m.process with
  | some _ => (m, [])
  | none =>
    match (linuxDaemonRun reads).exec answers (m.world {}) with
    | (some true, w) => w.leave (some w.memory)
    | (some false, w) => w.leave none
    | (none, w) => w.leave none

def DaemonMachine.dropProcess (m : DaemonMachine) : DaemonMachine := { m with process := none }

def daemonStep (m : DaemonMachine) : DaemonEvent → DaemonMachine × List DaemonAction
  | .boot bootId => ({ m with bootId := bootId, process := none }, [])
  | .start reads answers => m.start reads answers
  | .serve task answers => m.serve task.program answers
  | .stop answers =>
    ((m.serve orderlyStop answers).1.dropProcess, (m.serve orderlyStop answers).2)
  | .kill => (m.dropProcess, [])
  | .damage file => ({ m with disk := m.disk.damage file }, [])

/-- The daemon as a machine, from a fresh installation. -/
def linuxDaemon : EventMachine DaemonMachine DaemonEvent (List DaemonAction) :=
  ⟨{}, daemonStep⟩

end GreenCurve
