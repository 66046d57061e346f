import GreenCurve.CallbackTrace
import GreenCurve.Lifecycle

/-! # The driver-recovery flow

Arming a validated controlled recovery, queueing it behind the awake-time proof
and the spam threshold, and the worker's single restore write.  Every side effect
goes through the callbacks of `Ops`, which the service binds to its runtime. -/

namespace GreenCurve.DriverRecovery

inductive ServiceAutoRestoreLockout where
  | none | unstableApply | tdrSpam | automaticApplyFailed | handbackIncomplete
  deriving DecidableEq, Repr

inductive ServiceDriverRecoveryQueueStep where
  | proofRefused | spamRefused | reduced
  deriving DecidableEq, Repr

structure ServiceDriverRecoveryQueueReport where
  step : ServiceDriverRecoveryQueueStep := .proofRefused
  wake : Bool := false
  proofAgeMs : UInt64 := 0
  recentRecoveries : Nat := 0
  deriving DecidableEq, Repr

inductive ServiceDriverRecoveryArmStep where
  | notValidated | queued | refused
  deriving DecidableEq, Repr

inductive ServiceDriverRestoreStep where
  | notPending | updateBlocked | notValidated | proofRefused | intentLost | notReady
  | notAuthorized | writePath
  deriving DecidableEq, Repr

structure ServiceDriverRestoreReport where
  step : ServiceDriverRestoreStep := .notPending
  writeAttempted : Bool := false
  success : Bool := false
  preserveMatureProof : Bool := false
  proofCommitted : Bool := false
  matureProofAgeMs : UInt64 := 0
  result : ServiceLifecycleResult := .none
  deriving DecidableEq, Repr

/-- The callbacks.  Each may read and change the state of the implementation; a
detail buffer a callback writes is part of its answer. -/
structure Ops (σ : Type) where
  proofAllows : σ → (Bool × ServiceAutoRestoreLockout × UInt64) × σ
  disableAutomaticRestore : ServiceAutoRestoreLockout → String → σ → σ
  reduce : ServiceLifecycleEvent → σ → ServiceLifecycleDecision × σ
  recentRecoveries : σ → Nat × σ
  noteQueued : ServiceDriverRecoveryQueueReport → σ → σ
  signalWorker : σ → σ
  controlledRecoveryValidated : σ → Bool × σ
  lockRuntime : σ → σ
  unlockRuntime : σ → σ
  publishProvisionalIntent : σ → σ
  autoRestoreLockedOut : σ → Bool × σ
  dropProvisionalIntent : String → σ → σ
  discardControlledRecovery : σ → σ
  driverRestorePending : σ → Bool × σ
  /-- True: it released the runtime. -/
  updateInstallTakesRuntime : σ → Bool × σ
  hasOwnedIntent : σ → Bool × σ
  gpuReady : σ → (Bool × String) × σ
  prepareWrite : σ → σ
  captureMatureProof : σ → (Bool × UInt64) × σ
  writeTargetCurrent : σ → Bool × σ
  /-- Success, the detail, and whether a write was attempted. -/
  applyFullIntent : σ → (Bool × String × Bool) × σ
  refreshTargetAfterSuccess : σ → σ
  commitProof : Bool → σ → Bool × σ
  publishRecoveredProfile : σ → σ
  writeRestartSnapshot : σ → σ
  retireControlledRecovery : σ → σ
  latchWriteFailure : String → σ → σ
  finishWrite : ServiceLifecycleEvent → σ → ServiceLifecycleResult × σ
  noteFinished : ServiceDriverRestoreReport → String → σ → σ

/-- A call with its arguments and the part of its answer that decides the flow. -/
inductive Call where
  | proofAllows (allowed : Bool)
  | disableAutomaticRestore (reason : ServiceAutoRestoreLockout) (context : String)
  | reduce (event : ServiceLifecycleEvent) (decision : ServiceLifecycleDecision)
  | recentRecoveries (count : Nat)
  | noteQueued (report : ServiceDriverRecoveryQueueReport)
  | signalWorker
  | controlledRecoveryValidated (validated : Bool)
  | lockRuntime
  | unlockRuntime
  | publishProvisionalIntent
  | autoRestoreLockedOut (lockedOut : Bool)
  | dropProvisionalIntent (reason : String)
  | discardControlledRecovery
  | driverRestorePending (pending : Bool)
  | updateInstallTakesRuntime (released : Bool)
  | hasOwnedIntent (owned : Bool)
  | gpuReady (ready : Bool)
  | prepareWrite
  | captureMatureProof (preserve : Bool)
  | writeTargetCurrent (current : Bool)
  | applyFullIntent (success writeAttempted : Bool)
  | refreshTargetAfterSuccess
  | commitProof (preserveMature committed : Bool)
  | publishRecoveredProfile
  | writeRestartSnapshot
  | retireControlledRecovery
  | latchWriteFailure (detail : String)
  | finishWrite (event : ServiceLifecycleEvent) (result : ServiceLifecycleResult)
  | noteFinished (report : ServiceDriverRestoreReport) (detail : String)
  deriving DecidableEq, Repr

/-! ## The flow -/

section Flow
open Flow
variable {σ : Type} (ops : Ops σ)

def reduceLockout : Flow σ Call Unit := do
  let lockout : ServiceLifecycleEvent := { type := .lockout }
  let _ ← call (ops.reduce lockout) (.reduce lockout)

/-- The lockout reason of a refused proof, and the fallback for one that names
none. -/
def proofRefusalReason (lockoutReason : ServiceAutoRestoreLockout) : ServiceAutoRestoreLockout :=
  if lockoutReason ≠ .none then lockoutReason else .unstableApply

/-- `service_driver_recovery_queue`. -/
def driverRecoveryQueue (spamThreshold : Nat) : Flow σ Call ServiceDriverRecoveryQueueReport := do
  let (allowed, lockoutReason, proofAgeMs) ← call ops.proofAllows (.proofAllows ·.1)
  if !allowed then
    let context := "controlled driver recovery did not satisfy the awake-time proof"
    tell (ops.disableAutomaticRestore (proofRefusalReason lockoutReason) context)
      (.disableAutomaticRestore (proofRefusalReason lockoutReason) context)
    reduceLockout ops
    return { step := .proofRefused, proofAgeMs := proofAgeMs }
  else
  let recentRecoveries ← call ops.recentRecoveries .recentRecoveries
  if recentRecoveries ≥ spamThreshold then
    let context := "persistent recovery ledger reached the spam threshold"
    tell (ops.disableAutomaticRestore .tdrSpam context) (.disableAutomaticRestore .tdrSpam context)
    reduceLockout ops
    return { step := .spamRefused, proofAgeMs := proofAgeMs, recentRecoveries := recentRecoveries }
  else
  let event : ServiceLifecycleEvent := { type := .driverRecovery, driverProofReady := true }
  let decision ← call (ops.reduce event) (.reduce event)
  let report : ServiceDriverRecoveryQueueReport :=
    { step := .reduced
      wake := decision.wakeWorker
      proofAgeMs := proofAgeMs
      recentRecoveries := recentRecoveries }
  tell (ops.noteQueued report) (.noteQueued report)
  if report.wake then
    tell ops.signalWorker .signalWorker
    return report
  else
  return report

/-- `service_driver_recovery_arm`: a recovery that cannot be queued leaves no
provisional intent behind. -/
def driverRecoveryArm (spamThreshold : Nat) :
    Flow σ Call (ServiceDriverRecoveryArmStep × ServiceDriverRecoveryQueueReport) := do
  let validated ← call ops.controlledRecoveryValidated .controlledRecoveryValidated
  if !validated then return (.notValidated, {})
  else
  tell ops.lockRuntime .lockRuntime
  tell ops.publishProvisionalIntent .publishProvisionalIntent
  tell ops.unlockRuntime .unlockRuntime
  let queue ← driverRecoveryQueue ops spamThreshold
  if queue.wake then return (.queued, queue)
  else
  let lockedOut ← call ops.autoRestoreLockedOut .autoRestoreLockedOut
  if !lockedOut then
    let context := "validated controlled recovery could not be queued"
    tell (ops.disableAutomaticRestore .automaticApplyFailed context)
      (.disableAutomaticRestore .automaticApplyFailed context)
    tell ops.discardControlledRecovery .discardControlledRecovery
    return (.refused, queue)
  else
  let reason := "recovery refused under an existing lockout"
  tell (ops.dropProvisionalIntent reason) (.dropProvisionalIntent reason)
  tell ops.discardControlledRecovery .discardControlledRecovery
  return (.refused, queue)

def writeStartedEvent : ServiceLifecycleEvent where
  type := .driverWriteStarted
  driverProofReady := true
  controlledRecoveryValidated := true

def writeFinishedEvent (success writeAttempted : Bool) : ServiceLifecycleEvent where
  type := .driverWriteFinished
  success := success
  writeAttempted := writeAttempted

/-- The one write, if its target is still current: success, detail, attempted. -/
def writeFullIntent : Flow σ Call (Bool × String × Bool) := do
  let current ← call ops.writeTargetCurrent .writeTargetCurrent
  if current then
    call ops.applyFullIntent fun answer => .applyFullIntent answer.1 answer.2.2
  else
  return (false, "Selected GPU changed/was removed immediately before driver restore", false)

/-- What the outcome of the write owes, still under the runtime lock: whether the
proof was committed. -/
def settleWrite (preserveMature success writeAttempted : Bool) (detail : String) :
    Flow σ Call Bool := do
  if success then
    tell ops.refreshTargetAfterSuccess .refreshTargetAfterSuccess
    let committed ← call (ops.commitProof preserveMature) (.commitProof preserveMature)
    tell ops.publishRecoveredProfile .publishRecoveredProfile
    tell ops.writeRestartSnapshot .writeRestartSnapshot
    tell ops.retireControlledRecovery .retireControlledRecovery
    return committed
  else if writeAttempted then
    tell (ops.latchWriteFailure detail) (.latchWriteFailure detail)
    return false
  else
  return false

/-- The authorised write and its report to the reducer. -/
def driverRestoreWrite : Flow σ Call ServiceDriverRestoreReport := do
  tell ops.prepareWrite .prepareWrite
  let (preserve, ageMs) ← call ops.captureMatureProof (.captureMatureProof ·.1)
  let (success, detail, writeAttempted) ← writeFullIntent ops
  let committed ← settleWrite ops preserve success writeAttempted detail
  tell ops.unlockRuntime .unlockRuntime
  let finish := writeFinishedEvent success writeAttempted
  let result ← call (ops.finishWrite finish) (.finishWrite finish)
  let report : ServiceDriverRestoreReport :=
    { step := .writePath
      writeAttempted := writeAttempted
      success := success
      preserveMatureProof := preserve
      proofCommitted := committed
      matureProofAgeMs := ageMs
      result := result }
  tell (ops.noteFinished report detail) (.noteFinished report detail)
  if report.success then
    tell ops.signalWorker .signalWorker
    return report
  else
  return report

/-- `service_driver_restore_attempt`. -/
def driverRestoreAttempt : Flow σ Call ServiceDriverRestoreReport := do
  let pending ← call ops.driverRestorePending .driverRestorePending
  if !pending then return {}
  else
  tell ops.lockRuntime .lockRuntime
  let released ← call ops.updateInstallTakesRuntime .updateInstallTakesRuntime
  if released then return { step := .updateBlocked }
  else
  let validated ← call ops.controlledRecoveryValidated .controlledRecoveryValidated
  if !validated then
    tell ops.unlockRuntime .unlockRuntime
    return { step := .notValidated }
  else
  let (allowed, lockoutReason, _) ← call ops.proofAllows (.proofAllows ·.1)
  if !allowed then
    let context :=
      "driver restore authorization changed while waiting for runtime serialization"
    tell (ops.disableAutomaticRestore (proofRefusalReason lockoutReason) context)
      (.disableAutomaticRestore (proofRefusalReason lockoutReason) context)
    reduceLockout ops
    tell ops.unlockRuntime .unlockRuntime
    return { step := .proofRefused }
  else
  let owned ← call ops.hasOwnedIntent .hasOwnedIntent
  if !owned then
    let context := "validated recovery intent lost its owned GPU identity"
    tell (ops.disableAutomaticRestore .automaticApplyFailed context)
      (.disableAutomaticRestore .automaticApplyFailed context)
    tell ops.unlockRuntime .unlockRuntime
    return { step := .intentLost }
  else
  let (ready, _) ← call ops.gpuReady (.gpuReady ·.1)
  if !ready then
    tell ops.unlockRuntime .unlockRuntime
    return { step := .notReady }
  else
  let decision ← call (ops.reduce writeStartedEvent) (.reduce writeStartedEvent)
  if !decision.authorizeDriverWrite then
    tell ops.unlockRuntime .unlockRuntime
    return { step := .notAuthorized }
  else
  driverRestoreWrite ops

end Flow

end GreenCurve.DriverRecovery
