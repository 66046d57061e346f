import GreenCurve.GpuDriver

/-! # Apply, reset and rollback of the Linux backend

A transaction runs its phases in one fixed order and stops at the first that
fails; a failed phase may have written, so the rollback restores every domain an
attempted phase belongs to, from the snapshot captured before the first. -/

namespace GreenCurve.Backend

/-! ## The hardware snapshot -/

/-- What was captured; a domain whose read failed has no value.  A fan's value is
the duty the driver holds, or `fanDriverAuto`. -/
structure LinuxHardwareSnapshot where
  gpuOffsetMHz : Option Int
  /-- In display MHz. -/
  memOffsetMHz : Option Int
  xbar : Option (Int × Int)
  sysClkOffsetKhz : Option Int
  videoClkOffsetKhz : Option Int
  powerLimitmW : Option Int
  curve : Option ((VfPoint → Int) × (VfPoint → Bool))
  fans : Option (List Int)
  availableMutationDomains : ServiceMutationDomain → Bool

section Snapshot
variable (gpu : LinuxGpuState) (hw : Registers) (reads : SnapshotReads)

/-- The value of one fan, or none if its policy or its duty is unknown. -/
def captureFan (index : Nat) : Option Int :=
  if !reads.fanPolicy index then none
  else if hw (.fan index) = fanDriverAuto then
    if reads.fanIntent index || (reads.fanMeasured index).isSome then some fanDriverAuto else none
  else if reads.fanIntent index then some (hw (.fan index))
  else (reads.fanMeasured index).map fun percent => (percent : Int)

def captureFans : Option (List Int) :=
  if !reads.fanCount || decide (gpu.fanCount = 0) then none
  else (List.range gpu.fanCount).mapM (captureFan hw reads)

/-- `linux_vf_snapshot_authoritative` with a populated point. -/
def curveAuthoritative : Bool :=
  gpu.writeSupported && gpu.vfSnapshotFresh && decide (∃ ci, Populated gpu.curve ci)

def captureValues : LinuxHardwareSnapshot where
  gpuOffsetMHz := if reads.gpuOffset then some (hw .gpuOffset) else none
  memOffsetMHz := if reads.memOffset then some (memDisplayMHz (hw .memOffset)) else none
  xbar := if reads.xbar then some (hw .xbar, hw .msvdd) else none
  sysClkOffsetKhz := if reads.sysClk then some (hw .sysClk) else none
  videoClkOffsetKhz := if reads.videoClk then some (hw .videoClk) else none
  powerLimitmW :=
    if reads.powerCurrent && decide (0 < reads.powerDefaultmW) && decide (0 < hw .power) then
      some (hw .power)
    else none
  curve :=
    if curveAuthoritative gpu then
      some (gpu.freqOffsets, fun ci => decide (Populated gpu.curve ci))
    else none
  fans := captureFans gpu hw reads
  availableMutationDomains := fun _ => false

/-- The domains that can be captured, written and rolled back. -/
def availableDomains (values : LinuxHardwareSnapshot) : ServiceMutationDomain → Bool
  | .gpuOffset => values.gpuOffsetMHz.isSome && gpu.gpuOffsetWritable
  | .memOffset => values.memOffsetMHz.isSome && gpu.memOffsetWritable
  | .power => values.powerLimitmW.isSome && gpu.setPowerLimit
  | .vfCurve => values.curve.isSome
  | .lock => gpu.setGpuLockedClocks && gpu.resetGpuLockedClocks
  | .fan => values.fans.isSome && gpu.setFanSpeed && gpu.fanAutoWritable
  | .xbar => values.xbar.isSome && gpu.xbarWritable
  | .sysClk => values.sysClkOffsetKhz.isSome && gpu.xbarWritable
  | .videoClk => values.videoClkOffsetKhz.isSome && gpu.xbarWritable
  | .resetBaseline =>
    values.gpuOffsetMHz.isSome && values.memOffsetMHz.isSome && gpu.gpuOffsetWritable &&
      gpu.memOffsetWritable && gpu.resetGpuLockedClocks

def captureSnapshot : LinuxHardwareSnapshot :=
  let values := captureValues gpu hw reads
  { values with
    availableMutationDomains := fun domain =>
      gpu.writeIdentityResolved && availableDomains gpu values domain }

end Snapshot

def LinuxHardwareSnapshot.valid (snapshot : LinuxHardwareSnapshot) : Bool :=
  snapshot.gpuOffsetMHz.isSome || snapshot.memOffsetMHz.isSome || snapshot.powerLimitmW.isSome ||
    snapshot.curve.isSome || snapshot.fans.isSome || snapshot.xbar.isSome ||
    snapshot.sysClkOffsetKhz.isSome || snapshot.videoClkOffsetKhz.isSome

section Programs
open CrashM

/-- `linux_backend_capture_snapshot`: the snapshot, if anything could be captured. -/
def linuxBackendCaptureSnapshot : BackendM (Option LinuxHardwareSnapshot) := do
  let s ← get
  if !s.gpu.nvmlReady then return none
  else
  let answer ← ask
  let snapshot := captureSnapshot s.gpu s.hw answer.reads
  modify (·.setGpu { s.gpu with powerLimitDefaultmW := answer.reads.powerDefaultmW })
  return if snapshot.valid then some snapshot else none

/-- What every mutation begins with. -/
def beginMutation (ceiling : CeilingState) : BackendM (Option LinuxHardwareSnapshot) := do
  modify (·.setCeiling ceiling)
  linuxBackendRefresh
  linuxBackendCaptureSnapshot

/-! ## Preflight -/

/-- `linux_clock_control_proven_absent`. -/
def linuxClockControlProvenAbsent (s : BackendState) : Bool :=
  applyClockControlProvenAbsent s.gpu.familyPascal
    (s.ceiling.armed || decide (s.gpu.retainedTransitionCeilingMHz ≠ 0))
    s.ceiling.outgoingHadHardPin

/-- `linux_power_request_is_inert`: the board default on a board that exposes no
power control. -/
def linuxPowerRequestIsInert (gpu : LinuxGpuState) (d : DesiredSettings)
    (snapshot : LinuxHardwareSnapshot) : Bool :=
  d.hasPowerLimit &&
    !(snapshot.powerLimitmW.isSome && decide (0 < gpu.powerLimitDefaultmW) && gpu.setPowerLimit) &&
    decide (d.powerLimitPct = 100)

/-- `linux_backend_curve_plausible`. -/
def linuxBackendCurvePlausible (gpu : LinuxGpuState) : Bool :=
  gpu.vfSnapshotFresh && structurallyValid gpu.curve gpu.freqOffsets gpu.vfMask

def allMutationDomains : List ServiceMutationDomain :=
  [.resetBaseline, .gpuOffset, .memOffset, .power, .vfCurve, .lock, .fan, .xbar, .sysClk, .videoClk]

def hardLock (d : DesiredSettings) : Bool :=
  d.hasLock && decide (d.lockMode = .hard) && decide (d.lockMHz > 0)

/-- `desired_has_curve_write`. -/
def desiredHasCurveWrite (d : DesiredSettings) : Bool := serviceDesiredMutationDomains d .vfCurve

/-- `linux_backend_preflight`. -/
def linuxBackendPreflight (s : BackendState) (d : DesiredSettings)
    (snapshot : LinuxHardwareSnapshot) : Bool :=
  let gpu := s.gpu
  let powerInert := linuxPowerRequestIsInert gpu d snapshot
  let unavailable := fun domain =>
    serviceDesiredMutationDomains d domain && !snapshot.availableMutationDomains domain
  if !gpu.nvmlReady || !gpu.writeIdentityResolved then false
  else if allMutationDomains.any fun domain =>
      unavailable domain && !(powerInert && decide (domain = .power)) then false
  else if d.resetOcBeforeApply && !gpu.resetGpuLockedClocks && !linuxClockControlProvenAbsent s then
    false
  else if ((d.hasGpuOffset && !gpuOffsetUsesCurve d) || d.resetOcBeforeApply) &&
      (!snapshot.gpuOffsetMHz.isSome || !gpu.gpuOffsetWritable) then false
  else if (d.hasMemOffset || d.resetOcBeforeApply) &&
      (!snapshot.memOffsetMHz.isSome || !gpu.memOffsetWritable) then false
  else if d.hasPowerLimit && !powerInert &&
      (!snapshot.powerLimitmW.isSome || !gpu.setPowerLimit) then false
  else if desiredHasCurveWrite d &&
      (!snapshot.curve.isSome || !gpu.writeSupported || !linuxBackendCurvePlausible gpu) then false
  else if hardLock d && !gpu.setGpuLockedClocks then false
  else if d.hasFan && !snapshot.fans.isSome then false
  else if (d.hasXbarOffsetKhz || d.hasXbarMsvddOffsetUv) && !snapshot.xbar.isSome then false
  else if d.hasSysClkOffsetKhz && !snapshot.sysClkOffsetKhz.isSome then false
  else if d.hasVideoClkOffsetKhz && !snapshot.videoClkOffsetKhz.isSome then false
  else true

/-! ## The transition ceiling -/

/-- The hard pin of an intent. -/
def hardPinMHz : Option DesiredSettings → Nat
  | some committed => if hardLock committed then committed.lockMHz else 0
  | none => 0

/-- The highest live frequency of a populated point, in MHz. -/
def peakMHz (curve : VFCurve) : Nat :=
  (List.finRange VF_NUM_POINTS).foldl (fun peak ci => max peak ((curve ci).freqKHz / 1000)) 0

/-- `linux_outgoing_ceiling_mhz`. -/
def linuxOutgoingCeilingMHz (gpu : LinuxGpuState) (committed : Option DesiredSettings) : Nat :=
  if gpu.retainedTransitionCeilingMHz > 0 then gpu.retainedTransitionCeilingMHz
  else if hardPinMHz committed > 0 then hardPinMHz committed
  else peakMHz gpu.curve

/-- `linux_outgoing_state_holds_clocks_down`. -/
def linuxOutgoingStateHoldsClocksDown (gpu : LinuxGpuState) (committed : Option DesiredSettings) :
    Bool :=
  decide (gpu.retainedTransitionCeilingMHz > 0) ||
    committed.any (fun c => c.hasLock && decide (c.lockMode ≠ .none)) ||
    committed.any (fun c => c.hasGpuOffset && decide (c.gpuOffsetMHz < 0)) ||
    decide (∃ ci, Populated gpu.curve ci ∧ gpu.freqOffsets ci < 0)

/-- `service_request_replaces_lock_domain`. -/
def serviceRequestReplacesLockDomain (d : DesiredSettings) : Bool :=
  d.resetOcBeforeApply || d.hasGpuOffset || d.hasLock || serviceDesiredHasCurvePoint d

/-- `linux_apply_clock_ceiling_plan`. -/
def linuxApplyClockCeilingPlan (gpu : LinuxGpuState) (d : DesiredSettings)
    (committed : Option DesiredSettings) : ApplyClockCeilingPlan :=
  applyClockCeilingPlan (serviceRequestReplacesLockDomain d) d.hasLock d.lockMode d.lockMHz
    (gpu.setGpuLockedClocks && gpu.resetGpuLockedClocks) d.resetOcBeforeApply
    (linuxOutgoingStateHoldsClocksDown gpu committed) (linuxOutgoingCeilingMHz gpu committed)

/-- A clamp the driver accepted at `boundMHz`. -/
def noteClamp (boundMHz : Nat) : BackendM Unit := modify fun s =>
  (s.setCeiling { s.ceiling with armed := true }).setGpu
    { s.gpu with retainedTransitionCeilingMHz := boundMHz }

def noteArmResult (result : ApplyClockCeilingArmResult) : BackendM Unit :=
  modify fun s => (s.setCeiling { s.ceiling with armResult := result }).log (.armSettled result)

/-- A clamp that could not be armed refuses the transition where it must. -/
def settleUnarmed (plan : ApplyClockCeilingPlan) (result : ApplyClockCeilingArmResult) :
    BackendM Bool := do
  noteArmResult result
  return !applyClockCeilingTransitionMustRefuse plan.required result plan.reason

def settleArmed (plan : ApplyClockCeilingPlan) : BackendM Bool := do
  noteClamp plan.ceilingMHz
  noteArmResult .installed
  return true

/-- The result of clamp forms that were all refused. -/
def refusedResult (unsupported : Bool) : ApplyClockCeilingArmResult :=
  if unsupported then .unsupported else .refused

/-- `linux_apply_arm_transition_ceiling`. -/
def linuxApplyArmTransitionCeiling (d : DesiredSettings) (committed : Option DesiredSettings) :
    BackendM Bool := do
  let s ← get
  let plan := linuxApplyClockCeilingPlan s.gpu d committed
  modify fun s => s.setCeiling { s.ceiling with plan := plan }
  if !plan.arm then
    if !plan.required then return true
    else settleUnarmed plan (if plan.clampControlAbsent then .unsupported else .unavailable)
  else
  modify fun s => s.setCeiling { s.ceiling with writeAttempted := true }
  let openCode ← nvmlSetGpuLockedClocks 0 plan.ceilingMHz
  if openCode = .success then settleArmed plan
  else if !plan.symmetricFallbackAllowed then
    settleUnarmed plan (refusedResult (openCode = .notSupported))
  else
  let symmetricCode ← nvmlSetGpuLockedClocks plan.ceilingMHz plan.ceilingMHz
  if symmetricCode = .success then settleArmed plan
  else
    settleUnarmed plan (refusedResult (openCode = .notSupported ∧ symmetricCode = .notSupported))

/-- `linux_apply_reset_baseline_locked_clocks`: a ceiling that is installed stays. -/
def linuxApplyResetBaselineLockedClocks : BackendM Bool := do
  let s ← get
  if s.ceiling.armed then return true
  else if linuxClockControlProvenAbsent s then return true
  else if !s.gpu.resetGpuLockedClocks then return false
  else nvmlResetGpuLockedClocks

/-- The lock is final: nothing is retained. -/
def handOver (ok : Bool) : BackendM Bool := do
  modify fun s =>
    if ok then s.setGpu { s.gpu with retainedTransitionCeilingMHz := 0 } else s
  return ok

/-- `linux_apply_write_final_lock`. -/
def linuxApplyWriteFinalLock (d : DesiredSettings) : BackendM Bool := do
  let s ← get
  if d.lockMode = .hard ∧ d.lockMHz > 0 then
    if !s.gpu.setGpuLockedClocks then handOver false
    else
    let code ← nvmlSetGpuLockedClocks d.lockMHz d.lockMHz
    handOver (code = .success)
  else if linuxClockControlProvenAbsent s then handOver true
  else if !s.gpu.resetGpuLockedClocks then handOver false
  else
  let ok ← nvmlResetGpuLockedClocks
  handOver ok

/-! ## The transaction -/

structure LinuxTransactionResult where
  success : Bool := false
  anyWrite : Bool := false
  rollbackAttempted : Bool := false
  rollbackSucceeded : Bool := false
  attemptedPhases : List LinuxMutationPhase := []
  completedPhases : List LinuxMutationPhase := []
  failedPhases : List LinuxMutationPhase := []
  deriving DecidableEq, Repr

def phaseOrder : List LinuxMutationPhase :=
  [.lockCeiling, .resetBaseline, .gpuOffset, .memOffset, .power, .xbar, .sysClk, .videoClk,
    .curve, .lock, .fan]

/-- The loop of `linux_execute_transaction` over the requested phases. -/
def runPhases (step : LinuxMutationPhase → BackendM Bool)
    (rollback : List LinuxMutationPhase → BackendM Bool) :
    List LinuxMutationPhase → LinuxTransactionResult → BackendM LinuxTransactionResult
  | [], result => pure { result with success := true }
  | phase :: rest, result => do
    logEvent (.began phase)
    let attempted := result.attemptedPhases ++ [phase]
    let ok ← step phase
    if !ok then
      logEvent .rollingBack
      let rolledBack ← rollback attempted
      return { result with
        anyWrite := true
        attemptedPhases := attempted
        failedPhases := [phase]
        rollbackAttempted := true
        rollbackSucceeded := rolledBack }
    else
    runPhases step rollback rest
      { result with
        anyWrite := true
        attemptedPhases := attempted
        completedPhases := result.completedPhases ++ [phase] }

/-- `linux_execute_transaction`. -/
def linuxExecuteTransaction (requested : LinuxMutationPhase → Bool)
    (step : LinuxMutationPhase → BackendM Bool)
    (rollback : List LinuxMutationPhase → BackendM Bool) : BackendM LinuxTransactionResult :=
  runPhases step rollback (phaseOrder.filter requested) {}

/-! ## Rollback -/

def clockPhases : List LinuxMutationPhase :=
  [.resetBaseline, .gpuOffset, .curve, .lock, .lockCeiling]

def touchesClocks (phases : List LinuxMutationPhase) : Bool := clockPhases.any (phases.contains ·)

/-- The bound a rollback may restore under. -/
def rollbackBound (ceiling : CeilingState) : Nat :=
  lowerBound ceiling.outgoingCeilingMHz ceiling.plan.ceilingMHz

/-- A restricting call, where the conditions for it hold. -/
def tryClamp (permitted : Bool) (minMHz maxMHz : Nat) : BackendM Bool := do
  if permitted then
    let code ← nvmlSetGpuLockedClocks minMHz maxMHz
    return code = .success
  else return false

/-- Whether the rollback may restore: the clocks are clamped, or there is no clock
control to clamp them with. -/
def protectRestore : BackendM Bool := do
  let s ← get
  let noClockControl := linuxClockControlProvenAbsent s
  let bound := rollbackBound s.ceiling
  let openOk ← tryClamp (!noClockControl && decide (bound > 0) && s.gpu.setGpuLockedClocks) 0 bound
  let symmetricOk ← tryClamp (!openOk && decide (bound > 0) && s.ceiling.outgoingHadHardPin &&
    s.gpu.setGpuLockedClocks) bound bound
  if openOk || symmetricOk then
    noteClamp bound
    return true
  else return noClockControl

/-- A step that restores a captured value. -/
def restoring {α : Type} (touched : Bool) (captured : Option α) (step : α → BackendM Bool) :
    BackendM Bool :=
  match captured with
  | some value => optional touched (step value)
  | none => pure true

/-- The captured power limit, where the board takes one. -/
def restorePowerLimit (limitmW : Int) : BackendM Bool := do
  let s ← get
  optional s.gpu.setPowerLimit (setPowerLimit limitmW)

/-- The fans, one by one: a captured driver policy is given back as such. -/
def restoreFans (fans : List Int) : BackendM Bool := do
  let s ← get
  everyOf (fans.zipIdx.map fun (value, index) =>
    if value = fanDriverAuto then
      if s.gpu.fanAutoWritable then drive .fan (only (.fan index) fanDriverAuto) else pure false
    else if s.gpu.setFanSpeed then drive .fan (only (.fan index) value) else pure false)

/-- The restoring writes of the attempted phases. -/
def restoreSteps (snapshot : LinuxHardwareSnapshot) (phases : List LinuxMutationPhase) :
    List (BackendM Bool) :=
  let baseline := phases.contains .resetBaseline
  let baselineOwns := fun domain => baseline && snapshot.availableMutationDomains domain
  [ restoring (baseline || phases.contains .gpuOffset) snapshot.gpuOffsetMHz setGraphicsOffset,
    restoring (baseline || phases.contains .memOffset) snapshot.memOffsetMHz fun displayMHz =>
      setMemoryOffset (memEffectiveMHz displayMHz),
    restoring (baselineOwns .xbar || phases.contains .xbar) snapshot.xbar fun xbar =>
      linuxXbarWriteOwned xbar.1 xbar.2 true true,
    restoring (baselineOwns .sysClk || phases.contains .sysClk) snapshot.sysClkOffsetKhz
      writeSysClk,
    restoring (baselineOwns .videoClk || phases.contains .videoClk) snapshot.videoClkOffsetKhz
      writeVideoClk,
    restoring (phases.contains .power) snapshot.powerLimitmW restorePowerLimit,
    restoring (phases.contains .curve) snapshot.curve fun curve =>
      applyCurveOffsetsVerified curve.1 curve.2,
    restoring (phases.contains .fan) snapshot.fans restoreFans ]

/-- `linux_backend_restore_snapshot`: the restriction of a clock rollback is kept,
so such a rollback never reports success while the GPU has clock control. -/
def linuxBackendRestoreSnapshot (snapshot : LinuxHardwareSnapshot)
    (phases : List LinuxMutationPhase) : BackendM Bool := do
  let s ← get
  let keepsCap := touchesClocks phases && !linuxClockControlProvenAbsent s
  let permitted ← optional (touchesClocks phases) protectRestore
  if !permitted then return false
  else
  let ok ← everyOf (restoreSteps snapshot phases)
  linuxBackendRefresh
  return ok && !keepsCap

/-! ## Apply -/

structure LinuxApplyTransactionContext where
  desired : DesiredSettings
  previousIntent : Option DesiredSettings
  committedIntent : Option DesiredSettings
  composedGpuOffset : Bool
  rebuildCurveTargets : Bool
  planned : CurveTargets
  fanStart : FanRuntimeStart

/-- `linux_apply_build_curve`: the replacement-aware build when the request names
the VF domain and an intent is committed. -/
def linuxApplyBuildCurve (gpu : LinuxGpuState) (d : DesiredSettings)
    (previousIntent committedIntent : Option DesiredSettings) : CurveTargets :=
  let minimum := gpu.curveOffsetRange.minKHz
  match committedIntent with
  | some committed =>
    if serviceDesiredMutationDomains d .vfCurve then
      linuxBuildCurveTransitionTargets gpu.curve gpu.freqOffsets previousIntent committed minimum
    else linuxBuildCurveTargets gpu.curve gpu.freqOffsets d minimum
  | none => linuxBuildCurveTargets gpu.curve gpu.freqOffsets d minimum

/-- `linux_apply_rebuild_curve_targets`: none refuses the write. -/
def linuxApplyRebuildCurveTargets (context : LinuxApplyTransactionContext) :
    BackendM (Option CurveTargets) := do
  if !context.rebuildCurveTargets then return some context.planned
  else
  let ok ← nvapiReadVfSnapshot
  if !ok then return none
  else
  let s ← get
  let rebuilt :=
    linuxApplyBuildCurve s.gpu context.desired context.previousIntent context.committedIntent
  return if linuxCurveRebuildKeepsShape context.planned.result rebuilt.result then some rebuilt
    else none

def writeCurve (context : LinuxApplyTransactionContext) : BackendM Bool := do
  let targets ← linuxApplyRebuildCurveTargets context
  match targets with
  | none => return false
  | some targets => applyCurveOffsetsVerified targets.targetOffsets targets.result.pointMask

/-- The locked clocks may be released, or there is no control to release. -/
def canReleaseLockedClocks : BackendM Bool := do
  let s ← get
  return s.gpu.resetGpuLockedClocks || linuxClockControlProvenAbsent s

/-- The reset baseline of an apply: the scalars, the locked clocks, and the clock
domains the request owns. -/
def resetBaseline (d : DesiredSettings) : BackendM Bool := allOf
  [ setGraphicsOffset 0,
    setMemoryOffset 0,
    canReleaseLockedClocks,
    linuxApplyResetBaselineLockedClocks,
    optional (d.hasXbarOffsetKhz || d.hasXbarMsvddOffsetUv)
      (linuxXbarWriteOwned 0 0 d.hasXbarOffsetKhz d.hasXbarMsvddOffsetUv),
    optional d.hasSysClkOffsetKhz (writeSysClk 0),
    optional d.hasVideoClkOffsetKhz (writeVideoClk 0) ]

def writeFan (d : DesiredSettings) (fanStart : FanRuntimeStart) : BackendM Bool :=
  if d.fanMode = .curve ∧ fanStart.useDriverAuto = true then setFanAuto
  else if d.fanAuto = true ∨ d.fanMode = .auto then setFanAuto
  else setFanManual fanStart.targetPercent

/-- `linux_apply_transaction_step`. -/
def linuxApplyTransactionStep (context : LinuxApplyTransactionContext) :
    LinuxMutationPhase → BackendM Bool
  | .lockCeiling => linuxApplyArmTransitionCeiling context.desired context.previousIntent
  | .resetBaseline => resetBaseline context.desired
  | .gpuOffset =>
    setGraphicsOffset (if context.composedGpuOffset then 0 else context.desired.gpuOffsetMHz)
  | .memOffset => setMemoryOffset (memEffectiveMHz context.desired.memOffsetMHz)
  | .power => setPowerLimitPct context.desired.powerLimitPct
  | .curve => writeCurve context
  | .lock => linuxApplyWriteFinalLock (context.committedIntent.getD context.desired)
  | .fan => writeFan context.desired context.fanStart
  | .xbar =>
    linuxXbarWriteOwned context.desired.xbarOffsetKhz context.desired.xbarMsvddOffsetUv
      context.desired.hasXbarOffsetKhz context.desired.hasXbarMsvddOffsetUv
  | .sysClk => writeSysClk context.desired.sysClkOffsetKhz
  | .videoClk => writeVideoClk context.desired.videoClkOffsetKhz

/-- The fan target of the apply; none fails it before any phase. -/
def initialFanTarget (d : DesiredSettings) : BackendM (Option FanRuntimeStart) := do
  if d.hasFan && decide (d.fanMode = .curve) then
    let normalized := d.fanCurve.normalize
    let s ← get
    if !normalized.validate || !s.gpu.getTemperature then return none
    else
    let answer ← ask
    return if answer.accepted then some (fanRuntimeFirstAction normalized answer.temperatureC)
      else none
  else return some { useDriverAuto := false, targetPercent := d.fanPercent }

/-- Whether a stale scalar has to be cleared under a composed offset. -/
def clearsStaleGpuOffset (d : DesiredSettings) (snapshot : LinuxHardwareSnapshot)
    (planned : CurveTargets) : Bool :=
  linuxComposedOffsetMustClearScalar planned.result.composedGpuOffset snapshot.gpuOffsetMHz
    d.resetOcBeforeApply

/-- The ceiling the transaction leaves. -/
def noteOutgoing (previousIntent : Option DesiredSettings) : BackendM Unit := modify fun s =>
  s.setCeiling
    { s.ceiling with outgoingCeilingMHz := linuxOutgoingCeilingMHz s.gpu previousIntent }

/-- The phases an apply requests. -/
def requestedApplyPhases (gpu : LinuxGpuState) (d : DesiredSettings)
    (snapshot : LinuxHardwareSnapshot) (planned : CurveTargets) (plan : ApplyClockCeilingPlan) :
    LinuxMutationPhase → Bool
  | .lockCeiling => plan.arm || plan.required
  | .resetBaseline => d.resetOcBeforeApply
  | .gpuOffset =>
    (d.hasGpuOffset && !planned.result.composedGpuOffset) || clearsStaleGpuOffset d snapshot planned
  | .memOffset => d.hasMemOffset
  | .power => d.hasPowerLimit && !linuxPowerRequestIsInert gpu d snapshot
  | .curve => decide (planned.result.pointCount > 0)
  | .lock => d.hasLock || plan.arm || plan.required
  | .fan => d.hasFan
  | .xbar => d.hasXbarOffsetKhz || d.hasXbarMsvddOffsetUv
  | .sysClk => d.hasSysClkOffsetKhz
  | .videoClk => d.hasVideoClkOffsetKhz

/-- The ceiling state a transaction starts with, before the outgoing ceiling is
known. -/
def enteringCeiling (previousIntent : Option DesiredSettings) : CeilingState where
  outgoingHadHardPin := decide (hardPinMHz previousIntent > 0)

/-- `linux_backend_apply` up to its preflight: the snapshot of the transaction, or
none where it is refused. -/
def enterApply (d : DesiredSettings) (previousIntent : Option DesiredSettings) :
    BackendM (Option LinuxHardwareSnapshot) := do
  let snapshot ← beginMutation (enteringCeiling previousIntent)
  match snapshot with
  | none => return none
  | some snapshot =>
    let s ← get
    return if linuxBackendPreflight s d snapshot then some snapshot else none

/-- A transaction that is ready to run. -/
structure ApplyStart where
  snapshot : LinuxHardwareSnapshot
  context : LinuxApplyTransactionContext
  requested : LinuxMutationPhase → Bool

/-- The transaction over the planned curve. -/
def applyStart (gpu : LinuxGpuState) (d : DesiredSettings)
    (previousIntent committedIntent : Option DesiredSettings) (snapshot : LinuxHardwareSnapshot)
    (planned : CurveTargets) (fanStart : FanRuntimeStart) : ApplyStart where
  snapshot := snapshot
  context :=
    { desired := d
      previousIntent := previousIntent
      committedIntent := committedIntent
      composedGpuOffset := planned.result.composedGpuOffset
      rebuildCurveTargets := decide (planned.result.pointCount > 0) &&
        linuxCurveTargetsRebuildAfterScalar snapshot.gpuOffsetMHz d.resetOcBeforeApply
          (clearsStaleGpuOffset d snapshot planned)
      planned := planned
      fanStart := fanStart }
  requested := requestedApplyPhases gpu d snapshot planned
    (linuxApplyClockCeilingPlan gpu d previousIntent)

/-- `linux_backend_apply` between its preflight and its first phase. -/
def prepareApply (d : DesiredSettings) (previousIntent committedIntent : Option DesiredSettings)
    (snapshot : LinuxHardwareSnapshot) : BackendM (Option ApplyStart) := do
  noteOutgoing previousIntent
  let s ← get
  let planned := linuxApplyBuildCurve s.gpu d previousIntent committedIntent
  if clearsStaleGpuOffset d snapshot planned && !s.gpu.gpuOffsetWritable then return none
  else
  let fanStart ← initialFanTarget d
  match fanStart with
  | none => return none
  | some fanStart =>
    logEvent (.planned (linuxApplyClockCeilingPlan s.gpu d previousIntent)
      (linuxOutgoingCeilingMHz s.gpu previousIntent))
    return some (applyStart s.gpu d previousIntent committedIntent snapshot planned fanStart)

/-- `linux_backend_apply` up to its first phase. -/
def startApply (d : DesiredSettings) (previousIntent committedIntent : Option DesiredSettings) :
    BackendM (Option ApplyStart) := do
  let entered ← enterApply d previousIntent
  match entered with
  | none => return none
  | some snapshot => prepareApply d previousIntent committedIntent snapshot

def applyTransaction (start : ApplyStart) : BackendM LinuxTransactionResult :=
  linuxExecuteTransaction start.requested (linuxApplyTransactionStep start.context)
    (linuxBackendRestoreSnapshot start.snapshot)

/-- `linux_backend_apply` from its first phase on. -/
def finishApply : Option ApplyStart → BackendM LinuxTransactionResult
  | none => return {}
  | some start => do
    let result ← applyTransaction start
    linuxBackendRefresh
    return result

/-- `linux_backend_apply`. -/
def linuxBackendApply (d : DesiredSettings)
    (previousIntent committedIntent : Option DesiredSettings) :
    BackendM LinuxTransactionResult := do
  let started ← startApply d previousIntent committedIntent
  finishApply started

/-! ## Reset -/

/-- `linux_reset_transaction_step`. -/
def linuxResetTransactionStep : LinuxMutationPhase → BackendM Bool
  | .lock => do
    let s ← get
    if linuxClockControlProvenAbsent s then handOver true
    else if !s.gpu.resetGpuLockedClocks then handOver false
    else
    let ok ← nvmlResetGpuLockedClocks
    handOver ok
  | .gpuOffset => setGraphicsOffset 0
  | .memOffset => setMemoryOffset 0
  | .power => do
    let s ← get
    if s.gpu.powerLimitDefaultmW = 0 then return false
    else setPowerLimit s.gpu.powerLimitDefaultmW
  | .curve => do
    let s ← get
    applyCurveOffsetsVerified (fun _ => 0) fun ci => decide (Populated s.gpu.curve ci)
  | .fan => setFanAuto
  | .xbar => linuxXbarWriteOwned 0 0 true true
  | .sysClk => writeSysClk 0
  | .videoClk => writeVideoClk 0
  | _ => pure false

/-- `linux_reset_phases_for_available_domains`. -/
def linuxResetPhases (available : ServiceMutationDomain → Bool) : LinuxMutationPhase → Bool
  | .lock | .gpuOffset | .memOffset | .curve | .fan => true
  | .power => available .power
  | .xbar => available .xbar
  | .sysClk => available .sysClk
  | .videoClk => available .videoClk
  | _ => false

/-- `linux_reset_preflight_domains_supported`. -/
def linuxResetPreflightDomainsSupported (available : ServiceMutationDomain → Bool)
    (powerLimitDefaultmW : Nat) : Bool :=
  [ServiceMutationDomain.resetBaseline, .gpuOffset, .memOffset, .vfCurve, .lock, .fan].all
      available &&
    !(available .power && decide (powerLimitDefaultmW = 0))

/-- `linux_backend_reset` up to its preflight. -/
def enterReset : BackendM (Option LinuxHardwareSnapshot) := do
  let snapshot ← beginMutation {}
  match snapshot with
  | none => return none
  | some snapshot =>
    let s ← get
    return if s.gpu.writeIdentityResolved && s.gpu.writeSupported &&
        linuxResetPreflightDomainsSupported snapshot.availableMutationDomains
          s.gpu.powerLimitDefaultmW then some snapshot
      else none

/-- The part of `linux_backend_reset` after its preflight. -/
def resetTransaction (snapshot : LinuxHardwareSnapshot) : BackendM LinuxTransactionResult :=
  linuxExecuteTransaction (linuxResetPhases snapshot.availableMutationDomains)
    linuxResetTransactionStep (linuxBackendRestoreSnapshot snapshot)

/-- `linux_backend_reset`. -/
def linuxBackendReset : BackendM LinuxTransactionResult := do
  let entered ← enterReset
  match entered with
  | none => return {}
  | some snapshot =>
    let result ← resetTransaction snapshot
    linuxBackendRefresh
    return result

end Programs

end GreenCurve.Backend
