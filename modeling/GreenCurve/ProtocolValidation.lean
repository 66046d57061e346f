import GreenCurve.ProtocolRecords
import Mathlib.Tactic.MkIffOfInductiveProp

/-! # Validation of the service protocol

The checks at the boundary, for a request, for the published state and for a response.  Each
of the three looks at the record as it came, refuses it or brings it into canonical form, and
then, for a state, looks again. -/

namespace GreenCurve.Protocol

/-! ## Wire fields -/

/-- `service_wire_string_is_terminated`. -/
def serviceWireStringIsTerminated {n : Nat} (value : Chars n) : Bool :=
  (List.ofFn value).any (· == 0)

/-- The bytes up to the end of a text, none of them a control character but the tabulator. -/
def logSafeBytes : List UInt8 → Bool
  | [] => false
  | c :: rest =>
    if c = 0 then true
    else if c < 0x20 ∧ c ≠ 9 then false
    else if c = 0x7F then false
    else logSafeBytes rest

/-- `service_wire_string_is_log_safe`. -/
def serviceWireStringIsLogSafe {n : Nat} (value : Chars n) : Bool := logSafeBytes (List.ofFn value)

/-- A byte that is a flag. -/
def isFlag (flag : UInt8) : Bool := decide (flag ≤ 1)

/-- `fan_curve_wire_flags_valid`. -/
def fanCurveWireFlagsValid (config : RawFanCurve) : Bool :=
  isFlag config.zeroRpmEnabled && config.points.all (isFlag ·.enabled) &&
    decide (config.zeroRpmReserved = (0, 0))

/-- `service_desired_bool_fields_valid`. -/
def serviceDesiredBoolFieldsValid (desired : RawSettings) : Bool :=
  (List.finRange VF_NUM_POINTS).all (fun i =>
      isFlag (desired.hasCurvePoint i) && isFlag (desired.curvePointFromGpuOffset i)) &&
    [desired.hasLock, desired.lockTracksAnchor, desired.hasGpuOffset, desired.hasMemOffset,
      desired.hasPowerLimit, desired.hasFan, desired.fanAuto, desired.resetOcBeforeApply,
      desired.hasXbarOffsetKhz, desired.hasXbarMsvddOffsetUv, desired.hasSysClkOffsetKhz,
      desired.hasVideoClkOffsetKhz].all isFlag &&
    fanCurveWireFlagsValid desired.fanCurve

/-- `service_gpu_bool_fields_valid`. -/
def serviceGpuBoolFieldsValid (gpu : GpuAdapterInfo) : Bool :=
  [gpu.valid, gpu.pciInfoValid, gpu.vfReadSupported, gpu.vfWriteSupported, gpu.vfBestGuess].all
    isFlag

/-- `validate_gpu_adapter_info_for_ipc`. -/
def validateGpuAdapterInfoForIpc (g : GpuAdapterInfo) : GpuAdapterInfo :=
  { g with
    valid := canonicalizeBool8 g.valid
    pciInfoValid := canonicalizeBool8 g.pciInfoValid
    vfReadSupported := canonicalizeBool8 g.vfReadSupported
    vfWriteSupported := canonicalizeBool8 g.vfWriteSupported
    vfBestGuess := canonicalizeBool8 g.vfBestGuess }

/-! ## Settings domains -/

/-- `service_desired_has_curve_point`. -/
def serviceDesiredHasCurvePoint (desired : RawSettings) : Bool :=
  (List.finRange VF_NUM_POINTS).any fun i => desired.hasCurvePoint i != 0

/-- `hasCurveWrite` in `service_desired_mutation_domains`. -/
def hasCurveWrite (desired : RawSettings) : Bool :=
  serviceDesiredHasCurvePoint desired ||
    (desired.hasLock != 0 &&
      (desired.lockMode == LOCK_MODE_FLATTEN || desired.lockMode == LOCK_MODE_HARD)) ||
    (desired.hasGpuOffset != 0 && decide (desired.gpuOffsetExcludeLowCount > 0))

/-- A domain that is claimed if something is set. -/
def domainIf (set : Bool) (domain : UInt32) : UInt32 := if set then domain else 0

/-- `service_desired_mutation_domains`. -/
def serviceDesiredMutationDomains (desired : RawSettings) : UInt32 :=
  let hasCurvePoint := serviceDesiredHasCurvePoint desired
  let gpuOffsetUsesCurve := desired.hasGpuOffset != 0 &&
    (decide (desired.gpuOffsetExcludeLowCount > 0) || desired.hasLock != 0 || hasCurvePoint)
  domainIf (desired.resetOcBeforeApply != 0) SERVICE_MUTATION_DOMAIN_RESET_BASELINE |||
    domainIf (desired.hasGpuOffset != 0 && !gpuOffsetUsesCurve)
      SERVICE_MUTATION_DOMAIN_GPU_OFFSET |||
    domainIf (desired.hasMemOffset != 0) SERVICE_MUTATION_DOMAIN_MEM_OFFSET |||
    domainIf (desired.hasPowerLimit != 0) SERVICE_MUTATION_DOMAIN_POWER |||
    domainIf (hasCurveWrite desired) SERVICE_MUTATION_DOMAIN_VF_CURVE |||
    domainIf (desired.hasLock != 0) SERVICE_MUTATION_DOMAIN_LOCK |||
    domainIf (desired.hasFan != 0) SERVICE_MUTATION_DOMAIN_FAN |||
    domainIf (desired.hasXbarOffsetKhz != 0 || desired.hasXbarMsvddOffsetUv != 0)
      SERVICE_MUTATION_DOMAIN_XBAR |||
    domainIf (desired.hasSysClkOffsetKhz != 0) SERVICE_MUTATION_DOMAIN_SYS_CLK |||
    domainIf (desired.hasVideoClkOffsetKhz != 0) SERVICE_MUTATION_DOMAIN_VIDEO_CLK

/-- `service_mutation_domains_require_vf`. -/
def serviceMutationDomainsRequireVf (domains : UInt32) : Bool :=
  domains &&& SERVICE_MUTATION_DOMAIN_VF_CURVE != 0

/-! ## Requests -/

/-- The reason of the first rule that is broken. -/
def firstReason (rules : List (Bool × String)) : Option String :=
  rules.findSome? fun rule => if rule.1 then some rule.2 else none

/-- `service_apply_origin_is_client_apply`. -/
def serviceApplyOriginIsClientApply (origin : UInt32) : Bool :=
  origin == SERVICE_APPLY_ORIGIN_GUI || origin == SERVICE_APPLY_ORIGIN_CLI ||
    origin == SERVICE_APPLY_ORIGIN_HOTKEY || origin == SERVICE_APPLY_ORIGIN_TRAY ||
    origin == SERVICE_APPLY_ORIGIN_APP_LAUNCH || origin == SERVICE_APPLY_ORIGIN_FOREGROUND

namespace ServiceRequest
variable (r : ServiceRequest)

def allowedFlags : UInt32 :=
  SERVICE_REQUEST_FLAG_INTERACTIVE ||| SERVICE_REQUEST_FLAG_SHARED_SLOT |||
    (SERVICE_REQUEST_SHARED_SLOT_MASK <<< SERVICE_REQUEST_SHARED_SLOT_SHIFT)

/-- Explicit state reads may retry backend discovery. -/
def allowedReadFlags : UInt32 :=
  if r.command = SERVICE_CMD_GET_SNAPSHOT ∨ r.command = SERVICE_CMD_GET_TELEMETRY then
    SERVICE_REQUEST_FLAG_INTERACTIVE
  else 0

def anyPrecondition : Bool :=
  r.expectedServiceInstanceId != 0 || r.expectedGpuGeneration != 0 ||
    r.expectedTopologySignature != 0

def basePreconditions : Bool :=
  r.expectedServiceInstanceId != 0 && r.expectedGpuGeneration != 0

/-- The rules of every command. -/
def commonRules : List (Bool × String) :=
  [(r.magic != SERVICE_PROTOCOL_MAGIC, "wrong protocol magic"),
    (r.version != SERVICE_PROTOCOL_VERSION, "wrong protocol version"),
    (decide (r.command < SERVICE_CMD_PING ∨ r.command > SERVICE_CMD_SET_UPDATE_POLICY),
      "unknown command"),
    (decide (r.startupMode ≥ SERVICE_STARTUP_POLICY_MODE_COUNT), "unknown startup policy mode"),
    (r.callerPid == 0, "missing caller pid"),
    (decide (r.resetOcBeforeApply > 1), "non-boolean resetOcBeforeApply"),
    (decide (r.applyOrigin > SERVICE_APPLY_ORIGIN_DRIVER_RECOVERY), "unknown apply origin"),
    (decide (r.profileSource > SERVICE_PROFILE_SOURCE_AD_HOC), "unknown profile source"),
    (decide (r.profileSlot > 255), "profile slot out of range"),
    (!serviceWireStringIsTerminated r.source, "unterminated source string"),
    (!serviceWireStringIsLogSafe r.source, "control character in source string"),
    (!serviceWireStringIsTerminated r.path, "unterminated path string"),
    (!serviceWireStringIsLogSafe r.path, "control character in path string"),
    (!serviceWireStringIsTerminated r.targetGpu.name, "unterminated target GPU name"),
    (!serviceWireStringIsLogSafe r.targetGpu.name, "control character in target GPU name"),
    (!serviceGpuBoolFieldsValid r.targetGpu, "non-boolean target GPU flags"),
    (!serviceDesiredBoolFieldsValid r.desired, "non-boolean desired settings flags"),
    (r.flags &&& ~~~allowedFlags != 0, "unknown request flags"),
    (r.anyPrecondition && !r.basePreconditions, "incomplete reconnect preconditions"),
    (r.anyPrecondition && r.targetGpu.valid == 0,
      "reconnect preconditions without an exact target GPU")]

def encodedSlot : UInt32 :=
  (r.flags >>> SERVICE_REQUEST_SHARED_SLOT_SHIFT) &&& SERVICE_REQUEST_SHARED_SLOT_MASK

def applyRules : List (Bool × String) :=
  [(r.operationId == 0, "apply without an operation id"),
    (!r.basePreconditions,
      "apply without service instance / GPU generation preconditions"),
    (r.targetGpu.valid == 0, "apply without an exact target GPU"),
    (serviceMutationDomainsRequireVf (serviceDesiredMutationDomains r.desired) &&
      r.expectedTopologySignature == 0, "VF apply without a curve topology signature"),
    (!serviceApplyOriginIsClientApply r.applyOrigin, "apply origin is not a client apply"),
    (r.flags &&& SERVICE_REQUEST_FLAG_SHARED_SLOT != 0 &&
      (r.encodedSlot == 0 || r.profileSource != SERVICE_PROFILE_SOURCE_SHARED_SLOT ||
        r.profileSlot != r.encodedSlot), "shared-slot apply disagrees with its encoded slot")]

def resetRules : List (Bool × String) :=
  [(r.operationId == 0, "reset without an operation id"),
    (!r.basePreconditions || r.expectedTopologySignature == 0,
      "reset without complete reconnect preconditions"),
    (r.targetGpu.valid == 0, "reset without an exact target GPU"),
    (r.flags != 0 || r.resetOcBeforeApply != 0 || r.profileSource != 0 || r.profileSlot != 0,
      "reset carries settings or profile fields")]

def operationResultRules : List (Bool × String) :=
  [(r.operationId == 0, "operation query without an operation id"),
    (r.flags != 0 || r.anyPrecondition, "operation query carries mutation fields")]

def logonHandoffRules : List (Bool × String) :=
  [(r.applyOrigin != SERVICE_APPLY_ORIGIN_LOGON, "logon handoff without the logon origin"),
    (r.flags != 0 || r.operationId != 0 || r.anyPrecondition,
      "logon handoff carries mutation fields")]

def startupPolicyRules : List (Bool × String) :=
  (r.operationId != 0 || r.flags != 0 || r.resetOcBeforeApply != 0 || r.applyOrigin != 0 ||
      r.profileSource != 0 || r.anyPrecondition, "startup policy carries mutation fields") ::
    if r.startupMode = SERVICE_STARTUP_POLICY_PROFILE then
      [(decide (r.profileSlot = 0 ∨ r.profileSlot > CONFIG_NUM_SLOTS),
          "startup profile policy without a real slot"),
        (r.targetGpu.valid == 0, "startup profile policy without an exact target GPU")]
    else
      [(r.profileSlot != 0 || r.targetGpu.valid != 0,
        "non-profile startup policy carries a slot or GPU")]

def refreshProfileRules : List (Bool × String) :=
  [(r.operationId != 0 || r.flags != 0 || r.resetOcBeforeApply != 0 || r.applyOrigin != 0 ||
      r.profileSource != 0 || r.startupMode != 0 || r.targetGpu.valid != 0 || r.anyPrecondition,
      "startup profile refresh would re-bind the policy"),
    (decide (r.profileSlot = 0 ∨ r.profileSlot > CONFIG_NUM_SLOTS),
      "startup profile refresh without a real slot")]

/-- What a command that writes nothing of the client's must leave empty. -/
def carriesMutationFields : Bool :=
  r.operationId != 0 || r.flags != 0 || r.resetOcBeforeApply != 0 || r.applyOrigin != 0 ||
    r.profileSource != 0 || r.profileSlot != 0 || r.startupMode != 0 || r.targetGpu.valid != 0 ||
    r.anyPrecondition

def resumeRestoreRules : List (Bool × String) :=
  [(r.carriesMutationFields, "resume restore carries mutation fields"),
    (serviceDesiredMutationDomains r.desired != 0, "resume restore carries settings")]

def updateRules : List (Bool × String) :=
  [(r.carriesMutationFields, "update command carries mutation fields"),
    (serviceDesiredMutationDomains r.desired != 0, "update command carries settings"),
    (r.path 0 != 0, "update command carries a path")] ++
    if r.command = SERVICE_CMD_SET_UPDATE_POLICY then
      [(decide (r.updateAutoCheck > GC_UPDATE_AUTO_CHECK_ON), "unknown update auto-check mode"),
        (decide (r.updateIntervalSeconds < GC_UPDATE_INTERVAL_MIN_SECONDS ∨
          r.updateIntervalSeconds > GC_UPDATE_INTERVAL_MAX_SECONDS),
          "update interval out of range")]
    else
      [(r.updateAutoCheck != 0 || r.updateIntervalSeconds != 0,
        "update command carries policy fields")]

def readOnlyRules : List (Bool × String) :=
  [(r.operationId != 0 || r.flags &&& ~~~r.allowedReadFlags != 0 || r.resetOcBeforeApply != 0 ||
      r.applyOrigin != 0 || r.profileSource != 0 || r.profileSlot != 0 || r.startupMode != 0 ||
      r.updateAutoCheck != 0 || r.updateIntervalSeconds != 0 || r.anyPrecondition,
      "read-only command carries mutation fields")]

/-- One of the four update commands. -/
def IsUpdateCommand : Prop :=
  r.command = SERVICE_CMD_GET_UPDATE_STATE ∨ r.command = SERVICE_CMD_CHECK_FOR_UPDATE ∨
    r.command = SERVICE_CMD_INSTALL_UPDATE ∨ r.command = SERVICE_CMD_SET_UPDATE_POLICY

instance : Decidable r.IsUpdateCommand := inferInstanceAs (Decidable (_ ∨ _))

/-- The rules of its command. -/
def commandRules : List (Bool × String) :=
  if r.command = SERVICE_CMD_APPLY then r.applyRules
  else if r.command = SERVICE_CMD_RESET then r.resetRules
  else if r.command = SERVICE_CMD_GET_OPERATION_RESULT then r.operationResultRules
  else if r.command = SERVICE_CMD_LOGON_HANDOFF then r.logonHandoffRules
  else if r.command = SERVICE_CMD_SET_STARTUP_POLICY then r.startupPolicyRules
  else if r.command = SERVICE_CMD_REFRESH_STARTUP_PROFILE then r.refreshProfileRules
  else if r.command = SERVICE_CMD_RESUME_RESTORE then r.resumeRestoreRules
  else if r.IsUpdateCommand then r.updateRules
  else r.readOnlyRules

end ServiceRequest

/-- `service_request_reject_reason`. -/
def serviceRequestRejectReason (r : ServiceRequest) : Option String :=
  firstReason (r.commonRules ++ r.commandRules)

/-- The canonical form of a request. -/
def ServiceRequest.normalize (r : ServiceRequest) : ServiceRequest :=
  { r with
    targetGpu := validateGpuAdapterInfoForIpc r.targetGpu
    desired := r.desired.validateForIpc }

/-- `validate_service_request_for_ipc`: the canonical form of a request that is accepted. -/
def validateServiceRequestForIpc (r : ServiceRequest) : Option ServiceRequest :=
  if serviceRequestRejectReason r ≠ none then none else some r.normalize

/-! ## The published state -/

/-- `service_snapshot_bool_fields_valid`. -/
def serviceSnapshotBoolFieldsValid (snapshot : ServiceSnapshot) : Bool :=
  [snapshot.initialized, snapshot.loaded, snapshot.fanSupported, snapshot.fanRangeKnown,
      snapshot.fanIsAuto, snapshot.fanCurveRuntimeActive, snapshot.fanFixedRuntimeActive,
      snapshot.gpuOffsetRangeKnown, snapshot.memOffsetRangeKnown, snapshot.curveOffsetRangeKnown,
      snapshot.gpuTemperatureValid, snapshot.vfReadSupported, snapshot.vfWriteSupported,
      snapshot.vfBestGuess, snapshot.hasLock, snapshot.lockTracksAnchor,
      snapshot.selectedAdapterOrdinalFallback, snapshot.lastApplyUsedGpuOffset,
      snapshot.serviceInRecovery, snapshot.serviceReapplyInProgress,
      snapshot.health.vfSnapshotFresh, snapshot.health.recoveryAttempted,
      snapshot.health.recoverySucceeded, snapshot.autoApplyFailure.coreRecovered].all isFlag &&
    (List.finRange MAX_GPU_ADAPTERS).all (fun i =>
      decide (i.val < snapshot.adapterCount.toNat →
        serviceGpuBoolFieldsValid (snapshot.adapters i))) &&
    fanCurveWireFlagsValid snapshot.activeFanCurve

/-- `service_control_bool_fields_valid`. -/
def serviceControlBoolFieldsValid (control : ControlState) : Bool :=
  [control.valid, control.hasGpuOffset, control.gpuOffsetReadbackValid, control.hasMemOffset,
      control.memOffsetReadbackValid, control.hasPowerLimit, control.powerLimitReadbackValid,
      control.hasFan, control.fanPolicyReadbackValid, control.fanTargetReadbackValid].all isFlag &&
    fanCurveWireFlagsValid control.fanCurve

/-- `validate_control_state_for_ipc`. -/
def validateControlStateForIpc (c : ControlState) : ControlState :=
  { c with
    valid := canonicalizeBool8 c.valid
    hasGpuOffset := canonicalizeBool8 c.hasGpuOffset
    gpuOffsetReadbackValid := canonicalizeBool8 c.gpuOffsetReadbackValid
    hasMemOffset := canonicalizeBool8 c.hasMemOffset
    memOffsetReadbackValid := canonicalizeBool8 c.memOffsetReadbackValid
    hasPowerLimit := canonicalizeBool8 c.hasPowerLimit
    powerLimitReadbackValid := canonicalizeBool8 c.powerLimitReadbackValid
    hasFan := canonicalizeBool8 c.hasFan
    fanPolicyReadbackValid := canonicalizeBool8 c.fanPolicyReadbackValid
    fanTargetReadbackValid := canonicalizeBool8 c.fanTargetReadbackValid
    fanCurve := c.fanCurve.canonicalizeFlags
    hasXbarOffset := canonicalizeBool8 c.hasXbarOffset
    xbarOffsetReadbackValid := canonicalizeBool8 c.xbarOffsetReadbackValid
    hasXbarMsvddOffset := canonicalizeBool8 c.hasXbarMsvddOffset
    xbarMsvddOffsetReadbackValid := canonicalizeBool8 c.xbarMsvddOffsetReadbackValid
    hasSysClkOffset := canonicalizeBool8 c.hasSysClkOffset
    sysClkOffsetReadbackValid := canonicalizeBool8 c.sysClkOffsetReadbackValid
    hasVideoClkOffset := canonicalizeBool8 c.hasVideoClkOffset
    videoClkOffsetReadbackValid := canonicalizeBool8 c.videoClkOffsetReadbackValid }

namespace ServiceSnapshot
variable (s : ServiceSnapshot)

/-- The flags of a snapshot, canonical. -/
def canonicalizeFlags : ServiceSnapshot :=
  { s with
    initialized := canonicalizeBool8 s.initialized
    loaded := canonicalizeBool8 s.loaded
    fanSupported := canonicalizeBool8 s.fanSupported
    fanRangeKnown := canonicalizeBool8 s.fanRangeKnown
    fanIsAuto := canonicalizeBool8 s.fanIsAuto
    fanCurveRuntimeActive := canonicalizeBool8 s.fanCurveRuntimeActive
    fanFixedRuntimeActive := canonicalizeBool8 s.fanFixedRuntimeActive
    gpuOffsetRangeKnown := canonicalizeBool8 s.gpuOffsetRangeKnown
    memOffsetRangeKnown := canonicalizeBool8 s.memOffsetRangeKnown
    curveOffsetRangeKnown := canonicalizeBool8 s.curveOffsetRangeKnown
    gpuTemperatureValid := canonicalizeBool8 s.gpuTemperatureValid
    vfReadSupported := canonicalizeBool8 s.vfReadSupported
    vfWriteSupported := canonicalizeBool8 s.vfWriteSupported
    vfBestGuess := canonicalizeBool8 s.vfBestGuess
    hasLock := canonicalizeBool8 s.hasLock
    lockTracksAnchor := canonicalizeBool8 s.lockTracksAnchor
    selectedAdapterOrdinalFallback := canonicalizeBool8 s.selectedAdapterOrdinalFallback
    lastApplyUsedGpuOffset := canonicalizeBool8 s.lastApplyUsedGpuOffset
    serviceInRecovery := canonicalizeBool8 s.serviceInRecovery
    serviceReapplyInProgress := canonicalizeBool8 s.serviceReapplyInProgress
    health :=
      { s.health with
        vfSnapshotFresh := canonicalizeBool8 s.health.vfSnapshotFresh
        recoveryAttempted := canonicalizeBool8 s.health.recoveryAttempted
        recoverySucceeded := canonicalizeBool8 s.health.recoverySucceeded } }

/-- The profile a snapshot names: an unknown source names none, and a slot that is none is
zero. -/
def boundProfile : ServiceSnapshot :=
  let s :=
    if s.activeProfileSource > SERVICE_PROFILE_SOURCE_AD_HOC then
      { s with activeProfileSource := SERVICE_PROFILE_SOURCE_NONE, activeProfileSlot := 0 }
    else s
  if s.activeProfileSlot > 255 then { s with activeProfileSlot := 0 } else s

/-- The last lifecycle event and the lockout, those out of range read as the safe ones. -/
def boundLifecycle : ServiceSnapshot :=
  { s with
    lastLifecycleTrigger :=
      if s.lastLifecycleTrigger > SERVICE_LIFECYCLE_TRIGGER_DRIVER_RECOVERY then
        SERVICE_LIFECYCLE_TRIGGER_NONE
      else s.lastLifecycleTrigger
    lastLifecycleResult :=
      if s.lastLifecycleResult > SERVICE_LIFECYCLE_RESULT_FAILED then
        SERVICE_LIFECYCLE_RESULT_NONE
      else s.lastLifecycleResult
    autoRestoreLockoutReason :=
      if s.autoRestoreLockoutReason > SERVICE_AUTO_RESTORE_LOCKOUT_MAX then
        SERVICE_AUTO_RESTORE_LOCKOUT_AUTOMATIC_APPLY_FAILED
      else s.autoRestoreLockoutReason }

end ServiceSnapshot

/-- The last byte of the detail. -/
def lastDetail : Fin SERVICE_AUTO_APPLY_FAILURE_DETAIL_CHARS := ⟨183, by decide⟩

/-- The failure record: an unknown trigger voids it, and its detail ends. -/
def ServiceAutoApplyFailure.bound (f : ServiceAutoApplyFailure) : ServiceAutoApplyFailure :=
  let f := { f with coreRecovered := canonicalizeBool8 f.coreRecovered }
  let f := if f.trigger > SERVICE_LIFECYCLE_TRIGGER_DAEMON_START then {} else f
  { f with reserved := fun _ => 0, detail := Function.update f.detail lastDetail 0 }

/-- The adapters of a snapshot: no more than there is room for, one of them selected. -/
def ServiceSnapshot.boundAdapters (s : ServiceSnapshot) : ServiceSnapshot :=
  let count := if s.adapterCount > 8 then 8 else s.adapterCount
  { s with
    adapterCount := count
    selectedAdapterIndex := if s.selectedAdapterIndex ≥ 8 then 0 else s.selectedAdapterIndex
    adapters := fun i =>
      if i.val < count.toNat then validateGpuAdapterInfoForIpc (s.adapters i) else s.adapters i }

/-- `validate_service_snapshot_for_ipc`. -/
def validateServiceSnapshotForIpc (s : ServiceSnapshot) : ServiceSnapshot :=
  let s := s.canonicalizeFlags.boundProfile.boundLifecycle
  let s := { s with autoApplyFailure := s.autoApplyFailure.bound }
  let s := s.boundAdapters
  { s with activeFanCurve := s.activeFanCurve.canonicalizeFlags }

/-- `service_state_hash_u32`. -/
def serviceStateHashU32 (hash : UInt64) (value : UInt32) : UInt64 :=
  ([0, 1, 2, 3] : List UInt32).foldl
    (fun hash i => (hash ^^^ ((value >>> (i * 8)) &&& 0xFF).toUInt64) * 1099511628211) hash

/-- The adapter at an index. -/
def ServiceSnapshot.adapterAt (s : ServiceSnapshot) (i : UInt32) : Option GpuAdapterInfo :=
  if h : i.toNat < MAX_GPU_ADAPTERS then some (s.adapters ⟨i.toNat, h⟩) else none

/-- The identity of an adapter. -/
def GpuAdapterInfo.identity (gpu : GpuAdapterInfo) : List UInt32 :=
  [gpu.deviceId, gpu.subSystemId, gpu.pciRevisionId, gpu.extDeviceId, gpu.pciDomain, gpu.pciBus,
    gpu.pciDevice, gpu.pciFunction]

/-- A number of 32 bits. -/
def word (n : Int) : UInt32 := UInt32.ofInt n

/-- What a point adds to the topology. -/
def VFCurvePoint.topology (i : VfPoint) (point : VFCurvePoint) : List UInt32 :=
  if point.freq_kHz ≠ 0 then [1, word i.val, point.volt_uV] else [0]

/-- `service_snapshot_topology_signature`. -/
def serviceSnapshotTopologySignature (snapshot : ServiceSnapshot) : UInt64 :=
  let identity :=
    if snapshot.selectedAdapterIndex < snapshot.adapterCount then
      ((snapshot.adapterAt snapshot.selectedAdapterIndex).map (·.identity)).getD []
    else []
  let points := (List.finRange VF_NUM_POINTS).flatMap fun i => (snapshot.curve i).topology i
  let hash := (identity ++ [word snapshot.numPopulated] ++ points).foldl serviceStateHashU32
    1469598103934665603
  if hash ≠ 0 then hash else 1

/-- The checks of a snapshot as it came. -/
@[mk_iff]
structure ServiceSnapshot.InRange (s : ServiceSnapshot) : Prop where
  adapterCount : s.adapterCount ≤ 8
  numPopulated : 0 ≤ s.numPopulated ∧ s.numPopulated ≤ 128
  fanCount : s.fanCount ≤ 8
  selected : s.adapterCount > 0 → s.selectedAdapterIndex < s.adapterCount
  gpuFamily : GPU_FAMILY_UNKNOWN ≤ s.gpuFamily ∧ s.gpuFamily ≤ GPU_FAMILY_BLACKWELL
  lockMode : LOCK_MODE_NONE ≤ s.lockMode ∧ s.lockMode ≤ LOCK_MODE_HARD
  activeFanMode : FAN_MODE_AUTO ≤ s.activeFanMode ∧ s.activeFanMode ≤ FAN_MODE_CURVE
  activeProfileSource : s.activeProfileSource ≤ SERVICE_PROFILE_SOURCE_AD_HOC
  activeProfileSlot : s.activeProfileSlot ≤ 255
  lastLifecycleTrigger : s.lastLifecycleTrigger ≤ SERVICE_LIFECYCLE_TRIGGER_DRIVER_RECOVERY
  lastLifecycleResult : s.lastLifecycleResult ≤ SERVICE_LIFECYCLE_RESULT_FAILED
  lockoutReason : s.autoRestoreLockoutReason ≤ SERVICE_AUTO_RESTORE_LOCKOUT_MAX
  reason : s.health.reason ≤ SERVICE_GPU_HEALTH_STATE_UNCERTAIN
  architectureSource : s.health.architectureSource ≤ SERVICE_GPU_ARCH_SOURCE_FUTURE_GUESS
  domains : s.health.availableMutationDomains &&& ~~~SERVICE_MUTATION_DOMAIN_ALL = 0
  memoryTopology : s.health.capabilityMemoryTopology ≤ SERVICE_GPU_MEMORY_TOPOLOGY_MAX
  capabilities : s.health.capabilityDomainsPacked &&& ~~~SERVICE_GPU_CAPABILITY_PACKED_MASK = 0
  healthDetail : serviceWireStringIsTerminated s.health.detail
  gpuName : serviceWireStringIsTerminated s.gpuName
  ownerUser : serviceWireStringIsTerminated s.ownerUser
  failureTrigger : s.autoApplyFailure.trigger ≤ SERVICE_LIFECYCLE_TRIGGER_DAEMON_START
  failureReserved : ∀ i, s.autoApplyFailure.reserved i = 0
  failureDetail : serviceWireStringIsTerminated s.autoApplyFailure.detail
  adapters : ∀ i : Fin MAX_GPU_ADAPTERS, i.val < s.adapterCount.toNat →
    serviceWireStringIsTerminated (s.adapters i).name ∧
      GPU_FAMILY_UNKNOWN ≤ (s.adapters i).family ∧ (s.adapters i).family ≤ GPU_FAMILY_BLACKWELL

instance (s : ServiceSnapshot) : Decidable s.InRange := decidable_of_iff _ s.inRange_iff.symm

/-- The checks of the controls as they came. -/
def ControlState.InRange (c : ControlState) : Prop :=
  c.hasFan ≠ 0 →
    (FAN_MODE_AUTO ≤ c.fanMode ∧ c.fanMode ≤ FAN_MODE_CURVE) ∧
      (0 ≤ c.fanFixedPercent ∧ c.fanFixedPercent ≤ 100) ∧
      (0 ≤ c.fanCurrentPercent ∧ c.fanCurrentPercent ≤ 100)

instance (c : ControlState) : Decidable c.InRange := inferInstanceAs (Decidable (_ → _))

namespace PublishedState
variable (p : PublishedState)

/-- The checks of a state as it came. -/
@[mk_iff]
structure WellFormed (p : PublishedState) : Prop where
  activeDesiredValid : isFlag p.state.activeDesiredValid
  startupPolicyMode : p.state.startupPolicyMode < SERVICE_STARTUP_POLICY_MODE_COUNT
  startupPolicySlot : p.state.startupPolicySlot ≤ CONFIG_NUM_SLOTS
  startupPolicy : p.state.startupPolicyMode = SERVICE_STARTUP_POLICY_PROFILE ↔
    p.state.startupPolicySlot ≠ 0
  snapshotFlags : serviceSnapshotBoolFieldsValid p.snapshot
  desiredFlags : serviceDesiredBoolFieldsValid p.desired
  controlFlags : serviceControlBoolFieldsValid p.controlState
  reservedBool : ∀ i, p.state.reservedBool i = 0
  snapshot : p.snapshot.InRange
  controls : p.controlState.InRange

instance : Decidable p.WellFormed := decidable_of_iff _ p.wellFormed_iff.symm

/-- The canonical form. -/
def normalize : PublishedState where
  state := { p.state with activeDesiredValid := canonicalizeBool8 p.state.activeDesiredValid }
  snapshot := validateServiceSnapshotForIpc p.snapshot
  desired := p.desired.validateForIpc
  controlState := validateControlStateForIpc p.controlState

/-- A section that the state says is valid. -/
def Has (part : UInt32) : Prop := p.state.validSections &&& part ≠ 0

instance (part : UInt32) : Decidable (p.Has part) := inferInstanceAs (Decidable (_ ≠ _))

/-- The number of points in use. -/
def populated : Nat :=
  (List.finRange VF_NUM_POINTS).countP fun i => (p.snapshot.curve i).freq_kHz != 0

/-- The checks of the canonical form. -/
@[mk_iff]
structure Coherent (p : PublishedState) : Prop where
  gpuPhase : p.state.gpuPhase ≤ SERVICE_GPU_PHASE_DEGRADED
  validSections : p.state.validSections &&& ~~~SERVICE_STATE_SECTION_ALL = 0
  serviceInstanceId : p.state.serviceInstanceId ≠ 0
  stateRevision : p.state.stateRevision ≠ 0
  gpuGeneration : p.state.gpuGeneration ≠ 0
  readySections : p.state.gpuPhase = SERVICE_GPU_PHASE_READY →
    p.state.validSections &&& SERVICE_STATE_SECTION_READY_REQUIRED =
      SERVICE_STATE_SECTION_READY_REQUIRED
  readySnapshot : p.state.gpuPhase = SERVICE_GPU_PHASE_READY →
    p.snapshot.initialized ≠ 0 ∧ p.snapshot.loaded ≠ 0 ∧ 0 < p.snapshot.numPopulated
  signature : p.Has SERVICE_STATE_SECTION_CURVE_TOPOLOGY → p.state.topologySignature ≠ 0
  noSignature : ¬p.Has SERVICE_STATE_SECTION_CURVE_TOPOLOGY → p.state.topologySignature = 0
  intent : p.state.activeDesiredValid ≠ 0 → p.Has SERVICE_STATE_SECTION_ACTIVE_INTENT
  controls : p.Has SERVICE_STATE_SECTION_APPLIED_CONTROLS → p.controlState.valid ≠ 0
  adapter : p.Has SERVICE_STATE_SECTION_ADAPTER_IDENTITY →
    p.snapshot.adapterCount ≠ 0 ∧
      (p.snapshot.adapterAt p.snapshot.selectedAdapterIndex).any (·.valid != 0)
  topology : p.Has SERVICE_STATE_SECTION_CURVE_TOPOLOGY →
    p.populated = p.snapshot.numPopulated ∧ p.populated ≠ 0 ∧
      p.state.topologySignature = serviceSnapshotTopologySignature p.snapshot

instance : Decidable p.Coherent := decidable_of_iff _ p.coherent_iff.symm

end PublishedState

/-- `validate_service_state_envelope_for_ipc`: the canonical form of a state that is accepted. -/
def validateServiceStateEnvelopeForIpc (p : PublishedState) : Option PublishedState :=
  if ¬p.WellFormed then none
  else
    let p := p.normalize
    if p.Coherent then some p else none

/-! ## Responses -/

/-- Every value is zero. -/
def allZero {α : Type} [OfNat α 0] [DecidableEq α] (values : List α) : Bool :=
  values.all fun value => decide (value = 0)

/-- `service_scalar_array_is_zero`. -/
def serviceScalarArrayIsZero {α : Type} [OfNat α 0] [DecidableEq α] {n : Nat}
    (values : Fin n → α) : Bool :=
  allZero (List.ofFn values)

/-- `service_fan_curve_config_is_zero`. -/
def serviceFanCurveConfigIsZero (curve : RawFanCurve) : Bool :=
  curve.points.all (fun point =>
      decide (point.enabled = 0) && allZero [point.temperatureC, point.fanPercent]) &&
    allZero [curve.pollIntervalMs, curve.hysteresisC] &&
    allZero [curve.zeroRpmEnabled, curve.zeroRpmHysteresisC, curve.zeroRpmReserved.1,
      curve.zeroRpmReserved.2]

/-- `service_gpu_adapter_info_is_zero`. -/
def serviceGpuAdapterInfoIsZero (adapter : GpuAdapterInfo) : Bool :=
  allZero [adapter.valid, adapter.pciInfoValid, adapter.vfReadSupported,
      adapter.vfWriteSupported, adapter.vfBestGuess] &&
    allZero [adapter.nvapiIndex, adapter.nvmlIndex, adapter.deviceId, adapter.subSystemId,
      adapter.pciRevisionId, adapter.extDeviceId, adapter.pciDomain, adapter.pciBus,
      adapter.pciDevice, adapter.pciFunction] &&
    decide (adapter.family = 0) && serviceScalarArrayIsZero adapter.name

/-- `service_desired_settings_is_zero`. -/
def serviceDesiredSettingsIsZero (desired : RawSettings) : Bool :=
  serviceScalarArrayIsZero desired.hasCurvePoint &&
    serviceScalarArrayIsZero desired.curvePointMHz &&
    serviceScalarArrayIsZero desired.curvePointFromGpuOffset &&
    allZero [desired.hasLock, desired.lockTracksAnchor, desired.hasGpuOffset,
      desired.hasMemOffset, desired.hasPowerLimit, desired.hasFan, desired.fanAuto,
      desired.resetOcBeforeApply, desired.hasXbarOffsetKhz, desired.hasXbarMsvddOffsetUv,
      desired.hasSysClkOffsetKhz, desired.hasVideoClkOffsetKhz] &&
    decide (desired.lockMHz = 0) &&
    allZero [desired.lockCi, desired.lockMode, desired.gpuOffsetMHz,
      desired.gpuOffsetExcludeLowCount, desired.memOffsetMHz, desired.powerLimitPct,
      desired.fanMode, desired.fanPercent, desired.xbarOffsetKhz, desired.xbarMsvddOffsetUv,
      desired.sysClkOffsetKhz, desired.videoClkOffsetKhz] &&
    serviceFanCurveConfigIsZero desired.fanCurve

/-- `service_control_state_is_zero`. -/
def serviceControlStateIsZero (controls : ControlState) : Bool :=
  allZero [controls.valid, controls.hasGpuOffset, controls.gpuOffsetReadbackValid,
      controls.hasMemOffset, controls.memOffsetReadbackValid, controls.hasPowerLimit,
      controls.powerLimitReadbackValid, controls.hasFan, controls.fanPolicyReadbackValid,
      controls.fanTargetReadbackValid, controls.hasXbarOffset, controls.xbarOffsetReadbackValid,
      controls.hasXbarMsvddOffset, controls.xbarMsvddOffsetReadbackValid,
      controls.hasSysClkOffset, controls.sysClkOffsetReadbackValid, controls.hasVideoClkOffset,
      controls.videoClkOffsetReadbackValid] &&
    allZero [controls.gpuOffsetMHz, controls.gpuOffsetExcludeLowCount, controls.memOffsetMHz,
      controls.powerLimitPct, controls.fanMode, controls.fanFixedPercent,
      controls.fanCurrentPercent, controls.fanCurrentTemperatureC, controls.xbarOffsetKhz,
      controls.xbarMsvddOffsetUv, controls.sysClkOffsetKhz, controls.videoClkOffsetKhz] &&
    serviceFanCurveConfigIsZero controls.fanCurve

/-- `service_gpu_health_is_zero`. -/
def serviceGpuHealthIsZero (health : ServiceGpuHealth) : Bool :=
  allZero [health.reason, health.architectureSource, health.availableMutationDomains,
      health.capabilityDomainsPacked] &&
    decide (health.driverStatus = 0) &&
    allZero [health.vfSnapshotFresh, health.recoveryAttempted, health.recoverySucceeded,
      health.capabilityMemoryTopology] &&
    serviceScalarArrayIsZero health.detail

/-- `service_snapshot_is_zero`. -/
def serviceSnapshotIsZero (snapshot : ServiceSnapshot) : Bool :=
  allZero [snapshot.initialized, snapshot.loaded, snapshot.fanSupported, snapshot.fanRangeKnown,
      snapshot.fanIsAuto, snapshot.fanCurveRuntimeActive, snapshot.fanFixedRuntimeActive,
      snapshot.gpuOffsetRangeKnown, snapshot.memOffsetRangeKnown, snapshot.curveOffsetRangeKnown,
      snapshot.gpuTemperatureValid, snapshot.vfReadSupported, snapshot.vfWriteSupported,
      snapshot.vfBestGuess, snapshot.hasLock, snapshot.lockTracksAnchor,
      snapshot.selectedAdapterOrdinalFallback, snapshot.lastApplyUsedGpuOffset,
      snapshot.serviceInRecovery, snapshot.serviceReapplyInProgress, snapshot.xbarSupported,
      snapshot.xbarOffsetReadbackValid, snapshot.xbarMsvddOffsetReadbackValid,
      snapshot.sysClkSupported, snapshot.sysClkOffsetReadbackValid, snapshot.videoClkSupported,
      snapshot.videoClkOffsetReadbackValid, snapshot.autoApplyFailure.coreRecovered] &&
    allZero [snapshot.lockCi, snapshot.lockMode, snapshot.gpuFamily, snapshot.numPopulated,
      snapshot.gpuClockOffsetkHz, snapshot.memClockOffsetkHz, snapshot.gpuClockOffsetMinMHz,
      snapshot.gpuClockOffsetMaxMHz, snapshot.memOffsetMinMHz, snapshot.memOffsetMaxMHz,
      snapshot.curveOffsetMinkHz, snapshot.curveOffsetMaxkHz, snapshot.powerLimitPct,
      snapshot.powerLimitDefaultmW, snapshot.powerLimitCurrentmW, snapshot.powerLimitMinmW,
      snapshot.powerLimitMaxmW, snapshot.appliedGpuOffsetMHz,
      snapshot.appliedGpuOffsetExcludeLowCount, snapshot.activeFanMode,
      snapshot.activeFanFixedPercent, snapshot.gpuTemperatureC, snapshot.xbarOffsetKhz,
      snapshot.xbarMsvddOffsetUv, snapshot.sysClkOffsetKhz, snapshot.videoClkOffsetKhz] &&
    allZero [snapshot.lockMHz, snapshot.adapterCount, snapshot.selectedAdapterIndex,
      snapshot.fanCount, snapshot.fanMinPct, snapshot.fanMaxPct, snapshot.ownerSessionId,
      snapshot.activeProfileSource, snapshot.activeProfileSlot, snapshot.lastLifecycleTrigger,
      snapshot.lastLifecycleResult, snapshot.autoRestoreLockoutReason,
      snapshot.xbarMeasuredClockKhz, snapshot.xbarMeasuredVoltageUv,
      snapshot.sysClkMeasuredClockKhz, snapshot.videoClkMeasuredClockKhz,
      snapshot.autoApplyFailure.trigger] &&
    allZero [snapshot.ownerUtcMs, snapshot.lastRecoveryTickMs] &&
    (List.ofFn snapshot.adapters).all serviceGpuAdapterInfoIsZero &&
    [snapshot.fanPercent, snapshot.fanTargetPercent, snapshot.fanRpm, snapshot.fanPolicy,
      snapshot.fanControlSignal, snapshot.fanTargetMask].all serviceScalarArrayIsZero &&
    (List.ofFn snapshot.curve).all (fun point => allZero [point.freq_kHz, point.volt_uV]) &&
    serviceScalarArrayIsZero snapshot.freqOffsets &&
    serviceFanCurveConfigIsZero snapshot.activeFanCurve &&
    serviceScalarArrayIsZero snapshot.gpuName && serviceScalarArrayIsZero snapshot.ownerUser &&
    serviceScalarArrayIsZero snapshot.autoApplyFailure.reserved &&
    serviceScalarArrayIsZero snapshot.autoApplyFailure.detail &&
    serviceGpuHealthIsZero snapshot.health

/-- `service_state_envelope_is_zero`. -/
def serviceStateEnvelopeIsZero (state : ServiceStateEnvelope) : Bool :=
  allZero [state.serviceInstanceId, state.stateRevision, state.gpuGeneration,
      state.topologySignature] &&
    allZero [state.gpuPhase, state.validSections, state.startupPolicyMode,
      state.startupPolicySlot] &&
    decide (state.activeDesiredValid = 0) && serviceScalarArrayIsZero state.reservedBool

/-- `service_response_payload_is_absent`: a refusal may publish no state at all. -/
def serviceResponsePayloadIsAbsent (r : ServiceResponse) : Bool :=
  serviceStateEnvelopeIsZero r.published.state && serviceSnapshotIsZero r.published.snapshot &&
    serviceDesiredSettingsIsZero r.published.desired &&
    serviceControlStateIsZero r.published.controlState &&
    serviceDesiredSettingsIsZero r.startupProfile && decide (r.startupProfileValid = 0) &&
    serviceScalarArrayIsZero r.startupProfileReserved

namespace ServiceUpdateState
variable (u : ServiceUpdateState)

/-- The flags of an update state, canonical. -/
def canonicalizeFlags : ServiceUpdateState :=
  { u with
    packageStaged := canonicalizeBool8 u.packageStaged
    packageVerified := canonicalizeBool8 u.packageVerified
    installRunning := canonicalizeBool8 u.installRunning
    isInstalledCopy := canonicalizeBool8 u.isInstalledCopy
    workerRunning := canonicalizeBool8 u.workerRunning
    guiShutdownRequested := canonicalizeBool8 u.guiShutdownRequested }

/-- The checks of an update state. -/
@[mk_iff]
structure InRange (u : ServiceUpdateState) : Prop where
  updateReserved : ∀ i, u.updateReserved i = 0
  phase : u.phase ≤ SERVICE_UPDATE_PHASE_FAILED
  decision : u.decision ≤ GC_UPDATE_DECISION_NO_ASSET
  autoCheck : u.autoCheck ≤ GC_UPDATE_AUTO_CHECK_ON
  intervalSeconds : u.intervalSeconds ≠ 0 → GC_UPDATE_INTERVAL_MIN_SECONDS ≤ u.intervalSeconds ∧
    u.intervalSeconds ≤ GC_UPDATE_INTERVAL_MAX_SECONDS
  lastRefusal : u.lastRefusal ≤ GC_UPDATE_INSTALL_ALREADY_RUNNING
  channelState : u.channelState ≤ GC_UPDATE_CHANNEL_REGRESSED
  availableVersion : serviceWireStringIsTerminated u.availableVersion
  installedVersion : serviceWireStringIsTerminated u.installedVersion
  detail : serviceWireStringIsTerminated u.detail

instance : Decidable u.InRange := decidable_of_iff _ u.inRange_iff.symm

end ServiceUpdateState

/-- `validate_service_update_state_for_ipc`. -/
def validateServiceUpdateStateForIpc (update : ServiceUpdateState) : Option ServiceUpdateState :=
  let update := update.canonicalizeFlags
  if update.InRange then some update else none

/-- `service_response_resolve_outcome_severity`. -/
def serviceResponseResolveOutcomeSeverity (status recordedSeverity : UInt32) : UInt32 :=
  if status ≠ SERVICE_STATUS_OK then SERVICE_OUTCOME_SEVERITY_ERROR
  else if recordedSeverity = SERVICE_OUTCOME_SEVERITY_SUCCESS then SERVICE_OUTCOME_SEVERITY_SUCCESS
  else SERVICE_OUTCOME_SEVERITY_WARNING

/-- `service_outcome_severity_matches_status`. -/
def serviceOutcomeSeverityMatchesStatus (status severity : UInt32) : Bool :=
  severity == serviceResponseResolveOutcomeSeverity status severity

/-- `service_response_startup_profile_is_coherent`. -/
def serviceResponseStartupProfileIsCoherent (r : ServiceResponse) : Bool :=
  if r.startupProfileValid > 1 then false
  else if !serviceScalarArrayIsZero r.startupProfileReserved then false
  else if r.startupProfileValid = 0 then serviceDesiredSettingsIsZero r.startupProfile
  else
    decide (r.published.state.startupPolicyMode = SERVICE_STARTUP_POLICY_PROFILE) &&
      decide (r.published.state.startupPolicySlot ≠ 0) &&
      serviceDesiredBoolFieldsValid r.startupProfile

/-- The checks of a response before those of its parts. -/
@[mk_iff]
structure ServiceResponse.HeaderValid (r : ServiceResponse) : Prop where
  magic : r.magic = SERVICE_PROTOCOL_MAGIC
  version : r.version = SERVICE_PROTOCOL_VERSION
  status : r.status ≤ SERVICE_STATUS_STALE_STATE
  operationState : r.operationState ≤ SERVICE_OPERATION_OUTCOME_UNKNOWN
  outcomeSeverity : serviceOutcomeSeverityMatchesStatus r.status r.outcomeSeverity
  outcomeSeverityReserved : r.outcomeSeverityReserved = 0
  serviceVersion : serviceWireStringIsTerminated r.serviceVersion
  message : serviceWireStringIsTerminated r.message

instance (r : ServiceResponse) : Decidable r.HeaderValid :=
  decidable_of_iff _ r.headerValid_iff.symm

/-- `validate_service_response_for_ipc`: the canonical form of a response that is accepted. -/
def validateServiceResponseForIpc (r : ServiceResponse) : Option ServiceResponse :=
  if ¬r.HeaderValid then none
  else
    match validateServiceUpdateStateForIpc r.update with
    | none => none
    | some update =>
      let r := { r with update := update }
      if r.status ≠ SERVICE_STATUS_OK && serviceResponsePayloadIsAbsent r then some r
      else
        match validateServiceStateEnvelopeForIpc r.published with
        | none => none
        | some published =>
          let r := { r with published := published }
          if !serviceResponseStartupProfileIsCoherent r then none
          else if r.startupProfileValid ≠ 0 then
            some { r with startupProfile := r.startupProfile.validateForIpc }
          else some r

end GreenCurve.Protocol
