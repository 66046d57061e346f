import GreenCurve.TrustBoundary

/-! # Records of the service protocol

What a client and the service send each other, field by field, as the bytes say it: a flag is
any byte, an enumeration any number, and a text is the whole buffer it stands in, with or
without an end.  Every field of a record that is not given is zero. -/

namespace GreenCurve.Protocol

abbrev MAX_GPU_ADAPTERS : Nat := 8
abbrev MAX_GPU_FANS : Nat := 8
abbrev CONFIG_NUM_SLOTS : UInt32 := 5
abbrev GC_REQUEST_PATH_MAX : Nat := 260
abbrev SERVICE_UPDATE_VERSION_CHARS : Nat := 24
abbrev SERVICE_AUTO_APPLY_FAILURE_DETAIL_CHARS : Nat := 184

/-- A text in a buffer of fixed size. -/
abbrev Chars (n : Nat) := Fin n → UInt8

/-! ## Enumerations -/

abbrev SERVICE_PROTOCOL_MAGIC : UInt32 := 0x47535643
abbrev SERVICE_PROTOCOL_VERSION : UInt32 := 29

abbrev SERVICE_REQUEST_FLAG_INTERACTIVE : UInt32 := 0x00000001
abbrev SERVICE_REQUEST_FLAG_SHARED_SLOT : UInt32 := 0x40000000
abbrev SERVICE_REQUEST_SHARED_SLOT_SHIFT : UInt32 := 8
abbrev SERVICE_REQUEST_SHARED_SLOT_MASK : UInt32 := 0xFF

abbrev SERVICE_CMD_PING : UInt32 := 1
abbrev SERVICE_CMD_GET_SNAPSHOT : UInt32 := 2
abbrev SERVICE_CMD_GET_TELEMETRY : UInt32 := 3
abbrev SERVICE_CMD_APPLY : UInt32 := 4
abbrev SERVICE_CMD_RESET : UInt32 := 5
abbrev SERVICE_CMD_LOGON_HANDOFF : UInt32 := 10
abbrev SERVICE_CMD_GET_OPERATION_RESULT : UInt32 := 11
abbrev SERVICE_CMD_SET_STARTUP_POLICY : UInt32 := 13
abbrev SERVICE_CMD_REFRESH_STARTUP_PROFILE : UInt32 := 14
abbrev SERVICE_CMD_RESUME_RESTORE : UInt32 := 15
abbrev SERVICE_CMD_GET_UPDATE_STATE : UInt32 := 16
abbrev SERVICE_CMD_CHECK_FOR_UPDATE : UInt32 := 17
abbrev SERVICE_CMD_INSTALL_UPDATE : UInt32 := 18
abbrev SERVICE_CMD_SET_UPDATE_POLICY : UInt32 := 19

abbrev SERVICE_STARTUP_POLICY_PROFILE : UInt32 := 2
abbrev SERVICE_STARTUP_POLICY_MODE_COUNT : UInt32 := 3

abbrev SERVICE_OPERATION_OUTCOME_UNKNOWN : UInt32 := 4

abbrev SERVICE_APPLY_ORIGIN_GUI : UInt32 := 1
abbrev SERVICE_APPLY_ORIGIN_CLI : UInt32 := 2
abbrev SERVICE_APPLY_ORIGIN_HOTKEY : UInt32 := 3
abbrev SERVICE_APPLY_ORIGIN_TRAY : UInt32 := 4
abbrev SERVICE_APPLY_ORIGIN_APP_LAUNCH : UInt32 := 5
abbrev SERVICE_APPLY_ORIGIN_FOREGROUND : UInt32 := 6
abbrev SERVICE_APPLY_ORIGIN_LOGON : UInt32 := 7
abbrev SERVICE_APPLY_ORIGIN_DRIVER_RECOVERY : UInt32 := 9

abbrev SERVICE_PROFILE_SOURCE_NONE : UInt32 := 0
abbrev SERVICE_PROFILE_SOURCE_SHARED_SLOT : UInt32 := 2
abbrev SERVICE_PROFILE_SOURCE_AD_HOC : UInt32 := 4

abbrev SERVICE_LIFECYCLE_TRIGGER_NONE : UInt32 := 0
abbrev SERVICE_LIFECYCLE_TRIGGER_DRIVER_RECOVERY : UInt32 := 4
abbrev SERVICE_LIFECYCLE_TRIGGER_DAEMON_START : UInt32 := 5

abbrev SERVICE_LIFECYCLE_RESULT_NONE : UInt32 := 0
abbrev SERVICE_LIFECYCLE_RESULT_FAILED : UInt32 := 8

abbrev SERVICE_AUTO_RESTORE_LOCKOUT_AUTOMATIC_APPLY_FAILED : UInt32 := 3
abbrev SERVICE_AUTO_RESTORE_LOCKOUT_MAX : UInt32 := 4

abbrev SERVICE_STATUS_OK : UInt32 := 0
abbrev SERVICE_STATUS_STALE_STATE : UInt32 := 3

abbrev SERVICE_OUTCOME_SEVERITY_SUCCESS : UInt32 := 0
abbrev SERVICE_OUTCOME_SEVERITY_WARNING : UInt32 := 1
abbrev SERVICE_OUTCOME_SEVERITY_ERROR : UInt32 := 2

abbrev SERVICE_GPU_PHASE_READY : UInt32 := 4
abbrev SERVICE_GPU_PHASE_DEGRADED : UInt32 := 5

abbrev SERVICE_STATE_SECTION_ADAPTER_IDENTITY : UInt32 := 1
abbrev SERVICE_STATE_SECTION_CURVE_TOPOLOGY : UInt32 := 2
abbrev SERVICE_STATE_SECTION_APPLIED_CONTROLS : UInt32 := 4
abbrev SERVICE_STATE_SECTION_FAN_TELEMETRY : UInt32 := 8
abbrev SERVICE_STATE_SECTION_ACTIVE_INTENT : UInt32 := 16

abbrev SERVICE_STATE_SECTION_ALL : UInt32 :=
  SERVICE_STATE_SECTION_ADAPTER_IDENTITY ||| SERVICE_STATE_SECTION_CURVE_TOPOLOGY |||
    SERVICE_STATE_SECTION_APPLIED_CONTROLS ||| SERVICE_STATE_SECTION_FAN_TELEMETRY |||
    SERVICE_STATE_SECTION_ACTIVE_INTENT

abbrev SERVICE_STATE_SECTION_READY_REQUIRED : UInt32 :=
  SERVICE_STATE_SECTION_ADAPTER_IDENTITY ||| SERVICE_STATE_SECTION_CURVE_TOPOLOGY |||
    SERVICE_STATE_SECTION_APPLIED_CONTROLS ||| SERVICE_STATE_SECTION_ACTIVE_INTENT

abbrev SERVICE_MUTATION_DOMAIN_RESET_BASELINE : UInt32 := 1
abbrev SERVICE_MUTATION_DOMAIN_GPU_OFFSET : UInt32 := 2
abbrev SERVICE_MUTATION_DOMAIN_MEM_OFFSET : UInt32 := 4
abbrev SERVICE_MUTATION_DOMAIN_POWER : UInt32 := 8
abbrev SERVICE_MUTATION_DOMAIN_VF_CURVE : UInt32 := 16
abbrev SERVICE_MUTATION_DOMAIN_LOCK : UInt32 := 32
abbrev SERVICE_MUTATION_DOMAIN_FAN : UInt32 := 64
abbrev SERVICE_MUTATION_DOMAIN_XBAR : UInt32 := 128
abbrev SERVICE_MUTATION_DOMAIN_SYS_CLK : UInt32 := 256
abbrev SERVICE_MUTATION_DOMAIN_VIDEO_CLK : UInt32 := 512
abbrev SERVICE_MUTATION_DOMAIN_ALL : UInt32 := 0x3FF

abbrev SERVICE_GPU_HEALTH_STATE_UNCERTAIN : UInt32 := 11
abbrev SERVICE_GPU_ARCH_SOURCE_FUTURE_GUESS : UInt32 := 4
abbrev SERVICE_GPU_CAPABILITY_PACKED_MASK : UInt32 := 0xFFFFF
abbrev SERVICE_GPU_MEMORY_TOPOLOGY_MAX : UInt8 := 2

abbrev GPU_FAMILY_UNKNOWN : Int := 0
abbrev GPU_FAMILY_BLACKWELL : Int := 5
abbrev LOCK_MODE_NONE : Int := 0
abbrev LOCK_MODE_FLATTEN : Int := 1
abbrev LOCK_MODE_HARD : Int := 2
abbrev FAN_MODE_AUTO : Int := 0
abbrev FAN_MODE_CURVE : Int := 2

abbrev SERVICE_UPDATE_PHASE_FAILED : UInt32 := 6
abbrev GC_UPDATE_DECISION_NO_ASSET : UInt32 := 4
abbrev GC_UPDATE_AUTO_CHECK_ON : UInt32 := 2
abbrev GC_UPDATE_INTERVAL_MIN_SECONDS : UInt32 := 3600
abbrev GC_UPDATE_INTERVAL_MAX_SECONDS : UInt32 := 2592000
abbrev GC_UPDATE_INSTALL_ALREADY_RUNNING : UInt32 := 7
abbrev GC_UPDATE_CHANNEL_REGRESSED : UInt8 := 2

/-! ## Records -/

/-- `GpuAdapterInfo`. -/
structure GpuAdapterInfo where
  valid : UInt8 := 0
  pciInfoValid : UInt8 := 0
  vfReadSupported : UInt8 := 0
  vfWriteSupported : UInt8 := 0
  vfBestGuess : UInt8 := 0
  nvapiIndex : UInt32 := 0
  nvmlIndex : UInt32 := 0
  deviceId : UInt32 := 0
  subSystemId : UInt32 := 0
  pciRevisionId : UInt32 := 0
  extDeviceId : UInt32 := 0
  pciDomain : UInt32 := 0
  pciBus : UInt32 := 0
  pciDevice : UInt32 := 0
  pciFunction : UInt32 := 0
  family : Int := 0
  name : Chars 128 := fun _ => 0

/-- `ControlState`. -/
structure ControlState where
  valid : UInt8 := 0
  hasGpuOffset : UInt8 := 0
  gpuOffsetReadbackValid : UInt8 := 0
  gpuOffsetMHz : Int := 0
  gpuOffsetExcludeLowCount : Int := 0
  hasMemOffset : UInt8 := 0
  memOffsetReadbackValid : UInt8 := 0
  memOffsetMHz : Int := 0
  hasPowerLimit : UInt8 := 0
  powerLimitReadbackValid : UInt8 := 0
  powerLimitPct : Int := 0
  hasFan : UInt8 := 0
  fanPolicyReadbackValid : UInt8 := 0
  fanTargetReadbackValid : UInt8 := 0
  fanMode : Int := 0
  fanFixedPercent : Int := 0
  fanCurrentPercent : Int := 0
  fanCurrentTemperatureC : Int := 0
  fanCurve : RawFanCurve := {}
  hasXbarOffset : UInt8 := 0
  xbarOffsetReadbackValid : UInt8 := 0
  xbarOffsetKhz : Int := 0
  hasXbarMsvddOffset : UInt8 := 0
  xbarMsvddOffsetReadbackValid : UInt8 := 0
  xbarMsvddOffsetUv : Int := 0
  hasSysClkOffset : UInt8 := 0
  sysClkOffsetReadbackValid : UInt8 := 0
  sysClkOffsetKhz : Int := 0
  hasVideoClkOffset : UInt8 := 0
  videoClkOffsetReadbackValid : UInt8 := 0
  videoClkOffsetKhz : Int := 0

/-- `ServiceGpuHealth`. -/
structure ServiceGpuHealth where
  reason : UInt32 := 0
  driverStatus : Int := 0
  architectureSource : UInt32 := 0
  availableMutationDomains : UInt32 := 0
  vfSnapshotFresh : UInt8 := 0
  recoveryAttempted : UInt8 := 0
  recoverySucceeded : UInt8 := 0
  capabilityMemoryTopology : UInt8 := 0
  capabilityDomainsPacked : UInt32 := 0
  detail : Chars 192 := fun _ => 0

/-- `ServiceAutoApplyFailure`. -/
structure ServiceAutoApplyFailure where
  trigger : UInt32 := 0
  coreRecovered : UInt8 := 0
  reserved : Fin 3 → UInt8 := fun _ => 0
  detail : Chars SERVICE_AUTO_APPLY_FAILURE_DETAIL_CHARS := fun _ => 0

/-- `VFCurvePoint`. -/
structure VFCurvePoint where
  freq_kHz : UInt32 := 0
  volt_uV : UInt32 := 0

/-- `ServiceSnapshot`. -/
structure ServiceSnapshot where
  initialized : UInt8 := 0
  loaded : UInt8 := 0
  fanSupported : UInt8 := 0
  fanRangeKnown : UInt8 := 0
  fanIsAuto : UInt8 := 0
  fanCurveRuntimeActive : UInt8 := 0
  fanFixedRuntimeActive : UInt8 := 0
  gpuOffsetRangeKnown : UInt8 := 0
  memOffsetRangeKnown : UInt8 := 0
  curveOffsetRangeKnown : UInt8 := 0
  gpuTemperatureValid : UInt8 := 0
  vfReadSupported : UInt8 := 0
  vfWriteSupported : UInt8 := 0
  vfBestGuess : UInt8 := 0
  hasLock : UInt8 := 0
  lockCi : Int := 0
  lockMHz : UInt32 := 0
  lockMode : Int := 0
  lockTracksAnchor : UInt8 := 0
  adapterCount : UInt32 := 0
  selectedAdapterIndex : UInt32 := 0
  selectedAdapterOrdinalFallback : UInt8 := 0
  adapters : Fin MAX_GPU_ADAPTERS → GpuAdapterInfo := fun _ => {}
  gpuFamily : Int := 0
  numPopulated : Int := 0
  gpuClockOffsetkHz : Int := 0
  memClockOffsetkHz : Int := 0
  gpuClockOffsetMinMHz : Int := 0
  gpuClockOffsetMaxMHz : Int := 0
  memOffsetMinMHz : Int := 0
  memOffsetMaxMHz : Int := 0
  curveOffsetMinkHz : Int := 0
  curveOffsetMaxkHz : Int := 0
  powerLimitPct : Int := 0
  powerLimitDefaultmW : Int := 0
  powerLimitCurrentmW : Int := 0
  powerLimitMinmW : Int := 0
  powerLimitMaxmW : Int := 0
  appliedGpuOffsetMHz : Int := 0
  appliedGpuOffsetExcludeLowCount : Int := 0
  lastApplyUsedGpuOffset : UInt8 := 0
  activeFanMode : Int := 0
  activeFanFixedPercent : Int := 0
  gpuTemperatureC : Int := 0
  fanCount : UInt32 := 0
  fanMinPct : UInt32 := 0
  fanMaxPct : UInt32 := 0
  fanPercent : Fin MAX_GPU_FANS → UInt32 := fun _ => 0
  fanTargetPercent : Fin MAX_GPU_FANS → UInt32 := fun _ => 0
  fanRpm : Fin MAX_GPU_FANS → UInt32 := fun _ => 0
  fanPolicy : Fin MAX_GPU_FANS → UInt32 := fun _ => 0
  fanControlSignal : Fin MAX_GPU_FANS → UInt32 := fun _ => 0
  fanTargetMask : Fin MAX_GPU_FANS → UInt32 := fun _ => 0
  curve : VfPoint → VFCurvePoint := fun _ => {}
  freqOffsets : VfPoint → Int := fun _ => 0
  activeFanCurve : RawFanCurve := {}
  gpuName : Chars 256 := fun _ => 0
  ownerUser : Chars 256 := fun _ => 0
  ownerSessionId : UInt32 := 0
  ownerUtcMs : UInt64 := 0
  serviceInRecovery : UInt8 := 0
  lastRecoveryTickMs : UInt64 := 0
  serviceReapplyInProgress : UInt8 := 0
  activeProfileSource : UInt32 := 0
  activeProfileSlot : UInt32 := 0
  lastLifecycleTrigger : UInt32 := 0
  lastLifecycleResult : UInt32 := 0
  autoRestoreLockoutReason : UInt32 := 0
  xbarSupported : UInt8 := 0
  xbarOffsetReadbackValid : UInt8 := 0
  xbarOffsetKhz : Int := 0
  xbarMsvddOffsetReadbackValid : UInt8 := 0
  xbarMsvddOffsetUv : Int := 0
  xbarMeasuredClockKhz : UInt32 := 0
  xbarMeasuredVoltageUv : UInt32 := 0
  sysClkSupported : UInt8 := 0
  sysClkOffsetReadbackValid : UInt8 := 0
  sysClkOffsetKhz : Int := 0
  sysClkMeasuredClockKhz : UInt32 := 0
  videoClkSupported : UInt8 := 0
  videoClkOffsetReadbackValid : UInt8 := 0
  videoClkOffsetKhz : Int := 0
  videoClkMeasuredClockKhz : UInt32 := 0
  health : ServiceGpuHealth := {}
  autoApplyFailure : ServiceAutoApplyFailure := {}

/-- `ServiceRequest`. -/
structure ServiceRequest where
  magic : UInt32 := 0
  version : UInt32 := 0
  command : UInt32 := 0
  flags : UInt32 := 0
  callerPid : UInt32 := 0
  callerSessionId : UInt32 := 0
  resetOcBeforeApply : UInt32 := 0
  applyOrigin : UInt32 := 0
  profileSource : UInt32 := 0
  profileSlot : UInt32 := 0
  operationId : UInt64 := 0
  expectedServiceInstanceId : UInt64 := 0
  expectedGpuGeneration : UInt64 := 0
  expectedTopologySignature : UInt64 := 0
  startupMode : UInt32 := 0
  updateAutoCheck : UInt32 := 0
  updateIntervalSeconds : UInt32 := 0
  targetGpu : GpuAdapterInfo := {}
  desired : RawSettings := {}
  source : Chars 64 := fun _ => 0
  path : Chars GC_REQUEST_PATH_MAX := fun _ => 0

/-- `ServiceStateEnvelope`. -/
structure ServiceStateEnvelope where
  serviceInstanceId : UInt64 := 0
  stateRevision : UInt64 := 0
  gpuGeneration : UInt64 := 0
  topologySignature : UInt64 := 0
  gpuPhase : UInt32 := 0
  validSections : UInt32 := 0
  startupPolicyMode : UInt32 := 0
  startupPolicySlot : UInt32 := 0
  activeDesiredValid : UInt8 := 0
  reservedBool : Fin 7 → UInt8 := fun _ => 0

/-- The four records that are validated together. -/
structure PublishedState where
  state : ServiceStateEnvelope := {}
  snapshot : ServiceSnapshot := {}
  desired : RawSettings := {}
  controlState : ControlState := {}

/-- `ServiceUpdateState`. -/
structure ServiceUpdateState where
  phase : UInt32 := 0
  decision : UInt32 := 0
  autoCheck : UInt32 := 0
  intervalSeconds : UInt32 := 0
  consecutiveFailures : UInt32 := 0
  lastRefusal : UInt32 := 0
  lastCheckUnix : UInt64 := 0
  availableBytes : UInt64 := 0
  availableVersion : Chars SERVICE_UPDATE_VERSION_CHARS := fun _ => 0
  installedVersion : Chars SERVICE_UPDATE_VERSION_CHARS := fun _ => 0
  packageStaged : UInt8 := 0
  packageVerified : UInt8 := 0
  installRunning : UInt8 := 0
  isInstalledCopy : UInt8 := 0
  workerRunning : UInt8 := 0
  guiShutdownRequested : UInt8 := 0
  channelState : UInt8 := 0
  updateReserved : Fin 1 → UInt8 := fun _ => 0
  detail : Chars 256 := fun _ => 0

/-- `ServiceResponse`, with the four records of the state in one. -/
structure ServiceResponse where
  magic : UInt32 := 0
  version : UInt32 := 0
  status : UInt32 := 0
  servicePid : UInt32 := 0
  serviceBuildNumber : UInt32 := 0
  operationState : UInt32 := 0
  outcomeSeverity : UInt32 := 0
  outcomeSeverityReserved : UInt32 := 0
  operationId : UInt64 := 0
  serviceVersion : Chars 32 := fun _ => 0
  published : PublishedState := {}
  startupProfile : RawSettings := {}
  startupProfileValid : UInt8 := 0
  startupProfileReserved : Fin 7 → UInt8 := fun _ => 0
  update : ServiceUpdateState := {}
  message : Chars 512 := fun _ => 0

end GreenCurve.Protocol
