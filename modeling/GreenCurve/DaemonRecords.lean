import GreenCurve.GpuDriver
import GreenCurve.StructLayout

/-! # The daemon's stored records

The state record and the startup record, in their frozen layouts and in the
current one, with the checks, the widening of the old layouts, the load and the
store.  The size of a file selects the layout; the version inside it selects the
meaning of its fields.  A file is here one that was read in full. -/

namespace GreenCurve.Records

/-! ## Layouts -/

inductive FanPointMember where
  | enabled | temperatureC | fanPercent
  deriving DecidableEq

def fanCurvePoint : Layout FanPointMember :=
  [(.enabled, .u8), (.temperatureC, .u32), (.fanPercent, .u32)]

inductive FanCurveMember where
  | points | pollIntervalMs | hysteresisC | zeroRpmEnabled | zeroRpmHysteresisC | zeroRpmReserved
  deriving DecidableEq

def fanCurveConfig : Layout FanCurveMember :=
  [(.points, fanCurvePoint.toCType.array 8), (.pollIntervalMs, .u32), (.hysteresisC, .u32),
    (.zeroRpmEnabled, .u8), (.zeroRpmHysteresisC, .u8), (.zeroRpmReserved, CType.u8.array 2)]

inductive AdapterMember where
  | valid | pciInfoValid | vfReadSupported | vfWriteSupported | vfBestGuess | nvapiIndex
  | nvmlIndex | deviceId | subSystemId | pciRevisionId | extDeviceId | pciDomain | pciBus
  | pciDevice | pciFunction | family | name
  deriving DecidableEq

def gpuAdapterInfo : Layout AdapterMember :=
  [(.valid, .u8), (.pciInfoValid, .u8), (.vfReadSupported, .u8), (.vfWriteSupported, .u8),
    (.vfBestGuess, .u8), (.nvapiIndex, .u32), (.nvmlIndex, .u32), (.deviceId, .u32),
    (.subSystemId, .u32), (.pciRevisionId, .u32), (.extDeviceId, .u32), (.pciDomain, .u32),
    (.pciBus, .u32), (.pciDevice, .u32), (.pciFunction, .u32), (.family, .u32),
    (.name, CType.u8.array 128)]

inductive DesiredMember where
  | hasCurvePoint | curvePointMHz | hasLock | lockCi | lockMHz | lockMode | lockTracksAnchor
  | hasGpuOffset | gpuOffsetMHz | gpuOffsetExcludeLowCount | hasMemOffset | memOffsetMHz
  | hasPowerLimit | powerLimitPct | hasFan | fanAuto | fanMode | fanPercent | fanCurve
  | resetOcBeforeApply | hasXbarOffsetKhz | xbarOffsetKhz | hasXbarMsvddOffsetUv
  | xbarMsvddOffsetUv | hasSysClkOffsetKhz | sysClkOffsetKhz | hasVideoClkOffsetKhz
  | videoClkOffsetKhz | curvePointFromGpuOffset
  deriving DecidableEq

/-- `DesiredSettingsSchema1`. -/
def desiredSettingsSchema1 : Layout DesiredMember :=
  [(.hasCurvePoint, CType.u8.array 128), (.curvePointMHz, CType.u32.array 128), (.hasLock, .u8),
    (.lockCi, .u32), (.lockMHz, .u32), (.lockMode, .u32), (.lockTracksAnchor, .u8),
    (.hasGpuOffset, .u8), (.gpuOffsetMHz, .u32), (.gpuOffsetExcludeLowCount, .u32),
    (.hasMemOffset, .u8), (.memOffsetMHz, .u32), (.hasPowerLimit, .u8), (.powerLimitPct, .u32),
    (.hasFan, .u8), (.fanAuto, .u8), (.fanMode, .u32), (.fanPercent, .u32),
    (.fanCurve, fanCurveConfig.toCType), (.resetOcBeforeApply, .u8), (.hasXbarOffsetKhz, .u8),
    (.xbarOffsetKhz, .u32), (.hasXbarMsvddOffsetUv, .u8), (.xbarMsvddOffsetUv, .u32),
    (.hasSysClkOffsetKhz, .u8), (.sysClkOffsetKhz, .u32), (.hasVideoClkOffsetKhz, .u8),
    (.videoClkOffsetKhz, .u32)]

/-- `DesiredSettingsSchema2`: the provenance of every point is appended. -/
def desiredSettingsSchema2 : Layout DesiredMember :=
  desiredSettingsSchema1 ++ [(.curvePointFromGpuOffset, CType.u8.array 128)]

/-- The live `DesiredSettings`, still laid out as schema 2. -/
def desiredSettings : Layout DesiredMember := desiredSettingsSchema2

inductive StateMember where
  | magic | version | size | state | targetGpu | desired | operationId | operationState
  | targetLocationRole | targetUuid | checksum
  deriving DecidableEq

/-- The members every generation of the state record starts with. -/
def stateHeader (desired : Layout DesiredMember) : Layout StateMember :=
  [(.magic, .u32), (.version, .u32), (.size, .u32), (.state, .u32),
    (.targetGpu, gpuAdapterInfo.toCType), (.desired, desired.toCType)]

def linuxDaemonStateRecordSchema1V1 : Layout StateMember :=
  stateHeader desiredSettingsSchema1 ++ [(.checksum, .u32)]

def linuxDaemonStateRecordSchema1 : Layout StateMember :=
  stateHeader desiredSettingsSchema1 ++
    [(.operationId, .u64), (.operationState, .u32), (.checksum, .u32)]

def linuxDaemonStateRecordSchema2 : Layout StateMember :=
  stateHeader desiredSettingsSchema2 ++
    [(.operationId, .u64), (.operationState, .u32), (.checksum, .u32)]

def linuxDaemonStateRecordSchema3 : Layout StateMember :=
  stateHeader desiredSettingsSchema2 ++
    [(.operationId, .u64), (.operationState, .u32), (.targetLocationRole, .u32),
      (.checksum, .u32)]

def linuxDaemonStateRecord : Layout StateMember :=
  stateHeader desiredSettings ++
    [(.operationId, .u64), (.operationState, .u32), (.targetLocationRole, .u32),
      (.targetUuid, CType.u8.array 96), (.checksum, .u32)]

inductive StartupMember where
  | magic | version | size | mode | profileSlot | reserved | profileName | targetGpu | desired
  | targetLocationRole | targetUuid | checksum
  deriving DecidableEq

/-- The members every generation of the startup record starts with. -/
def startupHeader (desired : Layout DesiredMember) : Layout StartupMember :=
  [(.magic, .u32), (.version, .u32), (.size, .u32), (.mode, .u32), (.profileSlot, .u32),
    (.reserved, .u32), (.profileName, CType.u8.array 64), (.targetGpu, gpuAdapterInfo.toCType),
    (.desired, desired.toCType)]

def linuxDaemonStartupRecordSchema1 : Layout StartupMember :=
  startupHeader desiredSettingsSchema1 ++ [(.checksum, .u32)]

def linuxDaemonStartupRecordSchema2 : Layout StartupMember :=
  startupHeader desiredSettingsSchema2 ++ [(.checksum, .u32)]

def linuxDaemonStartupRecordSchema3 : Layout StartupMember :=
  startupHeader desiredSettingsSchema2 ++ [(.targetLocationRole, .u32), (.checksum, .u32)]

def linuxDaemonStartupRecord : Layout StartupMember :=
  startupHeader desiredSettings ++
    [(.targetLocationRole, .u32), (.targetUuid, CType.u8.array 96), (.checksum, .u32)]

example : desiredSettingsSchema1.size = 836 ∧ desiredSettingsSchema2.size = 964 := by
  decide +kernel

/-- The sizes of the state records that the source asserts; every generation has its own. -/
theorem stateLayout_sizes :
    linuxDaemonStateRecordSchema1V1.size = 1036 ∧ linuxDaemonStateRecordSchema1.size = 1048 ∧
      linuxDaemonStateRecordSchema2.size = 1176 ∧ linuxDaemonStateRecordSchema3.size = 1184 ∧
      linuxDaemonStateRecord.size = 1280 := by decide +kernel

/-- The sizes of the startup records that the source asserts; every generation has its own. -/
theorem startupLayout_sizes :
    linuxDaemonStartupRecordSchema1.size = 1108 ∧ linuxDaemonStartupRecordSchema2.size = 1236 ∧
      linuxDaemonStartupRecordSchema3.size = 1240 ∧ linuxDaemonStartupRecord.size = 1336 := by
  decide +kernel

/-! ## Checks -/

abbrev LINUX_DAEMON_RECORD_PREPARED : UInt32 := 1
abbrev LINUX_DAEMON_RECORD_UNCERTAIN : UInt32 := 3

abbrev LINUX_DAEMON_RECORD_MAGIC : UInt32 := 0x4752434C
abbrev LINUX_DAEMON_RECORD_VERSION : UInt32 := 7
abbrev LINUX_DAEMON_RECORD_PRE_UUID_VERSION : UInt32 := 6
abbrev LINUX_DAEMON_RECORD_PRE_TRUSTED_ROLE_VERSION : UInt32 := 5
abbrev LINUX_DAEMON_RECORD_PRE_LOCATION_ROLE_VERSION : UInt32 := 4
abbrev LINUX_DAEMON_RECORD_PRE_PROVENANCE_VERSION : UInt32 := 3
abbrev LINUX_DAEMON_RECORD_PRE_DISPLAY_MEM_UNITS_VERSION : UInt32 := 2
abbrev LINUX_DAEMON_RECORD_PRE_OPERATION_ID_VERSION : UInt32 := 1

abbrev LINUX_DAEMON_STARTUP_MAGIC : UInt32 := 0x50555347
abbrev LINUX_DAEMON_STARTUP_VERSION : UInt32 := 6
abbrev LINUX_DAEMON_STARTUP_PRE_UUID_VERSION : UInt32 := 5
abbrev LINUX_DAEMON_STARTUP_PRE_TRUSTED_ROLE_VERSION : UInt32 := 4
abbrev LINUX_DAEMON_STARTUP_PRE_LOCATION_ROLE_VERSION : UInt32 := 3
abbrev LINUX_DAEMON_STARTUP_PRE_PROVENANCE_VERSION : UInt32 := 2
abbrev LINUX_DAEMON_STARTUP_PRE_DISPLAY_MEM_UNITS_VERSION : UInt32 := 1
abbrev LINUX_DAEMON_STARTUP_NAME_MAX : Nat := 64

abbrev SERVICE_OPERATION_OUTCOME_UNKNOWN : UInt32 := 4
abbrev SERVICE_STARTUP_POLICY_PROFILE : UInt32 := 2
abbrev SERVICE_STARTUP_POLICY_MODE_COUNT : UInt32 := 3
abbrev CONFIG_NUM_SLOTS : UInt32 := 5

abbrev GPU_LOCATION_ROLE_UNRECORDED : UInt32 := 0
abbrev GPU_LOCATION_ROLE_ADVISORY : UInt32 := 1
abbrev GPU_LOCATION_ROLE_REQUIRED : UInt32 := 2

/-- The role of a record written before the role was stored. -/
abbrev LINUX_DAEMON_LEGACY_LOCATION_ROLE : UInt32 := GPU_LOCATION_ROLE_UNRECORDED

/-- FNV-1a over everything before the checksum. -/
def linuxDaemonRecordHashBytes (bytes : Bytes) : UInt32 :=
  bytes.foldl (fun hash byte => (hash ^^^ byte.toUInt32) * 16777619) 2166136261

/-- The checks of a state record of the layout `l`, its version apart.  What the
layout does not have reads as zero and passes. -/
def stateRecordValidExceptVersion (l : Layout StateMember) (record : Record l) : Bool :=
  record.word .magic == LINUX_DAEMON_RECORD_MAGIC &&
    record.word .size == UInt32.ofNat l.size &&
    decide (LINUX_DAEMON_RECORD_PREPARED ≤ record.word .state) &&
    decide (record.word .state ≤ LINUX_DAEMON_RECORD_UNCERTAIN) &&
    decide (record.word .operationState ≤ SERVICE_OPERATION_OUTCOME_UNKNOWN) &&
    decide (record.word .targetLocationRole ≤ GPU_LOCATION_ROLE_REQUIRED) &&
    record.word .checksum == linuxDaemonRecordHashBytes (record.before .checksum)

/-- The checks of a state record whose version is one from `low` to `high`. -/
def stateRecordValid (l : Layout StateMember) (low high : UInt32) (record : Record l) : Bool :=
  stateRecordValidExceptVersion l record && decide (low ≤ record.word .version) &&
    decide (record.word .version ≤ high)

/-- `linux_daemon_record_valid`. -/
def linuxDaemonRecordValid : Record linuxDaemonStateRecord → Bool :=
  stateRecordValid _ LINUX_DAEMON_RECORD_VERSION LINUX_DAEMON_RECORD_VERSION

/-- `linux_daemon_state_schema1_valid`. -/
def linuxDaemonStateSchema1Valid : Record linuxDaemonStateRecordSchema1 → Bool :=
  stateRecordValid _ LINUX_DAEMON_RECORD_PRE_DISPLAY_MEM_UNITS_VERSION
    LINUX_DAEMON_RECORD_PRE_PROVENANCE_VERSION

/-- `linux_daemon_state_schema1_v1_valid`. -/
def linuxDaemonStateSchema1V1Valid : Record linuxDaemonStateRecordSchema1V1 → Bool :=
  stateRecordValid _ LINUX_DAEMON_RECORD_PRE_OPERATION_ID_VERSION
    LINUX_DAEMON_RECORD_PRE_OPERATION_ID_VERSION

/-- The checks `linux_daemon_state_record_widen_schema2` makes. -/
def linuxDaemonStateSchema2Valid : Record linuxDaemonStateRecordSchema2 → Bool :=
  stateRecordValid _ LINUX_DAEMON_RECORD_PRE_LOCATION_ROLE_VERSION
    LINUX_DAEMON_RECORD_PRE_LOCATION_ROLE_VERSION

/-- The checks `linux_daemon_state_record_widen_schema3` makes. -/
def linuxDaemonStateSchema3Valid : Record linuxDaemonStateRecordSchema3 → Bool :=
  stateRecordValid _ LINUX_DAEMON_RECORD_PRE_TRUSTED_ROLE_VERSION
    LINUX_DAEMON_RECORD_PRE_UUID_VERSION

/-- `service_wire_string_is_terminated`. -/
def serviceWireStringIsTerminated (text : Bytes) : Bool := text.contains 0

/-- A profile policy names a slot and the GPU it may write; any other names neither. -/
def startupPolicyCoherent {l : Layout StartupMember} (record : Record l) : Bool :=
  let target := record.nested gpuAdapterInfo .targetGpu
  if record.word .mode = SERVICE_STARTUP_POLICY_PROFILE then
    decide (1 ≤ record.word .profileSlot) && decide (record.word .profileSlot ≤ CONFIG_NUM_SLOTS) &&
      target.byte .valid != 0 && target.byte .pciInfoValid != 0
  else
    record.word .profileSlot == 0 && target.byte .valid == 0 &&
      record.word .targetLocationRole == GPU_LOCATION_ROLE_UNRECORDED

/-- The checks of a startup record of the layout `l`, its version apart. -/
def startupRecordValidExceptVersion (l : Layout StartupMember) (record : Record l) : Bool :=
  record.word .magic == LINUX_DAEMON_STARTUP_MAGIC &&
    record.word .size == UInt32.ofNat l.size &&
    decide (record.word .mode < SERVICE_STARTUP_POLICY_MODE_COUNT) &&
    decide (record.word .targetLocationRole ≤ GPU_LOCATION_ROLE_REQUIRED) &&
    record.word .checksum == linuxDaemonRecordHashBytes (record.before .checksum) &&
    serviceWireStringIsTerminated (record.get .profileName) && startupPolicyCoherent record

/-- The checks of a startup record whose version is one from `low` to `high`. -/
def startupRecordValid (l : Layout StartupMember) (low high : UInt32) (record : Record l) : Bool :=
  startupRecordValidExceptVersion l record && decide (low ≤ record.word .version) &&
    decide (record.word .version ≤ high)

/-- `linux_daemon_startup_valid`. -/
def linuxDaemonStartupValid : Record linuxDaemonStartupRecord → Bool :=
  startupRecordValid _ LINUX_DAEMON_STARTUP_VERSION LINUX_DAEMON_STARTUP_VERSION

/-- `linux_daemon_startup_schema1_valid`. -/
def linuxDaemonStartupSchema1Valid : Record linuxDaemonStartupRecordSchema1 → Bool :=
  startupRecordValid _ LINUX_DAEMON_STARTUP_PRE_DISPLAY_MEM_UNITS_VERSION
    LINUX_DAEMON_STARTUP_PRE_PROVENANCE_VERSION

/-- The checks `linux_daemon_startup_widen_schema2` makes. -/
def linuxDaemonStartupSchema2Valid : Record linuxDaemonStartupRecordSchema2 → Bool :=
  startupRecordValid _ LINUX_DAEMON_STARTUP_PRE_LOCATION_ROLE_VERSION
    LINUX_DAEMON_STARTUP_PRE_LOCATION_ROLE_VERSION

/-- The checks `linux_daemon_startup_widen_schema3` makes. -/
def linuxDaemonStartupSchema3Valid : Record linuxDaemonStartupRecordSchema3 → Bool :=
  startupRecordValid _ LINUX_DAEMON_STARTUP_PRE_TRUSTED_ROLE_VERSION
    LINUX_DAEMON_STARTUP_PRE_UUID_VERSION

/-! ## Construction -/

/-- `linux_gpu_uuid_valid`. -/
def linuxGpuUuidValid (text : Bytes) : Bool :=
  let hex (c : UInt8) : Bool := (decide (48 ≤ c) && decide (c ≤ 57)) || (decide (97 ≤ c) && decide (c ≤ 102))
  text.take 4 == [71, 80, 85, 45] &&
    (List.range' 4 36).all (fun i =>
      let c := text.getD i 0
      if i = 12 ∨ i = 17 ∨ i = 22 ∨ i = 27 then c == 45 else hex c) &&
    text.getD 40 0 == 0

/-- `linux_gpu_uuid_retain`. -/
def linuxGpuUuidRetain (observed previous : Option Bytes) : Bytes :=
  match observed.filter linuxGpuUuidValid, previous.filter linuxGpuUuidValid with
  | some uuid, _ => uuid
  | none, some uuid => uuid
  | none, none => List.replicate 96 0

/-- `linux_daemon_record_initialize`. -/
def linuxDaemonRecordInitialize (state : UInt32) (target : Bytes) (desired : Record desiredSettings)
    (operationId : Bytes) (operationState role : UInt32) (uuid : Option Bytes) :
    Record linuxDaemonStateRecord :=
  ((Record.zero linuxDaemonStateRecord)
    |>.set .magic (le32 LINUX_DAEMON_RECORD_MAGIC)
    |>.set .version (le32 LINUX_DAEMON_RECORD_VERSION)
    |>.set .size (le32 (UInt32.ofNat linuxDaemonStateRecord.size))
    |>.set .state (le32 state)
    |>.set .targetGpu target
    |>.set .desired desired.bytes
    |>.set .operationId operationId
    |>.set .operationState (le32 operationState)
    |>.set .targetLocationRole (le32 role)
    |>.set .targetUuid (linuxGpuUuidRetain uuid none)).sealed linuxDaemonRecordHashBytes .checksum

/-- A C string: what stands before the terminator. -/
def cString (text : Bytes) : Bytes := text.takeWhile (· != 0)

/-- What a profile policy owns. -/
def fillProfile (record : Record linuxDaemonStartupRecord) (slot : UInt32) (name target : Bytes)
    (desired : Record desiredSettings) (role : UInt32) (uuid : Option Bytes) :
    Record linuxDaemonStartupRecord :=
  record
    |>.set .profileSlot (le32 slot)
    |>.set .profileName ((cString name).take (LINUX_DAEMON_STARTUP_NAME_MAX - 1))
    |>.set .targetLocationRole (le32 role)
    |>.set .targetUuid (linuxGpuUuidRetain uuid none)
    |>.set .targetGpu target
    |>.set .desired desired.bytes

/-- `linux_daemon_startup_initialize`. -/
def linuxDaemonStartupInitialize (mode slot : UInt32) (name target : Bytes)
    (desired : Record desiredSettings) (role : UInt32) (uuid : Option Bytes) :
    Record linuxDaemonStartupRecord :=
  let record := (Record.zero linuxDaemonStartupRecord)
    |>.set .magic (le32 LINUX_DAEMON_STARTUP_MAGIC)
    |>.set .version (le32 LINUX_DAEMON_STARTUP_VERSION)
    |>.set .size (le32 (UInt32.ofNat linuxDaemonStartupRecord.size))
    |>.set .mode (le32 mode)
  (if mode = SERVICE_STARTUP_POLICY_PROFILE then
    fillProfile record slot name target desired role uuid
  else record).sealed linuxDaemonRecordHashBytes .checksum

/-! ## Widening -/

/-- The settings of the layout `l`, member by member; what it does not have is
zero. -/
def desiredSettingsWiden (l : Layout DesiredMember) (settings : Record l) :
    Record desiredSettings :=
  (Record.zero desiredSettings).copy (l.map Prod.fst) settings

/-- `desired_settings_widen_from_schema1`. -/
def desiredSettingsWidenFromSchema1 : Record desiredSettingsSchema1 → Record desiredSettings :=
  desiredSettingsWiden desiredSettingsSchema1

/-- `desired_settings_widen_schema2`. -/
def desiredSettingsWidenSchema2 : Record desiredSettingsSchema2 → Record desiredSettings :=
  desiredSettingsWiden desiredSettingsSchema2

/-- A member that is an `int`. -/
def int {F : Type} [DecidableEq F] {l : Layout F} (f : F) (record : Record l) : Int :=
  (record.word f).toInt32.toInt

/-- `linux_daemon_migrate_desired_mem_units_to_display`. -/
def linuxDaemonMigrateDesiredMemUnitsToDisplay (desired : Record desiredSettings) :
    Record desiredSettings :=
  if desired.byte .hasMemOffset = 0 then desired
  else desired.set .memOffsetMHz
    (le32 (Int32.ofInt (Backend.memDisplayMHz (int .memOffsetMHz desired))).toUInt32)

def migrateUnits (effective : Bool) (desired : Record desiredSettings) : Record desiredSettings :=
  if effective then linuxDaemonMigrateDesiredMemUnitsToDisplay desired else desired

/-- A state record of the layout `l`, under the role `role`; `effective` says that
its memory offset is in effective MHz.  A layout without an operation has none. -/
def widenState {l : Layout StateMember} (record : Record l) (desired : Record desiredSettings)
    (effective : Bool) (role : UInt32) : Record linuxDaemonStateRecord :=
  linuxDaemonRecordInitialize (record.word .state) (record.get .targetGpu)
    (migrateUnits effective desired) (record.get .operationId) (record.word .operationState) role none

/-- `linux_daemon_state_record_widen_schema1_v1`. -/
def linuxDaemonStateRecordWidenSchema1V1 (record : Record linuxDaemonStateRecordSchema1V1) :
    Option (Record linuxDaemonStateRecord) :=
  if !linuxDaemonStateSchema1V1Valid record then none
  else some (widenState record
    (desiredSettingsWidenFromSchema1 (record.nested desiredSettingsSchema1 .desired)) true
    LINUX_DAEMON_LEGACY_LOCATION_ROLE)

/-- `linux_daemon_state_record_widen_schema1`. -/
def linuxDaemonStateRecordWidenSchema1 (record : Record linuxDaemonStateRecordSchema1) :
    Option (Record linuxDaemonStateRecord) :=
  if !linuxDaemonStateSchema1Valid record then none
  else some (widenState record
    (desiredSettingsWidenFromSchema1 (record.nested desiredSettingsSchema1 .desired))
    (decide (record.word .version ≤ LINUX_DAEMON_RECORD_PRE_DISPLAY_MEM_UNITS_VERSION))
    LINUX_DAEMON_LEGACY_LOCATION_ROLE)

/-- `linux_daemon_state_record_widen_schema2`. -/
def linuxDaemonStateRecordWidenSchema2 (record : Record linuxDaemonStateRecordSchema2) :
    Option (Record linuxDaemonStateRecord) :=
  if !linuxDaemonStateSchema2Valid record then none
  else (some (widenState record
    (desiredSettingsWidenSchema2 (record.nested desiredSettingsSchema2 .desired)) false
    LINUX_DAEMON_LEGACY_LOCATION_ROLE)).filter linuxDaemonRecordValid

/-- `linux_daemon_pre_trusted_role_reread`. -/
def linuxDaemonPreTrustedRoleReread (stored : UInt32) : UInt32 :=
  if stored = GPU_LOCATION_ROLE_ADVISORY then GPU_LOCATION_ROLE_ADVISORY
  else LINUX_DAEMON_LEGACY_LOCATION_ROLE

/-- The role of a record that stores one: the first version that did is re-read. -/
def storedRole (preTrusted version role : UInt32) : UInt32 :=
  if version = preTrusted then linuxDaemonPreTrustedRoleReread role else role

/-- `linux_daemon_state_record_widen_schema3`. -/
def linuxDaemonStateRecordWidenSchema3 (record : Record linuxDaemonStateRecordSchema3) :
    Option (Record linuxDaemonStateRecord) :=
  if !linuxDaemonStateSchema3Valid record then none
  else (some (widenState record
    (desiredSettingsWidenSchema2 (record.nested desiredSettingsSchema2 .desired)) false
    (storedRole LINUX_DAEMON_RECORD_PRE_TRUSTED_ROLE_VERSION (record.word .version)
      (record.word .targetLocationRole)))).filter linuxDaemonRecordValid

/-- A startup record of the layout `l`. -/
def widenStartup {l : Layout StartupMember} (record : Record l) (desired : Record desiredSettings)
    (effective : Bool) (role : UInt32) : Record linuxDaemonStartupRecord :=
  linuxDaemonStartupInitialize (record.word .mode) (record.word .profileSlot)
    (record.get .profileName) (record.get .targetGpu) (migrateUnits effective desired) role none

/-- `linux_daemon_startup_widen_schema1`. -/
def linuxDaemonStartupWidenSchema1 (record : Record linuxDaemonStartupRecordSchema1) :
    Option (Record linuxDaemonStartupRecord) :=
  if !linuxDaemonStartupSchema1Valid record then none
  else some (widenStartup record
    (desiredSettingsWidenFromSchema1 (record.nested desiredSettingsSchema1 .desired))
    (decide (record.word .version ≤ LINUX_DAEMON_STARTUP_PRE_DISPLAY_MEM_UNITS_VERSION))
    LINUX_DAEMON_LEGACY_LOCATION_ROLE)

/-- `linux_daemon_startup_widen_schema2`. -/
def linuxDaemonStartupWidenSchema2 (record : Record linuxDaemonStartupRecordSchema2) :
    Option (Record linuxDaemonStartupRecord) :=
  if !linuxDaemonStartupSchema2Valid record then none
  else (some (widenStartup record
    (desiredSettingsWidenSchema2 (record.nested desiredSettingsSchema2 .desired)) false
    LINUX_DAEMON_LEGACY_LOCATION_ROLE)).filter linuxDaemonStartupValid

/-- `linux_daemon_startup_widen_schema3`. -/
def linuxDaemonStartupWidenSchema3 (record : Record linuxDaemonStartupRecordSchema3) :
    Option (Record linuxDaemonStartupRecord) :=
  if !linuxDaemonStartupSchema3Valid record then none
  else (some (widenStartup record
    (desiredSettingsWidenSchema2 (record.nested desiredSettingsSchema2 .desired)) false
    (storedRole LINUX_DAEMON_STARTUP_PRE_TRUSTED_ROLE_VERSION (record.word .version)
      (record.word .targetLocationRole)))).filter linuxDaemonStartupValid

/-! ## Load and store -/

inductive LinuxDaemonRecordGeneration where
  | current | schema1 | schema2 | schema1V1 | schema3 | preTrustedRole
  deriving DecidableEq

/-- The layout is selected by the size of the file. -/
def decodeState (content : Bytes) :
    Option (Record linuxDaemonStateRecord × LinuxDaemonRecordGeneration) :=
  if let some record := Record.ofBytes linuxDaemonStateRecord content then some (record, .current)
  else if let some legacy := Record.ofBytes linuxDaemonStateRecordSchema3 content then
    (linuxDaemonStateRecordWidenSchema3 legacy).map (·,
      if legacy.word .version = LINUX_DAEMON_RECORD_PRE_TRUSTED_ROLE_VERSION then .preTrustedRole
      else .schema3)
  else if let some legacy := Record.ofBytes linuxDaemonStateRecordSchema2 content then
    (linuxDaemonStateRecordWidenSchema2 legacy).map (·, .schema2)
  else if let some legacy := Record.ofBytes linuxDaemonStateRecordSchema1 content then
    (linuxDaemonStateRecordWidenSchema1 legacy).map (·, .schema1)
  else if let some legacy := Record.ofBytes linuxDaemonStateRecordSchema1V1 content then
    (linuxDaemonStateRecordWidenSchema1V1 legacy).map (·, .schema1V1)
  else none

/-- `linux_daemon_state_load`, of a file that was read: `none` removes it.
`protectedRegular`: it is a private regular file of root. -/
def linuxDaemonStateLoad (protectedRegular : Bool) (content : Bytes) :
    Option (Record linuxDaemonStateRecord × LinuxDaemonRecordGeneration) :=
  if !protectedRegular then none
  else (decodeState content).filter fun loaded => linuxDaemonRecordValid loaded.1

/-- `linux_daemon_state_store`: the bytes written, unless the record is refused. -/
def linuxDaemonStateStore (record : Record linuxDaemonStateRecord) : Option Bytes :=
  if !linuxDaemonRecordValid record then none else some record.bytes

def decodeStartup (content : Bytes) : Option (Record linuxDaemonStartupRecord) :=
  if let some record := Record.ofBytes linuxDaemonStartupRecord content then some record
  else if let some legacy := Record.ofBytes linuxDaemonStartupRecordSchema3 content then
    linuxDaemonStartupWidenSchema3 legacy
  else if let some legacy := Record.ofBytes linuxDaemonStartupRecordSchema2 content then
    linuxDaemonStartupWidenSchema2 legacy
  else if let some legacy := Record.ofBytes linuxDaemonStartupRecordSchema1 content then
    linuxDaemonStartupWidenSchema1 legacy
  else none

/-- `linux_daemon_startup_load`, of a file that was read: `none` is a corrupt one. -/
def linuxDaemonStartupLoad (protectedRegular : Bool) (content : Bytes) :
    Option (Record linuxDaemonStartupRecord) :=
  if !protectedRegular then none
  else (decodeStartup content).filter linuxDaemonStartupValid

/-- `linux_daemon_startup_store`. -/
def linuxDaemonStartupStore (record : Record linuxDaemonStartupRecord) : Option Bytes :=
  if !linuxDaemonStartupValid record then none else some record.bytes

end GreenCurve.Records
