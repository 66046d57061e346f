import GreenCurve.ClockCeiling
import GreenCurve.CrashProgram
import GreenCurve.CurveTargets
import GreenCurve.FanCurve

/-! # The GPU driver as the Linux backend sees it

One register for each value the backend can write.  A setter that the driver
accepts sets its registers exactly; one it refuses may leave anything in them, and
nothing elsewhere.  The locked-clock calls leave no register that can be read
back, so they are known by the trace alone. -/

namespace GreenCurve.Backend

inductive Register where
  | gpuOffset | memOffset | power | vf (ci : VfPoint) | xbar | msvdd | sysClk | videoClk
  | fan (index : Nat)
  deriving DecidableEq

/-- The registers.  The memory offset is in effective MHz; a fan holds its manual
duty, or `fanDriverAuto`. -/
abbrev Registers := Register → Int

abbrev fanDriverAuto : Int := -1

inductive NvmlReturn where
  | success | notSupported | other
  deriving DecidableEq, Repr

/-- Which reads of a hardware snapshot the driver answers. -/
structure SnapshotReads where
  gpuOffset : Bool := true
  memOffset : Bool := true
  xbar : Bool := true
  sysClk : Bool := true
  videoClk : Bool := true
  powerCurrent : Bool := true
  /-- Zero: the board default was not read. -/
  powerDefaultmW : Nat := 0
  fanCount : Bool := true
  fanIntent : Nat → Bool := fun _ => true
  fanMeasured : Nat → Option Nat := fun _ => none
  fanPolicy : Nat → Bool := fun _ => true

/-- What the driver answers one call with.  Each call reads what concerns it. -/
structure DriverAnswer where
  accepted : Bool := true
  code : NvmlReturn := .success
  /-- What a refused setter leaves in its own registers. -/
  left : Registers := fun _ => 0
  /-- The live curve, under what is programmed. -/
  curve : Registers → VFCurve := fun _ _ => {}
  reads : SnapshotReads := {}
  temperatureC : Int := 0

/-- The offsets the driver takes.  The default offset is one of them. -/
structure CurveOffsetRange where
  minKHz : Int
  maxKHz : Int
  zero_mem : minKHz ≤ 0 ∧ 0 ≤ maxKHz

theorem zero_mem_defaultRange : (-1000000 : Int) ≤ 0 ∧ (0 : Int) ≤ 1000000 := by decide

structure LinuxGpuState where
  nvmlReady : Bool := true
  writeIdentityResolved : Bool := true
  writeSupported : Bool := true
  familyPascal : Bool := false
  curve : VFCurve := fun _ => {}
  freqOffsets : VfPoint → Int := fun _ => 0
  /-- The points the driver lets us edit. -/
  vfMask : VfPoint → Bool := fun _ => true
  vfSnapshotFresh : Bool := false
  curveOffsetRange : CurveOffsetRange := ⟨-1000000, 1000000, zero_mem_defaultRange⟩
  retainedTransitionCeilingMHz : Nat := 0
  powerLimitDefaultmW : Nat := 0
  powerLimitMinmW : Nat := 0
  powerLimitMaxmW : Nat := 0
  fanCount : Nat := 0
  fanRange : Option (Int × Int) := none
  setGpuLockedClocks : Bool := true
  resetGpuLockedClocks : Bool := true
  setPowerLimit : Bool := true
  gpuOffsetWritable : Bool := true
  memOffsetWritable : Bool := true
  setFanSpeed : Bool := true
  fanAutoWritable : Bool := true
  xbarWritable : Bool := true
  getTemperature : Bool := true

inductive LinuxMutationPhase where
  | lockCeiling | resetBaseline | gpuOffset | memOffset | power | xbar | sysClk | videoClk
  | curve | lock | fan
  deriving DecidableEq, Repr

/-- The domain a setter belongs to. -/
inductive SetterDomain where
  | gpuOffset | memOffset | power | curve | xbar | sysClk | videoClk | fan
  deriving DecidableEq, Repr

inductive DriverEvent where
  | planned (plan : ApplyClockCeilingPlan) (outgoingCeilingMHz : Nat)
  | began (phase : LinuxMutationPhase)
  | wrote (domain : SetterDomain) (accepted : Bool)
  | clamp (minMHz maxMHz : Nat) (accepted : Bool)
  | armSettled (result : ApplyClockCeilingArmResult)
  | released (accepted : Bool)
  | rollingBack
  deriving DecidableEq, Repr

/-- What a transaction remembers of its ceiling. -/
structure CeilingState where
  armResult : ApplyClockCeilingArmResult := .notNeeded
  armed : Bool := false
  writeAttempted : Bool := false
  plan : ApplyClockCeilingPlan := {}
  outgoingHadHardPin : Bool := false
  outgoingCeilingMHz : Nat := 0

structure BackendState where
  gpu : LinuxGpuState
  hw : Registers
  ceiling : CeilingState := {}
  /-- The coherent curves read, each with the registers it was read under, newest
  first. -/
  curvesRead : List (VFCurve × Registers) := []
  /-- Newest first. -/
  trace : List DriverEvent := []

abbrev BackendM := CrashM DriverAnswer BackendState

namespace BackendState
variable (s : BackendState)

def log (event : DriverEvent) : BackendState := { s with trace := event :: s.trace }

def setCeiling (ceiling : CeilingState) : BackendState := { s with ceiling := ceiling }

def setGpu (gpu : LinuxGpuState) : BackendState := { s with gpu := gpu }

def readCurve (curve : VFCurve) : BackendState :=
  { s with
    gpu := { s.gpu with
      curve := curve
      freqOffsets := fun ci => s.hw (.vf ci)
      vfSnapshotFresh := true }
    curvesRead := (curve, s.hw) :: s.curvesRead }

def loseCurve : BackendState := { s with gpu := { s.gpu with vfSnapshotFresh := false } }

/-- The registers `target` names after a setter. -/
def set (target : Register → Option Int) (accepted : Bool) (left : Registers) : BackendState :=
  { s with hw := fun r => match target r with
      | none => s.hw r
      | some value => if accepted then value else left r }

section Fields
variable {s} {event : DriverEvent} {newCeiling : CeilingState} {newGpu : LinuxGpuState}

@[simp] theorem log_gpu : (s.log event).gpu = s.gpu := rfl
@[simp] theorem log_hw : (s.log event).hw = s.hw := rfl
@[simp] theorem log_ceiling : (s.log event).ceiling = s.ceiling := rfl
@[simp] theorem log_trace : (s.log event).trace = event :: s.trace := rfl
@[simp] theorem setCeiling_gpu : (s.setCeiling newCeiling).gpu = s.gpu := rfl
@[simp] theorem setCeiling_hw : (s.setCeiling newCeiling).hw = s.hw := rfl
@[simp] theorem setCeiling_ceiling : (s.setCeiling newCeiling).ceiling = newCeiling := rfl
@[simp] theorem setCeiling_trace : (s.setCeiling newCeiling).trace = s.trace := rfl
@[simp] theorem setGpu_gpu : (s.setGpu newGpu).gpu = newGpu := rfl
@[simp] theorem setGpu_hw : (s.setGpu newGpu).hw = s.hw := rfl
@[simp] theorem setGpu_ceiling : (s.setGpu newGpu).ceiling = s.ceiling := rfl
@[simp] theorem setGpu_trace : (s.setGpu newGpu).trace = s.trace := rfl

end Fields

end BackendState

section Calls
open CrashM

def logEvent (event : DriverEvent) : BackendM Unit := modify (·.log event)

/-- Call a setter of the registers `target` names. -/
def drive (domain : SetterDomain) (target : Register → Option Int) : BackendM Bool := do
  let answer ← ask
  modify fun s => (s.set target answer.accepted answer.left).log (.wrote domain answer.accepted)
  return answer.accepted

/-- One register. -/
def only (register : Register) (value : Int) : Register → Option Int :=
  fun r => if r = register then some value else none

def nvmlSetGpuLockedClocks (minMHz maxMHz : Nat) : BackendM NvmlReturn := do
  let answer ← ask
  logEvent (.clamp minMHz maxMHz (answer.code = .success))
  return answer.code

def nvmlResetGpuLockedClocks : BackendM Bool := do
  let answer ← ask
  logEvent (.released answer.accepted)
  return answer.accepted

/-- The steps in order, up to the first that fails. -/
def allOf : List (BackendM Bool) → BackendM Bool
  | [] => pure true
  | step :: rest => do
    let ok ← step
    if ok then allOf rest else return false

/-- All the steps, whatever fails. -/
def everyOf : List (BackendM Bool) → BackendM Bool
  | [] => pure true
  | step :: rest => do
    let ok ← step
    let restOk ← everyOf rest
    return ok && restOk

def optional (c : Bool) (step : BackendM Bool) : BackendM Bool :=
  if c then step else pure true

/-! ## Setters -/

def nvmlSetClockOffset (domain : SetterDomain) (register : Register) (offsetMHz : Int) :
    BackendM Bool := drive domain (only register offsetMHz)

def setGraphicsOffset (offsetMHz : Int) : BackendM Bool :=
  nvmlSetClockOffset .gpuOffset .gpuOffset offsetMHz

/-- `nvml_mem_effective_mhz_from_display_mhz`. -/
def memEffectiveMHz (displayMHz : Int) : Int := saturateInt (displayMHz * 2)

/-- `nvml_mem_display_mhz_from_effective_mhz`. -/
def memDisplayMHz (effectiveMHz : Int) : Int := effectiveMHz.tdiv 2

def setMemoryOffset (effectiveMHz : Int) : BackendM Bool :=
  nvmlSetClockOffset .memOffset .memOffset effectiveMHz

/-- `linux_xbar_write_owned`. -/
def linuxXbarWriteOwned (freqKHz msvddUv : Int) (writeFreq writeMsvdd : Bool) :
    BackendM Bool := do
  let s ← get
  if !s.gpu.xbarWritable then return false
  else drive .xbar fun
    | .xbar => if writeFreq then some freqKHz else none
    | .msvdd => if writeMsvdd then some msvddUv else none
    | _ => none

/-- `linux_xbar_write_entry`. -/
def linuxXbarWriteEntry (domain : SetterDomain) (register : Register) (freqKHz : Int) :
    BackendM Bool := do
  let s ← get
  if !s.gpu.xbarWritable then return false
  else drive domain (only register freqKHz)

def writeSysClk (freqKHz : Int) : BackendM Bool := linuxXbarWriteEntry .sysClk .sysClk freqKHz

def writeVideoClk (freqKHz : Int) : BackendM Bool :=
  linuxXbarWriteEntry .videoClk .videoClk freqKHz

/-- `nvml_set_power_limit_pct`, then the readback pair. -/
def setPowerLimitPct (pct : Int) : BackendM Bool := do
  let s ← get
  if !s.gpu.setPowerLimit || decide (s.gpu.powerLimitDefaultmW = 0) then return false
  else
  let target := (s.gpu.powerLimitDefaultmW * pct).tdiv 100
  let target :=
    if 0 < s.gpu.powerLimitMinmW ∧ target < s.gpu.powerLimitMinmW then
      (s.gpu.powerLimitMinmW : Int)
    else target
  let target :=
    if 0 < s.gpu.powerLimitMaxmW ∧ s.gpu.powerLimitMaxmW < target then
      (s.gpu.powerLimitMaxmW : Int)
    else target
  let ok ← drive .power (only .power target)
  if !ok then return false
  else
  let readback ← ask
  return readback.accepted

/-- A power limit in mW, verified. -/
def setPowerLimit (limitmW : Int) : BackendM Bool := do
  let s ← get
  if !s.gpu.setPowerLimit then return false
  else drive .power (only .power limitmW)

/-- `nvml_set_fan` for every fan: each is driven, whatever fails. -/
def nvmlSetFan (value : Int) : BackendM Bool := do
  let s ← get
  let fans ← ask
  if !fans.accepted || decide (s.gpu.fanCount = 0) then return false
  else everyOf ((List.range s.gpu.fanCount).map fun i => drive .fan (only (.fan i) value))

def setFanAuto : BackendM Bool := nvmlSetFan fanDriverAuto

def setFanManual (percent : Int) : BackendM Bool := do
  let s ← get
  if !s.gpu.setFanSpeed then return false
  else nvmlSetFan (fanManualEffectivePercent percent s.gpu.fanRange)

/-! ## The VF table -/

/-- The voltages of the populated points, in order. -/
def populatedVoltages (curve : VFCurve) : List Nat :=
  ((List.finRange VF_NUM_POINTS).filter fun ci => decide (Populated curve ci)).map fun ci =>
    (curve ci).voltUv

/-- `linux_vf_snapshot_structurally_valid`. -/
def structurallyValid (curve : VFCurve) (offsets : VfPoint → Int) (vfMask : VfPoint → Bool) :
    Bool :=
  decide (8 ≤ (List.finRange VF_NUM_POINTS).countP fun ci => decide (Populated curve ci)) &&
  decide (∀ ci, ¬ Populated curve ci → (curve ci).voltUv = 0) &&
  decide (∀ ci, Populated curve ci →
    100000 ≤ (curve ci).freqKHz ∧ (curve ci).freqKHz ≤ 6000000 ∧
    400000 ≤ (curve ci).voltUv ∧ (curve ci).voltUv ≤ 1600000 ∧
    -5000000 ≤ offsets ci ∧ offsets ci ≤ 5000000) &&
  decide ((populatedVoltages curve).IsChain (· ≤ ·)) &&
  decide (∃ ci, Populated curve ci ∧ vfMask ci = true)

def programmedOffsets (s : BackendState) : VfPoint → Int := fun ci => s.hw (.vf ci)

/-- `nvapi_read_vf_snapshot`: the curve, if the driver answers and it is coherent. -/
def nvapiReadVfSnapshot : BackendM Bool := do
  let answer ← ask
  let s ← get
  let offsets := programmedOffsets s
  let curve := answer.curve s.hw
  if answer.accepted && structurallyValid curve offsets s.gpu.vfMask then
    modify (·.readCurve curve)
    return true
  else
  modify (·.loseCurve)
  return false

/-- `linux_backend_refresh`. -/
def linuxBackendRefresh : BackendM Unit := do
  let s ← get
  let _ ← optional s.gpu.nvmlReady nvapiReadVfSnapshot

def clampFreqDeltaKHz (range : CurveOffsetRange) (freqDeltaKHz : Int) : Int :=
  if freqDeltaKHz > range.maxKHz then range.maxKHz
  else if freqDeltaKHz < range.minKHz then range.minKHz
  else freqDeltaKHz

/-- The points `apply_curve_offsets_verified` writes of a mask. -/
def WritesPoint (gpu : LinuxGpuState) (pointMask : VfPoint → Bool) (ci : VfPoint) : Prop :=
  pointMask ci = true ∧ Populated gpu.curve ci ∧ gpu.vfMask ci = true

instance (gpu : LinuxGpuState) (pointMask : VfPoint → Bool) :
    DecidablePred (WritesPoint gpu pointMask) :=
  fun _ => inferInstanceAs (Decidable (_ ∧ _))

/-- The registers a curve write sets. -/
def curveTarget (gpu : LinuxGpuState) (targetOffsets : VfPoint → Int)
    (pointMask : VfPoint → Bool) : Register → Option Int
  | .vf ci =>
    if WritesPoint gpu pointMask ci then
      some (clampFreqDeltaKHz gpu.curveOffsetRange (targetOffsets ci))
    else none
  | _ => none

/-- `apply_curve_offsets_verified`. -/
def applyCurveOffsetsVerified (targetOffsets : VfPoint → Int) (pointMask : VfPoint → Bool) :
    BackendM Bool := do
  let s ← get
  if !s.gpu.writeSupported then return false
  else if ∃ ci, WritesPoint s.gpu pointMask ci then
    let ok ← drive .curve (curveTarget s.gpu targetOffsets pointMask)
    modify fun s => s.setGpu { s.gpu with freqOffsets := programmedOffsets s }
    return ok
  else return true

end Calls

end GreenCurve.Backend
