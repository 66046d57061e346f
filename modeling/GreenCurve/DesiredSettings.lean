import Mathlib.Data.Fintype.Basic
import Mathlib.Tactic.Common

/-! # Desired settings

The settings a request carries and the intent the service keeps: every control is
a flag with its value, and a control whose flag is clear is not owned.  A sparse
request mutates the domains it names and leaves the rest of the intent alone. -/

namespace GreenCurve

/-- The number of points of a VF curve. -/
abbrev VF_NUM_POINTS : Nat := 128

abbrev VfPoint := Fin VF_NUM_POINTS

inductive LockMode where
  | none | flatten | hard
  deriving DecidableEq, Repr

inductive FanMode where
  | auto | fixed | curve
  deriving DecidableEq, Repr

structure FanCurvePoint where
  enabled : Bool := false
  temperatureC : Int := 0
  fanPercent : Int := 0
  deriving DecidableEq, Repr

structure FanCurveConfig where
  points : List FanCurvePoint := []
  pollIntervalMs : Int := 0
  hysteresisC : Int := 0
  zeroRpmEnabled : Bool := false
  zeroRpmHysteresisC : Nat := 0
  deriving DecidableEq, Repr

@[ext]
structure DesiredSettings where
  hasCurvePoint : VfPoint → Bool := fun _ => false
  curvePointMHz : VfPoint → Nat := fun _ => 0
  hasLock : Bool := false
  lockCi : Int := 0
  lockMHz : Nat := 0
  lockMode : LockMode := .none
  lockTracksAnchor : Bool := false
  hasGpuOffset : Bool := false
  gpuOffsetMHz : Int := 0
  gpuOffsetExcludeLowCount : Nat := 0
  hasMemOffset : Bool := false
  memOffsetMHz : Int := 0
  hasPowerLimit : Bool := false
  powerLimitPct : Int := 0
  hasFan : Bool := false
  fanAuto : Bool := false
  fanMode : FanMode := .auto
  fanPercent : Int := 0
  fanCurve : FanCurveConfig := {}
  resetOcBeforeApply : Bool := false
  hasXbarOffsetKhz : Bool := false
  xbarOffsetKhz : Int := 0
  hasXbarMsvddOffsetUv : Bool := false
  xbarMsvddOffsetUv : Int := 0
  hasSysClkOffsetKhz : Bool := false
  sysClkOffsetKhz : Int := 0
  hasVideoClkOffsetKhz : Bool := false
  videoClkOffsetKhz : Int := 0
  /-- The point is a projection of the GPU offset, not a typed target. -/
  curvePointFromGpuOffset : VfPoint → Bool := fun _ => false
  deriving DecidableEq

/-! ## Mutation domains -/

/-- The bits of a mutation-domain mask. -/
inductive ServiceMutationDomain where
  | resetBaseline | gpuOffset | memOffset | power | vfCurve | lock | fan | xbar | sysClk | videoClk
  deriving DecidableEq, Repr

section Domains
variable (desired : DesiredSettings)

def serviceDesiredHasCurvePoint : Bool := decide (∃ ci, desired.hasCurvePoint ci = true)

/-- The GPU offset is written through the VF curve instead of the NVML scalar. -/
def gpuOffsetUsesCurve : Bool :=
  desired.hasGpuOffset &&
    (decide (desired.gpuOffsetExcludeLowCount > 0) || desired.hasLock ||
      serviceDesiredHasCurvePoint desired)

/-- `service_desired_mutation_domains`, as the set of its bits. -/
def serviceDesiredMutationDomains : ServiceMutationDomain → Bool
  | .resetBaseline => desired.resetOcBeforeApply
  | .gpuOffset => desired.hasGpuOffset && !gpuOffsetUsesCurve desired
  | .memOffset => desired.hasMemOffset
  | .power => desired.hasPowerLimit
  | .vfCurve =>
    serviceDesiredHasCurvePoint desired ||
      (desired.hasLock && (desired.lockMode == .flatten || desired.lockMode == .hard)) ||
      (desired.hasGpuOffset && decide (desired.gpuOffsetExcludeLowCount > 0))
  | .lock => desired.hasLock
  | .fan => desired.hasFan
  | .xbar => desired.hasXbarOffsetKhz || desired.hasXbarMsvddOffsetUv
  | .sysClk => desired.hasSysClkOffsetKhz
  | .videoClk => desired.hasVideoClkOffsetKhz

/-- `service_intent_owns_vf_cleanup`: the intent owns VF or GPU-offset policy. -/
def serviceIntentOwnsVfCleanup : Bool :=
  desired.hasLock || desired.hasGpuOffset || serviceDesiredHasCurvePoint desired

end Domains

/-! ## The intent after a mutation -/

/-- What a reset of the baseline drops from the intent. -/
def mergeResetBaseline (merged : DesiredSettings) : DesiredSettings :=
  { merged with
    hasGpuOffset := false
    gpuOffsetMHz := 0
    gpuOffsetExcludeLowCount := 0
    hasMemOffset := false
    memOffsetMHz := 0
    hasCurvePoint := fun _ => false
    curvePointMHz := fun _ => 0
    curvePointFromGpuOffset := fun _ => false
    hasLock := false
    lockCi := -1
    lockMHz := 0
    lockMode := .none
    lockTracksAnchor := false
    hasXbarOffsetKhz := false
    xbarOffsetKhz := 0
    hasXbarMsvddOffsetUv := false
    xbarMsvddOffsetUv := 0
    hasSysClkOffsetKhz := false
    sysClkOffsetKhz := 0
    hasVideoClkOffsetKhz := false
    videoClkOffsetKhz := 0 }

/-- `service_merge_desired_after_mutation`: a successful sparse request updates
the domains it names. -/
def serviceMergeDesiredAfterMutation (previous : Option DesiredSettings)
    (requested : DesiredSettings) : DesiredSettings :=
  let domains := serviceDesiredMutationDomains requested
  let merged := previous.getD {}
  let merged := if domains .resetBaseline then mergeResetBaseline merged else merged
  let merged :=
    if requested.hasGpuOffset then
      { merged with
        hasGpuOffset := true
        gpuOffsetMHz := requested.gpuOffsetMHz
        gpuOffsetExcludeLowCount := requested.gpuOffsetExcludeLowCount }
    else merged
  let merged :=
    if domains .memOffset then
      { merged with
        hasMemOffset := requested.hasMemOffset
        memOffsetMHz := requested.memOffsetMHz }
    else merged
  let merged :=
    if domains .power then
      { merged with
        hasPowerLimit := requested.hasPowerLimit
        powerLimitPct := requested.powerLimitPct }
    else merged
  let merged :=
    if domains .vfCurve then
      { merged with
        hasCurvePoint := requested.hasCurvePoint
        curvePointMHz := requested.curvePointMHz
        curvePointFromGpuOffset := requested.curvePointFromGpuOffset }
    else merged
  let merged :=
    if domains .lock then
      { merged with
        hasLock := requested.hasLock
        lockCi := requested.lockCi
        lockMHz := requested.lockMHz
        lockMode := requested.lockMode
        lockTracksAnchor := requested.lockTracksAnchor }
    else merged
  let merged :=
    if domains .fan then
      { merged with
        hasFan := requested.hasFan
        fanAuto := requested.fanAuto
        fanMode := requested.fanMode
        fanPercent := requested.fanPercent
        fanCurve := requested.fanCurve }
    else merged
  let merged :=
    if domains .xbar then
      { merged with
        hasXbarOffsetKhz := requested.hasXbarOffsetKhz
        xbarOffsetKhz := requested.xbarOffsetKhz
        hasXbarMsvddOffsetUv := requested.hasXbarMsvddOffsetUv
        xbarMsvddOffsetUv := requested.xbarMsvddOffsetUv }
    else merged
  let merged :=
    if domains .sysClk then
      { merged with
        hasSysClkOffsetKhz := requested.hasSysClkOffsetKhz
        sysClkOffsetKhz := requested.sysClkOffsetKhz }
    else merged
  let merged :=
    if domains .videoClk then
      { merged with
        hasVideoClkOffsetKhz := requested.hasVideoClkOffsetKhz
        videoClkOffsetKhz := requested.videoClkOffsetKhz }
    else merged
  { merged with resetOcBeforeApply := false }

/-- The intent a mutation starts from, the baseline reset if it resets it. -/
def mergeBase (previous : Option DesiredSettings) (requested : DesiredSettings) :
    DesiredSettings :=
  if serviceDesiredMutationDomains requested .resetBaseline then
    mergeResetBaseline (previous.getD {})
  else previous.getD {}

/-- Where a mutation takes the controls of a domain from. -/
def mergeSource (previous : Option DesiredSettings) (requested : DesiredSettings)
    (domain : ServiceMutationDomain) : DesiredSettings :=
  if serviceDesiredMutationDomains requested domain then requested
  else mergeBase previous requested

/-- **What a mutation makes of the intent**: the requested values in the domains it
names, the base in the others. -/
theorem serviceMergeDesiredAfterMutation_eq (previous : Option DesiredSettings)
    (requested : DesiredSettings) :
    let source := mergeSource previous requested
    let gpuSource := if requested.hasGpuOffset then requested else mergeBase previous requested
    serviceMergeDesiredAfterMutation previous requested =
      { hasGpuOffset := gpuSource.hasGpuOffset
        gpuOffsetMHz := gpuSource.gpuOffsetMHz
        gpuOffsetExcludeLowCount := gpuSource.gpuOffsetExcludeLowCount
        hasCurvePoint := (source .vfCurve).hasCurvePoint
        curvePointMHz := (source .vfCurve).curvePointMHz
        curvePointFromGpuOffset := (source .vfCurve).curvePointFromGpuOffset
        hasLock := (source .lock).hasLock
        lockCi := (source .lock).lockCi
        lockMHz := (source .lock).lockMHz
        lockMode := (source .lock).lockMode
        lockTracksAnchor := (source .lock).lockTracksAnchor
        hasMemOffset := (source .memOffset).hasMemOffset
        memOffsetMHz := (source .memOffset).memOffsetMHz
        hasPowerLimit := (source .power).hasPowerLimit
        powerLimitPct := (source .power).powerLimitPct
        hasFan := (source .fan).hasFan
        fanAuto := (source .fan).fanAuto
        fanMode := (source .fan).fanMode
        fanPercent := (source .fan).fanPercent
        fanCurve := (source .fan).fanCurve
        hasXbarOffsetKhz := (source .xbar).hasXbarOffsetKhz
        xbarOffsetKhz := (source .xbar).xbarOffsetKhz
        hasXbarMsvddOffsetUv := (source .xbar).hasXbarMsvddOffsetUv
        xbarMsvddOffsetUv := (source .xbar).xbarMsvddOffsetUv
        hasSysClkOffsetKhz := (source .sysClk).hasSysClkOffsetKhz
        sysClkOffsetKhz := (source .sysClk).sysClkOffsetKhz
        hasVideoClkOffsetKhz := (source .videoClk).hasVideoClkOffsetKhz
        videoClkOffsetKhz := (source .videoClk).videoClkOffsetKhz
        resetOcBeforeApply := false } := by
  intro source gpuSource
  ext
  all_goals simp only [serviceMergeDesiredAfterMutation, gpuSource, source, mergeSource, mergeBase,
    ite_self, apply_ite DesiredSettings.hasCurvePoint, apply_ite DesiredSettings.curvePointMHz,
    apply_ite DesiredSettings.curvePointFromGpuOffset, apply_ite DesiredSettings.hasLock,
    apply_ite DesiredSettings.lockCi, apply_ite DesiredSettings.lockMHz,
    apply_ite DesiredSettings.lockMode, apply_ite DesiredSettings.lockTracksAnchor,
    apply_ite DesiredSettings.hasGpuOffset, apply_ite DesiredSettings.gpuOffsetMHz,
    apply_ite DesiredSettings.gpuOffsetExcludeLowCount, apply_ite DesiredSettings.hasMemOffset,
    apply_ite DesiredSettings.memOffsetMHz, apply_ite DesiredSettings.hasPowerLimit,
    apply_ite DesiredSettings.powerLimitPct, apply_ite DesiredSettings.hasFan,
    apply_ite DesiredSettings.fanAuto, apply_ite DesiredSettings.fanMode,
    apply_ite DesiredSettings.fanPercent, apply_ite DesiredSettings.fanCurve,
    apply_ite DesiredSettings.resetOcBeforeApply, apply_ite DesiredSettings.hasXbarOffsetKhz,
    apply_ite DesiredSettings.xbarOffsetKhz, apply_ite DesiredSettings.hasXbarMsvddOffsetUv,
    apply_ite DesiredSettings.xbarMsvddOffsetUv, apply_ite DesiredSettings.hasSysClkOffsetKhz,
    apply_ite DesiredSettings.sysClkOffsetKhz, apply_ite DesiredSettings.hasVideoClkOffsetKhz,
    apply_ite DesiredSettings.videoClkOffsetKhz]
  cases requested.hasGpuOffset <;> rfl

/-- `service_build_full_restore_request`: the intent, with the reset that keeps a
replay of owned VF policy from stacking on what the driver holds. -/
def serviceBuildFullRestoreRequest (activeIntent : DesiredSettings) : DesiredSettings :=
  { activeIntent with resetOcBeforeApply := serviceIntentOwnsVfCleanup activeIntent }

/-- `profile_lock_mode_after_load`, for a stored mode. -/
def profileLockModeAfterLoad (hasLock hasExplicitMode : Bool) (storedMode : LockMode) : LockMode :=
  if !hasLock then .none
  else if !hasExplicitMode then .flatten
  else if storedMode = .none then .flatten
  else storedMode

end GreenCurve
