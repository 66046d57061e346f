import Mathlib.Data.List.OfFn
import Mathlib.Tactic.Common

/-! # Two routes of one GPU offset

A GPU offset reaches the hardware on one of two routes.  A uniform offset is an NVML scalar
on a split backend; on a global backend it is written to every point of the VF table, by
moving the offset that most points have.  A selective offset, one that leaves the lowest
points out, is a batch of VF offsets on either.  `curve_point_plan_gpu_offset_routing` picks
the route from the request and from what the last apply left in force, and the apply executes
the plan.  What a point runs at is the scalar and its VF offset together.

Only populated points take part, so a point is its place among them.  A request carries
nothing but its offset, and the driver keeps what is written. -/

namespace GreenCurve.OffsetRouting

variable {n : Nat}

/-- The GPU-offset part of a request. -/
structure Request where
  hasGpuOffset : Bool
  gpuOffsetMHz : Int
  gpuOffsetExcludeLowCount : Int
  deriving DecidableEq

/-- `CurveOffsetRoutingPlan`. -/
structure CurveOffsetRoutingPlan where
  activeDesiredExcludeLowCount : Int := 0
  policyChangeRequested : Bool := false
  shouldApplyGpuOffset : Bool := false
  gpuPolicyViaCurveBatch : Bool := false
  zeroPriorScalarBeforeCurveBatch : Bool := false
  curveBatchGpuOffsetMHz : Int := 0
  lastApplyUsedGpuOffset : Bool := false
  deriving DecidableEq

/-- `curve_point_plan_gpu_offset_routing`. -/
def curvePointPlanGpuOffsetRouting (globalVfOffsetSupported requestHasGpuOffset : Bool)
    (desiredGpuOffsetMHz desiredExcludeLowCount currentAppliedGpuOffsetMHz
      currentActiveExcludeLowCount : Int) : CurveOffsetRoutingPlan :=
  let lastApplyUsedGpuOffset :=
    if requestHasGpuOffset then decide (desiredGpuOffsetMHz ≠ 0)
    else decide (currentAppliedGpuOffsetMHz ≠ 0)
  if !requestHasGpuOffset then { lastApplyUsedGpuOffset := lastApplyUsedGpuOffset }
  else
    let activeDesiredExcludeLowCount :=
      if desiredExcludeLowCount > 0 ∧ desiredGpuOffsetMHz ≠ 0 then desiredExcludeLowCount else 0
    let policyChangeRequested :=
      decide (desiredGpuOffsetMHz ≠ currentAppliedGpuOffsetMHz) ||
        decide (activeDesiredExcludeLowCount ≠ currentActiveExcludeLowCount)
    let leavingSelectiveOnSplitBackend :=
      !globalVfOffsetSupported && decide (currentActiveExcludeLowCount > 0) &&
        decide (activeDesiredExcludeLowCount ≤ 0)
    let gpuPolicyViaCurveBatch := policyChangeRequested &&
      (decide (currentActiveExcludeLowCount > 0) || decide (activeDesiredExcludeLowCount > 0))
    { activeDesiredExcludeLowCount := activeDesiredExcludeLowCount
      policyChangeRequested := policyChangeRequested
      shouldApplyGpuOffset := policyChangeRequested &&
        decide (activeDesiredExcludeLowCount ≤ 0) &&
        (decide (currentActiveExcludeLowCount ≤ 0) ||
          (leavingSelectiveOnSplitBackend && decide (desiredGpuOffsetMHz ≠ 0)))
      gpuPolicyViaCurveBatch := gpuPolicyViaCurveBatch
      zeroPriorScalarBeforeCurveBatch := gpuPolicyViaCurveBatch &&
        decide (currentAppliedGpuOffsetMHz ≠ 0) &&
        (globalVfOffsetSupported || decide (currentActiveExcludeLowCount ≤ 0))
      curveBatchGpuOffsetMHz :=
        if !globalVfOffsetSupported ∧ activeDesiredExcludeLowCount ≤ 0 then 0
        else desiredGpuOffsetMHz
      lastApplyUsedGpuOffset := lastApplyUsedGpuOffset }

/-! ## What the plan is executed on -/

/-- `VfOffsetRange`: what the driver takes for the offset of a point. -/
structure OffsetRange where
  minKHz : Int
  maxKHz : Int

/-- `clamp_freq_delta_khz`. -/
def OffsetRange.clamp (range : OffsetRange) (offsetKHz : Int) : Int :=
  max range.minKHz (min range.maxKHz offsetKHz)

/-- `vf_offset_range_permits_khz`. -/
def OffsetRange.Permits (range : OffsetRange) (offsetKHz : Int) : Prop :=
  range.minKHz ≤ offsetKHz ∧ offsetKHz ≤ range.maxKHz

instance (range : OffsetRange) (offsetKHz : Int) : Decidable (range.Permits offsetKHz) :=
  inferInstanceAs (Decidable (_ ∧ _))

/-- The hardware, and what the last apply left on record. -/
structure Gpu (n : Nat) where
  scalarKHz : Int
  vfOffsetKHz : Fin n → Int
  appliedGpuOffsetMHz : Int
  appliedGpuOffsetExcludeLowCount : Int

/-- No offset anywhere. -/
def Gpu.zero : Gpu n where
  scalarKHz := 0
  vfOffsetKHz _ := 0
  appliedGpuOffsetMHz := 0
  appliedGpuOffsetExcludeLowCount := 0

/-- `is_gpu_offset_excluded_low_point`. -/
def isGpuOffsetExcludedLowPoint (ci : Fin n) (excludeLowCount : Int) : Prop :=
  excludeLowCount > 0 ∧ (ci : Int) < excludeLowCount

instance (ci : Fin n) (excludeLowCount : Int) :
    Decidable (isGpuOffsetExcludedLowPoint ci excludeLowCount) :=
  inferInstanceAs (Decidable (_ ∧ _))

/-- `gpu_offset_component_mhz_for_point`. -/
def gpuOffsetComponentMHzForPoint (ci : Fin n) (gpuOffsetMHz excludeLowCount : Int) : Int :=
  if gpuOffsetMHz = 0 then 0
  else if excludeLowCount > 0 ∧ isGpuOffsetExcludedLowPoint ci excludeLowCount then 0
  else gpuOffsetMHz

/-- One value of the search for the most frequent one. -/
def moreFrequent (values : List Int) (best : Int × Nat) (value : Int) : Int × Nat :=
  let count := values.count value
  if count > best.2 ∨ (count = best.2 ∧ value.natAbs > best.1.natAbs) then (value, count) else best

/-- `uniform_curve_offset_khz`: the offset that at least half of the points have. -/
def uniformCurveOffsetKHz (values : List Int) : Int :=
  let best := values.eraseDups.foldl (moreFrequent values) (0, 0)
  if best.2 * 2 < values.length then 0 else best.1

/-- `nvapi_set_gpu_offset`. -/
def nvapiSetGpuOffset (globalVf : Bool) (range : OffsetRange) (gpu : Gpu n) (offsetKHz : Int) :
    Gpu n :=
  if !globalVf then { gpu with scalarKHz := offsetKHz }
  else
    let currentGlobalKHz := uniformCurveOffsetKHz (List.ofFn gpu.vfOffsetKHz)
    if currentGlobalKHz = offsetKHz then gpu
    else
      { gpu with
        vfOffsetKHz := fun ci => range.clamp (gpu.vfOffsetKHz ci - currentGlobalKHz + offsetKHz) }

/-- The batch of `apply_build_curve_targets` for a request that names no point: the
component that is known to be in force is taken off, the new one is put on, and the whole
batch is refused if the driver's range does not permit one of its offsets. -/
def applyBuildCurveTargets (range : OffsetRange) (originalCurveOffsets : Fin n → Int)
    (desiredActiveExcludeLowCount currentAppliedGpuOffsetMHz currentActiveExcludeLowCount
      batchOffsetMHz : Int) : Option (Fin n → Int) :=
  let detected := decide (currentAppliedGpuOffsetMHz ≠ 0) ||
    decide (currentActiveExcludeLowCount > 0)
  let target := fun ci =>
    let oldComponent :=
      if detected then
        gpuOffsetComponentMHzForPoint ci currentAppliedGpuOffsetMHz currentActiveExcludeLowCount
          * 1000
      else originalCurveOffsets ci
    originalCurveOffsets ci - oldComponent
      + gpuOffsetComponentMHzForPoint ci batchOffsetMHz desiredActiveExcludeLowCount * 1000
  if ∀ ci, range.Permits (target ci) then some target else none

/-- The dedicated write of the apply. -/
def writeOffset (globalVf : Bool) (range : OffsetRange) (plan : CurveOffsetRoutingPlan)
    (gpu : Gpu n) (gpuOffsetMHz : Int) : Gpu n :=
  if plan.shouldApplyGpuOffset then
    { nvapiSetGpuOffset globalVf range gpu (gpuOffsetMHz * 1000) with
      appliedGpuOffsetMHz := gpuOffsetMHz
      appliedGpuOffsetExcludeLowCount := 0 }
  else gpu

/-- The clearing of a prior offset, and the offset the apply takes to be in force from
there on.  The exclude count it took from the record at its start stays as it was. -/
def clearPrior (globalVf : Bool) (range : OffsetRange) (plan : CurveOffsetRoutingPlan)
    (gpu : Gpu n) (currentAppliedGpuOffsetMHz : Int) : Gpu n × Int :=
  if plan.zeroPriorScalarBeforeCurveBatch then
    ({ nvapiSetGpuOffset globalVf range gpu 0 with
        appliedGpuOffsetMHz := 0
        appliedGpuOffsetExcludeLowCount := 0 }, 0)
  else (gpu, currentAppliedGpuOffsetMHz)

/-- The apply of a request: what the hardware and the record are after it, unless the batch
is refused. -/
def applyRequest (globalVf : Bool) (range : OffsetRange) (gpu : Gpu n) (request : Request) :
    Option (Gpu n) :=
  let currentAppliedGpuOffsetMHz := gpu.appliedGpuOffsetMHz
  let currentActiveExcludeLowCount := gpu.appliedGpuOffsetExcludeLowCount
  let plan := curvePointPlanGpuOffsetRouting globalVf request.hasGpuOffset request.gpuOffsetMHz
    request.gpuOffsetExcludeLowCount currentAppliedGpuOffsetMHz currentActiveExcludeLowCount
  let gpu := writeOffset globalVf range plan gpu request.gpuOffsetMHz
  let (gpu, currentAppliedGpuOffsetMHz) :=
    clearPrior globalVf range plan gpu currentAppliedGpuOffsetMHz
  if plan.gpuPolicyViaCurveBatch then
    (applyBuildCurveTargets range gpu.vfOffsetKHz plan.activeDesiredExcludeLowCount
        currentAppliedGpuOffsetMHz currentActiveExcludeLowCount plan.curveBatchGpuOffsetMHz).map
      fun targets =>
        { gpu with
          vfOffsetKHz := targets
          appliedGpuOffsetMHz := request.gpuOffsetMHz
          appliedGpuOffsetExcludeLowCount := plan.activeDesiredExcludeLowCount }
  else some gpu

/-- The requests of a session, one after the other.  A refused one ends it. -/
def applyAll (globalVf : Bool) (range : OffsetRange) (gpu : Gpu n) (requests : List Request) :
    Option (Gpu n) :=
  requests.foldlM (applyRequest globalVf range) gpu

end GreenCurve.OffsetRouting
