import GreenCurve.EventMachine
import Mathlib.Data.List.FinRange
import Mathlib.Tactic.Common

/-! # The VF correction passes

When the first curve batch does not verify, an apply re-derives every point's
offset from where the driver says it landed, writes, reads back and classifies
each point's progress.  The stored targets are lowered by the classification of
one pass and read by the plan of the next, and the driver answers anything.  The
passes are a machine whose events are the readbacks. -/

namespace GreenCurve.ApplyCorrection

variable {n : Nat}

/-! ## The offset range -/

/-- What the driver accepts for the offset of a point. -/
structure VfOffsetRange where
  minKHz : Int32
  maxKHz : Int32
  known : Bool
  deriving DecidableEq

/-- `vf_offset_range_clamp_khz`: the value, and whether it was altered. -/
def vfOffsetRangeClampKHz (range : VfOffsetRange) (offsetKHz : Int32) : Int32 × Bool :=
  let v := if range.maxKHz < offsetKHz then range.maxKHz else offsetKHz
  let v := if v < range.minKHz then range.minKHz else v
  (v, v != offsetKHz)

def vfOffsetRangeFlattenFloorKHz (range : VfOffsetRange) : Int32 := range.minKHz

/-! ## Request and readback -/

/-- What the driver reports for every point right now.  A frequency of zero is a
point that is not populated. -/
structure Readback (n : Nat) where
  freqKHz : Fin n → UInt32
  programmedOffsetKHz : Fin n → Int32

/-- The request the correction is steering towards, less its targets, which the
passes change. -/
structure Request (n : Nat) where
  hasLock : Bool
  lockMHz : UInt32
  lockCi : Int32
  gpuPolicyViaCurveBatch : Bool
  lockedTailMask : Fin n → Bool
  explicitCurveMask : Fin n → Bool
  originalCurvePopulated : Fin n → Bool
  hasCurvePoint : Fin n → Bool
  fromGpuOffset : Fin n → Bool
  targetOffsetKHz : Fin n → Int32

/-- The verify targets. -/
abbrev Targets (n : Nat) := Fin n → UInt32

def displayMHz (freqKHz : UInt32) : UInt32 :=
  let v := min (freqKHz.toNat : Int) Int32.maxValue.toInt
  UInt32.ofNat ((v + 500) / 1000).toNat

def pointIsTail (q : Request n) (ci : Fin n) : Bool :=
  q.hasLock && q.lockedTailMask ci && decide (q.lockMHz ≠ 0)

/-- `curve_point_offset_is_intent`: the point asks for an offset, not for a
frequency. -/
def curvePointOffsetIsIntent (explicitPoint fromGpuOffset selectiveBatch : Bool) : Bool :=
  !explicitPoint && (selectiveBatch || fromGpuOffset)

def pointOffsetIsIntent (q : Request n) (ci : Fin n) : Bool :=
  !pointIsTail q ci && q.originalCurvePopulated ci &&
    curvePointOffsetIsIntent (q.explicitCurveMask ci) (q.fromGpuOffset ci)
      q.gpuPolicyViaCurveBatch

/-- `curve_point_stock_base_khz` of the live frequency and the programmed offset. -/
def liveBaseKHz (rb : Readback n) (ci : Fin n) : Int :=
  max ((rb.freqKHz ci).toNat - (rb.programmedOffsetKHz ci).toInt) 0

/-- The offset that moves a point to `targetMHz` from its current base, unclamped. -/
def requiredDeltaKHz (rb : Readback n) (ci : Fin n) (targetMHz : UInt32) : Int32 :=
  Int32.ofIntClamp (targetMHz.toNat * 1000 - liveBaseKHz rb ci)

/-- `curve_point_target_offset_khz`: the one answer to the offset a point wants. -/
def curvePointTargetOffsetKHz (fromGpuOffset : Bool) (gpuOffsetComponentKHz : Int32)
    (absoluteMHz : UInt32) (liveBaseKHz : Int) : Int :=
  if fromGpuOffset then gpuOffsetComponentKHz.toInt
  else absoluteMHz.toNat * 1000 - max liveBaseKHz 0

/-! ## Planning a pass -/

structure Plan where
  haveCorrections : Bool := false
  tailFloorCount : Nat := 0
  clampedCount : Nat := 0
  firstClampedCi : Int := -1
  firstClampedRequestKHz : Int32 := 0
  firstClampedResultKHz : Int32 := 0
  offsetIntentCount : Nat := 0
  absoluteCount : Nat := 0
  deriving DecidableEq

/-- A plan being built, with the offsets it writes.  A point that is not planned
has no offset. -/
structure PlanPass (n : Nat) where
  plan : Plan := {}
  offsetsOut : Fin n → Option Int32 := fun _ => none

/-- The clamp, and its record in the plan. -/
def Plan.clamp (plan : Plan) (range : VfOffsetRange) (ci : Fin n) (requested : Int32) :
    Plan × Int32 :=
  match vfOffsetRangeClampKHz range requested with
  | (v, false) => (plan, v)
  | (v, true) =>
    let plan :=
      if plan.clampedCount = 0 then
        { plan with
          firstClampedCi := ci
          firstClampedRequestKHz := requested
          firstClampedResultKHz := v }
      else plan
    ({ plan with clampedCount := plan.clampedCount + 1 }, v)

def PlanPass.put (pass : PlanPass n) (ci : Fin n) (plan : Plan) (offset : Int32) : PlanPass n :=
  { plan := { plan with haveCorrections := true }
    offsetsOut := Function.update pass.offsetsOut ci (some offset) }

/-- One point of `apply_correction_plan_pass`. -/
def planPoint (q : Request n) (targets : Targets n) (rb : Readback n) (range : VfOffsetRange)
    (pass : PlanPass n) (ci : Fin n) : PlanPass n :=
  let isTail := pointIsTail q ci
  if rb.freqKHz ci = 0 then pass
  else if !isTail && !q.hasCurvePoint ci then pass
  else
    let targetMHz := if isTail then q.lockMHz else targets ci
    if !isTail && q.originalCurvePopulated ci then
      let fromGpuOffset := pointOffsetIsIntent q ci
      let plan :=
        if fromGpuOffset then
          { pass.plan with offsetIntentCount := pass.plan.offsetIntentCount + 1 }
        else { pass.plan with absoluteCount := pass.plan.absoluteCount + 1 }
      let diff := curvePointTargetOffsetKHz fromGpuOffset (q.targetOffsetKHz ci) targetMHz
        (liveBaseKHz rb ci)
      let (plan, offset) := plan.clamp range ci (Int32.ofIntClamp diff)
      pass.put ci plan offset
    else if isTail && decide ((ci : Int) ≠ q.lockCi.toInt) then
      pass.put ci { pass.plan with tailFloorCount := pass.plan.tailFloorCount + 1 }
        (vfOffsetRangeFlattenFloorKHz range)
    else
      let (plan, offset) := pass.plan.clamp range ci (requiredDeltaKHz rb ci targetMHz)
      pass.put ci plan offset

/-- `apply_correction_plan_pass`. -/
def planPass (q : Request n) (targets : Targets n) (rb : Readback n) (range : VfOffsetRange) :
    PlanPass n :=
  (List.finRange n).foldl (planPoint q targets rb range) {}

/-! ## Classifying a pass -/

structure PointEvents where
  tailStuck : Bool := false
  tailOutOfRange : Bool := false
  acceptedReadback : Bool := false
  strictDiverged : Bool := false
  deriving DecidableEq

structure PointReport where
  events : PointEvents := {}
  actualMHz : UInt32 := 0
  targetMHz : UInt32 := 0
  errorKHz : Int32 := 0
  prevErrorKHz : Int32 := 0
  requiredDeltaKHz : Int32 := 0
  deriving DecidableEq

structure PassStats where
  converging : Nat := 0
  worsening : Nat := 0
  stuck : Nat := 0
  outOfRange : Nat := 0
  acceptedNonTail : Nat := 0
  strictDiverged : Nat := 0
  unconverged : Nat := 0
  improved : Nat := 0
  offsetIntentOff : Nat := 0
  firstOffsetIntentOffCi : Int := -1
  firstOffsetIntentProgrammedKHz : Int32 := 0
  firstOffsetIntentTargetKHz : Int32 := 0
  fixedPoint : Bool := false
  deriving DecidableEq

/-- What the passes carry from one to the next. -/
structure Correction (n : Nat) where
  curvePointMHz : Targets n
  prevErrorKHz : Fin n → Int32

/-- `apply_correction_reset_history`: no error was measured yet. -/
def resetHistory : Fin n → Int32 := fun _ => Int32.maxValue

/-- A classification being made. -/
structure ClassifyPass (n : Nat) where
  correction : Correction n
  stats : PassStats := {}
  reports : Fin n → PointReport := fun _ => {}

/-- The tail's progress counters: the counted stats, whether the point diverged,
and its events. -/
def classifyTail (stats : PassStats) (diverged : Bool) (prev errorKHz : Int32) :
    PassStats × Bool × PointEvents :=
  let measured := prev != Int32.maxValue
  if !diverged && measured && decide (errorKHz < prev) then
    ({ stats with converging := stats.converging + 1 }, diverged, {})
  else if !diverged && measured && decide (errorKHz = prev) then
    ({ stats with stuck := stats.stuck + 1 }, true, { tailStuck := true })
  else if !diverged && measured && decide (prev < errorKHz) then
    ({ stats with worsening := stats.worsening + 1 }, true, {})
  else if diverged then
    ({ stats with outOfRange := stats.outOfRange + 1 }, diverged, { tailOutOfRange := true })
  else
    ({ stats with converging := stats.converging + 1 }, diverged, {})

/-- A point that has not converged, and whether its error shrank. -/
def PassStats.measured (stats : PassStats) (prev errorKHz : Int32) : PassStats :=
  { stats with
    unconverged := stats.unconverged + 1
    improved :=
      if prev != Int32.maxValue && decide (errorKHz < prev) then stats.improved + 1
      else stats.improved }

/-- An offset-intent point that does not hold its offset; the first is kept. -/
def PassStats.offsetOff (stats : PassStats) (ci : Fin n) (programmed wanted : Int32) :
    PassStats :=
  if stats.offsetIntentOff = 0 then
    { stats with
      offsetIntentOff := 1
      firstOffsetIntentOffCi := ci
      firstOffsetIntentProgrammedKHz := programmed
      firstOffsetIntentTargetKHz := wanted }
  else { stats with offsetIntentOff := stats.offsetIntentOff + 1 }

/-- The error of a point enters its history, its target stays. -/
def ClassifyPass.remember (pass : ClassifyPass n) (ci : Fin n) (errorKHz : Int32)
    (stats : PassStats) (report : PointReport) : ClassifyPass n where
  correction :=
    { pass.correction with
      prevErrorKHz := Function.update pass.correction.prevErrorKHz ci errorKHz }
  stats := stats
  reports := Function.update pass.reports ci report

/-- The readback of a point is accepted as its target, its history stays. -/
def ClassifyPass.accept (pass : ClassifyPass n) (ci : Fin n) (actualMHz : UInt32)
    (stats : PassStats) (report : PointReport) : ClassifyPass n where
  correction :=
    { pass.correction with
      curvePointMHz := Function.update pass.correction.curvePointMHz ci actualMHz }
  stats := stats
  reports := Function.update pass.reports ci report

/-- One offset-intent point of `apply_correction_classify_pass`: converged means
that it holds the requested offset, and its frequency is never chased. -/
def classifyOffsetIntent (q : Request n) (rb : Readback n) (pass : ClassifyPass n) (ci : Fin n) :
    ClassifyPass n :=
  let programmed := rb.programmedOffsetKHz ci
  let wanted := q.targetOffsetKHz ci
  if programmed = wanted then pass
  else
    let errorKHz := Int32.ofIntClamp (programmed.toInt - wanted.toInt).natAbs
    let prev := pass.correction.prevErrorKHz ci
    pass.remember ci errorKHz
      ((pass.stats.measured prev errorKHz).offsetOff ci programmed wanted)
      { actualMHz := displayMHz (rb.freqKHz ci)
        targetMHz := pass.correction.curvePointMHz ci
        errorKHz := errorKHz
        prevErrorKHz := prev }

/-- Only a derived, lower readback may be accepted as a lowered target. -/
def acceptNonTailReadback (q : Request n) (ci : Fin n) (actualMHz targetMHz : UInt32) : Bool :=
  let tail := q.lockedTailMask ci
  let userExplicitPoint := q.explicitCurveMask ci && !tail
  !q.gpuPolicyViaCurveBatch && q.hasLock && !tail && decide (q.lockMHz ≠ 0) &&
    !userExplicitPoint && decide (actualMHz ≤ targetMHz)

/-- The progress of a point judged by its frequency: the counted stats, whether it
diverged, and its events. -/
def classifyProgress (q : Request n) (range : VfOffsetRange) (ci : Fin n)
    (requiredDeltaKHz prev errorKHz : Int32) (stats : PassStats) :
    PassStats × Bool × PointEvents :=
  let diverged := range.known &&
    (decide (requiredDeltaKHz < range.minKHz) || decide (range.maxKHz < requiredDeltaKHz))
  if q.gpuPolicyViaCurveBatch && pointIsTail q ci then
    classifyTail stats diverged prev errorKHz
  else if diverged then
    ({ stats with outOfRange := stats.outOfRange + 1 }, diverged, {})
  else (stats, diverged, {})

/-- One point judged by its frequency. -/
def classifyFrequency (q : Request n) (rb : Readback n) (range : VfOffsetRange)
    (pass : ClassifyPass n) (ci : Fin n) : ClassifyPass n :=
  let actualMHz := displayMHz (rb.freqKHz ci)
  let targetMHz := if pointIsTail q ci then q.lockMHz else pass.correction.curvePointMHz ci
  if actualMHz = targetMHz then pass
  else
    let errorKHz := Int32.ofIntClamp
      ((rb.freqKHz ci).toNat - targetMHz.toNat * 1000 : Int).natAbs
    let prev := pass.correction.prevErrorKHz ci
    let required := requiredDeltaKHz rb ci targetMHz
    let progress := classifyProgress q range ci required prev errorKHz
      (pass.stats.measured prev errorKHz)
    let stats := progress.1
    let diverged := progress.2.1
    let events := progress.2.2
    let report : PointReport :=
      { events := events
        actualMHz := actualMHz
        targetMHz := targetMHz
        errorKHz := errorKHz
        prevErrorKHz := prev
        requiredDeltaKHz := required }
    if acceptNonTailReadback q ci actualMHz targetMHz then
      pass.accept ci actualMHz { stats with acceptedNonTail := stats.acceptedNonTail + 1 }
        { report with events := { events with acceptedReadback := true } }
    else if diverged then
      pass.remember ci errorKHz { stats with strictDiverged := stats.strictDiverged + 1 }
        { report with events := { events with strictDiverged := true } }
    else pass.remember ci errorKHz stats report

/-- One point of `apply_correction_classify_pass`. -/
def classifyPoint (q : Request n) (rb : Readback n) (range : VfOffsetRange)
    (pass : ClassifyPass n) (ci : Fin n) : ClassifyPass n :=
  if !q.hasCurvePoint ci then pass
  else if rb.freqKHz ci = 0 then pass
  else if pointOffsetIsIntent q ci then classifyOffsetIntent q rb pass ci
  else classifyFrequency q rb range pass ci

/-- `apply_correction_classify_pass`. -/
def classifyPass (q : Request n) (correction : Correction n) (rb : Readback n)
    (range : VfOffsetRange) (correctionPass : Nat) : ClassifyPass n :=
  let pass := (List.finRange n).foldl (classifyPoint q rb range) { correction := correction }
  let fixedPoint := decide (0 < correctionPass) && decide (0 < pass.stats.unconverged) &&
    decide (pass.stats.improved = 0)
  { pass with stats := { pass.stats with fixedPoint := fixedPoint } }

/-! ## Any number of passes -/

/-- A readback fed to the plan or to the classification of a pass. -/
inductive PassEvent (n : Nat) where
  | plan (rb : Readback n) (range : VfOffsetRange)
  | classify (rb : Readback n) (range : VfOffsetRange) (correctionPass : Nat)

/-- What a pass answers a readback with. -/
inductive PassAnswer (n : Nat) where
  | planned (pass : PlanPass n)
  | classified (stats : PassStats) (reports : Fin n → PointReport)

/-- The passes over a request, in any order the readbacks come. -/
def passes (q : Request n) (targets : Targets n) :
    EventMachine (Correction n) (PassEvent n) (PassAnswer n) where
  initial := { curvePointMHz := targets, prevErrorKHz := resetHistory }
  step correction
    | .plan rb range => (correction, .planned (planPass q correction.curvePointMHz rb range))
    | .classify rb range correctionPass =>
      let pass := classifyPass q correction rb range correctionPass
      (pass.correction, .classified pass.stats pass.reports)

/-- What the clock and the driver answer in one pass of the loop. -/
structure PassDriver (n : Nat) where
  mayStart : Bool
  planReadback : Readback n
  planRange : VfOffsetRange
  classifyReadback : Readback n
  classifyRange : VfOffsetRange
  verified : Bool

structure LoopOutcome where
  verified : Bool := false
  budgetExhausted : Bool := false
  fixedPoint : Bool := false
  nothingToCorrect : Bool := false
  passesRun : Nat := 0
  deriving DecidableEq

/-- `apply_run_correction_loop` from its pass `pass` on, with the corrections the
apply passes it.  Verification runs before the exit on a fixed point. -/
def runCorrectionLoop (q : Request n) (driver : Nat → PassDriver n) :
    (remaining pass : Nat) → Correction n → LoopOutcome × Correction n
  | 0, pass, correction => ({ passesRun := pass }, correction)
  | remaining + 1, pass, correction =>
    let d := driver pass
    if !d.mayStart then ({ budgetExhausted := true, passesRun := pass }, correction)
    else if
        !(planPass q correction.curvePointMHz d.planReadback d.planRange).plan.haveCorrections then
      ({ nothingToCorrect := true, passesRun := pass + 1 }, correction)
    else
      let classified := classifyPass q correction d.classifyReadback d.classifyRange pass
      let fixedPoint := classified.stats.fixedPoint
      if d.verified then
        ({ verified := true, fixedPoint := fixedPoint, passesRun := pass + 1 },
          classified.correction)
      else if fixedPoint then
        ({ fixedPoint := true, passesRun := pass + 1 }, classified.correction)
      else runCorrectionLoop q driver remaining (pass + 1) classified.correction

end GreenCurve.ApplyCorrection
