import GreenCurve.FixedPointLaw
import GreenCurve.DesiredSettings

/-! # One correction pass and the verification after it

The plan of a pass, the classification of its readback and the verification of the request
each decide on their own what a point is judged by.  They agree on a request as the apply
makes it: then a driver that keeps the stock base of a point and programs the offset it was
given leaves the point classified as converged and verified after one pass.  The exceptions
are the points whose offset the plan itself did not choose freely: clamped, or one of the
flattened tail.

`displayed_curve_mhz` is the display of the classification, and the verification reads the
same request.  Why a frequency is off is a text, which is left out. -/

namespace GreenCurve.ApplyCorrection

variable {n : Nat}

/-! ## The verification -/

/-- How far the next point with another frequency is, `0` if there is none. -/
def nearestDistinctNeighborDistanceMHz (rb : Readback n) (actualMHz : UInt32) :
    List (Fin n) → UInt32
  | [] => 0
  | ci :: rest =>
    let neighborMHz := displayMHz (rb.freqKHz ci)
    if rb.freqKHz ci = 0 ∨ neighborMHz = actualMHz then
      nearestDistinctNeighborDistanceMHz rb actualMHz rest
    else if actualMHz > neighborMHz then actualMHz - neighborMHz
    else neighborMHz - actualMHz

/-- `curve_point_verify_tolerance_mhz`: half of the way to the nearest neighbor, but at most
8 MHz. -/
def curvePointVerifyToleranceMHz (rb : Readback n) (ci : Fin n) : UInt32 :=
  if rb.freqKHz ci = 0 then 1
  else
    let actualMHz := displayMHz (rb.freqKHz ci)
    let leftDistanceMHz := nearestDistinctNeighborDistanceMHz rb actualMHz
      ((List.finRange n).take ci).reverse
    let rightDistanceMHz := nearestDistinctNeighborDistanceMHz rb actualMHz
      ((List.finRange n).drop (ci + 1))
    let minDistanceMHz :=
      if leftDistanceMHz ≠ 0 ∧ rightDistanceMHz ≠ 0 then min leftDistanceMHz rightDistanceMHz
      else if leftDistanceMHz ≠ 0 then leftDistanceMHz
      else rightDistanceMHz
    if minDistanceMHz = 0 then 8 else min (max ((minDistanceMHz + 1) / 2) 1) 8

/-- Why a request is not verified. -/
inductive VerifyFailure (n : Nat) where
  | noFreshReadback (ci : Fin n)
  | offsetAbove (ci : Fin n) (actualKHz expectedKHz : Int32)
  | targetMismatch (ci : Fin n) (actualMHz targetMHz : UInt32) (tail : Bool)
  | nothingVerified
  deriving DecidableEq

/-- The verification looks at a point. -/
def verifyAsks (q : Request n) (ci : Fin n) : Bool :=
  q.hasCurvePoint ci || (q.hasLock && q.lockedTailMask ci)

/-- One point of `apply_verify_curve_targets`. -/
def verifyPoint (mode : LockMode) (q : Request n) (targets : Targets n) (rb : Readback n)
    (ci : Fin n) : Option (VerifyFailure n) :=
  let tail := q.hasLock && q.lockedTailMask ci
  if !verifyAsks q ci then none
  else if rb.freqKHz ci = 0 then some (.noFreshReadback ci)
  -- A hard pin owns the frequency of the tail.
  else if tail && decide (mode = .hard) then none
  else if !tail && curvePointOffsetIsIntent (q.explicitCurveMask ci) (q.fromGpuOffset ci)
      q.gpuPolicyViaCurveBatch then
    let expected := q.targetOffsetKHz ci
    let actual := rb.programmedOffsetKHz ci
    if actual.toInt > expected.toInt + 12000 then some (.offsetAbove ci actual expected) else none
  else
    let target := if tail then q.lockMHz else targets ci
    let actual := displayMHz (rb.freqKHz ci)
    let delta := if actual > target then actual - target else target - actual
    if delta > curvePointVerifyToleranceMHz rb ci then some (.targetMismatch ci actual target tail)
    else none

/-- The points of the verification, up to the first that fails. -/
def verifyPoints (mode : LockMode) (q : Request n) (targets : Targets n) (rb : Readback n) :
    List (Fin n) → (sawPoint : Bool) → Except (VerifyFailure n) Unit
  | [], sawPoint => if sawPoint then .ok () else .error .nothingVerified
  | ci :: rest, sawPoint =>
    match verifyPoint mode q targets rb ci with
    | some failure => .error failure
    | none => verifyPoints mode q targets rb rest (sawPoint || verifyAsks q ci)

/-- `apply_verify_curve_targets`. -/
def applyVerifyCurveTargets (curveRequest : Bool) (mode : LockMode) (q : Request n)
    (targets : Targets n) (rb : Readback n) : Except (VerifyFailure n) Unit :=
  if !curveRequest then .ok () else verifyPoints mode q targets rb (List.finRange n) false

variable {q : Request n} {targets : Targets n} {rb after : Readback n} {range : VfOffsetRange}
  {mode : LockMode} {base : Nat} {ci : Fin n}

theorem verifyPoints_ok {points : List (Fin n)} {sawPoint : Bool} :
    verifyPoints mode q targets rb points sawPoint = .ok () ↔
      (∀ ci ∈ points, verifyPoint mode q targets rb ci = none) ∧
        (sawPoint = true ∨ ∃ ci ∈ points, verifyAsks q ci = true) := by
  induction points generalizing sawPoint with
  | nil => cases sawPoint <;> simp [verifyPoints]
  | cons head rest ih =>
    rw [verifyPoints]
    cases hpoint : verifyPoint mode q targets rb head with
    | some failure => simp [hpoint]
    | none => simp [hpoint, ih, or_assoc]

/-- A request is verified when each of its points is, and there is one. -/
theorem applyVerify_ok {curveRequest : Bool} :
    applyVerifyCurveTargets curveRequest mode q targets rb = .ok () ↔
      (curveRequest = true → (∀ ci, verifyPoint mode q targets rb ci = none) ∧
        ∃ ci, verifyAsks q ci = true) := by
  unfold applyVerifyCurveTargets
  cases curveRequest with
  | false => simp
  | true => simp [verifyPoints_ok]

/-! ## A driver that follows the plan -/

/-- The offset a point needs, before any clamp. -/
def requiredOffsetKHz (q : Request n) (targets : Targets n) (rb : Readback n) (ci : Fin n) : Int :=
  if !pointIsTail q ci && q.originalCurvePopulated ci then
    curvePointTargetOffsetKHz (pointOffsetIsIntent q ci) (q.targetOffsetKHz ci)
      (judgedMHz q targets ci) (liveBaseKHz rb ci)
  else (judgedMHz q targets ci).toNat * 1000 - liveBaseKHz rb ci

/-- The range clamp leaves the offset of a point as it is. -/
def RangeKeeps (q : Request n) (targets : Targets n) (rb : Readback n) (range : VfOffsetRange)
    (ci : Fin n) : Prop :=
  (vfOffsetRangeClampKHz range (Int32.ofIntClamp (requiredOffsetKHz q targets rb ci))).2 = false

instance (q : Request n) (targets : Targets n) (rb : Readback n) (range : VfOffsetRange)
    (ci : Fin n) : Decidable (RangeKeeps q targets rb range ci) :=
  inferInstanceAs (Decidable (_ = _))

/-- A point of the locked tail beyond the anchor. -/
def BeyondAnchor (q : Request n) (ci : Fin n) : Prop :=
  pointIsTail q ci = true ∧ (ci : Int) ≠ q.lockCi.toInt

instance (q : Request n) (ci : Fin n) : Decidable (BeyondAnchor q ci) :=
  inferInstanceAs (Decidable (_ ∧ _))

/-- The driver keeps the stock base of a point and programs the offset it is given. -/
structure Follows (base : Nat) (offset : Option Int32) (rb after : Readback n) (ci : Fin n) :
    Prop where
  before : rb.freqKHz ci ≠ 0 → ((rb.freqKHz ci).toNat : Int) = base +
    (rb.programmedOffsetKHz ci).toInt
  unpopulated : rb.freqKHz ci = 0 → after.freqKHz ci = 0
  programmed : after.programmedOffsetKHz ci = offset.getD (rb.programmedOffsetKHz ci)
  live : rb.freqKHz ci ≠ 0 → ((after.freqKHz ci).toNat : Int) = base +
    (after.programmedOffsetKHz ci).toInt

/-- What the apply promises of a point it corrects: a lock carries a frequency, and a point
that is asked for by itself was populated before. -/
structure Coherent (q : Request n) (ci : Fin n) : Prop where
  lock : q.hasLock = true → q.lockedTailMask ci = true → q.lockMHz ≠ 0
  original : q.hasCurvePoint ci = true → pointIsTail q ci = true ∨
    q.originalCurvePopulated ci = true

/-- The classification passes over a point, whatever it has found elsewhere. -/
def Converged (q : Request n) (targets : Targets n) (rb : Readback n) (ci : Fin n) : Prop :=
  ∀ range (pass : ClassifyPass n), pass.correction.curvePointMHz ci = targets ci →
    classifyPoint q rb range pass ci = pass

theorem Follows.liveBase {offset : Option Int32} (h : Follows base offset rb after ci)
    (hfreq : rb.freqKHz ci ≠ 0) : liveBaseKHz rb ci = base := by
  have hbefore := h.before hfreq
  unfold liveBaseKHz
  omega

theorem clamp_kept {offsetKHz : Int32} (h : (vfOffsetRangeClampKHz range offsetKHz).2 = false) :
    (vfOffsetRangeClampKHz range offsetKHz).1 = offsetKHz := by
  simpa [vfOffsetRangeClampKHz] using h

/-- The plan gives an unclamped point the offset it needs. -/
theorem plannedOffset_kept (hfreq : rb.freqKHz ci ≠ 0)
    (hasked : q.hasCurvePoint ci = true ∨ pointIsTail q ci = true)
    (hfloor : ¬BeyondAnchor q ci) (hrange : RangeKeeps q targets rb range ci) :
    plannedOffset q targets rb range ci =
      some (Int32.ofIntClamp (requiredOffsetKHz q targets rb ci)) := by
  have hkept := clamp_kept hrange
  unfold plannedOffset
  dsimp only
  rw [if_neg (by rintro (h | h) <;> simp_all)]
  unfold requiredOffsetKHz judgedMHz at *
  split
  · rename_i hbase
    rw [if_pos hbase] at hkept
    rw [hkept]
  · rename_i hbase
    rw [if_neg (by simpa [BeyondAnchor] using hfloor)]
    rw [if_neg hbase] at hkept
    rw [requiredDeltaKHz, hkept]

theorem displayMHz_of_khz {freqKHz : UInt32} {mhz : UInt32}
    (h : freqKHz.toNat = mhz.toNat * 1000) (hmax : (freqKHz.toNat : Int) ≤ Int32.maxValue.toInt) :
    displayMHz freqKHz = mhz := by
  have hround : ((min (freqKHz.toNat : Int) Int32.maxValue.toInt + 500) / 1000).toNat
      = mhz.toNat := by
    rw [Int.min_eq_left hmax, h]
    omega
  unfold displayMHz
  dsimp only
  rw [hround, UInt32.ofNat_toNat]

/-! ## One pass -/

/-- A point that is judged by its offset has it. -/
theorem holds_offset (hintent : pointOffsetIsIntent q ci = true)
    (hwritten : (after.programmedOffsetKHz ci).toInt = requiredOffsetKHz q targets rb ci) :
    after.programmedOffsetKHz ci = q.targetOffsetKHz ci := by
  obtain ⟨htail, hpop⟩ := pointIsTail_of_intent hintent
  rw [requiredOffsetKHz, if_pos (by simp [htail, hpop]), hintent] at hwritten
  exact Int32.toInt_inj.mp hwritten

/-- Any other point is at the frequency it is judged by. -/
theorem reaches_target {offset : Option Int32} (hfollows : Follows base offset rb after ci)
    (hfreq : rb.freqKHz ci ≠ 0) (hintent : pointOffsetIsIntent q ci = false)
    (hwritten : (after.programmedOffsetKHz ci).toInt = requiredOffsetKHz q targets rb ci)
    (hmax : ((after.freqKHz ci).toNat : Int) ≤ Int32.maxValue.toInt) :
    displayMHz (after.freqKHz ci) = judgedMHz q targets ci := by
  have hbase := hfollows.liveBase hfreq
  have hrequired : requiredOffsetKHz q targets rb ci
      = (judgedMHz q targets ci).toNat * 1000 - base := by
    unfold requiredOffsetKHz curvePointTargetOffsetKHz
    rw [hintent, hbase]
    split
    · rw [if_neg Bool.false_ne_true]
      omega
    · rfl
  have hlive := hfollows.live hfreq
  rw [hwritten, hrequired] at hlive
  exact displayMHz_of_khz (by omega) hmax

theorem converged_of_held (hintent : pointOffsetIsIntent q ci = true)
    (h : after.programmedOffsetKHz ci = q.targetOffsetKHz ci) :
    Converged q targets after ci := by
  intro range pass _
  unfold classifyPoint
  split
  · rfl
  split
  · rfl
  exact if_pos h

theorem converged_of_reached (hintent : pointOffsetIsIntent q ci = false)
    (h : displayMHz (after.freqKHz ci) = judgedMHz q targets ci) :
    Converged q targets after ci := by
  intro range pass htarget
  unfold classifyPoint
  split
  · rfl
  split
  · rfl
  rw [hintent, if_neg Bool.false_ne_true]
  refine if_pos (h.trans ?_)
  rw [judgedMHz, htarget]

theorem tail_of_coherent (h : Coherent q ci) :
    pointIsTail q ci = (q.hasLock && q.lockedTailMask ci) := by
  unfold pointIsTail
  cases hlock : q.hasLock with
  | false => rfl
  | true =>
    cases hmask : q.lockedTailMask ci with
    | false => rfl
    | true => simpa using h.lock hlock hmask

/-- The classification and the verification ask for the same quantity. -/
theorem verifyIntent_of_coherent (h : Coherent q ci) (hasked : verifyAsks q ci = true) :
    (!(q.hasLock && q.lockedTailMask ci) && curvePointOffsetIsIntent (q.explicitCurveMask ci)
      (q.fromGpuOffset ci) q.gpuPolicyViaCurveBatch) = pointOffsetIsIntent q ci := by
  unfold pointOffsetIsIntent
  rw [tail_of_coherent h]
  cases htail : q.hasLock && q.lockedTailMask ci with
  | true => rfl
  | false =>
    have hhas : q.hasCurvePoint ci = true := by simpa [verifyAsks, htail] using hasked
    have hpop : q.originalCurvePopulated ci = true :=
      (h.original hhas).resolve_left (by rw [tail_of_coherent h, htail]; exact Bool.false_ne_true)
    simp [hpop]

theorem verified_of_held (hcoherent : Coherent q ci) (hasked : verifyAsks q ci = true)
    (hfreq : after.freqKHz ci ≠ 0) (hintent : pointOffsetIsIntent q ci = true)
    (h : after.programmedOffsetKHz ci = q.targetOffsetKHz ci) :
    verifyPoint mode q targets after ci = none := by
  have htail : (q.hasLock && q.lockedTailMask ci) = false :=
    (tail_of_coherent hcoherent).symm.trans (pointIsTail_of_intent hintent).1
  have hjudged := verifyIntent_of_coherent hcoherent hasked
  unfold verifyPoint
  dsimp only
  rw [hjudged, hintent, hasked, htail, h]
  simp only [Bool.not_true, Bool.false_eq_true, if_false, hfreq, Bool.false_and, if_true]
  exact if_neg (by omega)

theorem verified_of_reached (hcoherent : Coherent q ci) (hasked : verifyAsks q ci = true)
    (hfreq : after.freqKHz ci ≠ 0) (hintent : pointOffsetIsIntent q ci = false)
    (h : displayMHz (after.freqKHz ci) = judgedMHz q targets ci) :
    verifyPoint mode q targets after ci = none := by
  have hjudged := verifyIntent_of_coherent hcoherent hasked
  have htarget : (if (q.hasLock && q.lockedTailMask ci) = true then q.lockMHz else targets ci)
      = displayMHz (after.freqKHz ci) := by
    rw [h, judgedMHz, tail_of_coherent hcoherent]
  unfold verifyPoint
  dsimp only
  rw [hjudged, hintent, hasked, htarget]
  simp only [Bool.not_true, Bool.false_eq_true, if_false, hfreq]
  split
  · rfl
  · -- The difference is zero, which no tolerance is below.
    exact if_neg (by simp)

/-- **One pass suffices.**  A point whose offset no clamp altered, and that is not a flattened
one beyond the anchor, is classified as converged after the pass.  It is verified unless the
offset that was asked for leaves it at no frequency at all. -/
theorem one_pass_suffices (hcoherent : Coherent q ci)
    (hfollows : Follows base ((planPass q targets rb range).offsetsOut ci) rb after ci)
    (hfloor : ¬BeyondAnchor q ci) (hrange : RangeKeeps q targets rb range ci)
    (hfits : (Int32.ofIntClamp (requiredOffsetKHz q targets rb ci)).toInt =
      requiredOffsetKHz q targets rb ci)
    (hmax : pointOffsetIsIntent q ci = false →
      ((after.freqKHz ci).toNat : Int) ≤ Int32.maxValue.toInt) :
    Converged q targets after ci ∧
      (verifyPoint mode q targets after ci = none ↔
        (verifyAsks q ci = true → after.freqKHz ci ≠ 0)) := by
  cases hasked : verifyAsks q ci with
  | false =>
    have hhas : q.hasCurvePoint ci = false := (Bool.or_eq_false_iff.mp hasked).1
    refine ⟨fun range pass _ => by simp [classifyPoint, hhas], ?_⟩
    simp [verifyPoint, hasked]
  | true =>
    by_cases hafter : after.freqKHz ci = 0
    · refine ⟨fun range pass _ => by simp [classifyPoint, hafter], ?_⟩
      simp [verifyPoint, hasked, hafter]
    · have hfreq : rb.freqKHz ci ≠ 0 := fun h => hafter (hfollows.unpopulated h)
      have hplanned : q.hasCurvePoint ci = true ∨ pointIsTail q ci = true := by
        rw [tail_of_coherent hcoherent]
        simpa [verifyAsks] using hasked
      have hwritten : (after.programmedOffsetKHz ci).toInt = requiredOffsetKHz q targets rb ci := by
        rw [hfollows.programmed, planPass_offsetsOut,
          plannedOffset_kept hfreq hplanned hfloor hrange]
        exact hfits
      cases hintent : pointOffsetIsIntent q ci with
      | true =>
        have hheld := holds_offset hintent hwritten
        exact ⟨converged_of_held hintent hheld,
          fun _ _ => hafter, fun _ => verified_of_held hcoherent hasked hafter hintent hheld⟩
      | false =>
        have hreached := reaches_target hfollows hfreq hintent hwritten (hmax hintent)
        exact ⟨converged_of_reached hintent hreached,
          fun _ _ => hafter, fun _ => verified_of_reached hcoherent hasked hafter hintent hreached⟩

/-- Points that are all converged leave the classification nothing to do. -/
theorem classifyPass_of_converged (h : ∀ ci, Converged q targets after ci)
    (prevErrorKHz : Fin n → Int32) (correctionPass : Nat) :
    classifyPass q { curvePointMHz := targets, prevErrorKHz := prevErrorKHz } after range
        correctionPass
      = { correction := { curvePointMHz := targets, prevErrorKHz := prevErrorKHz } } := by
  have hfold : ∀ (points : List (Fin n)) (pass : ClassifyPass n),
      pass.correction.curvePointMHz = targets →
        points.foldl (classifyPoint q after range) pass = pass := by
    intro points
    induction points with
    | nil => exact fun _ _ => rfl
    | cons ci rest ih =>
      intro pass hpass
      rw [List.foldl_cons, h ci range pass (congrFun hpass ci), ih pass hpass]
  unfold classifyPass
  rw [hfold _ _ rfl]
  simp

/-- **One pass ends the correction** of a request all of whose points it suffices for. -/
theorem one_pass_ends {curveRequest : Bool} (hasked : ∃ ci, verifyAsks q ci = true)
    (h : ∀ ci, Converged q targets after ci ∧ verifyPoint mode q targets after ci = none)
    (prevErrorKHz : Fin n → Int32) (correctionPass : Nat) :
    (classifyPass q { curvePointMHz := targets, prevErrorKHz := prevErrorKHz } after range
        correctionPass).stats.unconverged = 0 ∧
      applyVerifyCurveTargets curveRequest mode q targets after = .ok () := by
  refine ⟨?_, applyVerify_ok.mpr fun _ => ⟨fun ci => (h ci).2, hasked⟩⟩
  rw [classifyPass_of_converged fun ci => (h ci).1]

/-! ## Points it does not suffice for -/

/-- A typed point, the only one of its request. -/
def typedPoint : Request 1 where
  hasLock := false
  lockMHz := 0
  lockCi := 0
  gpuPolicyViaCurveBatch := false
  lockedTailMask _ := false
  explicitCurveMask _ := true
  originalCurvePopulated _ := true
  hasCurvePoint _ := true
  fromGpuOffset _ := false
  targetOffsetKHz _ := 0

/-- What the driver reports for the only point. -/
def reading (freqKHz : UInt32) (programmedOffsetKHz : Int32) : Readback 1 where
  freqKHz _ := freqKHz
  programmedOffsetKHz _ := programmedOffsetKHz

/-- The range that permits every offset. -/
def widestRange : VfOffsetRange := { minKHz := .minValue, maxKHz := .maxValue, known := true }

/-- The driver follows the plan, nothing is clamped, and the point is not verified. -/
def PassFails (base : Nat) (q : Request 1) (targetMHz : UInt32) (rb after : Readback 1)
    (failure : VerifyFailure 1) : Prop :=
  Follows base ((planPass q (fun _ => targetMHz) rb widestRange).offsetsOut 0) rb after 0 ∧
    ¬BeyondAnchor q 0 ∧ RangeKeeps q (fun _ => targetMHz) rb widestRange 0 ∧
    verifyPoint .none q (fun _ => targetMHz) after 0 = some failure

/-- **It does not suffice for every request**: not for an offset point without an original,
a lock without a frequency, a target of nothing, a required offset beyond an `int`, or a
frequency that the display cuts. -/
theorem one_pass_fails :
    PassFails 1800000
        { typedPoint with
          originalCurvePopulated := fun _ => false
          explicitCurveMask := fun _ => false
          fromGpuOffset := fun _ => true }
        1900 (reading 1850000 50000) (reading 1900000 100000) (.offsetAbove 0 100000 0) ∧
      PassFails 1800000 { typedPoint with hasLock := true, lockedTailMask := fun _ => true }
        1900 (reading 1850000 50000) (reading 1900000 100000) (.targetMismatch 0 1900 0 true) ∧
      PassFails 1800000 typedPoint 0 (reading 1850000 50000) (reading 0 (-1800000))
        (.noFreshReadback 0) ∧
      PassFails 4000000000 typedPoint 1 (reading 4000000000 0)
        (reading 1852516352 .minValue) (.targetMismatch 0 1852516 1 false) ∧
      PassFails 1000000000 typedPoint 3000000 (reading 1000000000 0)
        (reading 3000000000 2000000000) (.targetMismatch 0 2147484 3000000 false) := by
  refine ⟨⟨⟨?_, ?_, ?_, ?_⟩, ?_, ?_, ?_⟩, ⟨⟨?_, ?_, ?_, ?_⟩, ?_, ?_, ?_⟩,
    ⟨⟨?_, ?_, ?_, ?_⟩, ?_, ?_, ?_⟩, ⟨⟨?_, ?_, ?_, ?_⟩, ?_, ?_, ?_⟩,
    ⟨⟨?_, ?_, ?_, ?_⟩, ?_, ?_, ?_⟩⟩
  all_goals decide

/-- A typed point that the first batch left 50 MHz short. -/
theorem one_pass_suffices_typed :
    Converged typedPoint (fun _ => 1900) (reading 1900000 100000) 0 ∧
      verifyPoint .flatten typedPoint (fun _ => 1900) (reading 1900000 100000) 0 = none := by
  have hfollows : Follows 1800000 ((planPass typedPoint (fun _ => 1900) (reading 1850000 50000)
      widestRange).offsetsOut 0) (reading 1850000 50000) (reading 1900000 100000) 0 :=
    ⟨by decide, by decide, by decide, by decide⟩
  have hpass : _ ∧ (verifyPoint .flatten typedPoint (fun _ => 1900) (reading 1900000 100000) 0
      = none ↔ _) :=
    one_pass_suffices ⟨by decide, by decide⟩ hfollows (by decide) (by decide) (by decide)
      (by decide)
  exact ⟨hpass.1, hpass.2.mpr (by decide)⟩

end GreenCurve.ApplyCorrection
