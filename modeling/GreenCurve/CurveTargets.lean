import GreenCurve.DesiredSettings
import Mathlib.Data.List.FinRange

/-! # VF curve targets

The complete VF target of an intent in one pass: explicit points win over the GPU
offset, the offset fills the remaining points that take part, and a lock owns the
tail.  Offsets are relative to the stock base, the live frequency minus what is
programmed. -/

namespace GreenCurve.Backend

structure VFCurvePoint where
  freqKHz : Nat := 0
  voltUv : Nat := 0
  deriving DecidableEq, Repr

abbrev VFCurve := VfPoint → VFCurvePoint

/-- A point of frequency zero is not populated. -/
def Populated (curve : VFCurve) (ci : VfPoint) : Prop := (curve ci).freqKHz ≠ 0

instance (curve : VFCurve) (ci : VfPoint) : Decidable (Populated curve ci) :=
  inferInstanceAs (Decidable (_ ≠ _))

/-- The saturation to a 32-bit `int`. -/
def saturateInt (value : Int) : Int := max (min value 2147483647) (-2147483648)

section Desired
variable (desired : DesiredSettings)

/-- A lock of the given mode with a target and an anchor on the curve. -/
def locksTail (mode : LockMode) : Bool :=
  desired.hasLock && decide (desired.lockMode = mode) && decide (desired.lockMHz > 0) &&
    decide (0 ≤ desired.lockCi) && decide (desired.lockCi < VF_NUM_POINTS)

def hasExplicitPoint (ci : VfPoint) : Bool :=
  desired.hasCurvePoint ci && decide (desired.curvePointMHz ci > 0)

def lockTail : Bool := locksTail desired .hard || locksTail desired .flatten

/-- The GPU offset is composed into the curve. -/
def composedGpuOffset : Bool :=
  desired.hasGpuOffset &&
    (decide (desired.gpuOffsetExcludeLowCount > 0) || decide (∃ ci, hasExplicitPoint desired ci) ||
      lockTail desired)

end Desired

/-- How many populated points lie below the point. -/
def populatedOrdinal (curve : VFCurve) (ci : VfPoint) : Nat :=
  (List.finRange VF_NUM_POINTS).countP fun cj => decide (cj < ci ∧ Populated curve cj)

/-- `curve_point_target_offset_khz`. -/
def curvePointTargetOffsetKHz (fromGpuOffset : Bool) (gpuOffsetComponentKHz : Int)
    (absoluteMHz : Nat) (liveBaseKHz : Int) : Int :=
  if fromGpuOffset then gpuOffsetComponentKHz else absoluteMHz * 1000 - max liveBaseKHz 0

/-- The stock base of a point. -/
def baseKHz (curve : VFCurve) (currentOffsets : VfPoint → Int) (ci : VfPoint) : Int :=
  (curve ci).freqKHz - currentOffsets ci

/-- What `linux_build_curve_targets` wants of one point; none leaves it alone. -/
def pointTarget (curve : VFCurve) (currentOffsets : VfPoint → Int) (desired : DesiredSettings)
    (minimumOffsetKHz : Int) (ci : VfPoint) : Option Int :=
  if ¬ Populated curve ci then none
  else
    let exclude := min desired.gpuOffsetExcludeLowCount VF_NUM_POINTS
    let takesOffset := decide (exclude ≤ populatedOrdinal curve ci)
    let base := baseKHz curve currentOffsets ci
    if lockTail desired && decide (desired.lockCi ≤ (ci : Int)) then
      if (ci : Int) = desired.lockCi ∨ locksTail desired .hard = true then
        some (saturateInt (desired.lockMHz * 1000 - base))
      else some minimumOffsetKHz
    else if hasExplicitPoint desired ci then
      let component := if takesOffset then desired.gpuOffsetMHz * 1000 else 0
      some (saturateInt (curvePointTargetOffsetKHz (desired.curvePointFromGpuOffset ci) component
        (desired.curvePointMHz ci) base))
    else if composedGpuOffset desired && takesOffset then
      some (saturateInt (base + desired.gpuOffsetMHz * 1000 - base))
    else none

structure LinuxCurveTargetBuildResult where
  pointCount : Nat
  composedGpuOffset : Bool
  lockTail : Bool
  pointMask : VfPoint → Bool
  pointVoltageUv : VfPoint → Nat
  deriving DecidableEq

/-- The targets with the description of the build. -/
structure CurveTargets where
  targetOffsets : VfPoint → Int
  result : LinuxCurveTargetBuildResult

/-- The build that writes the given target at each point. -/
def CurveTargets.ofTargets (curve : VFCurve) (desired : DesiredSettings)
    (target : VfPoint → Option Int) : CurveTargets where
  targetOffsets ci := (target ci).getD 0
  result :=
    { pointCount := (List.finRange VF_NUM_POINTS).countP fun ci => (target ci).isSome
      composedGpuOffset := composedGpuOffset desired
      lockTail := lockTail desired
      pointMask := fun ci => (target ci).isSome
      pointVoltageUv := fun ci => if Populated curve ci then (curve ci).voltUv else 0 }

/-- `linux_build_curve_targets`. -/
def linuxBuildCurveTargets (curve : VFCurve) (currentOffsets : VfPoint → Int)
    (desired : DesiredSettings) (minimumOffsetKHz : Int) : CurveTargets :=
  .ofTargets curve desired (pointTarget curve currentOffsets desired minimumOffsetKHz)

/-- What `linux_build_curve_transition_targets` wants of one point: the committed
target, else a zero offset for what only the previous intent owned. -/
def transitionTarget (curve : VFCurve) (currentOffsets : VfPoint → Int)
    (previousIntent : Option DesiredSettings) (committedIntent : DesiredSettings)
    (minimumOffsetKHz : Int) (ci : VfPoint) : Option Int :=
  match pointTarget curve currentOffsets committedIntent minimumOffsetKHz ci, previousIntent with
  | some target, _ => some target
  | none, none => none
  | none, some previous =>
    (pointTarget curve currentOffsets previous minimumOffsetKHz ci).map fun _ => 0

/-- `linux_build_curve_transition_targets`. -/
def linuxBuildCurveTransitionTargets (curve : VFCurve) (currentOffsets : VfPoint → Int)
    (previousIntent : Option DesiredSettings) (committedIntent : DesiredSettings)
    (minimumOffsetKHz : Int) : CurveTargets :=
  .ofTargets curve committedIntent
    (transitionTarget curve currentOffsets previousIntent committedIntent minimumOffsetKHz)

def linuxComposedOffsetMustClearScalar (composedGpuOffset : Bool) (scalar : Option Int)
    (resetBaseline : Bool) : Bool :=
  composedGpuOffset && decide (scalar.getD 0 ≠ 0) && !resetBaseline

def linuxCurveTargetsRebuildAfterScalar (scalar : Option Int)
    (resetBaseline clearsScalar : Bool) : Bool :=
  decide (scalar.getD 0 ≠ 0) && (resetBaseline || clearsScalar)

/-- `linux_curve_rebuild_keeps_shape`. -/
def linuxCurveRebuildKeepsShape (planned rebuilt : LinuxCurveTargetBuildResult) : Bool :=
  decide (rebuilt.pointCount > 0) && decide (rebuilt.pointCount = planned.pointCount) &&
    decide (rebuilt.composedGpuOffset = planned.composedGpuOffset) &&
    decide (rebuilt.lockTail = planned.lockTail) &&
    decide (∀ ci, planned.pointMask ci = rebuilt.pointMask ci ∧
      planned.pointVoltageUv ci = rebuilt.pointVoltageUv ci)

/-! ## Facts about a build -/

section Facts
variable {curve : VFCurve} {offsets : VfPoint → Int} {desired : DesiredSettings}
  {minimum : Int} {target : VfPoint → Option Int} {ci : VfPoint}

@[simp] theorem ofTargets_mask :
    (CurveTargets.ofTargets curve desired target).result.pointMask ci = (target ci).isSome := rfl

theorem ofTargets_pointCount_pos :
    0 < (CurveTargets.ofTargets curve desired target).result.pointCount ↔
      ∃ ci, (target ci).isSome = true := by
  simp only [CurveTargets.ofTargets, List.countP_pos_iff, List.mem_finRange, true_and]

/-- The intent speaks for the point: it lies in the lock tail, is explicit, or
takes the composed offset. -/
def OwnsPoint (curve : VFCurve) (desired : DesiredSettings) (ci : VfPoint) : Prop :=
  Populated curve ci ∧
    ((lockTail desired = true ∧ desired.lockCi ≤ (ci : Int)) ∨
      hasExplicitPoint desired ci = true ∨
      (composedGpuOffset desired = true ∧
        min desired.gpuOffsetExcludeLowCount VF_NUM_POINTS ≤ populatedOrdinal curve ci))

/-- **The points a build writes** depend on the intent and on which points are
populated, not on what is programmed. -/
theorem pointTarget_isSome_iff :
    (pointTarget curve offsets desired minimum ci).isSome = true ↔ OwnsPoint curve desired ci := by
  unfold pointTarget OwnsPoint
  by_cases hpop : Populated curve ci
  · by_cases htail : lockTail desired = true ∧ desired.lockCi ≤ (ci : Int)
    · simp only [hpop, htail, not_true_eq_false, if_false, Bool.and_eq_true, decide_eq_true_eq,
        and_self, if_true, true_or, iff_true]
      split <;> rfl
    · by_cases hexplicit : hasExplicitPoint desired ci = true
      · simp [hpop, hexplicit]
        split
        · split <;> rfl
        · rfl
      · simp only [hpop, not_true_eq_false, if_false, Bool.and_eq_true, decide_eq_true_eq, htail,
          hexplicit, Bool.false_eq_true, true_and, false_or]
        split <;> simp_all
  · simp [hpop]

theorem transitionTarget_isSome_iff {previous : Option DesiredSettings} :
    (transitionTarget curve offsets previous desired minimum ci).isSome = true ↔
      OwnsPoint curve desired ci ∨ ∃ p, previous = some p ∧ OwnsPoint curve p ci := by
  unfold transitionTarget
  cases hown : pointTarget curve offsets desired minimum ci with
  | some offset =>
    have := pointTarget_isSome_iff.mp (Option.isSome_iff_exists.mpr ⟨offset, hown⟩)
    simp [this]
  | none =>
    have hfree : ¬ OwnsPoint curve desired ci := fun h => by
      have : (pointTarget curve offsets desired minimum ci).isSome = true :=
        pointTarget_isSome_iff.mpr h
      simp [hown] at this
    cases previous with
    | none => simp [hfree]
    | some p => simp [hfree, pointTarget_isSome_iff]

/-- The same points are populated. -/
def SamePoints (curve curve' : VFCurve) : Prop := ∀ ci, Populated curve ci ↔ Populated curve' ci

namespace SamePoints

variable {curve' curve'' : VFCurve}

theorem refl (curve : VFCurve) : SamePoints curve curve := fun _ => Iff.rfl

theorem symm (h : SamePoints curve curve') : SamePoints curve' curve := fun ci => (h ci).symm

theorem trans (h : SamePoints curve curve') (h' : SamePoints curve' curve'') :
    SamePoints curve curve'' := fun ci => (h ci).trans (h' ci)

theorem populatedOrdinal_eq (h : SamePoints curve curve') (ci : VfPoint) :
    populatedOrdinal curve ci = populatedOrdinal curve' ci := by
  simp only [populatedOrdinal, h _]

/-- What an intent speaks for depends on which points there are. -/
theorem ownsPoint_iff (h : SamePoints curve curve') :
    OwnsPoint curve desired ci ↔ OwnsPoint curve' desired ci := by
  simp only [OwnsPoint, h ci, h.populatedOrdinal_eq ci]

/-- A build that kept the shape of the planned one found the same points, where
a populated point has a voltage. -/
theorem of_keepsShape {planned rebuilt : DesiredSettings}
    {target' : VfPoint → Option Int} (hvolt : ∀ ci, Populated curve ci → 0 < (curve ci).voltUv)
    (hvolt' : ∀ ci, Populated curve' ci → 0 < (curve' ci).voltUv)
    (h : linuxCurveRebuildKeepsShape (CurveTargets.ofTargets curve planned target).result
      (CurveTargets.ofTargets curve' rebuilt target').result = true) : SamePoints curve curve' := by
  intro ci
  simp only [linuxCurveRebuildKeepsShape, Bool.and_eq_true, decide_eq_true_eq] at h
  have hsame : (if Populated curve ci then (curve ci).voltUv else 0) =
      if Populated curve' ci then (curve' ci).voltUv else 0 := (h.2 ci).2
  by_cases hpop : Populated curve ci
  · have hpos := hvolt ci hpop
    rw [if_pos hpop] at hsame
    refine iff_of_true hpop ?_
    by_contra hnot
    rw [if_neg hnot] at hsame
    omega
  · refine iff_of_false hpop fun hpop' => ?_
    have hpos := hvolt' ci hpop'
    rw [if_neg hpop, if_pos hpop'] at hsame
    omega

end SamePoints

/-- A request that does not name the VF domain writes no point. -/
theorem not_ownsPoint_of_no_vfCurve (h : serviceDesiredMutationDomains desired .vfCurve = false) :
    ¬ OwnsPoint curve desired ci := by
  simp only [serviceDesiredMutationDomains, Bool.or_eq_false_iff, Bool.and_eq_false_iff] at h
  obtain ⟨⟨hpoints, hlock⟩, hexclude⟩ := h
  have hexplicit : ∀ cj, hasExplicitPoint desired cj = false := by
    intro cj
    simp only [serviceDesiredHasCurvePoint, decide_eq_false_iff_not, not_exists,
      Bool.not_eq_true] at hpoints
    simp [hasExplicitPoint, hpoints cj]
  have htail : lockTail desired = false := by
    cases hmode : desired.lockMode <;> simp_all [lockTail, locksTail]
  rintro ⟨-, hlockTail | hpoint | hcomposed⟩
  · simp [htail] at hlockTail
  · simp [hexplicit] at hpoint
  · have : composedGpuOffset desired = false := by
      rcases hexclude with hgpu | hzero
      · simp [composedGpuOffset, hgpu]
      · simp only [decide_eq_false_iff_not, not_lt] at hzero
        simp [composedGpuOffset, hexplicit, htail, Nat.le_zero.mp hzero]
    simp [this] at hcomposed

end Facts

end GreenCurve.Backend
