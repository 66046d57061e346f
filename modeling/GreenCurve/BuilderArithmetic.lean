import GreenCurve.OffsetComponents
import GreenCurve.RawSettings

/-! # The arithmetic of a curve build

The builder trusts what came through the boundary and multiplies and subtracts without a check.
Each operation is listed with the width it is done in.  The boundary bounds the GPU offset only
where the request owns it, and the builder reads it for every point the request names, so an
offset nobody owns is multiplied and written as it came. -/

namespace GreenCurve.Backend

/-- A signed operation: the width it is done in and its exact result. -/
inductive SignedOperation where
  | int (result : Int)
  | longLong (result : Int)

/-- The result is representable. -/
def SignedOperation.Fits : SignedOperation → Prop
  | .int result => -2147483648 ≤ result ∧ result ≤ 2147483647
  | .longLong result => -9223372036854775808 ≤ result ∧ result ≤ 9223372036854775807

/-- A readback of the driver: frequencies are unsigned, programmed offsets are of type `int`. -/
structure CurveReadback where
  curve : VFCurve
  offsets : VfPoint → Int
  freqKHz_lt : ∀ ci, (curve ci).freqKHz < 4294967296
  offsets_bounded : ∀ ci, -2147483648 ≤ offsets ci ∧ offsets ci ≤ 2147483647

section Operations
variable (curve : VFCurve) (currentOffsets : VfPoint → Int) (desired : DesiredSettings)
  (minimumOffsetKHz : Int) (ci : VfPoint)

/-- The points a build has written when it comes to a point. -/
def writtenBefore : Nat :=
  (List.finRange VF_NUM_POINTS).countP fun cj =>
    decide (cj < ci) && (pointTarget curve currentOffsets desired minimumOffsetKHz cj).isSome

/-- The operations on the target of a point. -/
def targetOperations : List SignedOperation :=
  let exclude := min desired.gpuOffsetExcludeLowCount VF_NUM_POINTS
  let takesOffset := decide (exclude ≤ populatedOrdinal curve ci)
  let base := baseKHz curve currentOffsets ci
  let gpuOffsetKHz := desired.gpuOffsetMHz * 1000
  if lockTail desired && decide (desired.lockCi ≤ (ci : Int)) then
    if (ci : Int) = desired.lockCi ∨ locksTail desired .hard = true then
      [.longLong (desired.lockMHz * 1000), .longLong (desired.lockMHz * 1000 - base)]
    else []
  else if hasExplicitPoint desired ci then
    (if takesOffset then [.int gpuOffsetKHz] else []) ++
    if desired.curvePointFromGpuOffset ci then []
    else
      [.longLong (desired.curvePointMHz ci * 1000),
        .longLong (desired.curvePointMHz ci * 1000 - max base 0)]
  else if composedGpuOffset desired && takesOffset then
    [.longLong gpuOffsetKHz, .longLong (base + gpuOffsetKHz),
      .longLong (base + gpuOffsetKHz - base)]
  else []

/-- The signed operations of `linux_build_curve_targets` at one point: the loop counter, the
ordinal, the base, the target and the count. -/
def pointOperations : List SignedOperation :=
  .int ((ci : Int) + 1) ::
  if Populated curve ci then
    .int (populatedOrdinal curve ci + 1) :: .longLong (baseKHz curve currentOffsets ci) ::
      .int (writtenBefore curve currentOffsets desired minimumOffsetKHz ci + 1) ::
      targetOperations curve currentOffsets desired ci
  else []

end Operations

section Requests
variable (curve : VFCurve) (desired : DesiredSettings) (ci : VfPoint)

/-- The builder asks for the component of the point: the request names it and no lock owns it. -/
def NamedPoint : Prop :=
  Populated curve ci ∧ ¬ InTail desired ci ∧ hasExplicitPoint desired ci = true

/-- The request names the point as a projection. -/
def Projected : Prop := NamedPoint curve desired ci ∧ desired.curvePointFromGpuOffset ci = true

/-- The point is named and not excluded from the offset. -/
def TakesOffset : Prop :=
  NamedPoint curve desired ci ∧ desired.gpuOffsetExcludeLowCount ≤ populatedOrdinal curve ci

end Requests

/-- A build of a request computes what fits, writes bounded projections and no offset nobody
owns. -/
structure BuilderSound (readback : CurveReadback) (desired : DesiredSettings)
    (minimumOffsetKHz : Int) : Prop where
  noOverflow : ∀ ci, ∀ operation ∈ pointOperations readback.curve readback.offsets desired
    minimumOffsetKHz ci, operation.Fits
  projected : ∀ ci, Projected readback.curve desired ci → ∀ offset,
    pointTarget readback.curve readback.offsets desired minimumOffsetKHz ci = some offset →
    -1000000 ≤ offset ∧ offset ≤ 1000000
  unowned : desired.hasGpuOffset = false → ∀ ci, NamedPoint readback.curve desired ci →
    linuxComponentKHz readback.curve desired ci = 0

/-! ## What the boundary promises -/

/-- The bounds the builder relies on. -/
structure Bounded (desired : DesiredSettings) : Prop where
  points : ∀ ci, desired.curvePointMHz ci ≤ 5000
  lock : desired.lockMHz ≤ 5000
  offset : desired.hasGpuOffset = true →
    -1000 ≤ desired.gpuOffsetMHz ∧ desired.gpuOffsetMHz ≤ 1000

theorem bounded_validate (d : DesiredSettings) : Bounded (validateDesiredSettingsForIpc d) where
  points ci := min_le_right _ _
  lock := min_le_right _ _
  offset howned := by
    have hvalue : (validateDesiredSettingsForIpc d).gpuOffsetMHz =
        clampInt d.gpuOffsetMHz (-1000) 1000 := if_pos howned
    rw [hvalue]
    exact clampInt_mem (by decide) _

/-! ## The law -/

section Law
variable {readback : CurveReadback} {desired : DesiredSettings} {minimum : Int} {ci : VfPoint}

theorem base_bounded (readback : CurveReadback) (ci : VfPoint) :
    -2147483648 < baseKHz readback.curve readback.offsets ci ∧
      baseKHz readback.curve readback.offsets ci < 6442450944 := by
  have hfreq := readback.freqKHz_lt ci
  have hoffset := readback.offsets_bounded ci
  unfold baseKHz
  omega

theorem writtenBefore_le : writtenBefore readback.curve readback.offsets desired minimum ci ≤ 128 :=
  List.countP_le_length.trans_eq List.length_finRange

/-- The bound of the count is no bound on an ordinal. -/
theorem excluded_iff (curve : VFCurve) (desired : DesiredSettings) (ci : VfPoint) :
    min desired.gpuOffsetExcludeLowCount VF_NUM_POINTS ≤ populatedOrdinal curve ci ↔
      desired.gpuOffsetExcludeLowCount ≤ populatedOrdinal curve ci := by
  have hordinal : populatedOrdinal curve ci < VF_NUM_POINTS :=
    Nat.lt_of_le_of_lt (populatedOrdinal_le curve ci) ci.isLt
  omega

/-- A composed offset is owned, and so it is bounded. -/
theorem Bounded.composed (h : Bounded desired) (hcomposed : composedGpuOffset desired = true) :
    -1000 ≤ desired.gpuOffsetMHz ∧ desired.gpuOffsetMHz ≤ 1000 := by
  unfold composedGpuOffset at hcomposed
  rw [Bool.and_eq_true] at hcomposed
  exact h.offset hcomposed.1

/-- The operations on a target fit if the offset the point takes is bounded. -/
theorem fits_targetOperations (hbounded : Bounded desired) (hpop : Populated readback.curve ci)
    (hoffset : TakesOffset readback.curve desired ci →
      -1000 ≤ desired.gpuOffsetMHz ∧ desired.gpuOffsetMHz ≤ 1000)
    (operation : SignedOperation)
    (h : operation ∈ targetOperations readback.curve readback.offsets desired ci) :
    operation.Fits := by
  have hbase := base_bounded readback ci
  have hpoint := hbounded.points ci
  have hlock := hbounded.lock
  unfold targetOperations at h
  dsimp only at h
  generalize baseKHz readback.curve readback.offsets ci = base at hbase h
  split at h
  · split at h
    · simp only [List.mem_cons, List.not_mem_nil, or_false] at h
      rcases h with rfl | rfl
      · simp only [SignedOperation.Fits]
        omega
      · simp only [SignedOperation.Fits]
        omega
    · cases h
  · rename_i htail
    split at h
    · rename_i hexplicit
      have hnamed : NamedPoint readback.curve desired ci := by
        refine ⟨hpop, fun hin => htail ?_, hexplicit⟩
        rw [Bool.and_eq_true, decide_eq_true_eq]
        exact hin
      rcases List.mem_append.mp h with h | h
      · split at h
        · rename_i htakes
          rw [decide_eq_true_eq, excluded_iff] at htakes
          have hsmall := hoffset ⟨hnamed, htakes⟩
          rw [List.mem_singleton.mp h]
          simp only [SignedOperation.Fits]
          omega
        · cases h
      · split at h
        · cases h
        · simp only [List.mem_cons, List.not_mem_nil, or_false] at h
          rcases h with rfl | rfl
          · simp only [SignedOperation.Fits]
            omega
          · simp only [SignedOperation.Fits]
            omega
    · split at h
      · rename_i hcomposed
        rw [Bool.and_eq_true] at hcomposed
        have hsmall := hbounded.composed hcomposed.1
        simp only [List.mem_cons, List.not_mem_nil, or_false] at h
        rcases h with rfl | rfl | rfl
        · simp only [SignedOperation.Fits]
          omega
        · simp only [SignedOperation.Fits]
          omega
        · simp only [SignedOperation.Fits]
          omega
      · cases h

/-- The counters of a build fit, and its targets as above. -/
theorem fits_pointOperations (hbounded : Bounded desired)
    (hoffset : TakesOffset readback.curve desired ci →
      -1000 ≤ desired.gpuOffsetMHz ∧ desired.gpuOffsetMHz ≤ 1000)
    (operation : SignedOperation)
    (h : operation ∈ pointOperations readback.curve readback.offsets desired minimum ci) :
    operation.Fits := by
  have hbase := base_bounded readback ci
  have hwritten : writtenBefore readback.curve readback.offsets desired minimum ci ≤ 128 :=
    writtenBefore_le
  have hordinal := populatedOrdinal_le readback.curve ci
  have hplace : (ci : Nat) < 128 := ci.isLt
  unfold pointOperations at h
  rcases List.mem_cons.mp h with rfl | h
  · simp only [SignedOperation.Fits]
    omega
  split at h
  · rename_i hpop
    rcases List.mem_cons.mp h with rfl | h
    · simp only [SignedOperation.Fits]
      omega
    rcases List.mem_cons.mp h with rfl | h
    · simp only [SignedOperation.Fits]
      omega
    rcases List.mem_cons.mp h with rfl | h
    · simp only [SignedOperation.Fits]
      omega
    exact fits_targetOperations hbounded hpop hoffset operation h
  · cases h

/-- The component of a point, excluded or not. -/
theorem component_cases (curve : VFCurve) (desired : DesiredSettings) (ci : VfPoint) :
    (desired.gpuOffsetExcludeLowCount ≤ populatedOrdinal curve ci ∧
        linuxComponentKHz curve desired ci = desired.gpuOffsetMHz * 1000) ∨
      linuxComponentKHz curve desired ci = 0 := by
  rw [linuxComponent_eq]
  split
  · exact .inl ⟨‹_›, rfl⟩
  · exact .inr rfl

/-- **A build is sound** exactly when no point takes an offset that nobody owns. -/
theorem builderSound_iff_of_bounded (hbounded : Bounded desired) :
    BuilderSound readback desired minimum ↔
      desired.hasGpuOffset = true ∨ desired.gpuOffsetMHz = 0 ∨
        ∀ ci, ¬ TakesOffset readback.curve desired ci := by
  constructor
  · intro hsound
    by_cases howned : desired.hasGpuOffset = true
    · exact .inl howned
    refine .inr ?_
    by_cases hzero : desired.gpuOffsetMHz = 0
    · exact .inl hzero
    refine .inr fun ci htakes => hzero ?_
    have hcomponent := hsound.unowned (Bool.not_eq_true _ ▸ howned) ci htakes.1
    rw [linuxComponent_eq, if_pos htakes.2] at hcomponent
    omega
  · intro h
    have hsmall : ∀ ci, TakesOffset readback.curve desired ci →
        -1000 ≤ desired.gpuOffsetMHz ∧ desired.gpuOffsetMHz ≤ 1000 := by
      intro ci htakes
      rcases h with howned | hzero | hnone
      · exact hbounded.offset howned
      · rw [hzero]
        decide
      · exact absurd htakes (hnone ci)
    constructor
    case noOverflow => exact fun ci => fits_pointOperations hbounded (hsmall ci)
    case projected =>
      rintro ci ⟨hnamed, horigin⟩ offset hoffset
      rw [pointTarget_projected hnamed.1 hnamed.2.1 hnamed.2.2 horigin] at hoffset
      have hvalue := Option.some.inj hoffset
      rcases component_cases readback.curve desired ci with ⟨htakes, hcomponent⟩ | hcomponent
      · have hbound := hsmall ci ⟨hnamed, htakes⟩
        rw [hcomponent] at hvalue
        unfold saturateInt at hvalue
        omega
      · rw [hcomponent] at hvalue
        rw [← hvalue]
        decide
    case unowned =>
      intro hfree ci hnamed
      rcases component_cases readback.curve desired ci with ⟨htakes, hcomponent⟩ | hcomponent
      · rcases h with howned | hzero | hnone
        · rw [hfree] at howned
          exact Bool.noConfusion howned
        · rw [hcomponent, hzero]
          rfl
        · exact absurd ⟨hnamed, htakes⟩ (hnone ci)
      · exact hcomponent

end Law

/-- **What comes through the boundary is built soundly** unless the request names a point for
an offset it does not own. -/
theorem builderSound_iff (d : RawSettings) (readback : CurveReadback) (minimumOffsetKHz : Int) :
    BuilderSound readback d.validateForIpc.decode minimumOffsetKHz ↔
      d.hasGpuOffset ≠ 0 ∨ d.gpuOffsetMHz = 0 ∨
        ∀ ci, ¬ TakesOffset readback.curve d.validateForIpc.decode ci := by
  have hbounded : Bounded d.validateForIpc.decode := by
    rw [decode_validateForIpc]
    exact bounded_validate _
  have howned : d.validateForIpc.decode.hasGpuOffset = true ↔ d.hasGpuOffset ≠ 0 := by
    rw [decode_validateForIpc]
    exact decide_eq_true_iff
  rw [builderSound_iff_of_bounded hbounded, howned]
  by_cases h : d.hasGpuOffset ≠ 0
  · exact iff_of_true (.inl h) (.inl h)
  · have hvalue : d.validateForIpc.decode.gpuOffsetMHz = d.gpuOffsetMHz := by
      rw [decode_validateForIpc]
      exact if_neg (by simpa [RawSettings.decode] using h)
    rw [hvalue]

/-- A request that names one projected point and carries an offset it does not own. -/
theorem unowned_offset_multiplied :
    let d : RawSettings :=
      { hasCurvePoint := fun ci => if ci = 0 then 1 else 0
        curvePointMHz := fun ci => if ci = 0 then 2000 else 0
        curvePointFromGpuOffset := fun ci => if ci = 0 then 1 else 0
        gpuOffsetMHz := 2147483647 }
    let readback : CurveReadback :=
      { curve := fun _ => { freqKHz := 1000000 }
        offsets := fun _ => 0
        freqKHz_lt := fun _ => by decide
        offsets_bounded := fun _ => by decide }
    ¬ BuilderSound readback d.validateForIpc.decode 0 := by
  intro d readback hsound
  have hpoint : hasExplicitPoint d.validateForIpc.decode 0 = true := by
    rw [decode_validateForIpc]
    rfl
  have hnamed : NamedPoint readback.curve d.validateForIpc.decode 0 := by
    refine ⟨Nat.succ_ne_zero 999999, fun htail => ?_, hpoint⟩
    have hlock := htail.1
    rw [decode_validateForIpc] at hlock
    exact Bool.noConfusion hlock
  have hcomponent := hsound.unowned (by rw [decode_validateForIpc]; rfl) 0 hnamed
  have hvalue : linuxComponentKHz readback.curve d.validateForIpc.decode 0 = 2147483647000 := by
    rw [linuxComponent_eq, decode_validateForIpc]
    exact if_pos (Nat.zero_le _)
  rw [hvalue] at hcomponent
  exact absurd hcomponent (by decide)

end GreenCurve.Backend
