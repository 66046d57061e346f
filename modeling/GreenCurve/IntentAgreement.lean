import GreenCurve.PhaseEffects

/-! # Intent and hardware after a committed apply

Every clock register that is off its default should be owned by the intent the
service keeps.  Three rules have to agree for that: which fields the merge drops,
which registers the phases of the request write, and which points the curve is
built over.  They agree on the NVML offsets and, when the request names the VF
domain, on the curve; a reset of the baseline drops the XBAR, SYS and VIDEO offsets
from the intent without writing the ones the request leaves alone. -/

namespace GreenCurve.Backend

open CrashM

/-! ## Agreement -/

/-- The intent speaks for the register. -/
def OwnsRegister (curve : VFCurve) (intent : DesiredSettings) : Register → Prop
  | .gpuOffset => intent.hasGpuOffset = true
  | .memOffset => intent.hasMemOffset = true
  | .xbar => intent.hasXbarOffsetKhz = true
  | .msvdd => intent.hasXbarMsvddOffsetUv = true
  | .sysClk => intent.hasSysClkOffsetKhz = true
  | .videoClk => intent.hasVideoClkOffsetKhz = true
  | .vf ci => OwnsPoint curve intent ci
  | .power | .fan _ => True

/-- Every clock register that the driver lets us edit and that is off its default is
the intent's. -/
def Agrees (gpu : LinuxGpuState) (intent : DesiredSettings) (hw : Registers) : Prop :=
  ∀ r, (∀ ci, r = .vf ci → gpu.vfMask ci = true) → hw r ≠ 0 → OwnsRegister gpu.curve intent r

/-! ## The condition -/

/-- The lock tail of the previous intent stays when the request names no lock. -/
def keepsTail (previous d : DesiredSettings) : Bool := lockTail previous && !d.hasLock

/-- A point the previous intent spoke for is spoken for after a request that does
not name the VF domain: explicitly, by the lock tail, or by an offset that is still
composed into the curve. -/
def KeepsPoint (curve : VFCurve) (previous d : DesiredSettings) (ci : VfPoint) : Prop :=
  d.resetOcBeforeApply = false ∧
    (hasExplicitPoint previous ci = true ∨
      (keepsTail previous d = true ∧ previous.lockCi ≤ (ci : Int)) ∨
      (d.hasGpuOffset = true ∧
        ((∃ cj, hasExplicitPoint previous cj = true) ∨ keepsTail previous d = true)) ∨
      (d.hasGpuOffset = false ∧ previous.hasGpuOffset = true ∧
        (0 < previous.gpuOffsetExcludeLowCount ∨ (∃ cj, hasExplicitPoint previous cj = true) ∨
          keepsTail previous d = true) ∧
        min previous.gpuOffsetExcludeLowCount VF_NUM_POINTS ≤ populatedOrdinal curve ci))

/-- The request leaves no overclock behind that the merge forgets. -/
structure KeepsOwnership (gpu : LinuxGpuState) (previous d : DesiredSettings) (hw : Registers) :
    Prop where
  xbar : hw .xbar = 0 ∨ d.hasXbarOffsetKhz = true ∨
    (d.resetOcBeforeApply = false ∧ d.hasXbarMsvddOffsetUv = false)
  msvdd : hw .msvdd = 0 ∨ d.hasXbarMsvddOffsetUv = true ∨
    (d.resetOcBeforeApply = false ∧ d.hasXbarOffsetKhz = false)
  sysClk : hw .sysClk = 0 ∨ d.hasSysClkOffsetKhz = true ∨ d.resetOcBeforeApply = false
  videoClk : hw .videoClk = 0 ∨ d.hasVideoClkOffsetKhz = true ∨ d.resetOcBeforeApply = false
  vf : serviceDesiredMutationDomains d .vfCurve = true ∨
    ∀ ci, gpu.vfMask ci = true → hw (.vf ci) ≠ 0 → KeepsPoint gpu.curve previous d ci

/-! ## What the merge keeps -/

section Merge
variable {previous : Option DesiredSettings} {d : DesiredSettings} {curve : VFCurve} {ci : VfPoint}

theorem hasExplicitPoint_merged (hvf : serviceDesiredMutationDomains d .vfCurve = false) :
    hasExplicitPoint (serviceMergeDesiredAfterMutation previous d) ci =
      (!d.resetOcBeforeApply && hasExplicitPoint (previous.getD {}) ci) := by
  simp only [hasExplicitPoint, serviceMergeDesiredAfterMutation_eq, mergeSource, hvf, mergeBase,
    Bool.false_eq_true, if_false]
  cases hreset : d.resetOcBeforeApply with
  | true => simp [serviceDesiredMutationDomains, hreset, mergeResetBaseline]
  | false => simp [serviceDesiredMutationDomains, hreset]

theorem lockMode_of_no_vfCurve (hvf : serviceDesiredMutationDomains d .vfCurve = false)
    (hlock : d.hasLock = true) : d.lockMode = .none := by
  cases hmode : d.lockMode <;> simp_all [serviceDesiredMutationDomains]

theorem lockTail_merged (hvf : serviceDesiredMutationDomains d .vfCurve = false) :
    lockTail (serviceMergeDesiredAfterMutation previous d) =
      (!d.resetOcBeforeApply && keepsTail (previous.getD {}) d) := by
  cases hlock : d.hasLock with
  | true =>
    have hmode := lockMode_of_no_vfCurve hvf hlock
    simp [lockTail, locksTail, serviceMergeDesiredAfterMutation_eq, mergeSource,
      serviceDesiredMutationDomains, hlock, hmode, keepsTail]
  | false =>
    cases hreset : d.resetOcBeforeApply with
    | true =>
      simp [lockTail, locksTail, serviceMergeDesiredAfterMutation_eq, mergeSource, mergeBase,
        serviceDesiredMutationDomains, hlock, hreset, mergeResetBaseline]
    | false =>
      simp [lockTail, locksTail, serviceMergeDesiredAfterMutation_eq, mergeSource, mergeBase,
        serviceDesiredMutationDomains, hlock, hreset, keepsTail]

theorem lockCi_merged (hreset : d.resetOcBeforeApply = false) (hlock : d.hasLock = false) :
    (serviceMergeDesiredAfterMutation previous d).lockCi = (previous.getD {}).lockCi := by
  simp [serviceMergeDesiredAfterMutation_eq, mergeSource, mergeBase, serviceDesiredMutationDomains,
    hlock, hreset]

theorem hasGpuOffset_merged :
    (serviceMergeDesiredAfterMutation previous d).hasGpuOffset =
      (d.hasGpuOffset || (!d.resetOcBeforeApply && (previous.getD {}).hasGpuOffset)) := by
  cases hgpu : d.hasGpuOffset <;> cases hreset : d.resetOcBeforeApply <;>
    simp [serviceMergeDesiredAfterMutation_eq, mergeBase, serviceDesiredMutationDomains, hgpu,
      hreset, mergeResetBaseline]

theorem excludeLowCount_merged (previous : Option DesiredSettings) (hgpu : d.hasGpuOffset = false)
    (hreset : d.resetOcBeforeApply = false) :
    (serviceMergeDesiredAfterMutation previous d).gpuOffsetExcludeLowCount =
      (previous.getD {}).gpuOffsetExcludeLowCount := by
  simp [serviceMergeDesiredAfterMutation_eq, mergeBase, serviceDesiredMutationDomains, hgpu, hreset]

theorem excludeLowCount_merged_of_gpuOffset (previous : Option DesiredSettings)
    (hvf : serviceDesiredMutationDomains d .vfCurve = false) (hgpu : d.hasGpuOffset = true) :
    (serviceMergeDesiredAfterMutation previous d).gpuOffsetExcludeLowCount = 0 := by
  simp only [serviceDesiredMutationDomains, hgpu, Bool.or_eq_false_iff] at hvf
  simp only [serviceMergeDesiredAfterMutation_eq, hgpu, if_true]
  simpa using hvf.2

/-- The merged intent over a request that does not name the VF domain. -/
theorem ownsPoint_merged_iff (hvf : serviceDesiredMutationDomains d .vfCurve = false) :
    OwnsPoint curve (serviceMergeDesiredAfterMutation previous d) ci ↔
      Populated curve ci ∧ KeepsPoint curve (previous.getD {}) d ci := by
  unfold OwnsPoint
  refine and_congr_right fun _ => ?_
  simp only [composedGpuOffset, hasExplicitPoint_merged hvf, lockTail_merged hvf,
    hasGpuOffset_merged]
  cases hreset : d.resetOcBeforeApply with
  | true =>
    cases hgpu : d.hasGpuOffset with
    | true => simp [KeepsPoint, hreset, excludeLowCount_merged_of_gpuOffset previous hvf hgpu]
    | false => simp [KeepsPoint, hreset]
  | false =>
    have htail : keepsTail (previous.getD {}) d = true →
        (serviceMergeDesiredAfterMutation previous d).lockCi = (previous.getD {}).lockCi := by
      intro hkeeps
      simp only [keepsTail, Bool.and_eq_true, Bool.not_eq_true'] at hkeeps
      exact lockCi_merged hreset hkeeps.2
    cases hgpu : d.hasGpuOffset with
    | true =>
      have hexclude := excludeLowCount_merged_of_gpuOffset previous hvf hgpu
      by_cases hkeeps : keepsTail (previous.getD {}) d = true
      · simp [KeepsPoint, hreset, hgpu, hexclude, hkeeps, htail hkeeps]
      · simp [KeepsPoint, hreset, hgpu, hexclude, hkeeps]
    | false =>
      have hexclude := excludeLowCount_merged previous hgpu hreset
      by_cases hkeeps : keepsTail (previous.getD {}) d = true
      · simp [KeepsPoint, hreset, hgpu, hexclude, hkeeps, htail hkeeps]
        exact or_left_comm
      · simp [KeepsPoint, hreset, hgpu, hexclude, hkeeps, and_assoc]

/-- The scalars the merged intent speaks for. -/
structure MergedScalars (previous d merged : DesiredSettings) : Prop where
  gpuOffset : merged.hasGpuOffset =
    (d.hasGpuOffset || (!d.resetOcBeforeApply && previous.hasGpuOffset))
  memOffset : merged.hasMemOffset =
    (d.hasMemOffset || (!d.resetOcBeforeApply && previous.hasMemOffset))
  xbar : merged.hasXbarOffsetKhz =
    (d.hasXbarOffsetKhz || ((!d.resetOcBeforeApply && !d.hasXbarMsvddOffsetUv) &&
      previous.hasXbarOffsetKhz))
  msvdd : merged.hasXbarMsvddOffsetUv =
    (d.hasXbarMsvddOffsetUv || ((!d.resetOcBeforeApply && !d.hasXbarOffsetKhz) &&
      previous.hasXbarMsvddOffsetUv))
  sysClk : merged.hasSysClkOffsetKhz =
    (d.hasSysClkOffsetKhz || (!d.resetOcBeforeApply && previous.hasSysClkOffsetKhz))
  videoClk : merged.hasVideoClkOffsetKhz =
    (d.hasVideoClkOffsetKhz || (!d.resetOcBeforeApply && previous.hasVideoClkOffsetKhz))

theorem mergedScalars (previous : Option DesiredSettings) (d : DesiredSettings) :
    MergedScalars (previous.getD {}) d (serviceMergeDesiredAfterMutation previous d) := by
  have hbase : mergeBase previous d =
      if d.resetOcBeforeApply then mergeResetBaseline (previous.getD {})
      else previous.getD {} := rfl
  constructor
  · exact hasGpuOffset_merged
  all_goals
    simp only [serviceMergeDesiredAfterMutation_eq, mergeSource, hbase,
      serviceDesiredMutationDomains]
    cases hreset : d.resetOcBeforeApply
  · cases hhas : d.hasMemOffset <;> simp [hhas]
  · cases hhas : d.hasMemOffset <;> simp [hhas, mergeResetBaseline]
  · cases hhas : d.hasXbarOffsetKhz <;> cases hother : d.hasXbarMsvddOffsetUv <;> simp [hhas]
  · cases hhas : d.hasXbarOffsetKhz <;> cases hother : d.hasXbarMsvddOffsetUv <;>
      simp [hhas, mergeResetBaseline]
  · cases hhas : d.hasXbarOffsetKhz <;> cases hother : d.hasXbarMsvddOffsetUv <;> simp [hother]
  · cases hhas : d.hasXbarOffsetKhz <;> cases hother : d.hasXbarMsvddOffsetUv <;>
      simp [hother, mergeResetBaseline]
  · cases hhas : d.hasSysClkOffsetKhz <;> simp [hhas]
  · cases hhas : d.hasSysClkOffsetKhz <;> simp [hhas, mergeResetBaseline]
  · cases hhas : d.hasVideoClkOffsetKhz <;> simp [hhas]
  · cases hhas : d.hasVideoClkOffsetKhz <;> simp [hhas, mergeResetBaseline]

end Merge

/-! ## The registers after a successful apply -/

section Registers
variable {d : DesiredSettings} {previous committed : Option DesiredSettings} {start : ApplyStart}
  {s₀ s s' : BackendState}

/-- The scalars a request writes hold what it asked for, the others what they held,
but for the NVML offsets under a reset. -/
structure ScalarsApplied (d : DesiredSettings) (hw hw' : Registers) : Prop where
  memOffset : hw' .memOffset =
    if d.hasMemOffset then memEffectiveMHz d.memOffsetMHz
    else if d.resetOcBeforeApply then 0 else hw .memOffset
  xbar : hw' .xbar = if d.hasXbarOffsetKhz then d.xbarOffsetKhz else hw .xbar
  msvdd : hw' .msvdd = if d.hasXbarMsvddOffsetUv then d.xbarMsvddOffsetUv else hw .msvdd
  sysClk : hw' .sysClk = if d.hasSysClkOffsetKhz then d.sysClkOffsetKhz else hw .sysClk
  videoClk : hw' .videoClk =
    if d.hasVideoClkOffsetKhz then d.videoClkOffsetKhz else hw .videoClk

/-- The graphics offset after a successful apply. -/
def gpuOffsetAfter (d : DesiredSettings) (composed clears : Bool) (old : Int) : Int :=
  if d.hasGpuOffset && !composed || clears then if composed then 0 else d.gpuOffsetMHz
  else if d.resetOcBeforeApply then 0 else old

/-- A scalar after a successful apply, phase by phase. -/
theorem Applied.scalar_eq (h : Applied start s s') {r : Register} (hr : IsScalar r) :
    s'.hw r = phaseOrder.foldl (fun value phase =>
      if start.requested phase then phaseValue start.context r value phase else value) (s.hw r) :=
  (h.scalar r hr).trans List.foldl_filter

theorem scalarsApplied (hstarted : Started d previous committed s₀ start s)
    (happlied : Applied start s s') : ScalarsApplied d s.hw s'.hw := by
  obtain ⟨fanStart, hcontext⟩ := hstarted.context
  have hreset : start.requested .resetBaseline = d.resetOcBeforeApply := by rw [hcontext]; rfl
  have hmem : start.requested .memOffset = d.hasMemOffset := by rw [hcontext]; rfl
  have hxbar : start.requested .xbar = (d.hasXbarOffsetKhz || d.hasXbarMsvddOffsetUv) := by
    rw [hcontext]; rfl
  have hsys : start.requested .sysClk = d.hasSysClkOffsetKhz := by rw [hcontext]; rfl
  have hvideo : start.requested .videoClk = d.hasVideoClkOffsetKhz := by rw [hcontext]; rfl
  have hdesired : start.context.desired = d := by rw [hcontext]; rfl
  constructor
  · rw [happlied.scalar_eq (by simp [IsScalar, IsVf, IsFan])]
    simp [phaseOrder, phaseValue, phaseTarget, hdesired, xbarTarget, hmem, hreset]
  · rw [happlied.scalar_eq (by simp [IsScalar, IsVf, IsFan])]
    cases hhas : d.hasXbarOffsetKhz <;>
      simp [phaseOrder, phaseValue, phaseTarget, hdesired, xbarTarget, hxbar, hreset, hhas]
  · rw [happlied.scalar_eq (by simp [IsScalar, IsVf, IsFan])]
    cases hhas : d.hasXbarMsvddOffsetUv <;>
      simp [phaseOrder, phaseValue, phaseTarget, hdesired, xbarTarget, hxbar, hreset, hhas]
  · rw [happlied.scalar_eq (by simp [IsScalar, IsVf, IsFan])]
    cases hhas : d.hasSysClkOffsetKhz <;>
      simp [phaseOrder, phaseValue, phaseTarget, hdesired, xbarTarget, hsys, hreset, hhas]
  · rw [happlied.scalar_eq (by simp [IsScalar, IsVf, IsFan])]
    cases hhas : d.hasVideoClkOffsetKhz <;>
      simp [phaseOrder, phaseValue, phaseTarget, hdesired, xbarTarget, hvideo, hreset, hhas]

theorem gpuOffset_applied (hstarted : Started d previous committed s₀ start s)
    (happlied : Applied start s s') :
    s'.hw .gpuOffset = gpuOffsetAfter d
      (linuxApplyBuildCurve s.gpu d previous committed).result.composedGpuOffset
      (clearsStaleGpuOffset d start.snapshot (linuxApplyBuildCurve s.gpu d previous committed))
      (s.hw .gpuOffset) := by
  obtain ⟨fanStart, hcontext⟩ := hstarted.context
  have hreset : start.requested .resetBaseline = d.resetOcBeforeApply := by rw [hcontext]; rfl
  have hgpu : start.requested .gpuOffset = (d.hasGpuOffset &&
      !(linuxApplyBuildCurve s.gpu d previous committed).result.composedGpuOffset ||
        clearsStaleGpuOffset d start.snapshot
          (linuxApplyBuildCurve s.gpu d previous committed)) := by
    rw [hcontext]; rfl
  have hdesired : start.context.desired = d := by rw [hcontext]; rfl
  have hcomposed : start.context.composedGpuOffset =
      (linuxApplyBuildCurve s.gpu d previous committed).result.composedGpuOffset := by
    rw [hcontext]; rfl
  rw [happlied.scalar_eq (by simp [IsScalar, IsVf, IsFan])]
  simp [phaseOrder, phaseValue, phaseTarget, hdesired, hcomposed, xbarTarget, hgpu, hreset,
    gpuOffsetAfter]

/-- What a reread found is what was planned over, where the curve was plausible. -/
theorem BuiltWith.samePoints {context : LinuxApplyTransactionContext} {planned built : LinuxGpuState}
    {mid end_ : BackendState} (h : BuiltWith context planned mid end_ built)
    (hplausibly : linuxBackendCurvePlausible planned = true) :
    SamePoints planned.curve built.curve := by
  cases h with
  | planned => exact .refl _
  | reread curve rebuilds read same =>
    refine same fun ci hci => ?_
    exact voltUv_pos_of_valid ((Bool.and_eq_true _ _).mp hplausibly).2 hci

/-- An intent that owns nothing owns no point. -/
theorem exists_of_ownsPoint_getD {curve : VFCurve} {ci : VfPoint}
    (h : OwnsPoint curve (previous.getD {}) ci) : ∃ p, previous = some p ∧ OwnsPoint curve p ci := by
  cases previous with
  | some p => exact ⟨p, rfl, h⟩
  | none =>
    have hnone : serviceDesiredMutationDomains {} .vfCurve = false := by
      simp [serviceDesiredMutationDomains, serviceDesiredHasCurvePoint]
    exact absurd h (not_ownsPoint_of_no_vfCurve hnone)

/-- A point that only the previous intent owned is cleared. -/
theorem transitionTarget_eq_zero {curve : VFCurve} {offsets : VfPoint → Int}
    {merged : DesiredSettings} {minimum target : Int} {ci : VfPoint}
    (h : transitionTarget curve offsets previous merged minimum ci = some target)
    (hfree : ¬ OwnsPoint curve merged ci) : target = 0 := by
  unfold transitionTarget at h
  cases hpoint : pointTarget curve offsets merged minimum ci with
  | some offset =>
    exact absurd (pointTarget_isSome_iff.mp (Option.isSome_iff_exists.mpr ⟨offset, hpoint⟩)) hfree
  | none =>
    rw [hpoint] at h
    cases previous with
    | none => cases h
    | some p =>
      obtain ⟨-, -, htarget⟩ := Option.map_eq_some_iff.mp h
      exact htarget.symm

theorem clampFreqDeltaKHz_zero (range : CurveOffsetRange) : clampFreqDeltaKHz range 0 = 0 := by
  have hmem := range.zero_mem
  unfold clampFreqDeltaKHz
  split
  · omega
  · split
    · omega
    · rfl

/-- **The curve under a request that names the VF domain**: what stays off its
default is the merged intent's. -/
theorem vf_agrees_of_vfCurve {merged : DesiredSettings}
    (hstarted : Started d previous (some merged) s₀ start s) (happlied : Applied start s s')
    (hvf : serviceDesiredMutationDomains d .vfCurve = true)
    (hagrees : ∀ ci, s.gpu.vfMask ci = true → s.hw (.vf ci) ≠ 0 →
      OwnsPoint s.gpu.curve (previous.getD {}) ci)
    (ci : VfPoint) (hedit : s.gpu.vfMask ci = true) (hoff : s'.hw (.vf ci) ≠ 0) :
    OwnsPoint s.gpu.curve merged ci := by
  have hplausibly := curvePlausible_of_preflight hstarted.preflight hvf
  obtain ⟨fanStart, hcontext⟩ := hstarted.context
  have htarget : ∀ gpu cj, applyTarget gpu d previous (some merged) cj =
      transitionTarget gpu.curve gpu.freqOffsets previous merged gpu.curveOffsetRange.minKHz cj := by
    intro gpu cj
    simp [applyTarget, hvf]
  by_contra hfree
  -- What the point held before was the previous intent's, so the build names it.
  have hnamed : s.hw (.vf ci) ≠ 0 → ∀ gpu : LinuxGpuState, SamePoints s.gpu.curve gpu.curve →
      (applyTarget gpu d previous (some merged) ci).isSome = true := by
    intro hheld gpu hsame
    obtain ⟨p, hp, hown⟩ := exists_of_ownsPoint_getD (hagrees ci hedit hheld)
    rw [htarget]
    exact transitionTarget_isSome_iff.mpr (.inr ⟨p, hp, hsame.ownsPoint_iff.mp hown⟩)
  cases hcurve : start.requested .curve with
  | false =>
    rw [happlied.unwritten hcurve ci] at hoff
    have := (requested_curve_iff hstarted).mpr ⟨ci, hnamed hoff s.gpu (.refl _)⟩
    simp [hcurve] at this
  | true =>
    obtain ⟨built, mid, hbuilt, -, -, -, hwritten⟩ := happlied.written hcurve
    have hsame := hbuilt.samePoints hplausibly
    rw [hwritten ci, writtenOffset, if_pos hedit, hcontext] at hoff
    change ((applyTarget built d previous (some merged) ci).map _).getD _ ≠ 0 at hoff
    cases hpoint : applyTarget built d previous (some merged) ci with
    | none =>
      rw [hpoint] at hoff
      have := hnamed hoff built hsame
      simp [hpoint] at this
    | some target =>
      rw [htarget] at hpoint
      have hzero := transitionTarget_eq_zero hpoint fun hown => hfree (hsame.ownsPoint_iff.mpr hown)
      rw [htarget, hpoint, hzero] at hoff
      simp [clampFreqDeltaKHz_zero] at hoff

/-- A request that does not name the VF domain leaves the curve alone. -/
theorem vf_unwritten (hstarted : Started d previous committed s₀ start s)
    (happlied : Applied start s s') (hvf : serviceDesiredMutationDomains d .vfCurve = false)
    (ci : VfPoint) : s'.hw (.vf ci) = s.hw (.vf ci) := by
  refine happlied.unwritten (Bool.eq_false_iff.mpr fun hcurve => ?_) ci
  rw [vfCurve_of_requested hstarted hcurve] at hvf
  cases hvf

end Registers

/-! ## The agreement -/

/-- A scalar that was the previous intent's and is written where it is requested:
when is it the merged intent's. -/
theorem scalar_agrees_iff {merged has kept owned : Bool} {held asked after : Int}
    (hmerged : merged = (has || (kept && owned))) (hafter : after = if has then asked else held)
    (hheld : held ≠ 0 → owned = true) :
    (after ≠ 0 → merged = true) ↔ held = 0 ∨ has = true ∨ kept = true := by
  subst hmerged hafter
  cases has with
  | true => simp
  | false =>
    by_cases hzero : held = 0
    · simp [hzero]
    · simp [hzero, hheld hzero]

/-- Agreement, register by register. -/
theorem agrees_iff {gpu : LinuxGpuState} {intent : DesiredSettings} {hw : Registers} :
    Agrees gpu intent hw ↔
      (hw .gpuOffset ≠ 0 → intent.hasGpuOffset = true) ∧
      (hw .memOffset ≠ 0 → intent.hasMemOffset = true) ∧
      (hw .xbar ≠ 0 → intent.hasXbarOffsetKhz = true) ∧
      (hw .msvdd ≠ 0 → intent.hasXbarMsvddOffsetUv = true) ∧
      (hw .sysClk ≠ 0 → intent.hasSysClkOffsetKhz = true) ∧
      (hw .videoClk ≠ 0 → intent.hasVideoClkOffsetKhz = true) ∧
      ∀ ci, gpu.vfMask ci = true → hw (.vf ci) ≠ 0 → OwnsPoint gpu.curve intent ci := by
  constructor
  · intro h
    exact ⟨h .gpuOffset (by simp), h .memOffset (by simp), h .xbar (by simp), h .msvdd (by simp),
      h .sysClk (by simp), h .videoClk (by simp),
      fun ci hedit => h (.vf ci) fun cj hcj => by cases hcj; exact hedit⟩
  · rintro ⟨hgpu, hmem, hxbar, hmsvdd, hsys, hvideo, hvf⟩ r hedit
    cases r with
    | gpuOffset => exact hgpu
    | memOffset => exact hmem
    | xbar => exact hxbar
    | msvdd => exact hmsvdd
    | sysClk => exact hsys
    | videoClk => exact hvideo
    | vf ci => exact hvf ci (hedit ci rfl)
    | power => exact fun _ => trivial
    | fan index => exact fun _ => trivial

/-- **Intent and hardware agree** after a successful apply exactly when the request
leaves no clock register off its default that the merge forgets. -/
theorem intent_agreement (previous : Option DesiredSettings) (d : DesiredSettings)
    (answers : List DriverAnswer) (s₀ : BackendState)
    (hok : Succeeds (linuxBackendApply d previous
      (some (serviceMergeDesiredAfterMutation previous d))) answers s₀)
    (hagrees : Agrees (startedState d previous
        (some (serviceMergeDesiredAfterMutation previous d)) answers s₀).gpu
      (previous.getD {}) s₀.hw) :
    Agrees (startedState d previous
        (some (serviceMergeDesiredAfterMutation previous d)) answers s₀).gpu
      (serviceMergeDesiredAfterMutation previous d)
      (exec (linuxBackendApply d previous
        (some (serviceMergeDesiredAfterMutation previous d))) answers s₀).2.hw ↔
    KeepsOwnership (startedState d previous
        (some (serviceMergeDesiredAfterMutation previous d)) answers s₀).gpu
      (previous.getD {}) d s₀.hw := by
  obtain ⟨start, s', hstarted, happlied, hrefreshed⟩ := exists_applied hok
  generalize startedState d previous (some (serviceMergeDesiredAfterMutation previous d)) answers
    s₀ = s at *
  rw [hrefreshed.hw_eq]
  have hscalars := scalarsApplied hstarted happlied
  have hgpu := gpuOffset_applied hstarted happlied
  rw [hstarted.hw] at hscalars hgpu
  have hmerged := mergedScalars previous d
  obtain ⟨hgpu₀, hmem₀, hxbar₀, hmsvdd₀, hsys₀, hvideo₀, hvf₀⟩ := agrees_iff.mp hagrees
  have hxbar := scalar_agrees_iff hmerged.xbar hscalars.xbar hxbar₀
  have hmsvdd := scalar_agrees_iff hmerged.msvdd hscalars.msvdd hmsvdd₀
  have hsys := scalar_agrees_iff hmerged.sysClk hscalars.sysClk hsys₀
  have hvideo := scalar_agrees_iff hmerged.videoClk hscalars.videoClk hvideo₀
  have hgpuOk : s'.hw .gpuOffset ≠ 0 →
      (serviceMergeDesiredAfterMutation previous d).hasGpuOffset = true := by
    intro hoff
    rw [hmerged.gpuOffset]
    cases hhas : d.hasGpuOffset with
    | true => rfl
    | false =>
      rw [hgpu, gpuOffsetAfter, hhas] at hoff
      cases hclears : clearsStaleGpuOffset d start.snapshot (linuxApplyBuildCurve s.gpu d previous
          (some (serviceMergeDesiredAfterMutation previous d))) with
      | true =>
        -- A stale scalar is only cleared under a composed offset, and to zero.
        have hcomposed := hclears
        simp only [clearsStaleGpuOffset, linuxComposedOffsetMustClearScalar,
          Bool.and_eq_true] at hcomposed
        simp [hclears, hcomposed.1.1] at hoff
      | false =>
        cases hreset : d.resetOcBeforeApply with
        | true => simp [hclears, hreset] at hoff
        | false =>
          simp only [hclears, hreset, Bool.false_and, Bool.or_self, Bool.false_eq_true,
            if_false] at hoff
          simp [hgpu₀ hoff]
  have hmemOk : s'.hw .memOffset ≠ 0 →
      (serviceMergeDesiredAfterMutation previous d).hasMemOffset = true := by
    intro hoff
    rw [hmerged.memOffset]
    rw [hscalars.memOffset] at hoff
    cases hhas : d.hasMemOffset with
    | true => rfl
    | false =>
      cases hreset : d.resetOcBeforeApply with
      | true => simp [hhas, hreset] at hoff
      | false =>
        simp only [hhas, hreset, Bool.false_eq_true, if_false] at hoff
        simp [hmem₀ hoff]
  have hvf : (∀ ci, s.gpu.vfMask ci = true → s'.hw (.vf ci) ≠ 0 →
        OwnsPoint s.gpu.curve (serviceMergeDesiredAfterMutation previous d) ci) ↔
      serviceDesiredMutationDomains d .vfCurve = true ∨
        ∀ ci, s.gpu.vfMask ci = true → s₀.hw (.vf ci) ≠ 0 →
          KeepsPoint s.gpu.curve (previous.getD {}) d ci := by
    cases hdomain : serviceDesiredMutationDomains d .vfCurve with
    | true =>
      refine iff_of_true (vf_agrees_of_vfCurve hstarted happlied hdomain ?_) (.inl rfl)
      rw [hstarted.hw]
      exact hvf₀
    | false =>
      simp only [Bool.false_eq_true, false_or]
      refine forall_congr' fun ci => imp_congr_right fun hedit => ?_
      rw [vf_unwritten hstarted happlied hdomain ci, hstarted.hw]
      refine imp_congr_right fun hoff => ?_
      rw [ownsPoint_merged_iff hdomain]
      exact and_iff_right (hvf₀ ci hedit hoff).1
  rw [agrees_iff, hxbar, hmsvdd, hsys, hvideo, hvf]
  constructor
  · rintro ⟨-, -, hx, hm, hs, hv, hcurve⟩
    exact ⟨by simpa using hx, by simpa using hm, by simpa using hs, by simpa using hv, hcurve⟩
  · rintro ⟨hx, hm, hs, hv, hcurve⟩
    exact ⟨hgpuOk, hmemOk, by simpa using hx, by simpa using hm, by simpa using hs,
      by simpa using hv, hcurve⟩

/-! ### A SYS overclock that a reset forgets -/

/-- A board with eight points, which it reports once, that accepts every call. -/
def plainAnswers : List DriverAnswer := { curve := eightPointCurve } :: List.replicate 7 {}

def sysClkIntent : DesiredSettings := { hasSysClkOffsetKhz := true, sysClkOffsetKhz := 50000 }

/-- The GPU under a committed SYS offset. -/
def sysClkState : BackendState where
  gpu := {}
  hw r := if r = .sysClk then 50000 else 0

/-- A memory offset. -/
def memOffsetRequest : DesiredSettings := { hasMemOffset := true, memOffsetMHz := 100 }

/-- A memory offset, on a baseline that is reset first. -/
def resetMemOffset : DesiredSettings := { memOffsetRequest with resetOcBeforeApply := true }

theorem sysClkState_agrees (gpu : LinuxGpuState) :
    Agrees gpu sysClkIntent sysClkState.hw := by
  intro r _ hoff
  cases r with
  | sysClk => rfl
  | _ => exact absurd rfl hoff

/-- **The reset forgets the SYS offset**: the apply succeeds, the driver still holds
the offset, and the merged intent no longer owns it. -/
theorem forgottenSysClk_disagrees :
    Succeeds (linuxBackendApply resetMemOffset (some sysClkIntent)
        (some (serviceMergeDesiredAfterMutation (some sysClkIntent) resetMemOffset)))
      plainAnswers sysClkState ∧
    Agrees (startedState resetMemOffset (some sysClkIntent)
        (some (serviceMergeDesiredAfterMutation (some sysClkIntent) resetMemOffset))
        plainAnswers sysClkState).gpu sysClkIntent sysClkState.hw ∧
    ¬ Agrees (startedState resetMemOffset (some sysClkIntent)
        (some (serviceMergeDesiredAfterMutation (some sysClkIntent) resetMemOffset))
        plainAnswers sysClkState).gpu
      (serviceMergeDesiredAfterMutation (some sysClkIntent) resetMemOffset)
      (exec (linuxBackendApply resetMemOffset (some sysClkIntent)
        (some (serviceMergeDesiredAfterMutation (some sysClkIntent) resetMemOffset)))
        plainAnswers sysClkState).2.hw := by
  refine ⟨by unfold Succeeds; decide +kernel, sysClkState_agrees _, fun hagrees => ?_⟩
  have hheld : (exec (linuxBackendApply resetMemOffset (some sysClkIntent)
      (some (serviceMergeDesiredAfterMutation (some sysClkIntent) resetMemOffset)))
      plainAnswers sysClkState).2.hw .sysClk ≠ 0 := by decide +kernel
  have howned := hagrees .sysClk (by simp) hheld
  have hforgot : (serviceMergeDesiredAfterMutation (some sysClkIntent)
      resetMemOffset).hasSysClkOffsetKhz = false := by decide +kernel
  exact absurd howned (by simp [OwnsRegister, hforgot])

/-- On the same GPU a memory offset alone keeps the SYS offset owned. -/
theorem keptSysClk_agrees :
    Agrees (startedState memOffsetRequest (some sysClkIntent)
        (some (serviceMergeDesiredAfterMutation (some sysClkIntent) memOffsetRequest))
        plainAnswers sysClkState).gpu
      (serviceMergeDesiredAfterMutation (some sysClkIntent) memOffsetRequest)
      (exec (linuxBackendApply memOffsetRequest (some sysClkIntent)
        (some (serviceMergeDesiredAfterMutation (some sysClkIntent) memOffsetRequest)))
        plainAnswers sysClkState).2.hw := by
  refine (intent_agreement (some sysClkIntent) memOffsetRequest plainAnswers sysClkState
    (by unfold Succeeds; decide +kernel) (sysClkState_agrees _)).mpr ?_
  refine ⟨.inl rfl, .inl rfl, .inr (.inr rfl), .inl rfl, .inr fun ci _ hoff => absurd rfl hoff⟩

end GreenCurve.Backend
