import GreenCurve.OffsetRouting

/-! # An offset is in force once

On a split backend every session of requests leaves each point with the offset it asked for.
On a global backend so does every session that does not change a selective offset while it
is in force.  Such a change clears the offset most points have, but takes the components of
the low points and of the others to be gone alike: one of the two groups is left behind by
the offset, or has it twice. -/

namespace GreenCurve.OffsetRouting

variable {n : Nat} {globalVf : Bool} {range : OffsetRange} {gpu after : Gpu n} {request : Request}
  {ci : Fin n}

/-! ## What is asked for, and what is in force -/

/-- The exclude count that takes effect. -/
def Request.activeExcludeLowCount (request : Request) : Int :=
  if request.gpuOffsetExcludeLowCount > 0 ∧ request.gpuOffsetMHz ≠ 0 then
    request.gpuOffsetExcludeLowCount
  else 0

/-- The offset a point runs at. -/
def Gpu.totalKHz (gpu : Gpu n) (ci : Fin n) : Int := gpu.scalarKHz + gpu.vfOffsetKHz ci

/-- The request's offset is in force, once at each included point and not at all at the
others.  A request without an offset leaves every point at the one it has. -/
def Routed (before : Gpu n) (request : Request) (after : Gpu n) : Prop :=
  ∀ ci, after.totalKHz ci =
    if request.hasGpuOffset then
      if isGpuOffsetExcludedLowPoint ci request.gpuOffsetExcludeLowCount then 0
      else request.gpuOffsetMHz * 1000
    else before.totalKHz ci

/-- The request asks for another offset than the one on record. -/
def ChangesPolicy (gpu : Gpu n) (request : Request) : Prop :=
  request.hasGpuOffset = true ∧
    (request.gpuOffsetMHz ≠ gpu.appliedGpuOffsetMHz ∨
      request.activeExcludeLowCount ≠ gpu.appliedGpuOffsetExcludeLowCount)

instance (gpu : Gpu n) (request : Request) : Decidable (ChangesPolicy gpu request) :=
  inferInstanceAs (Decidable (_ ∧ _))

/-- The component on record for a point. -/
def Gpu.componentKHz (gpu : Gpu n) (ci : Fin n) : Int :=
  gpuOffsetComponentMHzForPoint ci gpu.appliedGpuOffsetMHz gpu.appliedGpuOffsetExcludeLowCount
    * 1000

/-- **What is on record is in force**, on the route of the backend. -/
structure Settled (globalVf : Bool) (gpu : Gpu n) : Prop where
  count_nonneg : 0 ≤ gpu.appliedGpuOffsetExcludeLowCount
  offset_ne_zero : 0 < gpu.appliedGpuOffsetExcludeLowCount → gpu.appliedGpuOffsetMHz ≠ 0
  scalar : gpu.scalarKHz =
    if globalVf = true ∨ 0 < gpu.appliedGpuOffsetExcludeLowCount then 0
    else gpu.appliedGpuOffsetMHz * 1000
  vfOffset : ∀ ci, gpu.vfOffsetKHz ci =
    if globalVf = true ∨ 0 < gpu.appliedGpuOffsetExcludeLowCount then gpu.componentKHz ci else 0

/-- On a global backend, a change of the offset finds no selective offset in force, or one
that leaves every point out, and a uniform offset is one the driver takes. -/
def RoutesCleanly (globalVf : Bool) (range : OffsetRange) (gpu : Gpu n) (request : Request) :
    Prop :=
  globalVf = true → ChangesPolicy gpu request →
    (∀ ci : Fin n, isGpuOffsetExcludedLowPoint ci gpu.appliedGpuOffsetExcludeLowCount) ∨
      (gpu.appliedGpuOffsetExcludeLowCount ≤ 0 ∧
        (request.activeExcludeLowCount ≤ 0 → range.Permits (request.gpuOffsetMHz * 1000)))

/-! ## Components -/

@[simp] theorem component_zero (ci : Fin n) (count : Int) :
    gpuOffsetComponentMHzForPoint ci 0 count = 0 := if_pos rfl

theorem component_uniform (ci : Fin n) (offset : Int) {count : Int} (h : count ≤ 0) :
    gpuOffsetComponentMHzForPoint ci offset count = offset := by
  unfold gpuOffsetComponentMHzForPoint
  split
  · rename_i hzero
    exact hzero.symm
  · rw [if_neg fun hcount => by omega]

theorem component_excluded {count : Int} (h : isGpuOffsetExcludedLowPoint ci count)
    (offset : Int) : gpuOffsetComponentMHzForPoint ci offset count = 0 := by
  unfold gpuOffsetComponentMHzForPoint
  split
  · rfl
  · exact if_pos ⟨h.1, h⟩

theorem component_included {count : Int} (h : ¬isGpuOffsetExcludedLowPoint ci count)
    (offset : Int) : gpuOffsetComponentMHzForPoint ci offset count = offset := by
  unfold gpuOffsetComponentMHzForPoint
  split
  · rename_i hzero
    exact hzero.symm
  · exact if_neg fun hcount => h hcount.2

theorem activeExcludeLowCount_nonneg (request : Request) : 0 ≤ request.activeExcludeLowCount := by
  unfold Request.activeExcludeLowCount
  split
  · omega
  · exact Int.le_refl 0

theorem ne_zero_of_active (h : 0 < request.activeExcludeLowCount) : request.gpuOffsetMHz ≠ 0 := by
  unfold Request.activeExcludeLowCount at h
  split at h
  · exact (‹_ ∧ _›).2
  · exact absurd h (Int.lt_irrefl 0)

/-- The component of a request at the count that takes effect is what it asks for. -/
theorem component_active (request : Request) (ci : Fin n) :
    gpuOffsetComponentMHzForPoint ci request.gpuOffsetMHz request.activeExcludeLowCount * 1000 =
      if isGpuOffsetExcludedLowPoint ci request.gpuOffsetExcludeLowCount then 0
      else request.gpuOffsetMHz * 1000 := by
  by_cases hzero : request.gpuOffsetMHz = 0
  · simp [hzero]
  by_cases hcount : request.gpuOffsetExcludeLowCount > 0
  · rw [Request.activeExcludeLowCount, if_pos ⟨hcount, hzero⟩]
    split
    · rename_i hexcluded
      rw [component_excluded hexcluded, Int.zero_mul]
    · rename_i hincluded
      rw [component_included hincluded]
  · rw [Request.activeExcludeLowCount, if_neg fun h => hcount h.1,
      component_uniform ci _ (Int.le_refl 0), if_neg fun h => hcount h.1]

theorem Settled.total (h : Settled globalVf gpu) (ci : Fin n) :
    gpu.totalKHz ci = gpu.componentKHz ci := by
  rw [Gpu.totalKHz, h.scalar, h.vfOffset]
  split
  · exact Int.zero_add _
  · rename_i hroute
    rw [Gpu.componentKHz, component_uniform ci _ (Int.not_lt.mp fun hcount => hroute (.inr hcount))]
    exact Int.add_zero _

theorem settled_zero : Settled globalVf (Gpu.zero : Gpu n) where
  count_nonneg := Int.le_refl 0
  offset_ne_zero h := absurd h (Int.lt_irrefl 0)
  scalar := by simp [Gpu.zero]
  vfOffset ci := by simp [Gpu.zero, Gpu.componentKHz]

/-! ## The offset most points have -/

theorem foldl_moreFrequent (values candidates : List Int) (best : Int × Nat) :
    candidates.foldl (moreFrequent values) best = best ∨
      (candidates.foldl (moreFrequent values) best).1 ∈ candidates := by
  induction candidates generalizing best with
  | nil => exact .inl rfl
  | cons value rest ih =>
    rw [List.foldl_cons]
    rcases ih (moreFrequent values best value) with h | h
    · rw [h]
      unfold moreFrequent
      dsimp only
      split
      · exact .inr List.mem_cons_self
      · exact .inl rfl
    · exact .inr (List.mem_cons_of_mem _ h)

/-- It is the offset of some point, or none is common enough. -/
theorem uniform_mem (values : List Int) :
    uniformCurveOffsetKHz values = 0 ∨ uniformCurveOffsetKHz values ∈ values := by
  unfold uniformCurveOffsetKHz
  dsimp only
  split
  · exact .inl rfl
  · rcases foldl_moreFrequent values values.eraseDups (0, 0) with h | h
    · exact .inl (by rw [h])
    · exact .inr (List.mem_eraseDups.mp h)

/-- One offset everywhere is the one that is found. -/
theorem uniform_replicate {count : Nat} (hcount : 0 < count) (offset : Int) :
    uniformCurveOffsetKHz (List.replicate count offset) = offset := by
  have hdups : (List.replicate count offset).eraseDups = [offset] := by
    obtain ⟨count, rfl⟩ := Nat.exists_eq_succ_of_ne_zero (Nat.ne_of_gt hcount)
    rw [List.replicate_succ, List.eraseDups_cons]
    simp
  have hmost : moreFrequent (List.replicate count offset) (0, 0) offset = (offset, count) := by
    rw [moreFrequent, List.count_replicate_self, if_pos (.inl hcount)]
  unfold uniformCurveOffsetKHz
  rw [hdups, List.foldl_cons, List.foldl_nil, hmost, List.length_replicate]
  exact if_neg (show ¬count * 2 < count by omega)

/-! ## The calls of the apply -/

theorem nvapiSet_split (gpu : Gpu n) (offsetKHz : Int) :
    nvapiSetGpuOffset false range gpu offsetKHz = { gpu with scalarKHz := offsetKHz } := rfl

theorem nvapiSet_global_scalar (gpu : Gpu n) (offsetKHz : Int) :
    (nvapiSetGpuOffset true range gpu offsetKHz).scalarKHz = gpu.scalarKHz := by
  unfold nvapiSetGpuOffset
  simp only [Bool.not_true, Bool.false_eq_true, if_false]
  split <;> rfl

/-- A uniform offset is moved as a whole. -/
theorem nvapiSet_uniform {offset offsetKHz : Int} (h : ∀ ci, gpu.vfOffsetKHz ci = offset)
    (hpermits : offset = offsetKHz ∨ range.Permits offsetKHz) (ci : Fin n) :
    (nvapiSetGpuOffset true range gpu offsetKHz).vfOffsetKHz ci = offsetKHz := by
  have hlist : List.ofFn gpu.vfOffsetKHz = List.replicate n offset := by
    rw [funext h, List.ofFn_const]
  unfold nvapiSetGpuOffset
  simp only [Bool.not_true, Bool.false_eq_true, if_false]
  rw [hlist, uniform_replicate ci.pos]
  split
  · rename_i heq
    rw [h, heq]
  · rename_i hne
    obtain ⟨hmin, hmax⟩ := hpermits.resolve_left hne
    show range.clamp (gpu.vfOffsetKHz ci - offset + offsetKHz) = offsetKHz
    rw [h, OffsetRange.clamp]
    omega

theorem applyBuild_eq {original targets : Fin n → Int} {active current count batch : Int}
    (h : applyBuildCurveTargets range original active current count batch = some targets)
    (ci : Fin n) :
    targets ci = original ci -
        (if current ≠ 0 ∨ count > 0 then gpuOffsetComponentMHzForPoint ci current count * 1000
          else original ci)
      + gpuOffsetComponentMHzForPoint ci batch active * 1000 := by
  unfold applyBuildCurveTargets at h
  simp only [Option.ite_none_right_eq_some, Option.some.injEq] at h
  obtain ⟨_, rfl⟩ := h
  simp

/-! ## One request -/

/-- The plan of a request. -/
def planFor (globalVf : Bool) (gpu : Gpu n) (request : Request) : CurveOffsetRoutingPlan :=
  curvePointPlanGpuOffsetRouting globalVf request.hasGpuOffset request.gpuOffsetMHz
    request.gpuOffsetExcludeLowCount gpu.appliedGpuOffsetMHz gpu.appliedGpuOffsetExcludeLowCount

/-- A request that changes nothing is not executed. -/
theorem applyRequest_same (h : ¬ChangesPolicy gpu request) :
    applyRequest globalVf range gpu request = some gpu := by
  have hplan : (planFor globalVf gpu request).shouldApplyGpuOffset = false ∧
      (planFor globalVf gpu request).zeroPriorScalarBeforeCurveBatch = false ∧
      (planFor globalVf gpu request).gpuPolicyViaCurveBatch = false := by
    unfold planFor curvePointPlanGpuOffsetRouting
    cases hhas : request.hasGpuOffset with
    | false => exact ⟨rfl, rfl, rfl⟩
    | true =>
      have hsame : request.gpuOffsetMHz = gpu.appliedGpuOffsetMHz ∧
          request.activeExcludeLowCount = gpu.appliedGpuOffsetExcludeLowCount := by
        simpa [ChangesPolicy, hhas] using h
      rw [Request.activeExcludeLowCount] at hsame
      simp [hsame.1, ← hsame.2]
  obtain ⟨hwrite, hclear, hbatch⟩ := hplan
  unfold planFor at hwrite hclear hbatch
  simp only [applyRequest, writeOffset, clearPrior, hwrite, hclear, hbatch, Bool.false_eq_true,
    if_false]

/-- The plan of a request that changes something. -/
theorem planFor_change (h : ChangesPolicy gpu request) :
    planFor globalVf gpu request =
      { activeDesiredExcludeLowCount := request.activeExcludeLowCount
        policyChangeRequested := true
        shouldApplyGpuOffset := decide (request.activeExcludeLowCount ≤ 0) &&
          (decide (gpu.appliedGpuOffsetExcludeLowCount ≤ 0) ||
            (!globalVf && decide (gpu.appliedGpuOffsetExcludeLowCount > 0) &&
              decide (request.activeExcludeLowCount ≤ 0) && decide (request.gpuOffsetMHz ≠ 0)))
        gpuPolicyViaCurveBatch := decide (gpu.appliedGpuOffsetExcludeLowCount > 0) ||
          decide (request.activeExcludeLowCount > 0)
        zeroPriorScalarBeforeCurveBatch :=
          (decide (gpu.appliedGpuOffsetExcludeLowCount > 0) ||
            decide (request.activeExcludeLowCount > 0)) &&
          decide (gpu.appliedGpuOffsetMHz ≠ 0) &&
          (globalVf || decide (gpu.appliedGpuOffsetExcludeLowCount ≤ 0))
        curveBatchGpuOffsetMHz :=
          if !globalVf ∧ request.activeExcludeLowCount ≤ 0 then 0 else request.gpuOffsetMHz
        lastApplyUsedGpuOffset := decide (request.gpuOffsetMHz ≠ 0) } := by
  obtain ⟨hhas, hchange⟩ := h
  have hpolicy : (decide (request.gpuOffsetMHz ≠ gpu.appliedGpuOffsetMHz) ||
      decide (request.activeExcludeLowCount ≠ gpu.appliedGpuOffsetExcludeLowCount)) = true := by
    simpa using hchange
  unfold planFor curvePointPlanGpuOffsetRouting
  rw [hhas]
  have hactive : (if request.gpuOffsetExcludeLowCount > 0 ∧ request.gpuOffsetMHz ≠ 0 then
      request.gpuOffsetExcludeLowCount else 0) = request.activeExcludeLowCount := rfl
  simp only [Bool.not_true, Bool.false_eq_true, if_false, if_true, hactive, hpolicy, Bool.true_and]

/-- A request leaves its offset on record, and in force. -/
structure Routes (globalVf : Bool) (request : Request) (after : Gpu n) : Prop where
  settled : Settled globalVf after
  offset : after.appliedGpuOffsetMHz = request.gpuOffsetMHz
  count : after.appliedGpuOffsetExcludeLowCount = request.activeExcludeLowCount

/-- What is on record and in force is what was asked for. -/
theorem Routes.total (h : Routes globalVf request after) (ci : Fin n) :
    after.totalKHz ci =
      if isGpuOffsetExcludedLowPoint ci request.gpuOffsetExcludeLowCount then 0
      else request.gpuOffsetMHz * 1000 := by
  rw [h.settled.total, Gpu.componentKHz, h.offset, h.count, component_active]

theorem applyRequest_eq (globalVf : Bool) (range : OffsetRange) (gpu : Gpu n) (request : Request) :
    applyRequest globalVf range gpu request =
      let plan := planFor globalVf gpu request
      let cleared := clearPrior globalVf range plan
        (writeOffset globalVf range plan gpu request.gpuOffsetMHz) gpu.appliedGpuOffsetMHz
      if plan.gpuPolicyViaCurveBatch then
        (applyBuildCurveTargets range cleared.1.vfOffsetKHz plan.activeDesiredExcludeLowCount
            cleared.2 gpu.appliedGpuOffsetExcludeLowCount plan.curveBatchGpuOffsetMHz).map
          fun targets =>
            { cleared.1 with
              vfOffsetKHz := targets
              appliedGpuOffsetMHz := request.gpuOffsetMHz
              appliedGpuOffsetExcludeLowCount := plan.activeDesiredExcludeLowCount }
      else some cleared.1 := rfl

/-- From a uniform offset to a uniform offset: the dedicated write alone. -/
theorem applyRequest_dedicated (hchange : ChangesPolicy gpu request)
    (hcount : gpu.appliedGpuOffsetExcludeLowCount ≤ 0)
    (hactive : request.activeExcludeLowCount ≤ 0) :
    applyRequest globalVf range gpu request =
      some { nvapiSetGpuOffset globalVf range gpu (request.gpuOffsetMHz * 1000) with
        appliedGpuOffsetMHz := request.gpuOffsetMHz
        appliedGpuOffsetExcludeLowCount := 0 } := by
  have hcount' : ¬gpu.appliedGpuOffsetExcludeLowCount > 0 := Int.not_lt.mpr hcount
  have hactive' : ¬request.activeExcludeLowCount > 0 := Int.not_lt.mpr hactive
  rw [applyRequest_eq, planFor_change hchange]
  simp [writeOffset, clearPrior, hcount, hactive, hcount', hactive']

/-- Every other change ends with a batch. -/
theorem applyRequest_batch (hchange : ChangesPolicy gpu request)
    (hbatch : 0 < gpu.appliedGpuOffsetExcludeLowCount ∨ 0 < request.activeExcludeLowCount)
    (happly : applyRequest globalVf range gpu request = some after) :
    let plan := planFor globalVf gpu request
    let cleared := clearPrior globalVf range plan
      (writeOffset globalVf range plan gpu request.gpuOffsetMHz) gpu.appliedGpuOffsetMHz
    after.scalarKHz = cleared.1.scalarKHz ∧
      after.appliedGpuOffsetMHz = request.gpuOffsetMHz ∧
      after.appliedGpuOffsetExcludeLowCount = request.activeExcludeLowCount ∧
      ∀ ci, after.vfOffsetKHz ci = cleared.1.vfOffsetKHz ci -
          (if cleared.2 ≠ 0 ∨ gpu.appliedGpuOffsetExcludeLowCount > 0 then
            gpuOffsetComponentMHzForPoint ci cleared.2 gpu.appliedGpuOffsetExcludeLowCount * 1000
          else cleared.1.vfOffsetKHz ci)
        + gpuOffsetComponentMHzForPoint ci plan.curveBatchGpuOffsetMHz
          request.activeExcludeLowCount * 1000 := by
  intro plan cleared
  have hvia : plan.gpuPolicyViaCurveBatch = true := by
    simp only [plan, planFor_change hchange]
    simpa using hbatch
  have hcountPlan : plan.activeDesiredExcludeLowCount = request.activeExcludeLowCount := by
    simp only [plan, planFor_change hchange]
  rw [applyRequest_eq] at happly
  change (if plan.gpuPolicyViaCurveBatch = true then _ else _) = _ at happly
  rw [if_pos hvia] at happly
  obtain ⟨targets, htargets, rfl⟩ := Option.map_eq_some_iff.mp happly
  refine ⟨rfl, rfl, hcountPlan, fun ci => ?_⟩
  rw [← hcountPlan]
  exact applyBuild_eq htargets ci

/-- What the apply does before the batch on a split backend: a uniform offset is written or
cleared, the VF table is left alone. -/
theorem cleared_split (range : OffsetRange) (hchange : ChangesPolicy gpu request)
    (hsettled : Settled false gpu)
    (hbatch : 0 < gpu.appliedGpuOffsetExcludeLowCount ∨ 0 < request.activeExcludeLowCount) :
    let plan := planFor false gpu request
    let cleared := clearPrior false range plan
      (writeOffset false range plan gpu request.gpuOffsetMHz) gpu.appliedGpuOffsetMHz
    cleared.1.vfOffsetKHz = gpu.vfOffsetKHz ∧
      cleared.1.scalarKHz =
        (if 0 < request.activeExcludeLowCount then 0 else request.gpuOffsetMHz * 1000) ∧
      cleared.2 =
        if 0 < gpu.appliedGpuOffsetExcludeLowCount then gpu.appliedGpuOffsetMHz else 0 := by
  intro plan cleared
  have hscalar := hsettled.scalar
  simp only [Bool.false_eq_true, false_or] at hscalar
  simp only [cleared, plan, planFor_change hchange, writeOffset, clearPrior]
  by_cases hcount : 0 < gpu.appliedGpuOffsetExcludeLowCount
  · rw [if_pos hcount] at hscalar
    have hcount' : ¬gpu.appliedGpuOffsetExcludeLowCount ≤ 0 := Int.not_le.mpr hcount
    by_cases hactive : 0 < request.activeExcludeLowCount
    · have hactive' : ¬request.activeExcludeLowCount ≤ 0 := Int.not_le.mpr hactive
      simp [hcount, hcount', hactive, hactive', hscalar]
    · have hactive' : request.activeExcludeLowCount ≤ 0 := Int.not_lt.mp hactive
      by_cases hzero : request.gpuOffsetMHz = 0
      · simp [hcount, hcount', hactive, hactive', hscalar, hzero]
      · simp [hcount, hcount', hactive, hactive', hzero, nvapiSet_split]
  · rw [if_neg hcount] at hscalar
    have hcount' : gpu.appliedGpuOffsetExcludeLowCount ≤ 0 := Int.not_lt.mp hcount
    have hactive : 0 < request.activeExcludeLowCount := hbatch.resolve_left hcount
    have hactive' : ¬request.activeExcludeLowCount ≤ 0 := Int.not_le.mpr hactive
    by_cases hzero : gpu.appliedGpuOffsetMHz = 0
    · simp [hcount, hcount', hactive, hactive', hscalar, hzero]
    · simp [hcount, hcount', hactive, hactive', hzero, nvapiSet_split]

/-- Of a global backend: a prior offset is cleared. -/
theorem cleared_global (range : OffsetRange) (hchange : ChangesPolicy gpu request)
    (hbatch : 0 < gpu.appliedGpuOffsetExcludeLowCount ∨ 0 < request.activeExcludeLowCount) :
    let plan := planFor true gpu request
    let cleared := clearPrior true range plan
      (writeOffset true range plan gpu request.gpuOffsetMHz) gpu.appliedGpuOffsetMHz
    cleared.1.vfOffsetKHz =
        (if gpu.appliedGpuOffsetMHz = 0 then gpu.vfOffsetKHz
          else (nvapiSetGpuOffset true range gpu 0).vfOffsetKHz) ∧
      cleared.1.scalarKHz = gpu.scalarKHz ∧ cleared.2 = 0 := by
  intro plan cleared
  have hdedicated : plan.shouldApplyGpuOffset = false := by
    simp only [plan, planFor_change hchange]
    rcases hbatch with h | h
    · simp [Int.not_le.mpr h]
    · simp [Int.not_le.mpr h]
  have hzero : plan.zeroPriorScalarBeforeCurveBatch = decide (gpu.appliedGpuOffsetMHz ≠ 0) := by
    simp only [plan, planFor_change hchange]
    rcases hbatch with h | h
    · simp [h]
    · simp [h]
  simp only [cleared, clearPrior, writeOffset, hdedicated, hzero, Bool.false_eq_true, if_false,
    decide_eq_true_eq]
  by_cases happlied : gpu.appliedGpuOffsetMHz = 0
  · simp [happlied]
  · simp [happlied, nvapiSet_global_scalar]

/-- What is left to show of a request that is on record. -/
theorem Routes.of_record (hoffset : after.appliedGpuOffsetMHz = request.gpuOffsetMHz)
    (hcount : after.appliedGpuOffsetExcludeLowCount = request.activeExcludeLowCount)
    (hscalar : after.scalarKHz =
      if globalVf = true ∨ 0 < request.activeExcludeLowCount then 0
      else request.gpuOffsetMHz * 1000)
    (hvf : ∀ ci, after.vfOffsetKHz ci =
      if globalVf = true ∨ 0 < request.activeExcludeLowCount then
        gpuOffsetComponentMHzForPoint ci request.gpuOffsetMHz request.activeExcludeLowCount * 1000
      else 0) :
    Routes globalVf request after where
  settled :=
    { count_nonneg := by rw [hcount]; exact activeExcludeLowCount_nonneg request
      offset_ne_zero := by rw [hcount, hoffset]; exact ne_zero_of_active
      scalar := by rw [hcount, hoffset]; exact hscalar
      vfOffset := by rw [hcount]; simpa only [Gpu.componentKHz, hoffset, hcount] using hvf }
  offset := hoffset
  count := hcount

theorem batchOffset_split (hchange : ChangesPolicy gpu request) :
    (planFor false gpu request).curveBatchGpuOffsetMHz =
      if 0 < request.activeExcludeLowCount then request.gpuOffsetMHz else 0 := by
  rw [planFor_change hchange]
  by_cases hactive : 0 < request.activeExcludeLowCount
  · simp [hactive, Int.not_le.mpr hactive]
  · simp [hactive, Int.not_lt.mp hactive]

theorem batchOffset_global (hchange : ChangesPolicy gpu request) :
    (planFor true gpu request).curveBatchGpuOffsetMHz = request.gpuOffsetMHz := by
  rw [planFor_change hchange]
  rfl

/-- **Every change is routed on a split backend.** -/
theorem routes_split (hsettled : Settled false gpu) (hchange : ChangesPolicy gpu request)
    (happly : applyRequest false range gpu request = some after) : Routes false request after := by
  by_cases hbatch : 0 < gpu.appliedGpuOffsetExcludeLowCount ∨ 0 < request.activeExcludeLowCount
  · obtain ⟨hscalar, hoffset, hcount, hvf⟩ := applyRequest_batch hchange hbatch happly
    obtain ⟨hvfCleared, hscalarCleared, hcurrent⟩ :=
      cleared_split range hchange hsettled hbatch
    refine .of_record hoffset hcount ?_ fun ci => ?_
    · rw [hscalar, hscalarCleared]
      simp
    · rw [hvf, hvfCleared, hcurrent, batchOffset_split hchange, hsettled.vfOffset, Gpu.componentKHz]
      by_cases hprior : 0 < gpu.appliedGpuOffsetExcludeLowCount
      · by_cases hactive : 0 < request.activeExcludeLowCount
        · simp [hprior, hactive]
        · simp [hprior, hactive]
      · have hactive : 0 < request.activeExcludeLowCount := hbatch.resolve_left hprior
        simp [hprior, hactive]
  · obtain ⟨hprior, hactive⟩ := not_or.mp hbatch
    rw [applyRequest_dedicated hchange (Int.not_lt.mp hprior) (Int.not_lt.mp hactive)] at happly
    obtain rfl := Option.some.inj happly
    have hzero : request.activeExcludeLowCount = 0 :=
      Int.le_antisymm (Int.not_lt.mp hactive) (activeExcludeLowCount_nonneg request)
    refine .of_record rfl hzero.symm ?_ fun ci => ?_
    · simp [hzero, nvapiSet_split]
    · have hvf := hsettled.vfOffset ci
      simp only [hprior, Bool.false_eq_true, or_self, if_false] at hvf
      simpa [hzero, nvapiSet_split] using hvf

/-- A change that meets the condition is routed on a global backend. -/
theorem routes_global (hsettled : Settled true gpu) (hchange : ChangesPolicy gpu request)
    (hclean : RoutesCleanly true range gpu request)
    (happly : applyRequest true range gpu request = some after) : Routes true request after := by
  have hscalarBefore : gpu.scalarKHz = 0 := by simpa using hsettled.scalar
  have hvfBefore : ∀ ci, gpu.vfOffsetKHz ci = gpu.componentKHz ci := by
    simpa using hsettled.vfOffset
  by_cases hbatch : 0 < gpu.appliedGpuOffsetExcludeLowCount ∨ 0 < request.activeExcludeLowCount
  · obtain ⟨hscalar, hoffset, hcount, hvf⟩ := applyRequest_batch hchange hbatch happly
    obtain ⟨hvfCleared, hscalarCleared, hcurrent⟩ :=
      cleared_global range hchange hbatch
    refine .of_record hoffset hcount ?_ fun ci => ?_
    · rw [hscalar, hscalarCleared]
      simpa using hscalarBefore
    · rw [hvf, hcurrent, batchOffset_global hchange]
      by_cases hprior : 0 < gpu.appliedGpuOffsetExcludeLowCount
      · have hall := (hclean rfl hchange).resolve_right fun h => absurd hprior (Int.not_lt.mpr h.1)
        have hnone : ∀ ci, gpu.vfOffsetKHz ci = 0 := by
          intro ci
          rw [hvfBefore, Gpu.componentKHz, component_excluded (hall ci), Int.zero_mul]
        have hcleared : (clearPrior true range (planFor true gpu request)
            (writeOffset true range (planFor true gpu request) gpu request.gpuOffsetMHz)
            gpu.appliedGpuOffsetMHz).1.vfOffsetKHz ci = 0 := by
          rw [hvfCleared]
          split
          · exact hnone ci
          · exact nvapiSet_uniform hnone (.inl rfl) ci
        rw [hcleared]
        simp [hprior]
      · simp [hprior]
  · obtain ⟨hprior, hactive⟩ := not_or.mp hbatch
    rw [applyRequest_dedicated hchange (Int.not_lt.mp hprior) (Int.not_lt.mp hactive)] at happly
    obtain rfl := Option.some.inj happly
    have hzero : request.activeExcludeLowCount = 0 :=
      Int.le_antisymm (Int.not_lt.mp hactive) (activeExcludeLowCount_nonneg request)
    have huniform : ∀ ci, gpu.vfOffsetKHz ci = gpu.appliedGpuOffsetMHz * 1000 := by
      intro ci
      rw [hvfBefore, Gpu.componentKHz, component_uniform ci _ (Int.not_lt.mp hprior)]
    refine .of_record rfl hzero.symm ?_ fun ci => ?_
    · simpa [nvapiSet_global_scalar] using hscalarBefore
    · have hpermits : range.Permits (request.gpuOffsetMHz * 1000) := by
        rcases hclean rfl hchange with hall | ⟨_, hpermits⟩
        · exact absurd (hall ci).1 hprior
        · exact hpermits (Int.not_lt.mp hactive)
      rw [hzero, component_uniform ci _ (Int.le_refl 0)]
      simpa using nvapiSet_uniform huniform (.inr hpermits) ci

/-- **One request**: what is on record stays in force, and the request is routed. -/
theorem applyRequest_routes (hsettled : Settled globalVf gpu)
    (hclean : RoutesCleanly globalVf range gpu request)
    (happly : applyRequest globalVf range gpu request = some after) :
    Settled globalVf after ∧ Routed gpu request after := by
  by_cases hchange : ChangesPolicy gpu request
  · have hroutes : Routes globalVf request after := by
      cases globalVf with
      | false => exact routes_split hsettled hchange happly
      | true => exact routes_global hsettled hchange hclean happly
    refine ⟨hroutes.settled, fun ci => ?_⟩
    rw [hchange.1, if_pos rfl]
    exact hroutes.total ci
  · rw [applyRequest_same hchange] at happly
    obtain rfl := Option.some.inj happly
    refine ⟨hsettled, fun ci => ?_⟩
    cases hhas : request.hasGpuOffset with
    | false => rfl
    | true =>
      obtain ⟨hoffset, hcount⟩ : request.gpuOffsetMHz = gpu.appliedGpuOffsetMHz ∧
          request.activeExcludeLowCount = gpu.appliedGpuOffsetExcludeLowCount := by
        simpa [ChangesPolicy, hhas] using hchange
      rw [if_pos rfl, ← component_active, hoffset, hcount]
      exact hsettled.total ci

/-! ## A selective offset that is changed on a global backend -/

theorem clamp_ne_zero (hmin : range.minKHz < 0) (hmax : 0 < range.maxKHz) {offsetKHz : Int}
    (h : offsetKHz ≠ 0) : range.clamp offsetKHz ≠ 0 := by
  unfold OffsetRange.clamp
  omega

/-- The offset most points have is the selective one, or none. -/
theorem uniform_of_settled (hsettled : Settled true gpu) :
    uniformCurveOffsetKHz (List.ofFn gpu.vfOffsetKHz) = 0 ∨
      uniformCurveOffsetKHz (List.ofFn gpu.vfOffsetKHz) = gpu.appliedGpuOffsetMHz * 1000 := by
  rcases uniform_mem (List.ofFn gpu.vfOffsetKHz) with hzero | hmem
  · exact .inl hzero
  · obtain ⟨cj, hcj⟩ := (List.mem_ofFn' ..).mp hmem
    have hvf : gpu.vfOffsetKHz cj = gpu.componentKHz cj := by simpa using hsettled.vfOffset cj
    rw [← hcj, hvf, Gpu.componentKHz]
    by_cases hexcluded : isGpuOffsetExcludedLowPoint cj gpu.appliedGpuOffsetExcludeLowCount
    · rw [component_excluded hexcluded]
      exact .inl (Int.zero_mul _)
    · rw [component_included hexcluded]
      exact .inr rfl

/-- Whatever is cleared, one group of points keeps an offset that it should not. -/
theorem exists_not_cleared (hsettled : Settled true gpu) (hmin : range.minKHz < 0)
    (hmax : 0 < range.maxKHz) (hcount : 0 < gpu.appliedGpuOffsetExcludeLowCount)
    (hincluded : ¬isGpuOffsetExcludedLowPoint ci gpu.appliedGpuOffsetExcludeLowCount) :
    ∃ cj, (nvapiSetGpuOffset true range gpu 0).vfOffsetKHz cj ≠ 0 := by
  have hoffset : gpu.appliedGpuOffsetMHz * 1000 ≠ 0 := by
    have hne := hsettled.offset_ne_zero hcount
    omega
  have hvf : ∀ cj, gpu.vfOffsetKHz cj = gpu.componentKHz cj := by simpa using hsettled.vfOffset
  unfold nvapiSetGpuOffset
  simp only [Bool.not_true, Bool.false_eq_true, if_false]
  rcases uniform_of_settled hsettled with hzero | huniform
  · refine ⟨ci, ?_⟩
    rw [if_pos hzero, hvf, Gpu.componentKHz, component_included hincluded]
    exact hoffset
  · refine ⟨⟨0, ci.pos⟩, ?_⟩
    rw [huniform, if_neg hoffset]
    show range.clamp (gpu.vfOffsetKHz _ - gpu.appliedGpuOffsetMHz * 1000 + 0) ≠ 0
    rw [hvf, Gpu.componentKHz, component_excluded ⟨hcount, hcount⟩]
    exact clamp_ne_zero hmin hmax (by omega)

/-- **The condition is exact**: a request that breaks it is not routed. -/
theorem cleanly_of_routed (hsettled : Settled globalVf gpu) (hmin : range.minKHz < 0)
    (hmax : 0 < range.maxKHz) (happly : applyRequest globalVf range gpu request = some after)
    (hrouted : Routed gpu request after) : RoutesCleanly globalVf range gpu request := by
  rintro rfl hchange
  by_contra hbreak
  obtain ⟨hall, hnot⟩ := not_or.mp hbreak
  obtain ⟨ci, hincluded⟩ := not_forall.mp hall
  have hscalarBefore : gpu.scalarKHz = 0 := by simpa using hsettled.scalar
  have hvfBefore : ∀ ci, gpu.vfOffsetKHz ci = gpu.componentKHz ci := by
    simpa using hsettled.vfOffset
  have htotal : ∀ cj, after.totalKHz cj = gpuOffsetComponentMHzForPoint cj request.gpuOffsetMHz
      request.activeExcludeLowCount * 1000 := by
    intro cj
    rw [component_active, hrouted cj, hchange.1, if_pos rfl]
  by_cases hcount : 0 < gpu.appliedGpuOffsetExcludeLowCount
  · obtain ⟨hscalar, _, _, hvf⟩ := applyRequest_batch hchange (.inl hcount) happly
    obtain ⟨hvfCleared, hscalarCleared, hcurrent⟩ :=
      cleared_global range hchange (.inl hcount)
    obtain ⟨cj, hcj⟩ := exists_not_cleared hsettled hmin hmax hcount hincluded
    have hafter := hvf cj
    rw [hvfCleared, if_neg (hsettled.offset_ne_zero hcount), hcurrent, if_pos (.inr hcount),
      component_zero, batchOffset_global hchange] at hafter
    have hwanted := htotal cj
    rw [Gpu.totalKHz, hscalar, hscalarCleared, hscalarBefore, hafter] at hwanted
    omega
  · have hactive : request.activeExcludeLowCount ≤ 0 ∧
        ¬range.Permits (request.gpuOffsetMHz * 1000) := by
      simpa [Int.not_lt.mp hcount] using hnot
    have hactive0 : request.activeExcludeLowCount = 0 :=
      Int.le_antisymm hactive.1 (activeExcludeLowCount_nonneg request)
    have hne : gpu.appliedGpuOffsetMHz * 1000 ≠ request.gpuOffsetMHz * 1000 := by
      rcases hchange.2 with h | h
      · omega
      · have hcount0 := hsettled.count_nonneg
        omega
    have hlist : List.ofFn gpu.vfOffsetKHz
        = List.replicate n (gpu.appliedGpuOffsetMHz * 1000) := by
      have huniform : gpu.vfOffsetKHz = fun _ => gpu.appliedGpuOffsetMHz * 1000 := by
        funext cj
        rw [hvfBefore, Gpu.componentKHz, component_uniform cj _ (Int.not_lt.mp hcount)]
      rw [huniform, List.ofFn_const]
    rw [applyRequest_dedicated hchange (Int.not_lt.mp hcount) hactive.1] at happly
    obtain rfl := Option.some.inj happly
    have hwritten : (nvapiSetGpuOffset true range gpu (request.gpuOffsetMHz * 1000)).vfOffsetKHz ci
        = range.clamp (request.gpuOffsetMHz * 1000) := by
      unfold nvapiSetGpuOffset
      simp only [Bool.not_true, Bool.false_eq_true, if_false]
      rw [hlist, uniform_replicate ci.pos, if_neg hne]
      show range.clamp (gpu.vfOffsetKHz ci - _ + _) = _
      rw [hvfBefore, Gpu.componentKHz, component_uniform ci _ (Int.not_lt.mp hcount), Int.sub_self,
        Int.zero_add]
    have hwanted := htotal ci
    rw [hactive0, component_uniform ci _ (Int.le_refl 0)] at hwanted
    have hclamped : range.clamp (request.gpuOffsetMHz * 1000) = request.gpuOffsetMHz * 1000 := by
      change (nvapiSetGpuOffset true range gpu (request.gpuOffsetMHz * 1000)).scalarKHz +
        (nvapiSetGpuOffset true range gpu (request.gpuOffsetMHz * 1000)).vfOffsetKHz ci =
          request.gpuOffsetMHz * 1000 at hwanted
      rw [nvapiSet_global_scalar, hscalarBefore, Int.zero_add, hwritten] at hwanted
      exact hwanted
    apply hactive.2
    unfold OffsetRange.clamp at hclamped
    exact ⟨by omega, by omega⟩

/-! ## Sessions -/

/-- What the requests of a session lead to from no offset at all, if every one of them meets
the condition. -/
inductive Session (globalVf : Bool) (range : OffsetRange) : Gpu n → Prop
  | zero : Session globalVf range Gpu.zero
  | apply {gpu after : Gpu n} {request : Request} (session : Session globalVf range gpu)
      (clean : RoutesCleanly globalVf range gpu request)
      (applied : applyRequest globalVf range gpu request = some after) :
      Session globalVf range after

theorem Session.settled (h : Session globalVf range gpu) : Settled globalVf gpu := by
  induction h with
  | zero => exact settled_zero
  | apply _ clean applied ih => exact (applyRequest_routes ih clean applied).1

/-- **The law of the two routes.**  In a session whose requests all met the condition, a
request that meets it leaves its offset in force once at every included point and nowhere
else.  On a driver that takes offsets of both signs, one that does not meet it does not. -/
theorem offset_routing (session : Session globalVf range gpu)
    (applied : applyRequest globalVf range gpu request = some after) :
    (RoutesCleanly globalVf range gpu request → Routed gpu request after) ∧
      (range.minKHz < 0 → 0 < range.maxKHz → Routed gpu request after →
        RoutesCleanly globalVf range gpu request) :=
  ⟨fun clean => (applyRequest_routes session.settled clean applied).2,
    fun hmin hmax => cleanly_of_routed session.settled hmin hmax applied⟩

/-- A driver's range. -/
def fullRange : OffsetRange := { minKHz := -1000000, maxKHz := 1000000 }

/-- On a split backend, a uniform offset after a selective one. -/
theorem offset_routing_split :
    ∃ before after : Gpu 4,
      applyRequest false fullRange Gpu.zero ⟨true, 150, 1⟩ = some before ∧
        applyRequest false fullRange before ⟨true, 150, 0⟩ = some after ∧
        Routed before ⟨true, 150, 0⟩ after := by
  have hsession : (applyAll false fullRange (Gpu.zero : Gpu 4)
      [⟨true, 150, 1⟩, ⟨true, 150, 0⟩]).isSome = true := by decide
  obtain ⟨before, hbefore⟩ : ∃ before, applyRequest false fullRange (Gpu.zero : Gpu 4)
      ⟨true, 150, 1⟩ = some before := Option.isSome_iff_exists.mp (by decide)
  obtain ⟨after, hafter⟩ : ∃ after, applyRequest false fullRange before ⟨true, 150, 0⟩
      = some after := by
    apply Option.isSome_iff_exists.mp
    simpa [applyAll, hbefore] using hsession
  have session : Session false fullRange before := .apply .zero nofun hbefore
  exact ⟨before, after, hbefore, hafter, (offset_routing session hafter).1 nofun⟩

/-- **On a global backend it is lost at the lowest point**, and doubled at the highest one
if three of four points were left out. -/
theorem selective_change_unrouted :
    ((applyAll true fullRange (Gpu.zero : Gpu 4) [⟨true, 150, 1⟩, ⟨true, 150, 0⟩]).map
        fun gpu => List.ofFn gpu.totalKHz) = some [0, 150000, 150000, 150000] ∧
      ((applyAll true fullRange (Gpu.zero : Gpu 4) [⟨true, 150, 3⟩, ⟨true, 150, 0⟩]).map
        fun gpu => List.ofFn gpu.totalKHz) = some [150000, 150000, 150000, 300000] ∧
      ¬∀ before after : Gpu 4,
        applyAll true fullRange Gpu.zero [⟨true, 150, 1⟩] = some before →
        applyRequest true fullRange before ⟨true, 150, 0⟩ = some after →
        Routed before ⟨true, 150, 0⟩ after := by
  refine ⟨by decide, by decide, fun h => ?_⟩
  have hlost : (applyAll true fullRange (Gpu.zero : Gpu 4) [⟨true, 150, 1⟩, ⟨true, 150, 0⟩]).map
      (fun gpu => gpu.totalKHz 0) = some 0 := by decide
  obtain ⟨before, hbefore⟩ : ∃ before, applyAll true fullRange (Gpu.zero : Gpu 4)
      [⟨true, 150, 1⟩] = some before := Option.isSome_iff_exists.mp (by decide)
  have hsplit : applyAll true fullRange (Gpu.zero : Gpu 4) [⟨true, 150, 1⟩, ⟨true, 150, 0⟩] =
      applyRequest true fullRange before ⟨true, 150, 0⟩ := by
    rw [applyAll, List.foldlM_cons] at hbefore ⊢
    obtain ⟨first, hfirst, hlast⟩ := Option.bind_eq_some_iff.mp hbefore
    obtain rfl := Option.some.inj hlast
    simp [hfirst]
  rw [hsplit] at hlost
  obtain ⟨after, hafter, htotal⟩ := Option.map_eq_some_iff.mp hlost
  have hrouted : after.totalKHz 0 = 150 * 1000 := h before after hbefore hafter 0
  omega

end GreenCurve.OffsetRouting
