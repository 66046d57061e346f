import GreenCurve.ApplyCorrection

/-! # The law of the correction passes

A point whose intent is an offset is planned at that offset whatever the driver
reports, and no classification moves a target the user, the lock or an offset
speaks for.  One point of one pass is a lemma; a pass folds it over the points,
and a run folds the passes. -/

namespace GreenCurve.ApplyCorrection

variable {n : Nat} {q : Request n} {targets targets' : Targets n} {rb : Readback n}
  {range : VfOffsetRange} {ci : Fin n}

/-! ## What a pass plans -/

/-- The offset a pass plans for a point, in closed form. -/
def plannedOffset (q : Request n) (targets : Targets n) (rb : Readback n)
    (range : VfOffsetRange) (ci : Fin n) : Option Int32 :=
  let targetMHz := if pointIsTail q ci then q.lockMHz else targets ci
  if rb.freqKHz ci = 0 ∨ (!pointIsTail q ci && !q.hasCurvePoint ci) then none
  else if !pointIsTail q ci && q.originalCurvePopulated ci then
    some (vfOffsetRangeClampKHz range (Int32.ofIntClamp
      (curvePointTargetOffsetKHz (pointOffsetIsIntent q ci) (q.targetOffsetKHz ci) targetMHz
        (liveBaseKHz rb ci)))).1
  else if pointIsTail q ci && decide ((ci : Int) ≠ q.lockCi.toInt) then
    some (vfOffsetRangeFlattenFloorKHz range)
  else some (vfOffsetRangeClampKHz range (requiredDeltaKHz rb ci targetMHz)).1

@[simp] theorem Plan.clamp_offset (plan : Plan) (range : VfOffsetRange) (ci : Fin n)
    (requested : Int32) :
    (plan.clamp range ci requested).2 = (vfOffsetRangeClampKHz range requested).1 := by
  unfold Plan.clamp
  split <;> simp_all

@[simp] theorem PlanPass.put_offsetsOut (pass : PlanPass n) (ci : Fin n) (plan : Plan)
    (offset : Int32) :
    (pass.put ci plan offset).offsetsOut = Function.update pass.offsetsOut ci (some offset) :=
  rfl

theorem planPoint_offsetsOut (pass : PlanPass n) (ci : Fin n) :
    (planPoint q targets rb range pass ci).offsetsOut =
      match plannedOffset q targets rb range ci with
      | none => pass.offsetsOut
      | some offset => Function.update pass.offsetsOut ci (some offset) := by
  unfold planPoint plannedOffset
  by_cases hfreq : rb.freqKHz ci = 0
  · simp [hfreq]
  · cases htail : pointIsTail q ci <;> cases hhas : q.hasCurvePoint ci <;>
      cases hpop : q.originalCurvePopulated ci <;> simp [hfreq] <;> split <;> simp_all

/-- **A pass plans each point by its closed form**: no point disturbs another. -/
theorem planPass_offsetsOut :
    (planPass q targets rb range).offsetsOut = plannedOffset q targets rb range := by
  have hfold : ∀ (points : List (Fin n)) (pass : PlanPass n), points.Nodup →
      (∀ ci ∈ points, pass.offsetsOut ci = none) → ∀ ci,
      (points.foldl (planPoint q targets rb range) pass).offsetsOut ci =
        if ci ∈ points then plannedOffset q targets rb range ci else pass.offsetsOut ci := by
    intro points
    induction points with
    | nil => intro pass _ _ ci; simp
    | cons head rest ih =>
      intro pass hnodup hnone ci
      obtain ⟨hhead, hrest⟩ := List.nodup_cons.mp hnodup
      have hother : ∀ cj, cj ≠ head →
          (planPoint q targets rb range pass head).offsetsOut cj = pass.offsetsOut cj := by
        intro cj hne
        rw [planPoint_offsetsOut]
        cases plannedOffset q targets rb range head with
        | none => rfl
        | some offset => exact Function.update_of_ne hne _ _
      have hself : (planPoint q targets rb range pass head).offsetsOut head =
          plannedOffset q targets rb range head := by
        rw [planPoint_offsetsOut]
        cases plannedOffset q targets rb range head with
        | none => exact hnone head List.mem_cons_self
        | some offset => exact Function.update_self _ _ _
      rw [List.foldl_cons, ih _ hrest fun cj hcj =>
        (hother cj (ne_of_mem_of_not_mem hcj hhead)).trans
          (hnone cj (List.mem_cons_of_mem _ hcj))]
      by_cases hci : ci = head
      · subst hci
        simp [hhead, hself]
      · simp [hci, hother ci hci]
  funext ci
  rw [planPass, hfold _ _ (List.nodup_finRange n) fun _ _ => rfl]
  simp

theorem pointIsTail_of_intent (h : pointOffsetIsIntent q ci = true) :
    pointIsTail q ci = false ∧ q.originalCurvePopulated ci = true := by
  simp only [pointOffsetIsIntent, Bool.and_eq_true, Bool.not_eq_true'] at h
  exact h.1

/-- The offset planned for an offset-intent point does not read the readback. -/
theorem plannedOffset_of_intent (h : pointOffsetIsIntent q ci = true) {offset : Int32}
    (hplan : plannedOffset q targets rb range ci = some offset) :
    offset = (vfOffsetRangeClampKHz range (q.targetOffsetKHz ci)).1 := by
  obtain ⟨htail, hpop⟩ := pointIsTail_of_intent h
  simp only [plannedOffset, htail, hpop, h, curvePointTargetOffsetKHz] at hplan
  split at hplan
  · cases hplan
  · simpa using hplan.symm

/-- A point is planned exactly when the readback populates it and it is requested
or a point of the locked tail. -/
theorem plannedOffset_isSome_iff : (plannedOffset q targets rb range ci).isSome = true ↔
    rb.freqKHz ci ≠ 0 ∧ (q.hasCurvePoint ci = true ∨ pointIsTail q ci = true) := by
  unfold plannedOffset
  by_cases hfreq : rb.freqKHz ci = 0
  · simp [hfreq]
  · cases htail : pointIsTail q ci <;> cases hhas : q.hasCurvePoint ci <;> simp [hfreq] <;>
      split <;> simp

/-! ## What a pass does to the targets -/

/-- The target of the point is spoken for: the user typed it, the locked tail owns
it, or its intent is an offset. -/
def TargetHeld (q : Request n) (ci : Fin n) : Prop :=
  q.explicitCurveMask ci = true ∨ q.lockedTailMask ci = true ∨ pointOffsetIsIntent q ci = true

/-- No target rises, and a target that is spoken for stays. -/
structure TargetsKept (q : Request n) (before after : Targets n) : Prop where
  le : ∀ ci, after ci ≤ before ci
  held : ∀ ci, TargetHeld q ci → after ci = before ci

theorem TargetsKept.refl (targets : Targets n) : TargetsKept q targets targets :=
  ⟨fun _ => UInt32.le_refl _, fun _ _ => rfl⟩

theorem TargetsKept.trans {first second third : Targets n} (h : TargetsKept q first second)
    (h' : TargetsKept q second third) : TargetsKept q first third :=
  ⟨fun ci => UInt32.le_trans (h'.le ci) (h.le ci),
    fun ci hci => (h'.held ci hci).trans (h.held ci hci)⟩

theorem not_held_of_accept {actualMHz targetMHz : UInt32}
    (hintent : pointOffsetIsIntent q ci = false)
    (h : acceptNonTailReadback q ci actualMHz targetMHz = true) :
    ¬ TargetHeld q ci ∧ actualMHz ≤ targetMHz := by
  simp only [acceptNonTailReadback, Bool.and_eq_true, Bool.not_eq_true', decide_eq_true_eq] at h
  obtain ⟨⟨⟨⟨_, htail⟩, _⟩, hexplicit⟩, hle⟩ := h
  refine ⟨?_, hle⟩
  rintro (hheld | hheld | hheld)
  · simp [hheld, htail] at hexplicit
  · simp [hheld] at htail
  · simp [hheld] at hintent

/-- A target that is not spoken for and is lowered to a readback. -/
theorem TargetsKept.lower {actualMHz : UInt32} (hfree : ¬ TargetHeld q ci)
    (hle : actualMHz ≤ targets ci) :
    TargetsKept q targets (Function.update targets ci actualMHz) := by
  constructor
  · intro cj
    by_cases hcj : cj = ci
    · subst hcj
      simpa using hle
    · simp [Function.update_of_ne hcj]
  · intro cj hheld
    have hcj : cj ≠ ci := by
      rintro rfl
      exact hfree hheld
    exact Function.update_of_ne hcj _ _

@[simp] theorem remember_targets (pass : ClassifyPass n) (ci : Fin n) (errorKHz : Int32)
    (stats : PassStats) (report : PointReport) :
    (pass.remember ci errorKHz stats report).correction.curvePointMHz =
      pass.correction.curvePointMHz := rfl

@[simp] theorem accept_targets (pass : ClassifyPass n) (ci : Fin n) (actualMHz : UInt32)
    (stats : PassStats) (report : PointReport) :
    (pass.accept ci actualMHz stats report).correction.curvePointMHz =
      Function.update pass.correction.curvePointMHz ci actualMHz := rfl

theorem classifyOffsetIntent_targets (pass : ClassifyPass n) (ci : Fin n) :
    (classifyOffsetIntent q rb pass ci).correction.curvePointMHz =
      pass.correction.curvePointMHz := by
  unfold classifyOffsetIntent
  dsimp only
  split
  · rfl
  · rfl

theorem pointIsTail_of_accept {actualMHz targetMHz : UInt32}
    (h : acceptNonTailReadback q ci actualMHz targetMHz = true) : pointIsTail q ci = false := by
  simp only [acceptNonTailReadback, Bool.and_eq_true, Bool.not_eq_true'] at h
  simp [pointIsTail, h.1.1.1.2]

/-- A point judged by its frequency keeps its target or lowers it where that is
allowed. -/
theorem classifyFrequency_targets (pass : ClassifyPass n) (ci : Fin n) :
    (classifyFrequency q rb range pass ci).correction.curvePointMHz =
        pass.correction.curvePointMHz ∨
      ∃ actualMHz, acceptNonTailReadback q ci actualMHz (pass.correction.curvePointMHz ci) = true ∧
        (classifyFrequency q rb range pass ci).correction.curvePointMHz =
          Function.update pass.correction.curvePointMHz ci actualMHz := by
  unfold classifyFrequency
  dsimp only
  generalize htarget : (if pointIsTail q ci then q.lockMHz
    else pass.correction.curvePointMHz ci) = targetMHz
  by_cases heq : displayMHz (rb.freqKHz ci) = targetMHz
  · rw [if_pos heq]
    exact .inl rfl
  rw [if_neg heq]
  by_cases haccept : acceptNonTailReadback q ci (displayMHz (rb.freqKHz ci)) targetMHz = true
  · rw [if_pos haccept, accept_targets]
    simp only [pointIsTail_of_accept haccept, Bool.false_eq_true, if_false] at htarget
    exact .inr ⟨_, htarget ▸ haccept, rfl⟩
  · rw [if_neg haccept]
    refine .inl ?_
    split
    · rfl
    · rfl

theorem classifyPoint_targetsKept (pass : ClassifyPass n) (ci : Fin n) :
    TargetsKept q pass.correction.curvePointMHz
      (classifyPoint q rb range pass ci).correction.curvePointMHz := by
  unfold classifyPoint
  split
  · exact .refl _
  split
  · exact .refl _
  split
  · rw [classifyOffsetIntent_targets]
    exact .refl _
  · rename_i hintent
    obtain heq | ⟨actualMHz, haccept, heq⟩ :
        (classifyFrequency q rb range pass ci).correction.curvePointMHz =
            pass.correction.curvePointMHz ∨ ∃ actualMHz, _ ∧ _ :=
      classifyFrequency_targets pass ci
    · rw [heq]
      exact .refl _
    · obtain ⟨hfree, hle⟩ := not_held_of_accept (Bool.eq_false_iff.mpr hintent) haccept
      rw [heq]
      exact .lower hfree hle

theorem classifyPass_targetsKept (correction : Correction n) (correctionPass : Nat) :
    TargetsKept q correction.curvePointMHz
      (classifyPass q correction rb range correctionPass).correction.curvePointMHz := by
  have hfold : ∀ (points : List (Fin n)) (pass : ClassifyPass n),
      TargetsKept q pass.correction.curvePointMHz
        (points.foldl (classifyPoint q rb range) pass).correction.curvePointMHz := by
    intro points
    induction points with
    | nil => exact fun pass => .refl _
    | cons head rest ih => exact fun pass => (classifyPoint_targetsKept pass head).trans (ih _)
  exact hfold (List.finRange n) { correction := correction }

/-! ## Any run of passes -/

theorem step_targetsKept (correction : Correction n) (event : PassEvent n) :
    TargetsKept q correction.curvePointMHz
      ((passes q targets).step correction event).1.curvePointMHz := by
  cases event with
  | plan rb range => exact .refl _
  | classify rb range correctionPass => exact classifyPass_targetsKept correction correctionPass

theorem run_targetsKept (correction : Correction n) (events : List (PassEvent n)) :
    TargetsKept q correction.curvePointMHz
      ((passes q targets).run correction events).curvePointMHz := by
  induction events generalizing correction with
  | nil => exact .refl _
  | cons event rest ih => exact (step_targetsKept correction event).trans (ih _)

/-- **The law of the correction passes.**  Over any readbacks, in any order and any
number: the next pass plans a point exactly when its readback populates it and it
is requested or in the locked tail, and plans an offset-intent point at the clamp
of the offset it asks for; from any pass on, the targets the user, the locked tail
or an offset speaks for stay as they are, and no other target rises. -/
theorem correction_passes_law (q : Request n) (targets : Targets n)
    (before after : List (PassEvent n)) :
    let reached := (passes q targets).run (passes q targets).initial before
    let later := (passes q targets).run (passes q targets).initial (before ++ after)
    (∀ rb range ci,
      let planned := (planPass q reached.curvePointMHz rb range).offsetsOut ci
      (planned.isSome = true ↔
        rb.freqKHz ci ≠ 0 ∧ (q.hasCurvePoint ci = true ∨ pointIsTail q ci = true)) ∧
      (pointOffsetIsIntent q ci = true → ∀ offset, planned = some offset →
        offset = (vfOffsetRangeClampKHz range (q.targetOffsetKHz ci)).1)) ∧
      (∀ ci, q.explicitCurveMask ci = true ∨ q.lockedTailMask ci = true ∨
          pointOffsetIsIntent q ci = true →
        later.curvePointMHz ci = reached.curvePointMHz ci) ∧
      ∀ ci, later.curvePointMHz ci ≤ reached.curvePointMHz ci := by
  intro reached later
  have hkept : TargetsKept q reached.curvePointMHz later.curvePointMHz := by
    simp only [later, EventMachine.run_append]
    exact run_targetsKept reached after
  refine ⟨?_, hkept.held, hkept.le⟩
  intro rb range ci planned
  have hplanned : planned = plannedOffset q reached.curvePointMHz rb range ci :=
    congrFun planPass_offsetsOut ci
  rw [hplanned]
  exact ⟨plannedOffset_isSome_iff, fun hintent offset => plannedOffset_of_intent hintent⟩

/-! ## The loop is a run of passes -/

/-- **The loop makes passes only**: the targets it ends with are those of a run. -/
theorem runCorrectionLoop_run (driver : Nat → PassDriver n) (remaining pass : Nat)
    (correction : Correction n) :
    ∃ events, (runCorrectionLoop q driver remaining pass correction).2 =
      (passes q targets).run correction events := by
  induction remaining generalizing pass correction with
  | zero => exact ⟨[], rfl⟩
  | succ remaining ih =>
    have hclassify : (classifyPass q correction (driver pass).classifyReadback
        (driver pass).classifyRange pass).correction = (passes q targets).run correction
          [.classify (driver pass).classifyReadback (driver pass).classifyRange pass] := rfl
    unfold runCorrectionLoop
    simp only
    split
    · exact ⟨[], rfl⟩
    split
    · exact ⟨[], rfl⟩
    split
    · exact ⟨_, hclassify⟩
    split
    · exact ⟨_, hclassify⟩
    · obtain ⟨events, hevents⟩ := ih (pass + 1) (classifyPass q correction
        (driver pass).classifyReadback (driver pass).classifyRange pass).correction
      exact ⟨_ :: events, by rw [hevents, hclassify]; rfl⟩

/-- The loop of an apply keeps the targets as its passes do. -/
theorem runCorrectionLoop_targetsKept (driver : Nat → PassDriver n) (maxPasses : Nat)
    (correction : Correction n) :
    TargetsKept q correction.curvePointMHz
      (runCorrectionLoop q driver maxPasses 0 correction).2.curvePointMHz := by
  obtain ⟨events, hevents⟩ : ∃ events, (runCorrectionLoop q driver maxPasses 0 correction).2 =
      (passes q correction.curvePointMHz).run correction events :=
    runCorrectionLoop_run driver maxPasses 0 correction
  rw [hevents]
  exact run_targetsKept correction events

end GreenCurve.ApplyCorrection
