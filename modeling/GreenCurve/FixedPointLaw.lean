import GreenCurve.CorrectionLaw

/-! # When the passes stop at a fixed point

A pass that leaves points unconverged and improves none of them ends the loop, since no
later pass could help.  The errors it compares with are on record point by point.  A point
that goes astray for the first time has no record, counts as unconverged and improves
nothing, so it ends the loop too.  The law says exactly when the exit is a real one. -/

namespace GreenCurve.ApplyCorrection

variable {n : Nat} {q : Request n} {rb : Readback n} {range : VfOffsetRange} {ci : Fin n}

/-! ## What a readback leaves of a request -/

/-- The frequency a point is judged against. -/
def judgedMHz (q : Request n) (targets : Targets n) (ci : Fin n) : UInt32 :=
  if pointIsTail q ci then q.lockMHz else targets ci

/-- The readback leaves a requested point away from its request. -/
def astray (q : Request n) (targets : Targets n) (rb : Readback n) (ci : Fin n) : Bool :=
  q.hasCurvePoint ci && rb.freqKHz ci != 0 &&
    if pointOffsetIsIntent q ci then rb.programmedOffsetKHz ci != q.targetOffsetKHz ci
    else displayMHz (rb.freqKHz ci) != judgedMHz q targets ci

/-- How far away, in the quantity the point is judged by. -/
def errorOf (q : Request n) (targets : Targets n) (rb : Readback n) (ci : Fin n) : Nat :=
  if pointOffsetIsIntent q ci then
    ((rb.programmedOffsetKHz ci).toInt - (q.targetOffsetKHz ci).toInt).natAbs
  else ((rb.freqKHz ci).toNat - (judgedMHz q targets ci).toNat * 1000 : Int).natAbs

/-- A derived target that is lowered to the readback instead. -/
def accepted (q : Request n) (targets : Targets n) (rb : Readback n) (ci : Fin n) : Bool :=
  !pointOffsetIsIntent q ci &&
    acceptNonTailReadback q ci (displayMHz (rb.freqKHz ci)) (judgedMHz q targets ci)

/-- There is an error on record for a point. -/
def recorded (correction : Correction n) (ci : Fin n) : Bool :=
  correction.prevErrorKHz ci != Int32.maxValue

/-- The error is smaller than the one on record. -/
def improves (q : Request n) (correction : Correction n) (rb : Readback n) (ci : Fin n) : Bool :=
  recorded correction ci &&
    decide (Int32.ofIntClamp (errorOf q correction.curvePointMHz rb ci)
      < correction.prevErrorKHz ci)

/-! ## One point -/

/-- What the classification of a point does to the pass. -/
structure Classifies (q : Request n) (rb : Readback n) (ci : Fin n) (pass after : ClassifyPass n) :
    Prop where
  unconverged : after.stats.unconverged = pass.stats.unconverged +
    if astray q pass.correction.curvePointMHz rb ci then 1 else 0
  improved : after.stats.improved = pass.stats.improved +
    if astray q pass.correction.curvePointMHz rb ci && improves q pass.correction rb ci then 1
    else 0
  history : after.correction.prevErrorKHz =
    if astray q pass.correction.curvePointMHz rb ci &&
        !accepted q pass.correction.curvePointMHz rb ci then
      Function.update pass.correction.prevErrorKHz ci
        (Int32.ofIntClamp (errorOf q pass.correction.curvePointMHz rb ci))
    else pass.correction.prevErrorKHz
  targets : ∀ cj ≠ ci, after.correction.curvePointMHz cj = pass.correction.curvePointMHz cj

theorem Classifies.of_converged {pass : ClassifyPass n}
    (h : astray q pass.correction.curvePointMHz rb ci = false) :
    Classifies q rb ci pass pass where
  unconverged := by rw [h]; rfl
  improved := by rw [h]; rfl
  history := by rw [h]; rfl
  targets _ _ := rfl

theorem classifyTail_counts (stats : PassStats) (diverged : Bool) (prev errorKHz : Int32) :
    (classifyTail stats diverged prev errorKHz).1.unconverged = stats.unconverged ∧
      (classifyTail stats diverged prev errorKHz).1.improved = stats.improved := by
  unfold classifyTail
  dsimp only
  split_ifs <;> exact ⟨rfl, rfl⟩

theorem classifyProgress_counts (q : Request n) (range : VfOffsetRange) (ci : Fin n)
    (requiredDeltaKHz prev errorKHz : Int32) (stats : PassStats) :
    (classifyProgress q range ci requiredDeltaKHz prev errorKHz stats).1.unconverged
        = stats.unconverged ∧
      (classifyProgress q range ci requiredDeltaKHz prev errorKHz stats).1.improved
        = stats.improved := by
  unfold classifyProgress
  dsimp only
  split_ifs
  · exact classifyTail_counts ..
  · exact ⟨rfl, rfl⟩
  · exact ⟨rfl, rfl⟩

theorem measured_improved (stats : PassStats) (prev errorKHz : Int32) :
    (stats.measured prev errorKHz).improved
      = stats.improved + if prev != Int32.maxValue && decide (errorKHz < prev) then 1 else 0 := by
  unfold PassStats.measured
  split_ifs <;> rfl

theorem offsetOff_counts (stats : PassStats) (ci : Fin n) (programmed wanted : Int32) :
    (stats.offsetOff ci programmed wanted).unconverged = stats.unconverged ∧
      (stats.offsetOff ci programmed wanted).improved = stats.improved := by
  unfold PassStats.offsetOff
  split_ifs <;> exact ⟨rfl, rfl⟩

theorem classifyOffsetIntent_classifies {pass : ClassifyPass n} (hhas : q.hasCurvePoint ci = true)
    (hfreq : rb.freqKHz ci ≠ 0) (hintent : pointOffsetIsIntent q ci = true) :
    Classifies q rb ci pass (classifyOffsetIntent q rb pass ci) := by
  have hastray : astray q pass.correction.curvePointMHz rb ci
      = (rb.programmedOffsetKHz ci != q.targetOffsetKHz ci) := by
    simp [astray, hhas, hfreq, hintent]
  unfold classifyOffsetIntent
  dsimp only
  by_cases hheld : rb.programmedOffsetKHz ci = q.targetOffsetKHz ci
  · rw [if_pos hheld]
    exact .of_converged (by rw [hastray]; simp [hheld])
  · rw [if_neg hheld]
    have hon : astray q pass.correction.curvePointMHz rb ci = true := by
      rw [hastray]
      simpa using hheld
    have herror : errorOf q pass.correction.curvePointMHz rb ci
        = ((rb.programmedOffsetKHz ci).toInt - (q.targetOffsetKHz ci).toInt).natAbs :=
      if_pos hintent
    have hkept : accepted q pass.correction.curvePointMHz rb ci = false := by
      simp [accepted, hintent]
    refine ⟨?_, ?_, ?_, fun _ _ => rfl⟩
    · rw [hon]
      exact (offsetOff_counts ..).1
    · rw [hon]
      refine ((offsetOff_counts ..).2.trans (measured_improved ..)).trans ?_
      rw [improves, herror]
      rfl
    · rw [hon, hkept, herror]
      rfl

theorem classifyFrequency_classifies {pass : ClassifyPass n} (hhas : q.hasCurvePoint ci = true)
    (hfreq : rb.freqKHz ci ≠ 0) (hintent : pointOffsetIsIntent q ci = false) :
    Classifies q rb ci pass (classifyFrequency q rb range pass ci) := by
  have hastray : astray q pass.correction.curvePointMHz rb ci
      = (displayMHz (rb.freqKHz ci) != judgedMHz q pass.correction.curvePointMHz ci) := by
    simp [astray, hhas, hfreq, hintent]
  have herror : errorOf q pass.correction.curvePointMHz rb ci
      = ((rb.freqKHz ci).toNat
        - (judgedMHz q pass.correction.curvePointMHz ci).toNat * 1000 : Int).natAbs :=
    if_neg (by simp [hintent])
  unfold classifyFrequency
  dsimp only
  rw [← judgedMHz]
  by_cases hheld : displayMHz (rb.freqKHz ci) = judgedMHz q pass.correction.curvePointMHz ci
  · rw [if_pos hheld]
    exact .of_converged (by rw [hastray]; simp [hheld])
  · rw [if_neg hheld, ← herror]
    have hon : astray q pass.correction.curvePointMHz rb ci = true := by
      rw [hastray]
      simpa using hheld
    have hcounts := classifyProgress_counts q range ci
      (requiredDeltaKHz rb ci (judgedMHz q pass.correction.curvePointMHz ci))
      (pass.correction.prevErrorKHz ci)
      (Int32.ofIntClamp (errorOf q pass.correction.curvePointMHz rb ci))
      (pass.stats.measured (pass.correction.prevErrorKHz ci)
        (Int32.ofIntClamp (errorOf q pass.correction.curvePointMHz rb ci)))
    have himproved := hcounts.2.trans (measured_improved ..)
    have hacceptance : accepted q pass.correction.curvePointMHz rb ci
        = acceptNonTailReadback q ci (displayMHz (rb.freqKHz ci))
          (judgedMHz q pass.correction.curvePointMHz ci) := by
      simp [accepted, hintent]
    split
    · rename_i haccept
      rw [← hacceptance] at haccept
      refine ⟨?_, ?_, ?_, fun cj hcj => Function.update_of_ne hcj _ _⟩
      · rw [hon]
        exact hcounts.1
      · rw [hon]
        exact himproved
      · rw [hon, haccept]
        rfl
    · rename_i haccept
      rw [← hacceptance, Bool.not_eq_true] at haccept
      split
      all_goals
        refine ⟨?_, ?_, ?_, fun _ _ => rfl⟩
        · rw [hon]
          exact hcounts.1
        · rw [hon]
          exact himproved
        · rw [hon, haccept]
          rfl

theorem classifyPoint_classifies (q : Request n) (rb : Readback n) (range : VfOffsetRange)
    (pass : ClassifyPass n) (ci : Fin n) :
    Classifies q rb ci pass (classifyPoint q rb range pass ci) := by
  unfold classifyPoint
  by_cases hhas : q.hasCurvePoint ci = true
  · rw [if_neg (by simp [hhas])]
    by_cases hfreq : rb.freqKHz ci = 0
    · rw [if_pos hfreq]
      exact .of_converged (by simp [astray, hfreq])
    · rw [if_neg hfreq]
      by_cases hintent : pointOffsetIsIntent q ci = true
      · rw [if_pos hintent]
        exact classifyOffsetIntent_classifies hhas hfreq hintent
      · rw [if_neg hintent]
        exact classifyFrequency_classifies hhas hfreq (Bool.eq_false_iff.mpr hintent)
  · rw [if_pos (by simpa using hhas)]
    exact .of_converged (by simp [astray, Bool.eq_false_iff.mpr hhas])

/-! ## A whole pass

What is said of a point reads nothing of the other points. -/

/-- Two corrections have the same target and the same record for a point. -/
def SameAt (ci : Fin n) (first second : Correction n) : Prop :=
  first.curvePointMHz ci = second.curvePointMHz ci ∧
    first.prevErrorKHz ci = second.prevErrorKHz ci

section
variable {first second : Correction n}

theorem SameAt.judgedMHz (h : SameAt ci first second) :
    judgedMHz q first.curvePointMHz ci = judgedMHz q second.curvePointMHz ci := by
  rw [ApplyCorrection.judgedMHz, ApplyCorrection.judgedMHz, h.1]

theorem SameAt.astray (h : SameAt ci first second) :
    astray q first.curvePointMHz rb ci = astray q second.curvePointMHz rb ci := by
  rw [ApplyCorrection.astray, ApplyCorrection.astray, h.judgedMHz]

theorem SameAt.errorOf (h : SameAt ci first second) :
    errorOf q first.curvePointMHz rb ci = errorOf q second.curvePointMHz rb ci := by
  rw [ApplyCorrection.errorOf, ApplyCorrection.errorOf, h.judgedMHz]

theorem SameAt.accepted (h : SameAt ci first second) :
    accepted q first.curvePointMHz rb ci = accepted q second.curvePointMHz rb ci := by
  rw [ApplyCorrection.accepted, ApplyCorrection.accepted, h.judgedMHz]

theorem SameAt.improves (h : SameAt ci first second) :
    improves q first rb ci = improves q second rb ci := by
  rw [ApplyCorrection.improves, ApplyCorrection.improves, recorded, recorded, h.errorOf, h.2]

end

theorem Classifies.sameAt {pass after : ClassifyPass n} (h : Classifies q rb ci pass after)
    {cj : Fin n} (hcj : cj ≠ ci) : SameAt cj after.correction pass.correction := by
  refine ⟨h.targets cj hcj, ?_⟩
  rw [h.history]
  split
  · exact Function.update_of_ne hcj _ _
  · rfl

theorem foldl_classifyPoint (q : Request n) (rb : Readback n) (range : VfOffsetRange)
    (points : List (Fin n)) (hnodup : points.Nodup)
    (pass : ClassifyPass n) :
    let after := points.foldl (classifyPoint q rb range) pass
    after.stats.unconverged = pass.stats.unconverged
        + points.countP (astray q pass.correction.curvePointMHz rb) ∧
      after.stats.improved = pass.stats.improved
        + points.countP (fun ci => astray q pass.correction.curvePointMHz rb ci
          && improves q pass.correction rb ci) ∧
      ∀ ci, after.correction.prevErrorKHz ci =
        if ci ∈ points ∧ (astray q pass.correction.curvePointMHz rb ci &&
            !accepted q pass.correction.curvePointMHz rb ci) = true then
          Int32.ofIntClamp (errorOf q pass.correction.curvePointMHz rb ci)
        else pass.correction.prevErrorKHz ci := by
  induction points generalizing pass with
  | nil => exact ⟨rfl, rfl, fun ci => by simp⟩
  | cons head rest ih =>
    intro after
    obtain ⟨hhead, hrest⟩ := List.nodup_cons.mp hnodup
    have hstep := classifyPoint_classifies q rb range pass head
    obtain ⟨hcount, himproved, hhistory⟩ := ih hrest (classifyPoint q rb range pass head)
    have hsame : ∀ ci ∈ rest,
        SameAt ci (classifyPoint q rb range pass head).correction pass.correction :=
      fun ci hci => hstep.sameAt (ne_of_mem_of_not_mem hci hhead)
    refine ⟨?_, ?_, fun ci => ?_⟩
    · refine hcount.trans ?_
      rw [hstep.unconverged, List.countP_cons,
        List.countP_congr fun ci hci => by rw [(hsame ci hci).astray]]
      omega
    · refine himproved.trans ?_
      rw [hstep.improved, List.countP_cons, List.countP_congr fun ci hci => by
        rw [(hsame ci hci).astray, (hsame ci hci).improves]]
      omega
    · refine (hhistory ci).trans ?_
      by_cases hci : ci ∈ rest
      · rw [(hsame ci hci).astray, (hsame ci hci).accepted, (hsame ci hci).errorOf,
          (hsame ci hci).2]
        simp [hci]
      · by_cases heq : ci = head
        · subst heq
          rw [if_neg (by simp [hci]), hstep.history]
          simp only [List.mem_cons_self, true_and]
          split
          · exact Function.update_self _ _ _
          · rfl
        · rw [if_neg (by simp [hci]), (hstep.sameAt heq).2]
          simp [heq, hci]

/-- **What a pass leaves behind**: whether it stops the loop, and the errors on record. -/
theorem classifyPass_spec (q : Request n) (rb : Readback n) (range : VfOffsetRange)
    (correction : Correction n) (correctionPass : Nat) :
    let after := classifyPass q correction rb range correctionPass
    (after.stats.fixedPoint = true ↔ 0 < correctionPass ∧
        (∃ ci, astray q correction.curvePointMHz rb ci = true) ∧
        ∀ ci, astray q correction.curvePointMHz rb ci = true →
          improves q correction rb ci = false) ∧
      ∀ ci, after.correction.prevErrorKHz ci =
        if astray q correction.curvePointMHz rb ci &&
            !accepted q correction.curvePointMHz rb ci then
          Int32.ofIntClamp (errorOf q correction.curvePointMHz rb ci)
        else correction.prevErrorKHz ci := by
  intro after
  obtain ⟨hcount, himproved, hhistory⟩ := foldl_classifyPoint q rb range
    (List.finRange n) (List.nodup_finRange n) { correction := correction }
  refine ⟨?_, fun ci => ?_⟩
  · have hstop : after.stats.fixedPoint = (decide (0 < correctionPass)
        && decide (0 < ((List.finRange n).foldl (classifyPoint q rb range)
          { correction := correction }).stats.unconverged)
        && decide (((List.finRange n).foldl (classifyPoint q rb range)
          { correction := correction }).stats.improved = 0)) := rfl
    rw [hstop, hcount, himproved]
    simp only [Bool.and_eq_true, decide_eq_true_eq, Nat.zero_add, List.countP_pos_iff,
      List.countP_eq_zero, List.mem_finRange, true_and, true_imp_iff, and_assoc]
    simp
  · refine (hhistory ci).trans ?_
    simp [List.mem_finRange]

/-! ## A run of passes -/

/-- What the driver reports to one classification. -/
structure Reading (n : Nat) where
  readback : Readback n
  range : VfOffsetRange

section
variable (q : Request n) (targets : Targets n) (readings : Nat → Reading n)

/-- The corrections before pass `k` of a run that starts with no error on record. -/
def correctionAt : Nat → Correction n
  | 0 => { curvePointMHz := targets, prevErrorKHz := resetHistory }
  | k + 1 =>
    (classifyPass q (correctionAt k) (readings k).readback (readings k).range k).correction

/-- Pass `k` reports a fixed point. -/
def stopsAt (k : Nat) : Bool :=
  (classifyPass q (correctionAt q targets readings k) (readings k).readback (readings k).range
    k).stats.fixedPoint

/-- Pass `k` finds a point away from its request. -/
def astrayAt (k : Nat) (ci : Fin n) : Bool :=
  astray q (correctionAt q targets readings k).curvePointMHz (readings k).readback ci

def errorAt (k : Nat) (ci : Fin n) : Nat :=
  errorOf q (correctionAt q targets readings k).curvePointMHz (readings k).readback ci

/-- An earlier pass measured the point away from its request, and since the last one that
did its error did not shrink. -/
def NotShrunk (k : Nat) (ci : Fin n) : Prop :=
  ∃ j < k, astrayAt q targets readings j ci = true ∧
    (∀ i, j < i → i < k → astrayAt q targets readings i ci = false) ∧
    errorAt q targets readings j ci ≤ errorAt q targets readings k ci

/-- Every error that pass `k` measures goes on record and fits there. -/
def EntersRecord (k : Nat) : Prop :=
  ∀ ci, astrayAt q targets readings k ci = true →
    accepted q (correctionAt q targets readings k).curvePointMHz (readings k).readback ci = false ∧
      errorAt q targets readings k ci < 2147483647

/-- Pass `k` is the first, or finds no point astray that has no error on record, or finds
one that has and improves. -/
def FairStop (k : Nat) : Prop :=
  k = 0 ∨
    (∀ ci, astrayAt q targets readings k ci = true →
      recorded (correctionAt q targets readings k) ci = true) ∨
    ∃ ci, astrayAt q targets readings k ci = true ∧
      improves q (correctionAt q targets readings k) (readings k).readback ci = true

end

theorem toInt_clamped {error : Nat} (h : error < 2147483647) :
    (Int32.ofIntClamp error).toInt = error := by
  apply Int32.toInt_ofIntClamp
  · show (-2147483648 : Int) ≤ error
    omega
  · show (error : Int) ≤ 2147483647
    omega

theorem clamped_ne_max {error : Nat} (h : error < 2147483647) :
    Int32.ofIntClamp error ≠ Int32.maxValue := by
  intro hmax
  have hvalue := toInt_clamped h
  rw [hmax] at hvalue
  have hmaxValue : Int32.maxValue.toInt = 2147483647 := rfl
  omega

theorem clamped_lt_iff {first second : Nat} (hfirst : first < 2147483647)
    (hsecond : second < 2147483647) :
    Int32.ofIntClamp first < Int32.ofIntClamp second ↔ first < second := by
  rw [Int32.lt_iff_toInt_lt, toInt_clamped hfirst, toInt_clamped hsecond]
  exact Int.ofNat_lt

/-- **What is on record is the last error measured**, as long as every error enters it. -/
theorem record_at {q : Request n} {targets : Targets n} {readings : Nat → Reading n} {k : Nat}
    (h : ∀ j < k, EntersRecord q targets readings j) (ci : Fin n) :
    ((correctionAt q targets readings k).prevErrorKHz ci = Int32.maxValue ∧
        ∀ j < k, astrayAt q targets readings j ci = false) ∨
      ∃ j < k, astrayAt q targets readings j ci = true ∧
        (∀ i, j < i → i < k → astrayAt q targets readings i ci = false) ∧
        (correctionAt q targets readings k).prevErrorKHz ci
          = Int32.ofIntClamp (errorAt q targets readings j ci) := by
  induction k with
  | zero => exact .inl ⟨rfl, fun j hj => absurd hj (Nat.not_lt_zero j)⟩
  | succ k ih =>
    have hpass := (classifyPass_spec q (readings k).readback (readings k).range
      (correctionAt q targets readings k) k).2 ci
    cases hastray : astrayAt q targets readings k ci with
    | true =>
      obtain ⟨haccepted, _⟩ := h k (Nat.lt_succ_self k) ci hastray
      refine .inr ⟨k, Nat.lt_succ_self k, hastray, fun i hi hik => absurd hik (by omega), ?_⟩
      refine hpass.trans ?_
      rw [astrayAt] at hastray
      rw [hastray, haccepted]
      rfl
    | false =>
      have hkept : (correctionAt q targets readings (k + 1)).prevErrorKHz ci
          = (correctionAt q targets readings k).prevErrorKHz ci := by
        refine hpass.trans ?_
        rw [astrayAt] at hastray
        rw [hastray]
        rfl
      rw [hkept]
      rcases ih fun j hj => h j (Nat.lt_succ_of_lt hj) with ⟨hmax, hnone⟩ | ⟨j, hj, hj', hlast, heq⟩
      · refine .inl ⟨hmax, fun j hj => ?_⟩
        rcases Nat.lt_succ_iff_lt_or_eq.mp hj with hj | rfl
        · exact hnone j hj
        · exact hastray
      · refine .inr ⟨j, Nat.lt_succ_of_lt hj, hj', fun i hi hik => ?_, heq⟩
        rcases Nat.lt_succ_iff_lt_or_eq.mp hik with hik | rfl
        · exact hlast i hi hik
        · exact hastray

theorem stopsAt_iff {q : Request n} {targets : Targets n} {readings : Nat → Reading n} {k : Nat} :
    stopsAt q targets readings k = true ↔ 0 < k ∧
      (∃ ci, astrayAt q targets readings k ci = true) ∧
      ∀ ci, astrayAt q targets readings k ci = true →
        improves q (correctionAt q targets readings k) (readings k).readback ci = false :=
  (classifyPass_spec q _ _ (correctionAt q targets readings k) k).1

/-- An error on record that the pass does not improve on did not shrink. -/
theorem notShrunk_of_recorded {q : Request n} {targets : Targets n} {readings : Nat → Reading n}
    {k : Nat} (h : ∀ j ≤ k, EntersRecord q targets readings j)
    (hastray : astrayAt q targets readings k ci = true)
    (hrecorded : recorded (correctionAt q targets readings k) ci = true)
    (himproves : improves q (correctionAt q targets readings k) (readings k).readback ci = false) :
    NotShrunk q targets readings k ci := by
  rcases record_at (fun j hj => h j (Nat.le_of_lt hj)) ci with ⟨hmax, _⟩ | ⟨j, hj, hj', hlast, heq⟩
  · rw [recorded, hmax] at hrecorded
    exact absurd hrecorded (by decide)
  · refine ⟨j, hj, hj', hlast, ?_⟩
    have hbound := (h k (Nat.le_refl k) ci hastray).2
    have hbound' := (h j (Nat.le_of_lt hj) ci hj').2
    rw [improves, hrecorded, Bool.true_and, decide_eq_false_iff_not, heq] at himproves
    by_contra hless
    exact himproves ((clamped_lt_iff hbound hbound').mpr (Nat.lt_of_not_le hless))

/-- A point without a record was never measured away from its request. -/
theorem never_astray_of_not_recorded {q : Request n} {targets : Targets n}
    {readings : Nat → Reading n} {k : Nat} (h : ∀ j ≤ k, EntersRecord q targets readings j)
    (hrecorded : recorded (correctionAt q targets readings k) ci = false) :
    ∀ j < k, astrayAt q targets readings j ci = false := by
  rcases record_at (fun j hj => h j (Nat.le_of_lt hj)) ci with ⟨_, hnone⟩ | ⟨j, hj, hj', _, heq⟩
  · exact hnone
  · rw [recorded, heq, bne_eq_false_iff_eq] at hrecorded
    exact absurd hrecorded (clamped_ne_max (h j (Nat.le_of_lt hj) ci hj').2)

/-! ## A point that drifts while another arrives -/

/-- Two typed points at 1500 MHz. -/
def twoPoints : Request 2 where
  hasLock := false
  lockMHz := 0
  lockCi := -1
  gpuPolicyViaCurveBatch := false
  lockedTailMask _ := false
  explicitCurveMask _ := true
  originalCurvePopulated _ := true
  hasCurvePoint _ := true
  fromGpuOffset _ := false
  targetOffsetKHz _ := 100000

def reported (first second : UInt32) (firstOffset : Int32) : Reading 2 where
  readback :=
    { freqKHz := fun ci => if ci = 0 then first else second
      programmedOffsetKHz := fun ci => if ci = 0 then firstOffset else 100000 }
  range := { minKHz := -1000000, maxKHz := 1000000, known := true }

/-- The first pass brings the second point home.  The next one brings the first home, while
the driver moves the base of the second by a bin. -/
def baseShift : Nat → Reading 2
  | 0 => reported 1485000 1500000 100000
  | _ + 1 => reported 1500000 1485000 115000

/-- **The exit on a fixed point.**  In a run whose errors all enter the record, a pass ends
the loop only over points that were measured astray before and did not come closer, exactly
when it finds no point astray for the first time or finds one that improves. -/
theorem fixed_point_exit (q : Request n) (targets : Targets n) (readings : Nat → Reading n)
    (k : Nat) (h : ∀ j ≤ k, EntersRecord q targets readings j) :
    (stopsAt q targets readings k = true →
        ∀ ci, astrayAt q targets readings k ci = true → NotShrunk q targets readings k ci) ↔
      FairStop q targets readings k := by
  constructor
  · intro hreal
    by_contra hunfair
    simp only [FairStop, not_or, not_forall, not_exists, not_and, exists_prop,
      Bool.not_eq_true] at hunfair
    obtain ⟨hk, ⟨ci, hastray, hrecorded⟩, himproves⟩ := hunfair
    have hstops : stopsAt q targets readings k = true :=
      stopsAt_iff.mpr ⟨Nat.pos_of_ne_zero hk, ⟨ci, hastray⟩, himproves⟩
    obtain ⟨j, hj, hj', _⟩ := hreal hstops ci hastray
    have hnever := never_astray_of_not_recorded h hrecorded j hj
    exact absurd (hnever.symm.trans hj') Bool.false_ne_true
  · intro hfair hstops ci hastray
    obtain ⟨hk, _, himproves⟩ := stopsAt_iff.mp hstops
    rcases hfair with rfl | hrecorded | ⟨cj, hcj, hcloser⟩
    · exact absurd hk (Nat.lt_irrefl 0)
    · exact notShrunk_of_recorded h hastray (hrecorded ci hastray) (himproves ci hastray)
    · exact absurd ((himproves cj hcj).symm.trans hcloser) Bool.false_ne_true

/-- Of this run the exit is no real one. -/
theorem fixed_point_exit_baseShift :
    (stopsAt twoPoints (fun _ => 1500) baseShift 1 = true →
        ∀ ci, astrayAt twoPoints (fun _ => 1500) baseShift 1 ci = true →
          NotShrunk twoPoints (fun _ => 1500) baseShift 1 ci) ↔
      FairStop twoPoints (fun _ => 1500) baseShift 1 := by
  refine fixed_point_exit twoPoints (fun _ => 1500) baseShift 1 fun j hj => ?_
  obtain rfl | rfl : j = 0 ∨ j = 1 := by omega
  all_goals
    unfold EntersRecord
    decide

/-- The loop ends over a point that went astray in this very pass, and that the next pass
would have written a new offset to. -/
theorem drift_ends_loop :
    ¬(stopsAt twoPoints (fun _ => 1500) baseShift 1 = true →
        ∀ ci, astrayAt twoPoints (fun _ => 1500) baseShift 1 ci = true →
          NotShrunk twoPoints (fun _ => 1500) baseShift 1 ci) ∧
      plannedOffset twoPoints (fun _ => 1500) (baseShift 1).readback (baseShift 1).range 1
        ≠ plannedOffset twoPoints (fun _ => 1500) (baseShift 0).readback (baseShift 0).range 1 := by
  refine ⟨fun h => ?_, by decide⟩
  obtain ⟨j, hj, hj', _⟩ := h (by decide) 1 (by decide)
  obtain rfl : j = 0 := by omega
  exact absurd hj' (by decide)

end GreenCurve.ApplyCorrection
