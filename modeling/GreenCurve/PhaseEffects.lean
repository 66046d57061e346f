import GreenCurve.BackendFrame

/-! # What the phases of an apply do to the registers

A phase that succeeds leaves its target in the registers it owns; one that fails
may leave anything there.  Either way the other registers are as they were, and so
is the curve that was last read, which only the curve phase rereads. -/

namespace GreenCurve.Backend

open CrashM

/-! ## Effects -/

/-- From `s` to `s'` only `owned` registers and the locked clocks were driven. -/
structure Drove (owned : Register → Prop) (s s' : BackendState) : Prop where
  hw : ∀ r, ¬ owned r → s'.hw r = s.hw r
  curve : s'.gpu.curve = s.gpu.curve
  fresh : s'.gpu.vfSnapshotFresh = s.gpu.vfSnapshotFresh
  curvesRead : s'.curvesRead = s.curvesRead
  board : s'.gpu.board = { s.gpu.board with
    retainedTransitionCeilingMHz := s'.gpu.retainedTransitionCeilingMHz }
  outgoing : s'.ceiling.outgoingCeilingMHz = s.ceiling.outgoingCeilingMHz
  hardPin : s'.ceiling.outgoingHadHardPin = s.ceiling.outgoingHadHardPin

namespace Drove

variable {owned other : Register → Prop} {s s' s'' : BackendState}

theorem refl (s : BackendState) : Drove owned s s where
  hw := fun _ _ => rfl
  curve := rfl
  fresh := rfl
  curvesRead := rfl
  board := rfl
  outgoing := rfl
  hardPin := rfl

theorem trans (h : Drove owned s s') (h' : Drove owned s' s'') : Drove owned s s'' where
  hw := fun r hr => (h'.hw r hr).trans (h.hw r hr)
  curve := h'.curve.trans h.curve
  fresh := h'.fresh.trans h.fresh
  curvesRead := h'.curvesRead.trans h.curvesRead
  board := by rw [h'.board, h.board]
  outgoing := h'.outgoing.trans h.outgoing
  hardPin := h'.hardPin.trans h.hardPin

theorem mono (h : Drove owned s s') (hsub : ∀ r, owned r → other r) : Drove other s s' where
  hw := fun r hr => h.hw r fun howned => hr (hsub r howned)
  curve := h.curve
  fresh := h.fresh
  curvesRead := h.curvesRead
  board := h.board
  outgoing := h.outgoing
  hardPin := h.hardPin

theorem of_frame (h : Frame owned s s') : Drove owned s s' where
  hw := h.hw
  curve := h.curve
  fresh := h.fresh
  curvesRead := h.curvesRead
  board := by
    rw [show s'.gpu.retainedTransitionCeilingMHz = s.gpu.retainedTransitionCeilingMHz from
      (congrArg LinuxGpuState.retainedTransitionCeilingMHz h.board :), h.board]
    rfl
  outgoing := by rw [h.ceiling]
  hardPin := by rw [h.ceiling]

theorem vfMask (h : Drove owned s s') : s'.gpu.vfMask = s.gpu.vfMask :=
  (congrArg LinuxGpuState.vfMask h.board :)

theorem range (h : Drove owned s s') : s'.gpu.curveOffsetRange = s.gpu.curveOffsetRange :=
  (congrArg LinuxGpuState.curveOffsetRange h.board :)

end Drove

/-- `step` drives `owned` registers only and, when it reports success, leaves
`target` in them. -/
def Drives (owned : Register → Prop) (target : Register → Option Int) (step : BackendM Bool) :
    Prop :=
  ∀ s, Ensures step (fun ok s' => Drove owned s s' ∧ (ok = true → Holds target s'))
    (Drove owned s) s

section Rules
variable {owned other : Register → Prop} {target target' : Register → Option Int}
  {step : BackendM Bool} {steps : List (BackendM Bool)}

theorem Writes.drives (h : Writes owned (fun _ => target) step) : Drives owned target step :=
  fun s => (h s).mono (fun _ _ hs => ⟨.of_frame hs.1, hs.2⟩) fun _ hs => .of_frame hs

theorem Drives.mono (h : Drives owned target step) (hsub : ∀ r, owned r → other r) :
    Drives other target step :=
  fun s => (h s).mono (fun _ _ hs => ⟨hs.1.mono hsub, hs.2⟩) fun _ hs => hs.mono hsub

theorem Drives.congr (h : Drives owned target step) (hsub : ∀ r, owned r → other r)
    (htarget : ∀ r, target r = target' r) : Drives other target' step :=
  funext htarget ▸ h.mono hsub

theorem drives_pure (ok : Bool) : Drives owned (fun _ => none) (pure ok) :=
  fun s => ensures_pure ⟨.refl s, fun _ => holds_anything⟩

theorem Drives.optional {c : Bool} (h : Drives owned target step) :
    Drives (fun r => owned r ∧ c = true) (fun r => if c then target r else none)
      (Backend.optional c step) := by
  cases c with
  | true => exact h.mono fun r hr => ⟨hr, rfl⟩
  | false => exact drives_pure true

/-- Two targets of which the second wins. -/
def andThen (target target' : Register → Option Int) : Register → Option Int :=
  fun r => (target' r).orElse fun _ => target r

theorem Holds.andThen {s s' : BackendState} (h : Holds target s) (hdrove : Drove other s s')
    (hkeep : ∀ r, other r → (target r).isSome = true → (target' r).isSome = true)
    (h' : Holds target' s') : Holds (Backend.andThen target target') s' := by
  intro r value hr
  cases hlater : target' r with
  | some later =>
    have : later = value := by simpa [Backend.andThen, hlater] using hr
    exact this ▸ h' r later hlater
  | none =>
    have hfirst : target r = some value := by simpa [Backend.andThen, hlater] using hr
    have hfree : ¬ other r := by
      intro hother
      have := hkeep r hother (by rw [hfirst]; rfl)
      simp [hlater] at this
    rw [hdrove.hw r hfree]
    exact h r value hfirst

theorem drives_allOf_nil : Drives (fun _ => False) (fun _ => none) (allOf []) := drives_pure true

/-- A step, and the steps after it, which may overwrite it. -/
theorem drives_allOf_cons (hstep : Drives owned target step)
    (hrest : Drives other target' (allOf steps))
    (hkeep : ∀ r, other r → (target r).isSome = true → (target' r).isSome = true) :
    Drives (fun r => owned r ∨ other r) (andThen target target') (allOf (step :: steps)) := by
  intro s
  refine ensures_bind ((hstep s).mono (fun ok s' hs => ?_) fun _ hs => hs.mono fun _ => .inl)
  have hleft : Drove (fun r => owned r ∨ other r) s s' := hs.1.mono fun _ => .inl
  split
  · rename_i hok
    refine (hrest s').mono (fun _ s'' hs' => ⟨?_, fun hok' => ?_⟩) fun _ hs' => ?_
    · exact hleft.trans (hs'.1.mono fun _ => .inr)
    · exact (hs.2 hok).andThen hs'.1 hkeep (hs'.2 hok')
    · exact hleft.trans (hs'.mono fun _ => .inr)
  · exact ensures_pure ⟨hleft, by simp⟩

end Rules

/-! ## The phases -/

/-- What a phase wants of the registers, the curve, the fans and the power limit
apart. -/
def phaseTarget (context : LinuxApplyTransactionContext) :
    LinuxMutationPhase → Register → Option Int
  | .resetBaseline, .gpuOffset => some 0
  | .resetBaseline, .memOffset => some 0
  | .resetBaseline, .xbar => if context.desired.hasXbarOffsetKhz then some 0 else none
  | .resetBaseline, .msvdd => if context.desired.hasXbarMsvddOffsetUv then some 0 else none
  | .resetBaseline, .sysClk => if context.desired.hasSysClkOffsetKhz then some 0 else none
  | .resetBaseline, .videoClk => if context.desired.hasVideoClkOffsetKhz then some 0 else none
  | .gpuOffset, .gpuOffset =>
    some (if context.composedGpuOffset then 0 else context.desired.gpuOffsetMHz)
  | .memOffset, .memOffset => some (memEffectiveMHz context.desired.memOffsetMHz)
  | .xbar, r =>
    xbarTarget context.desired.xbarOffsetKhz context.desired.xbarMsvddOffsetUv
      context.desired.hasXbarOffsetKhz context.desired.hasXbarMsvddOffsetUv r
  | .sysClk, .sysClk => some context.desired.sysClkOffsetKhz
  | .videoClk, .videoClk => some context.desired.videoClkOffsetKhz
  | _, _ => none

/-- The registers a phase owns. -/
def phaseOwns (context : LinuxApplyTransactionContext) : LinuxMutationPhase → Register → Prop
  | .power => (· = .power)
  | .curve => IsVf
  | .fan => IsFan
  | phase => Named (phaseTarget context phase)

section Phases
variable {context : LinuxApplyTransactionContext}

/-- The locked clocks are no register. -/
theorem drives_resetBaselineLockedClocks :
    Drives (fun _ => False) (fun _ => none) linuxApplyResetBaselineLockedClocks := by
  intro s
  refine ensures_bind (ensures_get ?_)
  split
  · exact ensures_pure ⟨.refl s, fun _ => holds_anything⟩
  · split
    · exact ensures_pure ⟨.refl s, fun _ => holds_anything⟩
    · split
      · exact ensures_pure ⟨.refl s, fun _ => holds_anything⟩
      · refine ensures_bind (ensures_ask (.refl s) fun answer => ensures_bind
          (ensures_modify (ensures_pure ⟨?_, fun _ => holds_anything⟩)))
        exact ⟨fun _ _ => rfl, rfl, rfl, rfl, rfl, rfl, rfl⟩

theorem drives_resetBaseline :
    Drives (Named (phaseTarget context .resetBaseline)) (phaseTarget context .resetBaseline)
      (resetBaseline context.desired) := by
  have hrelease : Drives (fun _ => False) (fun _ => none) canReleaseLockedClocks := fun s =>
    ensures_bind (ensures_get (ensures_pure ⟨.refl s, fun _ => holds_anything⟩))
  have hchain :=
    drives_allOf_cons (writes_graphicsOffset 0).drives
      (drives_allOf_cons (writes_memoryOffset 0).drives
        (drives_allOf_cons hrelease
          (drives_allOf_cons drives_resetBaselineLockedClocks
            (drives_allOf_cons (Drives.optional
                (c := context.desired.hasXbarOffsetKhz || context.desired.hasXbarMsvddOffsetUv)
                (writes_xbarOwned 0 0 context.desired.hasXbarOffsetKhz
                  context.desired.hasXbarMsvddOffsetUv).drives)
              (drives_allOf_cons (Drives.optional (c := context.desired.hasSysClkOffsetKhz)
                  (writes_sysClk 0).drives)
                (drives_allOf_cons (Drives.optional (c := context.desired.hasVideoClkOffsetKhz)
                    (writes_videoClk 0).drives)
                  drives_allOf_nil ?_) ?_) ?_) ?_) ?_) ?_) ?_
  · refine hchain.congr (fun r => ?_) fun r => ?_
    · cases r <;> simp [Named, phaseTarget] <;> tauto
    · cases r <;> simp [andThen, only, xbarTarget, phaseTarget]
      tauto
  all_goals
    intro r
    cases r <;> simp [only, andThen, xbarTarget]

theorem drives_handOver (ok : Bool) :
    Drives (fun _ => False) (fun _ => none) (handOver ok) := by
  intro s
  refine ensures_bind (ensures_modify (ensures_pure ⟨?_, fun _ => holds_anything⟩))
  cases ok with
  | true => exact ⟨fun _ _ => rfl, rfl, rfl, rfl, rfl, rfl, rfl⟩
  | false => exact .refl s

/-- A call about the locked clocks, and what follows it. -/
theorem ensures_call {α β : Type} {event : DriverAnswer → DriverEvent} {answer : DriverAnswer → α}
    {next : α → BackendM β} {Q : β → BackendState → Prop} {C : BackendState → Prop}
    {s : BackendState} (hdie : C s)
    (h : ∀ a, Ensures (next (answer a)) Q C (s.log (event a))) :
    Ensures (do
      let result ← (do
        let a ← ask
        logEvent (event a)
        return answer a : BackendM α)
      next result) Q C s :=
  ensures_bind (ensures_bind (ensures_ask hdie fun a => ensures_bind (ensures_modify
    (ensures_pure (h a)))))

theorem drove_log {owned : Register → Prop} (s : BackendState) (event : DriverEvent) :
    Drove owned s (s.log event) :=
  ⟨fun _ _ => rfl, rfl, rfl, rfl, rfl, rfl, rfl⟩

theorem drives_finalLock {d : DesiredSettings} :
    Drives (fun _ => False) (fun _ => none) (linuxApplyWriteFinalLock d) := by
  intro s
  have hover : ∀ (ok : Bool) (event : DriverEvent),
      Ensures (handOver ok)
        (fun ok s' => Drove (fun _ => False) s s' ∧ (ok = true → Holds (fun _ => none) s'))
        (Drove (fun _ => False) s) (s.log event) := fun ok event =>
    (drives_handOver ok _).mono (fun _ _ hs => ⟨(drove_log s event).trans hs.1, hs.2⟩)
      fun _ hs => (drove_log s event).trans hs
  refine ensures_bind (ensures_get ?_)
  split
  · split
    · exact drives_handOver false s
    · exact ensures_call (.refl s) fun a => hover _ _
  · split
    · exact drives_handOver true s
    · split
      · exact drives_handOver false s
      · exact ensures_call (.refl s) fun a => hover _ _

theorem drives_settleUnarmed {plan : ApplyClockCeilingPlan} {result : ApplyClockCeilingArmResult} :
    Drives (fun _ => False) (fun _ => none) (settleUnarmed plan result) := fun _ =>
  ensures_bind (ensures_modify (ensures_pure
    ⟨⟨fun _ _ => rfl, rfl, rfl, rfl, rfl, rfl, rfl⟩, fun _ => holds_anything⟩))

theorem drives_settleArmed {plan : ApplyClockCeilingPlan} :
    Drives (fun _ => False) (fun _ => none) (settleArmed plan) := fun _ =>
  ensures_bind (ensures_modify (ensures_bind (ensures_modify (ensures_pure
    ⟨⟨fun _ _ => rfl, rfl, rfl, rfl, rfl, rfl, rfl⟩, fun _ => holds_anything⟩))))

theorem drives_arm {d : DesiredSettings} {committed : Option DesiredSettings} :
    Drives (fun _ => False) (fun _ => none) (linuxApplyArmTransitionCeiling d committed) := by
  intro s
  have hfrom : ∀ {m : BackendM Bool} {s' : BackendState},
      Drives (fun _ => False) (fun _ => none) m → Drove (fun _ => False) s s' →
      Ensures m (fun ok s'' => Drove (fun _ => False) s s'' ∧ (ok = true → Holds (fun _ => none) s''))
        (Drove (fun _ => False) s) s' := fun hm hs' =>
    (hm _).mono (fun _ _ hs => ⟨hs'.trans hs.1, hs.2⟩) fun _ hs => hs'.trans hs
  have hnoted : ∀ ceiling : CeilingState,
      ceiling.outgoingCeilingMHz = s.ceiling.outgoingCeilingMHz →
      ceiling.outgoingHadHardPin = s.ceiling.outgoingHadHardPin →
      Drove (fun _ => False) s (s.setCeiling ceiling) :=
    fun ceiling hout hpin => ⟨fun _ _ => rfl, rfl, rfl, rfl, rfl, hout, hpin⟩
  refine ensures_bind (ensures_get ?_)
  dsimp only
  refine ensures_bind (ensures_modify ?_)
  split
  · split
    · exact ensures_pure ⟨hnoted _ rfl rfl, fun _ => holds_anything⟩
    · exact hfrom drives_settleUnarmed (hnoted _ rfl rfl)
  · refine ensures_bind (ensures_modify ?_)
    refine ensures_call (hnoted _ rfl rfl) fun openAnswer => ?_
    have hopen : ∀ event, Drove (fun _ => False) s ((s.setCeiling
        { s.ceiling with
          plan := linuxApplyClockCeilingPlan s.gpu d committed
          writeAttempted := true }).log event) :=
      fun event => (hnoted { s.ceiling with
          plan := linuxApplyClockCeilingPlan s.gpu d committed
          writeAttempted := true } rfl rfl).trans (drove_log _ event)
    split
    · exact hfrom drives_settleArmed (hopen _)
    · split
      · exact hfrom drives_settleUnarmed (hopen _)
      · refine ensures_call (hopen _) fun symmetricAnswer => ?_
        split
        · exact hfrom drives_settleArmed ((hopen _).trans (drove_log _ _))
        · exact hfrom drives_settleUnarmed ((hopen _).trans (drove_log _ _))

/-- **The effect of a phase** other than the curve. -/
theorem drives_phase {phase : LinuxMutationPhase} (hcurve : phase ≠ .curve) :
    Drives (phaseOwns context phase) (phaseTarget context phase)
      (linuxApplyTransactionStep context phase) := by
  cases phase with
  | lockCeiling => exact drives_arm.congr (fun _ hr => hr.elim) fun r => by cases r <;> rfl
  | resetBaseline => exact drives_resetBaseline
  | gpuOffset =>
    refine (writes_graphicsOffset _).drives.congr (fun r hr => ?_) fun r => ?_
    · subst hr
      rfl
    · cases r <;> simp [only, phaseTarget]
  | memOffset =>
    refine (writes_memoryOffset _).drives.congr (fun r hr => ?_) fun r => ?_
    · subst hr
      rfl
    · cases r <;> simp [only, phaseTarget]
  | power => exact (writes_powerLimitPct _).drives
  | xbar =>
    exact (writes_xbarOwned _ _ _ _).drives.congr (fun r hr => named_xbarTarget.mpr hr)
      fun r => by cases r <;> rfl
  | sysClk =>
    refine (writes_sysClk _).drives.congr (fun r hr => ?_) fun r => ?_
    · subst hr
      rfl
    · cases r <;> simp [only, phaseTarget]
  | videoClk =>
    refine (writes_videoClk _).drives.congr (fun r hr => ?_) fun r => ?_
    · subst hr
      rfl
    · cases r <;> simp [only, phaseTarget]
  | curve => exact absurd rfl hcurve
  | lock => exact drives_finalLock.congr (fun _ hr => hr.elim) fun r => by cases r <;> rfl
  | fan =>
    exact (writes_writeFan _ _).drives.congr (fun _ hr => hr) fun r => by cases r <;> rfl

end Phases

/-! ## The curve phase -/

/-- What an apply wants of one point. -/
def applyTarget (gpu : LinuxGpuState) (d : DesiredSettings)
    (previousIntent committedIntent : Option DesiredSettings) (ci : VfPoint) : Option Int :=
  match committedIntent with
  | some committed =>
    if serviceDesiredMutationDomains d .vfCurve then
      transitionTarget gpu.curve gpu.freqOffsets previousIntent committed
        gpu.curveOffsetRange.minKHz ci
    else pointTarget gpu.curve gpu.freqOffsets d gpu.curveOffsetRange.minKHz ci
  | none => pointTarget gpu.curve gpu.freqOffsets d gpu.curveOffsetRange.minKHz ci

section Curve
variable {gpu : LinuxGpuState} {d : DesiredSettings}
  {previousIntent committedIntent : Option DesiredSettings}

theorem linuxApplyBuildCurve_eq (gpu : LinuxGpuState) (d : DesiredSettings)
    (previousIntent committedIntent : Option DesiredSettings) :
    ∃ intent, linuxApplyBuildCurve gpu d previousIntent committedIntent =
      .ofTargets gpu.curve intent (applyTarget gpu d previousIntent committedIntent) := by
  unfold linuxApplyBuildCurve applyTarget
  cases committedIntent with
  | none => exact ⟨d, rfl⟩
  | some committed =>
    dsimp only
    split
    · exact ⟨committed, rfl⟩
    · exact ⟨d, rfl⟩

theorem applyTarget_populated {ci : VfPoint}
    (h : (applyTarget gpu d previousIntent committedIntent ci).isSome = true) :
    Populated gpu.curve ci := by
  unfold applyTarget at h
  have hpoint : ∀ {intent : DesiredSettings},
      (pointTarget gpu.curve gpu.freqOffsets intent gpu.curveOffsetRange.minKHz ci).isSome = true →
        Populated gpu.curve ci := fun h => (pointTarget_isSome_iff.mp h).1
  cases committedIntent with
  | none => exact hpoint h
  | some committed =>
    dsimp only at h
    split at h
    · rcases transitionTarget_isSome_iff.mp h with hown | ⟨p, -, hown⟩
      · exact hown.1
      · exact hown.1
    · exact hpoint h

/-- The offsets a point may end with: the clamped target, or what it held. -/
def writtenOffset (gpu : LinuxGpuState) (target : VfPoint → Option Int) (hw : Registers)
    (ci : VfPoint) : Int :=
  if gpu.vfMask ci then ((target ci).map (clampFreqDeltaKHz gpu.curveOffsetRange)).getD (hw (.vf ci))
  else hw (.vf ci)

/-- The registers after a curve write. -/
theorem vf_after_write {s s' : BackendState} {intent : DesiredSettings}
    {target : VfPoint → Option Int} (hpop : ∀ ci, (target ci).isSome = true →
      Populated s.gpu.curve ci)
    (hframe : Frame (Named (curveTarget s.gpu
      (CurveTargets.ofTargets gpu.curve intent target).targetOffsets
      (CurveTargets.ofTargets gpu.curve intent target).result.pointMask)) s s')
    (hholds : Holds (curveTarget s.gpu
      (CurveTargets.ofTargets gpu.curve intent target).targetOffsets
      (CurveTargets.ofTargets gpu.curve intent target).result.pointMask) s') (ci : VfPoint) :
    s'.hw (.vf ci) = writtenOffset s.gpu target s.hw ci := by
  by_cases hwrites : WritesPoint s.gpu
      (CurveTargets.ofTargets gpu.curve intent target).result.pointMask ci
  · obtain ⟨hmask, -, hedit⟩ := id hwrites
    obtain ⟨offset, hoffset⟩ := Option.isSome_iff_exists.mp hmask
    rw [hholds (.vf ci) (clampFreqDeltaKHz s.gpu.curveOffsetRange ((target ci).getD 0))
      (if_pos hwrites)]
    simp [writtenOffset, hedit, hoffset]
  · have hkept : s'.hw (.vf ci) = s.hw (.vf ci) := by
      refine hframe.hw _ fun hnamed => ?_
      obtain ⟨cj, hcj, hcj'⟩ := named_curveTarget.mp hnamed
      cases hcj
      exact hwrites hcj'
    rw [hkept, writtenOffset]
    split
    · rename_i hedit
      cases htarget : target ci with
      | none => rfl
      | some offset =>
        have hsome : (target ci).isSome = true := by rw [htarget]; rfl
        exact absurd ⟨hsome, hpop ci hsome, hedit⟩ hwrites
    · rfl

theorem voltUv_pos_of_valid {curve : VFCurve} {offsets : VfPoint → Int} {vfMask : VfPoint → Bool}
    (h : structurallyValid curve offsets vfMask = true) {ci : VfPoint}
    (hpop : Populated curve ci) : 0 < (curve ci).voltUv := by
  simp only [structurallyValid, Bool.and_eq_true, decide_eq_true_eq] at h
  have := (h.1.1.2 ci hpop).2.2.1
  omega

/-- How the curve phase came by its targets: the planned ones, or those of a curve
reread under the registers of the moment. -/
inductive BuiltWith (context : LinuxApplyTransactionContext) (planned : LinuxGpuState)
    (s s' : BackendState) : LinuxGpuState → Prop
  | planned (kept : context.rebuildCurveTargets = false) : BuiltWith context planned s s' planned
  | reread (curve : VFCurve) (rebuilds : context.rebuildCurveTargets = true)
      (read : (curve, s.hw) ∈ s'.curvesRead)
      (same : (∀ ci, Populated planned.curve ci → 0 < (planned.curve ci).voltUv) →
        SamePoints planned.curve curve) :
      BuiltWith context planned s s' (s.readCurve curve).gpu

/-- **The effect of a curve phase** that succeeds, over the GPU it was planned with. -/
theorem CurveWritten.effect {context : LinuxApplyTransactionContext} {planned : LinuxGpuState}
    {s s' : BackendState} (h : CurveWritten context s true s')
    (hplanned : context.planned = linuxApplyBuildCurve planned context.desired
      context.previousIntent context.committedIntent)
    (hcurve : s.gpu.curve = planned.curve) :
    (∀ r, ¬ IsVf r → s'.hw r = s.hw r) ∧ ∃ built, BuiltWith context planned s s' built ∧
      ∀ ci, s'.hw (.vf ci) = writtenOffset s.gpu (applyTarget built context.desired
        context.previousIntent context.committedIntent) s.hw ci := by
  have hvf : ∀ {s₁ : BackendState} {targets : CurveTargets},
      Frame (Named (curveTarget s₁.gpu targets.targetOffsets targets.result.pointMask)) s₁ s' →
        ∀ r, ¬ IsVf r → s'.hw r = s₁.hw r := by
    intro s₁ targets frame r hr
    refine frame.hw r fun hnamed => hr ?_
    obtain ⟨ci, hci, -⟩ := named_curveTarget.mp hnamed
    exact ⟨ci, hci⟩
  cases h with
  | wrote rebuilt frame holds =>
    cases rebuilt with
    | kept hkept =>
      refine ⟨hvf frame, planned, .planned hkept, fun ci => ?_⟩
      obtain ⟨intent, hbuild⟩ := linuxApplyBuildCurve_eq planned context.desired
        context.previousIntent context.committedIntent
      rw [hplanned, hbuild] at frame holds
      exact vf_after_write (fun cj hcj => hcurve ▸ applyTarget_populated hcj) frame (holds rfl) ci
    | rebuilt curve hrebuilds valid keeps =>
      have hother := hvf frame
      refine ⟨hother, (s.readCurve curve).gpu, .reread curve hrebuilds ?_ ?_, fun ci => ?_⟩
      · rw [frame.curvesRead]
        exact List.mem_cons_self
      · intro hvolt
        obtain ⟨intent, hbuild⟩ := linuxApplyBuildCurve_eq planned context.desired
          context.previousIntent context.committedIntent
        obtain ⟨intent', hbuild'⟩ := linuxApplyBuildCurve_eq (s.readCurve curve).gpu
          context.desired context.previousIntent context.committedIntent
        rw [hplanned, hbuild, hbuild'] at keeps
        exact SamePoints.of_keepsShape hvolt (fun cj hcj => voltUv_pos_of_valid valid hcj) keeps
      · obtain ⟨intent, hbuild⟩ := linuxApplyBuildCurve_eq (s.readCurve curve).gpu
          context.desired context.previousIntent context.committedIntent
        rw [hbuild] at frame holds
        exact vf_after_write (fun cj hcj => applyTarget_populated hcj) frame (holds rfl) ci

end Curve

/-! ## A transaction that succeeds -/

/-- What a phase makes of the value of a register. -/
def phaseValue (context : LinuxApplyTransactionContext) (r : Register) (value : Int)
    (phase : LinuxMutationPhase) : Int :=
  (phaseTarget context phase r).getD value

/-- The registers with a target of their own: not the curve, the fans or the power
limit. -/
def IsScalar (r : Register) : Prop := ¬ IsVf r ∧ ¬ IsFan r ∧ r ≠ .power

/-- What a successful transaction left. -/
structure Applied (start : ApplyStart) (s s' : BackendState) : Prop where
  reads : ∀ read ∈ s.curvesRead, read ∈ s'.curvesRead
  scalar : ∀ r, IsScalar r →
    s'.hw r = (phaseOrder.filter start.requested).foldl (phaseValue start.context r) (s.hw r)
  unwritten : start.requested .curve = false → ∀ ci, s'.hw (.vf ci) = s.hw (.vf ci)
  written : start.requested .curve = true → ∃ built mid,
    BuiltWith start.context s.gpu mid s' built ∧
    (∀ ci, mid.hw (.vf ci) = s.hw (.vf ci)) ∧ mid.hw .gpuOffset = s'.hw .gpuOffset ∧
    mid.gpu.curveOffsetRange = s.gpu.curveOffsetRange ∧
    ∀ ci, s'.hw (.vf ci) = writtenOffset s.gpu (applyTarget built start.context.desired
      start.context.previousIntent start.context.committedIntent) s.hw ci

section Success
variable {start : ApplyStart} {s s' s'' : BackendState} {phases rest : List LinuxMutationPhase}

/-- What holds after the phases before `rest`. -/
structure Applying (start : ApplyStart) (s : BackendState) (phases rest : List LinuxMutationPhase)
    (s' : BackendState) : Prop where
  suffix : rest <:+ phases
  reads : ∀ read ∈ s.curvesRead, read ∈ s'.curvesRead
  scalar : ∀ r, IsScalar r → rest.foldl (phaseValue start.context r) (s'.hw r) =
    phases.foldl (phaseValue start.context r) (s.hw r)
  vfMask : s'.gpu.vfMask = s.gpu.vfMask
  range : s'.gpu.curveOffsetRange = s.gpu.curveOffsetRange
  pending : .curve ∈ rest ∨ .curve ∉ phases →
    s'.gpu.curve = s.gpu.curve ∧ ∀ ci, s'.hw (.vf ci) = s.hw (.vf ci)
  written : .curve ∉ rest → .curve ∈ phases → ∃ built mid tail,
    BuiltWith start.context s.gpu mid s' built ∧ .curve :: tail <:+ phases ∧
    (∀ ci, mid.hw (.vf ci) = s.hw (.vf ci)) ∧
    mid.gpu.curveOffsetRange = s.gpu.curveOffsetRange ∧
    tail.foldl (phaseValue start.context .gpuOffset) (mid.hw .gpuOffset) =
      phases.foldl (phaseValue start.context .gpuOffset) (s.hw .gpuOffset) ∧
    ∀ ci, s'.hw (.vf ci) = writtenOffset s.gpu (applyTarget built start.context.desired
      start.context.previousIntent start.context.committedIntent) s.hw ci

theorem BuiltWith.mono {context : LinuxApplyTransactionContext} {planned built : LinuxGpuState}
    (h : BuiltWith context planned s s' built) (hread : s''.curvesRead = s'.curvesRead) :
    BuiltWith context planned s s'' built := by
  cases h with
  | planned kept => exact .planned kept
  | reread curve rebuilds read same => exact .reread curve rebuilds (hread ▸ read) same

/-- The scalars after one more phase. -/
theorem scalar_step {context : LinuxApplyTransactionContext} {phase : LinuxMutationPhase}
    {owned : Register → Prop} {r : Register} (hr : owned r → (phaseTarget context phase r).isSome = true)
    (hdrove : ¬ owned r → s''.hw r = s'.hw r) (hholds : Holds (phaseTarget context phase) s'') :
    s''.hw r = phaseValue context r (s'.hw r) phase := by
  unfold phaseValue
  cases htarget : phaseTarget context phase r with
  | some value => exact hholds r value htarget
  | none =>
    refine hdrove fun howned => ?_
    have := hr howned
    simp [htarget] at this

theorem isSome_of_phaseOwns {context : LinuxApplyTransactionContext} {phase : LinuxMutationPhase}
    {r : Register} (hr : IsScalar r) (h : phaseOwns context phase r) :
    (phaseTarget context phase r).isSome = true := by
  obtain ⟨hvf, hfan, hpower⟩ := hr
  cases phase with
  | power => exact absurd h hpower
  | curve => exact absurd h hvf
  | fan => exact absurd h hfan
  | _ => exact h

theorem not_phaseOwns_vf {context : LinuxApplyTransactionContext} {phase : LinuxMutationPhase}
    (hcurve : phase ≠ .curve) (ci : VfPoint) : ¬ phaseOwns context phase (.vf ci) := by
  intro h
  cases phase with
  | power => cases h
  | curve => exact hcurve rfl
  | fan =>
    obtain ⟨index, hindex⟩ := h
    cases hindex
  | _ => simp [phaseOwns, Named, phaseTarget, xbarTarget] at h

/-- One phase of a transaction that goes on. -/
theorem Applying.step (hnodup : phases.Nodup) {phase : LinuxMutationPhase}
    (hplanned : start.context.planned = linuxApplyBuildCurve s.gpu start.context.desired
      start.context.previousIntent start.context.committedIntent)
    (h : Applying start s phases (phase :: rest) s') :
    Ensures (linuxApplyTransactionStep start.context phase)
      (fun ok s'' => ok = true → Applying start s phases rest s'') (fun _ => True)
      (s'.log (.began phase)) := by
  have hsuffix : rest <:+ phases := (List.suffix_cons phase rest).trans h.suffix
  have hfresh : phase ∉ rest := (List.nodup_cons.mp (h.suffix.sublist.nodup hnodup)).1
  have hmem : phase ∈ phases := h.suffix.subset List.mem_cons_self
  by_cases hcurve : phase = .curve
  · subst hcurve
    have hbefore := h.pending (.inl List.mem_cons_self)
    refine ensures_writeCurve.mono (fun ok s'' hs hok => ?_) fun _ _ => trivial
    subst hok
    obtain ⟨hother, built, hbuilt, hvf⟩ := hs.effect hplanned hbefore.1
    have hquiet := hs.quiet
    have hscalar : ∀ r, IsScalar r → s''.hw r = s'.hw r := fun r hr => hother r hr.1
    have hfold : ∀ r, IsScalar r → rest.foldl (phaseValue start.context r) (s'.hw r) =
        phases.foldl (phaseValue start.context r) (s.hw r) := by
      intro r hr
      rw [← h.scalar r hr, List.foldl_cons]
      rfl
    refine ⟨hsuffix, ?_, fun r hr => ?_, ?_, ?_, fun hpending => ?_, fun _ _ => ?_⟩
    · exact fun read hread => hs.reads read (h.reads read hread)
    · rw [hscalar r hr, hfold r hr]
    · exact hquiet.vfMask.trans h.vfMask
    · exact hquiet.range.trans h.range
    · exact absurd hpending (by simp [hfresh, hmem])
    · refine ⟨built, s'.log (.began .curve), rest, hbuilt, h.suffix, hbefore.2, h.range, ?_,
        fun ci => ?_⟩
      · exact hfold .gpuOffset ⟨by rintro ⟨ci, ⟨⟩⟩, by rintro ⟨index, ⟨⟩⟩, by simp⟩
      · rw [hvf ci, writtenOffset, writtenOffset]
        show (if s'.gpu.vfMask ci then ((applyTarget built _ _ _ ci).map
            (clampFreqDeltaKHz s'.gpu.curveOffsetRange)).getD (s'.hw (.vf ci))
          else s'.hw (.vf ci)) = _
        rw [h.vfMask, h.range, hbefore.2 ci]
  · refine (drives_phase hcurve _).mono (fun ok s'' hs hok => ?_) fun _ _ => trivial
    obtain ⟨hdrove, hholds⟩ := hs
    have hvf : ∀ ci, s''.hw (.vf ci) = s'.hw (.vf ci) :=
      fun ci => hdrove.hw _ (not_phaseOwns_vf hcurve ci)
    refine ⟨hsuffix, ?_, fun r hr => ?_, ?_, ?_, fun hpending => ?_, fun hdone hcurve' => ?_⟩
    · exact fun read hread => hdrove.curvesRead ▸ h.reads read hread
    · rw [← h.scalar r hr, List.foldl_cons]
      congr 1
      exact scalar_step (isSome_of_phaseOwns hr) (fun hfree => hdrove.hw r hfree) (hholds hok)
    · exact hdrove.vfMask.trans h.vfMask
    · exact hdrove.range.trans h.range
    · have hpending' := h.pending (hpending.imp_left (List.mem_cons_of_mem _))
      exact ⟨hdrove.curve.trans hpending'.1, fun ci => (hvf ci).trans (hpending'.2 ci)⟩
    · have hdone' : LinuxMutationPhase.curve ∉ phase :: rest := by
        simp [hdone, Ne.symm hcurve]
      obtain ⟨built, mid, tail, hbuilt, htail, hmid, hrange, hgpu, hwritten⟩ :=
        h.written hdone' hcurve'
      exact ⟨built, mid, tail, hbuilt.mono hdrove.curvesRead, htail, hmid, hrange, hgpu,
        fun ci => (hvf ci).trans (hwritten ci)⟩

/-- Only the locked clocks and the fans come after the curve. -/
theorem phaseOrder_after_curve :
    phaseOrder.Pairwise fun phase later => phase = .curve → later = .lock ∨ later = .fan := by
  decide

theorem foldl_untouched {context : LinuxApplyTransactionContext} {r : Register} {value : Int}
    {later : List LinuxMutationPhase} (h : ∀ phase ∈ later, phaseTarget context phase r = none) :
    later.foldl (phaseValue context r) value = value := by
  induction later with
  | nil => rfl
  | cons phase later ih =>
    obtain ⟨hphase, hlater⟩ := List.forall_mem_cons.mp h
    rw [List.foldl_cons, phaseValue, hphase]
    exact ih hlater

theorem phaseOrder_nodup : phaseOrder.Nodup := by decide

/-- **A transaction that succeeds** leaves every scalar where its phases put it, and
the curve where its one curve phase did. -/
theorem ensures_applied
    (hplanned : start.context.planned = linuxApplyBuildCurve s.gpu start.context.desired
      start.context.previousIntent start.context.committedIntent) :
    Ensures (applyTransaction start)
      (fun result s' => result.success = true → Applied start s s') (fun _ => True) s := by
  have hnodup : (phaseOrder.filter start.requested).Nodup := phaseOrder_nodup.filter _
  have hrun : Ensures (applyTransaction start)
      (fun result s' => result.success = true →
        Applying start s (phaseOrder.filter start.requested) [] s') (fun _ => True) s := by
    refine ensures_runPhases_success
      (fun phase rest s' hs' => hs'.step hnodup hplanned) rfl ?_
    exact ⟨List.suffix_rfl, fun _ hread => hread, fun _ _ => rfl, rfl, rfl, fun _ => ⟨rfl, fun _ => rfl⟩,
      fun hnot hmem => absurd hmem hnot⟩
  refine hrun.mono (fun result s' hs' hok => ?_) fun _ _ => trivial
  obtain ⟨-, hreads, hscalar, -, -, hpending, hwritten⟩ := hs' hok
  have hmem : LinuxMutationPhase.curve ∈ phaseOrder.filter start.requested ↔
      start.requested .curve = true := by
    simp [phaseOrder]
  refine ⟨hreads, fun r hr => hscalar r hr, fun hnone => ?_, fun hsome => ?_⟩
  · exact (hpending (.inr fun h => by simp [hmem.mp h] at hnone)).2
  · obtain ⟨built, mid, tail, hbuilt, htail, hmid, hrange, hgpu, hvf⟩ :=
      hwritten (by simp) (hmem.mpr hsome)
    refine ⟨built, mid, hbuilt, hmid, ?_, hrange, hvf⟩
    have hlater : ∀ phase ∈ tail, phase = .lock ∨ phase = .fan := by
      intro phase hphase
      have hpairs := (phaseOrder_after_curve.filter start.requested).sublist htail.sublist
      exact (List.pairwise_cons.mp hpairs).1 phase hphase rfl
    have huntouched : tail.foldl (phaseValue start.context .gpuOffset) (mid.hw .gpuOffset) =
        mid.hw .gpuOffset := by
      refine foldl_untouched fun phase hphase => ?_
      rcases hlater phase hphase with rfl | rfl
      · rfl
      · rfl
    rw [← huntouched, hgpu]
    exact (hscalar .gpuOffset ⟨by rintro ⟨ci, ⟨⟩⟩, by rintro ⟨index, ⟨⟩⟩, by simp⟩).symm

/-! ## The curve of an apply -/

section Request
variable {d : DesiredSettings} {previous committed : Option DesiredSettings} {s₀ : BackendState}

/-- The curve phase is requested when the plan writes a point. -/
theorem requested_curve_iff (hstarted : Started d previous committed s₀ start s) :
    start.requested .curve = true ↔
      ∃ ci, (applyTarget s.gpu d previous committed ci).isSome = true := by
  obtain ⟨fanStart, hcontext⟩ := hstarted.context
  obtain ⟨intent, hbuild⟩ := linuxApplyBuildCurve_eq s.gpu d previous committed
  have hrequested : ∀ planned : CurveTargets,
      (applyStart s.gpu d previous committed start.snapshot planned fanStart).requested .curve =
        true ↔ 0 < planned.result.pointCount := fun planned => decide_eq_true_iff
  rw [hcontext, hrequested, hbuild, ofTargets_pointCount_pos]

/-- A point is only written for a request that names the VF domain. -/
theorem vfCurve_of_requested (hstarted : Started d previous committed s₀ start s)
    (hcurve : start.requested .curve = true) :
    serviceDesiredMutationDomains d .vfCurve = true := by
  obtain ⟨ci, hci⟩ := (requested_curve_iff hstarted).mp hcurve
  by_contra hnot
  have hnone := Bool.eq_false_iff.mpr hnot
  have hpoint : applyTarget s.gpu d previous committed ci =
      pointTarget s.gpu.curve s.gpu.freqOffsets d s.gpu.curveOffsetRange.minKHz ci := by
    cases committed with
    | none => rfl
    | some c => simp [applyTarget, hnone]
  rw [hpoint] at hci
  exact not_ownsPoint_of_no_vfCurve hnone (pointTarget_isSome_iff.mp hci)

end Request

/-! ## Runs of a whole apply -/

/-- A curve of eight points, under what is programmed: the board of the concrete runs. -/
def eightPointCurve (hw : Registers) : VFCurve := fun ci =>
  if ci.val < 8 then
    { freqKHz := (1000000 + 10000 * ci + hw (.vf ci)).toNat, voltUv := 500000 + 5000 * ci }
  else {}

/-- The state an apply has reached before its first phase. -/
def startedState (d : DesiredSettings) (previousIntent committedIntent : Option DesiredSettings)
    (answers : List DriverAnswer) (s₀ : BackendState) : BackendState :=
  (exec (startApply d previousIntent committedIntent) answers s₀).2

/-- A run that completes successfully. -/
def Succeeds (m : BackendM LinuxTransactionResult) (answers : List DriverAnswer)
    (s₀ : BackendState) : Prop :=
  (exec m answers s₀).1.any (·.success) = true

theorem not_succeeds_of_died {m : BackendM LinuxTransactionResult} {answers : List DriverAnswer}
    {s s' : BackendState} (h : m answers s = (none, s')) : ¬ Succeeds m answers s := by
  simp [Succeeds, exec, h]

theorem succeeds_iff_of_run {m : BackendM LinuxTransactionResult}
    {answers rest : List DriverAnswer} {s s' : BackendState} {result : LinuxTransactionResult}
    (h : m answers s = (some (result, rest), s')) :
    Succeeds m answers s ↔ result.success = true := by
  simp [Succeeds, exec, h]

/-- **An apply that succeeds** ran its transaction from the state it started in. -/
theorem exists_applied {d : DesiredSettings} {previousIntent committedIntent : Option DesiredSettings}
    {answers : List DriverAnswer} {s₀ : BackendState}
    (h : Succeeds (linuxBackendApply d previousIntent committedIntent) answers s₀) :
    ∃ start s', Started d previousIntent committedIntent s₀ start
        (startedState d previousIntent committedIntent answers s₀) ∧
      Applied start (startedState d previousIntent committedIntent answers s₀) s' ∧
      Refreshed s' (exec (linuxBackendApply d previousIntent committedIntent) answers s₀).2 := by
  rcases run_bind (startApply d previousIntent committedIntent) finishApply answers s₀ with
    ⟨s, hstart, hrun⟩ | ⟨started, rest, s, hstart, hrun⟩
  · exact absurd h (not_succeeds_of_died hrun)
  have hstarted := ensures_startApply.of_run hstart
  cases started with
  | none => exact absurd ((succeeds_iff_of_run hrun).mp h) (by simp)
  | some start =>
    rcases run_bind (applyTransaction start) (fun result => do linuxBackendRefresh; return result)
        rest s with ⟨s', htransaction, hrun'⟩ | ⟨result, rest', s', htransaction, hrun'⟩
    · exact absurd h (not_succeeds_of_died (hrun.trans hrun'))
    rcases run_bind linuxBackendRefresh (fun _ => (return result : BackendM LinuxTransactionResult))
        rest' s' with ⟨s'', hrefresh, hrun''⟩ | ⟨_, rest'', s'', hrefresh, hrun''⟩
    · exact absurd h (not_succeeds_of_died (hrun.trans (hrun'.trans hrun'')))
    have hend : linuxBackendApply d previousIntent committedIntent answers s₀ =
        (some (result, rest''), s'') := hrun.trans (hrun'.trans hrun'')
    have hok : result.success = true := (succeeds_iff_of_run hend).mp h
    obtain ⟨fanStart, hcontext⟩ := hstarted.context
    refine ⟨start, s', ?_, ?_, ?_⟩
    · simpa only [startedState, exec, hstart] using hstarted
    · simp only [startedState, exec, hstart]
      refine (ensures_applied ?_).of_run htransaction hok
      rw [hcontext]
      rfl
    · simp only [exec, hend]
      exact ensures_refresh.of_run hrefresh

end Success

end GreenCurve.Backend
