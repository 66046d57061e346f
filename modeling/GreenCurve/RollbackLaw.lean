import GreenCurve.PhaseEffects

/-! # What a rollback restores

A rollback drives the registers of the attempted phases back to their captured
values, but only under a clamp: where it has no bound to clamp at, and the GPU may
have clock control, it restores nothing at all.  A transaction that began without
noting a ceiling is rolled back without one. -/

namespace GreenCurve.Backend

open CrashM

/-! ## Runs on a driver that accepts -/

/-- The driver did what the call asked for. -/
def DriverEvent.Accepted : DriverEvent → Prop
  | .wrote _ accepted => accepted = true
  | .clamp _ _ accepted => accepted = true
  | _ => True

/-- From `s` to `s'` the driver accepted every setter. -/
def AcceptedSince (s s' : BackendState) : Prop :=
  ∃ news, s'.trace = news ++ s.trace ∧ ∀ event ∈ news, event.Accepted

section Accepted
variable {s mid s' : BackendState}

/-- The events of a run are those of its parts. -/
theorem AcceptedSince.split (h : AcceptedSince s s') (hmid : s.trace <:+ mid.trace)
    (hend : mid.trace <:+ s'.trace) : AcceptedSince s mid ∧ AcceptedSince mid s' := by
  obtain ⟨news, htrace, haccepted⟩ := h
  obtain ⟨first, hfirst⟩ := hmid
  obtain ⟨second, hsecond⟩ := hend
  have hnews : news = second ++ first := by
    rw [← hsecond, ← hfirst, ← List.append_assoc] at htrace
    exact (List.append_cancel_right htrace).symm
  subst hnews
  exact ⟨⟨first, hfirst.symm, fun e he => haccepted e (List.mem_append_right _ he)⟩,
    ⟨second, hsecond.symm, fun e he => haccepted e (List.mem_append_left _ he)⟩⟩

theorem Quiet.suffix (h : Quiet s s') : s.trace <:+ s'.trace := by
  obtain ⟨news, htrace, -⟩ := h.trace
  exact ⟨news, htrace.symm⟩

/-- The last call was accepted. -/
theorem AcceptedSince.last (h : AcceptedSince s s') (event : DriverEvent)
    (htrace : s'.trace = event :: s.trace) : event.Accepted := by
  obtain ⟨news, hnews, haccepted⟩ := h
  have : news = [event] := List.append_cancel_right (hnews.symm.trans htrace)
  exact haccepted event (by simp [this])

end Accepted

/-- The GPU but for its retained ceiling and the offsets last read. -/
def SameGpu (gpu gpu' : LinuxGpuState) : Prop :=
  gpu'.board = { gpu.board with
    retainedTransitionCeilingMHz := gpu'.retainedTransitionCeilingMHz } ∧ gpu'.curve = gpu.curve

namespace SameGpu

variable {gpu gpu' gpu'' : LinuxGpuState}

theorem refl (gpu : LinuxGpuState) : SameGpu gpu gpu := ⟨rfl, rfl⟩

theorem trans (h : SameGpu gpu gpu') (h' : SameGpu gpu' gpu'') : SameGpu gpu gpu'' :=
  ⟨by rw [h'.1, h.1], h'.2.trans h.2⟩

theorem of_drove {owned : Register → Prop} {s s' : BackendState} (h : Drove owned s s') :
    SameGpu s.gpu s'.gpu := ⟨h.board, h.curve⟩

end SameGpu

/-- On this GPU `step` drives the registers `target` names to where it wants them,
if the driver accepts. -/
def Obeys (gpu : LinuxGpuState) (target : Register → Option Int) (step : BackendM Bool) : Prop :=
  ∀ s, SameGpu gpu s.gpu → Ensures step
    (fun _ s' => Frame (Named target) s s' ∧ (AcceptedSince s s' → Holds target s'))
    (fun _ => True) s

section Obeys
variable {gpu : LinuxGpuState} {target target' : Register → Option Int} {step : BackendM Bool}
  {steps : List (BackendM Bool)}

theorem obeys_pure (ok : Bool) : Obeys gpu (fun _ => none) (pure ok) :=
  fun s _ => ensures_pure ⟨.refl s, fun _ => holds_anything⟩

theorem obeys_drive (domain : SetterDomain) : Obeys gpu target (drive domain target) := by
  intro s _
  refine ensures_bind (ensures_ask trivial fun answer => ?_)
  refine ensures_bind (ensures_modify (ensures_pure ⟨frame_drive, fun haccepted => ?_⟩))
  have hok : answer.accepted = true :=
    haccepted.last (.wrote domain answer.accepted) rfl
  rw [hok]
  exact holds_drive

/-- A step that only runs where `c` holds. -/
theorem Obeys.gated {c : Bool} (h : Obeys gpu target step) {skipped : BackendM Bool}
    (hskipped : Obeys gpu (fun _ => none) skipped) :
    Obeys gpu (fun r => if c then target r else none) (if c then step else skipped) := by
  cases c with
  | true => exact h
  | false => exact hskipped

/-- A step on its own registers, and the steps after it on theirs. -/
theorem obeys_everyOf_cons (hstep : Obeys gpu target step) (hrest : Obeys gpu target' (everyOf steps))
    (hdisjoint : ∀ r, Named target r → ¬ Named target' r) :
    Obeys gpu (andThen target target') (everyOf (step :: steps)) := by
  intro s hgpu
  refine ensures_bind ((hstep s hgpu).mono (fun ok s' hs => ?_) fun _ _ => trivial)
  obtain ⟨hframe, hholds⟩ := hs
  have hgpu' := hgpu.trans (.of_drove (.of_frame hframe))
  refine ensures_bind ((hrest s' hgpu').mono (fun restOk s'' hs' => ?_) fun _ _ => trivial)
  obtain ⟨hframe', hholds'⟩ := hs'
  have hnamed : ∀ r, Named target r → Named (andThen target target') r := by
    intro r hr
    obtain ⟨value, hvalue⟩ := Option.isSome_iff_exists.mp hr
    cases hlater : target' r <;> simp [Named, andThen, hvalue, hlater]
  have hnamed' : ∀ r, Named target' r → Named (andThen target target') r := by
    intro r hr
    obtain ⟨value, hvalue⟩ := Option.isSome_iff_exists.mp hr
    simp [Named, andThen, hvalue]
  refine ensures_pure ⟨(hframe.mono hnamed).trans (hframe'.mono hnamed'), fun haccepted => ?_⟩
  obtain ⟨hfirst, hsecond⟩ := haccepted.split hframe.suffix hframe'.suffix
  exact (hholds hfirst).andThen (.of_frame hframe')
    (fun r hother hr => absurd hother (hdisjoint r hr)) (hholds' hsecond)

theorem obeys_everyOf_nil : Obeys gpu (fun _ => none) (everyOf []) := obeys_pure true

theorem Obeys.congr (h : Obeys gpu target step) (htarget : ∀ r, target r = target' r) :
    Obeys gpu target' step := funext htarget ▸ h

/-- A step that refuses without its interface. -/
theorem obeys_guarded (available : LinuxGpuState → Bool)
    (hboard : ∀ gpu', SameGpu gpu gpu' → available gpu' = available gpu)
    (h : Obeys gpu target step) :
    Obeys gpu (fun r => if available gpu then target r else none) (do
      let s ← get
      if !available s.gpu then return false else step) := by
  intro s hgpu
  refine ensures_bind (ensures_get ?_)
  rw [hboard s.gpu hgpu]
  cases available gpu with
  | true => exact h s hgpu
  | false => exact ensures_pure ⟨.refl s, fun _ => holds_anything⟩

end Obeys

/-! ## The restoring writes -/

/-- The registers of an attempted phase that a rollback restores. -/
def restores (snapshot : LinuxHardwareSnapshot) (phases : List LinuxMutationPhase)
    (phase : LinuxMutationPhase) (domain : ServiceMutationDomain) : Bool :=
  phases.contains .resetBaseline && snapshot.availableMutationDomains domain ||
    phases.contains phase

/-- What a rollback wants of the registers. -/
def restoreTarget (gpu : LinuxGpuState) (snapshot : LinuxHardwareSnapshot)
    (phases : List LinuxMutationPhase) : Register → Option Int
  | .gpuOffset =>
    if phases.contains .resetBaseline || phases.contains .gpuOffset then snapshot.gpuOffsetMHz
    else none
  | .memOffset =>
    if phases.contains .resetBaseline || phases.contains .memOffset then
      snapshot.memOffsetMHz.map memEffectiveMHz
    else none
  | .xbar =>
    if restores snapshot phases .xbar .xbar && gpu.xbarWritable then snapshot.xbar.map Prod.fst
    else none
  | .msvdd =>
    if restores snapshot phases .xbar .xbar && gpu.xbarWritable then snapshot.xbar.map Prod.snd
    else none
  | .sysClk =>
    if restores snapshot phases .sysClk .sysClk && gpu.xbarWritable then snapshot.sysClkOffsetKhz
    else none
  | .videoClk =>
    if restores snapshot phases .videoClk .videoClk && gpu.xbarWritable then
      snapshot.videoClkOffsetKhz
    else none
  | .power => if phases.contains .power && gpu.setPowerLimit then snapshot.powerLimitmW else none
  | .vf ci =>
    if phases.contains .curve && gpu.writeSupported then
      snapshot.curve.bind fun curve => curveTarget gpu curve.1 curve.2 (.vf ci)
    else none
  | .fan index =>
    if phases.contains .fan then
      snapshot.fans.bind fun fans => fans[index]?.filter fun value =>
        if value = fanDriverAuto then gpu.fanAutoWritable else gpu.setFanSpeed
    else none

section Restoring
variable {gpu : LinuxGpuState} {α : Type} {touched : Bool} {captured : Option α}

/-- A step that restores a captured value. -/
theorem obeys_restoring {target : α → Register → Option Int} {step : α → BackendM Bool}
    (h : ∀ value, Obeys gpu (target value) (step value)) :
    Obeys gpu (fun r => if touched then captured.bind fun value => target value r else none)
      (restoring touched captured step) := by
  cases captured with
  | none =>
    refine (obeys_pure true).congr fun r => ?_
    cases touched <;> rfl
  | some value => exact (h value).gated (obeys_pure true)

theorem obeys_xbarOwned (freqKHz msvddUv : Int) (writeFreq writeMsvdd : Bool) :
    Obeys gpu (fun r => if gpu.xbarWritable then
        xbarTarget freqKHz msvddUv writeFreq writeMsvdd r else none)
      (linuxXbarWriteOwned freqKHz msvddUv writeFreq writeMsvdd) :=
  obeys_guarded (fun gpu => gpu.xbarWritable)
    (fun _ h => (congrArg LinuxGpuState.xbarWritable h.1 :)) (obeys_drive .xbar)

theorem obeys_xbarEntry (domain : SetterDomain) (register : Register) (freqKHz : Int) :
    Obeys gpu (fun r => if gpu.xbarWritable then only register freqKHz r else none)
      (linuxXbarWriteEntry domain register freqKHz) :=
  obeys_guarded (fun gpu => gpu.xbarWritable)
    (fun _ h => (congrArg LinuxGpuState.xbarWritable h.1 :)) (obeys_drive domain)

theorem obeys_restorePowerLimit (limitmW : Int) :
    Obeys gpu (fun r => if gpu.setPowerLimit then only .power limitmW r else none)
      (restorePowerLimit limitmW) := by
  have hset : ∀ gpu', SameGpu gpu gpu' → gpu'.setPowerLimit = gpu.setPowerLimit :=
    fun _ h => (congrArg LinuxGpuState.setPowerLimit h.1 :)
  intro s hgpu
  refine ensures_bind (ensures_get ?_)
  rw [hset s.gpu hgpu]
  cases hlimit : gpu.setPowerLimit with
  | false => exact ensures_pure ⟨.refl s, fun _ => by simpa using holds_anything⟩
  | true =>
    refine ensures_bind (ensures_get ?_)
    rw [hset s.gpu hgpu, hlimit]
    exact obeys_drive .power s hgpu

theorem curveTarget_congr {gpu' : LinuxGpuState} (h : SameGpu gpu gpu')
    (offsets : VfPoint → Int) (mask : VfPoint → Bool) :
    curveTarget gpu' offsets mask = curveTarget gpu offsets mask := by
  have hmask : gpu'.vfMask = gpu.vfMask := (congrArg LinuxGpuState.vfMask h.1 :)
  have hrange : gpu'.curveOffsetRange = gpu.curveOffsetRange :=
    (congrArg LinuxGpuState.curveOffsetRange h.1 :)
  funext r
  cases r with
  | vf ci =>
    have hwrites : WritesPoint gpu' mask ci ↔ WritesPoint gpu mask ci := by
      simp only [WritesPoint, h.2, hmask]
    simp only [curveTarget, hwrites, hrange]
  | _ => rfl

theorem obeys_curveOffsets (offsets : VfPoint → Int) (mask : VfPoint → Bool) :
    Obeys gpu (fun r => if gpu.writeSupported then curveTarget gpu offsets mask r else none)
      (applyCurveOffsetsVerified offsets mask) := by
  intro s hgpu
  have hsupported : s.gpu.writeSupported = gpu.writeSupported :=
    (congrArg LinuxGpuState.writeSupported hgpu.1 :)
  rw [← curveTarget_congr hgpu]
  refine ensures_bind (ensures_get ?_)
  rw [hsupported]
  split
  · rename_i hrefused
    rw [show gpu.writeSupported = false by simpa using hrefused]
    exact ensures_pure ⟨.refl s, fun _ => holds_anything⟩
  · rename_i hwrites
    rw [show gpu.writeSupported = true by simpa using hwrites]
    simp only [if_true]
    split
    · refine ensures_bind ((obeys_drive .curve s (.refl _)).mono (fun ok s' hs => ?_)
        fun _ _ => trivial)
      refine ensures_bind (ensures_modify (ensures_pure ⟨hs.1.trans ?_, hs.2⟩))
      exact ⟨⟨rfl, rfl, [], rfl, by simp⟩, fun _ _ => rfl, rfl, rfl, rfl⟩
    · rename_i hnone
      refine ensures_pure ⟨.refl s, fun _ r value hr => ?_⟩
      have hnamed : Named (curveTarget s.gpu offsets mask) r :=
        Option.isSome_iff_exists.mpr ⟨value, hr⟩
      obtain ⟨ci, -, hci⟩ := named_curveTarget.mp hnamed
      exact absurd ⟨ci, hci⟩ hnone

/-- One captured fan. -/
def fanTarget (gpu : LinuxGpuState) (index : Nat) (value : Int) : Register → Option Int :=
  fun r => if if value = fanDriverAuto then gpu.fanAutoWritable else gpu.setFanSpeed then
    only (.fan index) value r else none

theorem obeys_restoreFan (value : Int) (index : Nat) :
    Obeys gpu (fanTarget gpu index value)
      (if value = fanDriverAuto then
        if gpu.fanAutoWritable then drive .fan (only (.fan index) fanDriverAuto) else pure false
      else if gpu.setFanSpeed then drive .fan (only (.fan index) value) else pure false) := by
  by_cases hauto : value = fanDriverAuto
  · subst hauto
    exact ((obeys_drive .fan).gated (obeys_pure false)).congr fun r => by simp [fanTarget]
  · rw [if_neg hauto]
    exact ((obeys_drive .fan).gated (obeys_pure false)).congr fun r => by simp [fanTarget, hauto]

/-- The captured fans, from `index` on. -/
def fansTarget (gpu : LinuxGpuState) (fans : List Int) (index : Nat) : Register → Option Int
  | .fan i =>
    if index ≤ i then fans[i - index]?.filter fun value =>
      if value = fanDriverAuto then gpu.fanAutoWritable else gpu.setFanSpeed
    else none
  | _ => none

theorem obeys_fans (fans : List Int) (index : Nat) :
    Obeys gpu (fansTarget gpu fans index) (everyOf ((fans.zipIdx index).map fun (value, index) =>
      if value = fanDriverAuto then
        if gpu.fanAutoWritable then drive .fan (only (.fan index) fanDriverAuto) else pure false
      else if gpu.setFanSpeed then drive .fan (only (.fan index) value) else pure false)) := by
  induction fans generalizing index with
  | nil => exact obeys_everyOf_nil.congr fun r => by cases r <;> simp [fansTarget]
  | cons value fans ih =>
    refine (obeys_everyOf_cons (obeys_restoreFan value index) (ih (index + 1)) fun r hr => ?_).congr
      fun r => ?_
    · have hfan : r = .fan index := by
        by_contra hne
        simp [Named, fanTarget, only, hne] at hr
      subst hfan
      simp [Named, fansTarget]
    · cases r with
      | fan i =>
        rcases lt_trichotomy i index with hlt | rfl | hgt
        · simp [andThen, fansTarget, fanTarget, only, show ¬ index + 1 ≤ i by omega,
            show ¬ index ≤ i by omega, show i ≠ index by omega]
        · by_cases hwritable : (if value = fanDriverAuto then gpu.fanAutoWritable
            else gpu.setFanSpeed) = true
          · simp [andThen, fansTarget, fanTarget, only, hwritable, Option.filter,
              show ¬ i + 1 ≤ i by omega]
          · simp [andThen, fansTarget, fanTarget, hwritable, Option.filter,
              show ¬ i + 1 ≤ i by omega]
        · have hsub : i - index = i - (index + 1) + 1 := by omega
          simp [andThen, fansTarget, fanTarget, only, show index + 1 ≤ i by omega,
            show index ≤ i by omega, show i ≠ index by omega, hsub]
      | _ => simp [andThen, fansTarget, fanTarget, only]

theorem obeys_restoreFans (fans : List Int) :
    Obeys gpu (fansTarget gpu fans 0) (restoreFans fans) := by
  intro s hgpu
  refine ensures_bind (ensures_get ?_)
  rw [show s.gpu.fanAutoWritable = gpu.fanAutoWritable from
      (congrArg LinuxGpuState.fanAutoWritable hgpu.1 :),
    show s.gpu.setFanSpeed = gpu.setFanSpeed from (congrArg LinuxGpuState.setFanSpeed hgpu.1 :)]
  exact obeys_fans fans 0 s hgpu

/-- **The restoring writes** want the captured values of the attempted phases. -/
theorem obeys_restoreSteps (snapshot : LinuxHardwareSnapshot) (phases : List LinuxMutationPhase) :
    Obeys gpu (restoreTarget gpu snapshot phases) (everyOf (restoreSteps snapshot phases)) := by
  refine (obeys_everyOf_cons (obeys_restoring fun value => obeys_drive .gpuOffset)
    (obeys_everyOf_cons (obeys_restoring fun value => obeys_drive .memOffset)
      (obeys_everyOf_cons (obeys_restoring fun value => obeys_xbarOwned _ _ _ _)
        (obeys_everyOf_cons (obeys_restoring fun value => obeys_xbarEntry .sysClk .sysClk value)
          (obeys_everyOf_cons
              (obeys_restoring fun value => obeys_xbarEntry .videoClk .videoClk value)
            (obeys_everyOf_cons (obeys_restoring obeys_restorePowerLimit)
              (obeys_everyOf_cons (obeys_restoring fun value => obeys_curveOffsets _ _)
                (obeys_everyOf_cons (obeys_restoring obeys_restoreFans)
                  obeys_everyOf_nil ?_) ?_) ?_) ?_) ?_) ?_) ?_) ?_).congr fun r => ?target
  case target =>
    cases r
    all_goals simp [andThen, restoreTarget, only, xbarTarget, curveTarget, fansTarget, restores]
    case memOffset => cases snapshot.memOffsetMHz <;> rfl
    case power => cases snapshot.powerLimitmW <;> cases gpu.setPowerLimit <;> simp
    case vf => cases snapshot.curve <;> cases gpu.writeSupported <;> simp
    case xbar => cases snapshot.xbar <;> cases gpu.xbarWritable <;> simp
    case msvdd => cases snapshot.xbar <;> cases gpu.xbarWritable <;> simp
    case sysClk => cases snapshot.sysClkOffsetKhz <;> cases gpu.xbarWritable <;> simp
    case videoClk => cases snapshot.videoClkOffsetKhz <;> cases gpu.xbarWritable <;> simp
  all_goals
    intro r hr
    cases r
    all_goals simp [Named, andThen, only, xbarTarget, curveTarget, fansTarget] at hr ⊢

end Restoring

/-! ## The protection of a restore -/

/-- Whether a rollback may restore, on a driver that accepts a clamp. -/
def restorePermitted (s : BackendState) (phases : List LinuxMutationPhase) : Bool :=
  !touchesClocks phases || linuxClockControlProvenAbsent s || decide (rollbackBound s.ceiling > 0)

section Protect
variable {s : BackendState}

/-- After a clamp or none: the registers are as they were. -/
structure Clamped (s s' : BackendState) : Prop where
  hw : s'.hw = s.hw
  gpu : SameGpu s.gpu s'.gpu
  trace : s.trace <:+ s'.trace

theorem Clamped.refl (s : BackendState) : Clamped s s := ⟨rfl, .refl _, List.suffix_refl _⟩

theorem clamped_tryClamp {permitted : Bool} {minMHz maxMHz : Nat} :
    Ensures (tryClamp permitted minMHz maxMHz)
      (fun ok s' => Clamped s s' ∧ s'.ceiling = s.ceiling ∧
        (AcceptedSince s s' → ok = permitted)) (fun _ => True) s := by
  cases permitted with
  | false => exact ensures_pure ⟨.refl s, rfl, fun _ => rfl⟩
  | true =>
    refine ensures_bind (ensures_bind (ensures_ask trivial fun answer =>
      ensures_bind (ensures_modify (ensures_pure (ensures_pure ⟨?_, rfl, ?_⟩)))))
    · exact ⟨rfl, .refl _, List.suffix_cons _ _⟩
    · exact fun haccepted => haccepted.last (.clamp minMHz maxMHz _) rfl

theorem Clamped.trans {s' s'' : BackendState} (h : Clamped s s') (h' : Clamped s' s'') :
    Clamped s s'' :=
  ⟨h'.hw.trans h.hw, h.gpu.trans h'.gpu, h.trace.trans h'.trace⟩

theorem clamped_protectRestore :
    Ensures protectRestore
      (fun ok s' => Clamped s s' ∧ (AcceptedSince s s' → s.gpu.setGpuLockedClocks = true →
        ok = (linuxClockControlProvenAbsent s || decide (rollbackBound s.ceiling > 0))))
      (fun _ => True) s := by
  refine ensures_bind (ensures_get (ensures_bind (clamped_tryClamp.mono (fun openOk s₁ hs₁ => ?_)
    fun _ _ => trivial)))
  refine ensures_bind (clamped_tryClamp.mono (fun symmetricOk s₂ hs₂ => ?_) fun _ _ => trivial)
  obtain ⟨hclamped₁, -, hok₁⟩ := hs₁
  obtain ⟨hclamped₂, -, hok₂⟩ := hs₂
  have hclamped := hclamped₁.trans hclamped₂
  -- On a GPU without clock control no pin is left, so the second form is not tried.
  have hpin : linuxClockControlProvenAbsent s = true → s.ceiling.outgoingHadHardPin = false := by
    intro habsent
    simp only [linuxClockControlProvenAbsent, applyClockControlProvenAbsent, Bool.and_eq_true,
      Bool.not_eq_true'] at habsent
    exact habsent.2
  have hresult : AcceptedSince s s₂ → s.gpu.setGpuLockedClocks = true →
      (openOk || symmetricOk || linuxClockControlProvenAbsent s) =
        (linuxClockControlProvenAbsent s || decide (rollbackBound s.ceiling > 0)) := by
    intro haccepted hset
    obtain ⟨hfirst, hsecond⟩ := haccepted.split hclamped₁.trace hclamped₂.trace
    rw [hok₂ hsecond, hok₁ hfirst, hset]
    cases habsent : linuxClockControlProvenAbsent s with
    | true => simp
    | false => simp
  split
  · rename_i hprotected
    refine ensures_bind (ensures_modify (ensures_pure ⟨?_, fun haccepted hset => ?_⟩))
    · exact hclamped.trans ⟨rfl, ⟨rfl, rfl⟩, List.suffix_refl _⟩
    · rw [← hresult haccepted hset, hprotected]
      rfl
  · rename_i hunprotected
    refine ensures_pure ⟨hclamped, fun haccepted hset => ?_⟩
    rw [← hresult haccepted hset, Bool.eq_false_iff.mpr hunprotected]
    rfl

/-- The registers after a rollback from `s`. -/
def rolledBack (s : BackendState) (snapshot : LinuxHardwareSnapshot)
    (phases : List LinuxMutationPhase) : Registers := fun r =>
  if restorePermitted s phases then (restoreTarget s.gpu snapshot phases r).getD (s.hw r)
  else s.hw r

theorem restoreTarget_congr {gpu gpu' : LinuxGpuState} (h : SameGpu gpu gpu')
    (snapshot : LinuxHardwareSnapshot) (phases : List LinuxMutationPhase) :
    restoreTarget gpu' snapshot phases = restoreTarget gpu snapshot phases := by
  have hxbar : gpu'.xbarWritable = gpu.xbarWritable := (congrArg LinuxGpuState.xbarWritable h.1 :)
  have hpower : gpu'.setPowerLimit = gpu.setPowerLimit :=
    (congrArg LinuxGpuState.setPowerLimit h.1 :)
  have hwrite : gpu'.writeSupported = gpu.writeSupported :=
    (congrArg LinuxGpuState.writeSupported h.1 :)
  have hauto : gpu'.fanAutoWritable = gpu.fanAutoWritable :=
    (congrArg LinuxGpuState.fanAutoWritable h.1 :)
  have hspeed : gpu'.setFanSpeed = gpu.setFanSpeed := (congrArg LinuxGpuState.setFanSpeed h.1 :)
  funext r
  cases r with
  | vf ci => simp only [restoreTarget, hwrite, curveTarget_congr h]
  | _ => simp only [restoreTarget, hxbar, hpower, hauto, hspeed]

/-- **A rollback** on a driver that accepts every restoring setter. -/
theorem ensures_restoreSnapshot {snapshot : LinuxHardwareSnapshot}
    {phases : List LinuxMutationPhase} :
    Ensures (linuxBackendRestoreSnapshot snapshot phases)
      (fun _ s' => s.trace <:+ s'.trace ∧ (AcceptedSince s s' →
        s.gpu.setGpuLockedClocks = true → s'.hw = rolledBack s snapshot phases))
      (fun _ => True) s := by
  have hprotect : Ensures (optional (touchesClocks phases) protectRestore)
      (fun ok s' => Clamped s s' ∧ (AcceptedSince s s' → s.gpu.setGpuLockedClocks = true →
        ok = restorePermitted s phases)) (fun _ => True) s := by
    cases htouches : touchesClocks phases with
    | true =>
      refine clamped_protectRestore.mono (fun ok s' hs => ⟨hs.1, fun haccepted hset => ?_⟩)
        fun _ _ => trivial
      rw [hs.2 haccepted hset, restorePermitted, htouches]
      rfl
    | false => exact ensures_pure ⟨.refl s, fun _ _ => by rw [restorePermitted, htouches]; rfl⟩
  refine ensures_bind (ensures_get (ensures_bind (hprotect.mono (fun ok s₁ hs₁ => ?_)
    fun _ _ => trivial)))
  obtain ⟨hclamped, hok⟩ := hs₁
  split
  · rename_i hrefused
    refine ensures_pure ⟨hclamped.trace, fun haccepted hset => ?_⟩
    have hpermitted : restorePermitted s phases = false := by
      rw [← hok haccepted hset]
      simpa using hrefused
    funext r
    rw [rolledBack, hpermitted, hclamped.hw]
    rfl
  · rename_i hallowed
    refine ensures_bind ((obeys_restoreSteps snapshot phases s₁ (.refl _)).mono
      (fun restored s₂ hs₂ => ?_) fun _ _ => trivial)
    obtain ⟨hframe, hholds⟩ := hs₂
    refine ensures_bind (ensures_refresh.mono (fun _ s' hs' => ensures_pure ?_) fun _ _ => trivial)
    have htrace : s₂.trace <:+ s'.trace := by rw [hs'.trace_eq]
    refine ⟨(hclamped.trace.trans hframe.suffix).trans htrace, fun haccepted hset => ?_⟩
    obtain ⟨hfirst, hrest⟩ := haccepted.split hclamped.trace (hframe.suffix.trans htrace)
    have hpermitted : restorePermitted s phases = true := by
      rw [← hok hfirst hset]
      simpa using hallowed
    have hheld := hholds (hrest.split hframe.suffix htrace).1
    funext r
    rw [hs'.hw_eq, rolledBack, if_pos hpermitted, ← restoreTarget_congr hclamped.gpu]
    cases htarget : restoreTarget s₁.gpu snapshot phases r with
    | some value => exact hheld r value htarget
    | none =>
      rw [hframe.hw r (by simp [Named, htarget]), hclamped.hw]
      rfl

end Protect

end GreenCurve.Backend
