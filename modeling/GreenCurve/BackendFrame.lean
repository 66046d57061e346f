import GreenCurve.LinuxBackend

/-! # What the setters leave alone

A setter owns the registers it may change.  Everything else it leaves alone: the
other registers, the ceiling of the transaction, and of the GPU all but the curve
it rereads; and it calls the driver for nothing but its write.  What a transaction
keeps is read off these frames. -/

namespace GreenCurve.Backend

open CrashM

/-- The event of a setter. -/
def IsWrite (event : DriverEvent) : Prop := ∃ domain accepted, event = .wrote domain accepted

/-- The GPU but for the curve that was last read. -/
def LinuxGpuState.board (gpu : LinuxGpuState) : LinuxGpuState :=
  { gpu with curve := fun _ => {}, freqOffsets := fun _ => 0, vfSnapshotFresh := false }

/-- From `s` to `s'` the driver was called for writes and reads only. -/
structure Quiet (s s' : BackendState) : Prop where
  ceiling : s'.ceiling = s.ceiling
  board : s'.gpu.board = s.gpu.board
  trace : ∃ news, s'.trace = news ++ s.trace ∧ ∀ event ∈ news, IsWrite event

/-- From `s` to `s'` only setters of `owned` registers were called. -/
structure Frame (owned : Register → Prop) (s s' : BackendState) : Prop extends Quiet s s' where
  hw : ∀ r, ¬ owned r → s'.hw r = s.hw r
  curve : s'.gpu.curve = s.gpu.curve
  fresh : s'.gpu.vfSnapshotFresh = s.gpu.vfSnapshotFresh
  curvesRead : s'.curvesRead = s.curvesRead

namespace Quiet

variable {s s' s'' : BackendState}

theorem refl (s : BackendState) : Quiet s s where
  ceiling := rfl
  board := rfl
  trace := ⟨[], rfl, by simp⟩

theorem trans (h : Quiet s s') (h' : Quiet s' s'') : Quiet s s'' where
  ceiling := h'.ceiling.trans h.ceiling
  board := h'.board.trans h.board
  trace := by
    obtain ⟨news, htrace, hnews⟩ := h.trace
    obtain ⟨news', htrace', hnews'⟩ := h'.trace
    refine ⟨news' ++ news, by rw [htrace', htrace, List.append_assoc], fun event hevent => ?_⟩
    rcases List.mem_append.mp hevent with hnew | hold
    · exact hnews' event hnew
    · exact hnews event hold

theorem vfMask (h : Quiet s s') : s'.gpu.vfMask = s.gpu.vfMask :=
  (congrArg LinuxGpuState.vfMask h.board :)

theorem range (h : Quiet s s') : s'.gpu.curveOffsetRange = s.gpu.curveOffsetRange :=
  (congrArg LinuxGpuState.curveOffsetRange h.board :)

end Quiet

namespace Frame

variable {owned other : Register → Prop} {s s' s'' : BackendState}

theorem refl (s : BackendState) : Frame owned s s where
  toQuiet := .refl s
  hw := fun _ _ => rfl
  curve := rfl
  fresh := rfl
  curvesRead := rfl

theorem trans (h : Frame owned s s') (h' : Frame owned s' s'') : Frame owned s s'' where
  toQuiet := h.toQuiet.trans h'.toQuiet
  hw := fun r hr => (h'.hw r hr).trans (h.hw r hr)
  curve := h'.curve.trans h.curve
  fresh := h'.fresh.trans h.fresh
  curvesRead := h'.curvesRead.trans h.curvesRead

theorem mono (h : Frame owned s s') (hsub : ∀ r, owned r → other r) : Frame other s s' where
  toQuiet := h.toQuiet
  hw := fun r hr => h.hw r fun howned => hr (hsub r howned)
  curve := h.curve
  fresh := h.fresh
  curvesRead := h.curvesRead

end Frame

/-- The registers hold what `target` wants of them. -/
def Holds (target : Register → Option Int) (s : BackendState) : Prop :=
  ∀ r value, target r = some value → s.hw r = value

theorem Holds.frame {owned : Register → Prop} {target : Register → Option Int}
    {s s' : BackendState} (h : Holds target s) (hframe : Frame owned s s')
    (hfree : ∀ r, (target r).isSome = true → ¬ owned r) : Holds target s' :=
  fun r value hr => (hframe.hw r (hfree r (by rw [hr]; rfl))).trans (h r value hr)

/-- `step` changes `owned` registers only and, when it reports success, leaves in
the registers what `target` wants of them. -/
def Writes (owned : Register → Prop) (target : BackendState → Register → Option Int)
    (step : BackendM Bool) : Prop :=
  ∀ s, Ensures step (fun ok s' => Frame owned s s' ∧ (ok = true → Holds (target s) s'))
    (Frame owned s) s

/-- The registers `target` names. -/
def Named (target : Register → Option Int) (r : Register) : Prop := (target r).isSome = true

@[simp] theorem named_only {register r : Register} {value : Int} :
    Named (only register value) r ↔ r = register := by
  unfold Named only
  split <;> simp_all

section Primitives
variable {owned other : Register → Prop} {target : BackendState → Register → Option Int}
  {s : BackendState}

theorem Writes.mono {step : BackendM Bool} (h : Writes owned target step)
    (hsub : ∀ r, owned r → other r) : Writes other target step :=
  fun s => (h s).mono (fun _ _ hs => ⟨hs.1.mono hsub, hs.2⟩) fun _ hs => hs.mono hsub

/-- A step that fails at once changes nothing. -/
theorem ensures_false :
    Ensures (pure false : BackendM Bool)
      (fun ok s' => Frame owned s s' ∧ (ok = true → Holds (target s) s')) (Frame owned s) s :=
  ensures_pure ⟨.refl s, by simp⟩

theorem frame_drive {domain : SetterDomain} {setterTarget : Register → Option Int}
    {accepted : Bool} {left : Registers} :
    Frame (Named setterTarget) s
      ((s.set setterTarget accepted left).log (.wrote domain accepted)) where
  ceiling := rfl
  board := rfl
  trace := ⟨[.wrote domain accepted], rfl, fun _ hevent =>
    ⟨domain, accepted, List.mem_singleton.mp hevent⟩⟩
  curve := rfl
  fresh := rfl
  curvesRead := rfl
  hw := by
    intro r hr
    cases htarget : setterTarget r with
    | none => simp [BackendState.set, htarget]
    | some value => exact absurd (by simp [Named, htarget]) hr

theorem holds_drive {domain : SetterDomain} {setterTarget : Register → Option Int}
    {left : Registers} :
    Holds setterTarget ((s.set setterTarget true left).log (.wrote domain true)) := by
  intro r value hr
  simp [BackendState.set, hr]

theorem writes_drive (domain : SetterDomain) (setterTarget : Register → Option Int) :
    Writes (Named setterTarget) (fun _ => setterTarget) (drive domain setterTarget) := by
  intro s
  refine ensures_bind (ensures_ask (.refl s) fun answer => ?_)
  refine ensures_bind (ensures_modify (ensures_pure ⟨frame_drive, fun hok => ?_⟩))
  show Holds setterTarget ((s.set setterTarget answer.accepted answer.left).log
    (.wrote domain answer.accepted))
  rw [show answer.accepted = true from hok]
  exact holds_drive

theorem writes_only (domain : SetterDomain) (register : Register) (value : Int) :
    Writes (· = register) (fun _ => only register value) (drive domain (only register value)) :=
  (writes_drive domain _).mono fun _ => named_only.mp

/-- A step behind a guard that reads the state. -/
theorem writes_guarded {guarded : BackendState → Bool} {step : BackendState → BackendM Bool}
    (h : ∀ s, Ensures (step s)
      (fun ok s' => Frame owned s s' ∧ (ok = true → Holds (target s) s')) (Frame owned s) s) :
    Writes owned target (do
      let s ← get
      if guarded s then return false else step s) := by
  intro s
  refine ensures_bind (ensures_get ?_)
  split
  · exact ensures_false
  · exact h s

/-! ## The setters -/

theorem writes_graphicsOffset (offsetMHz : Int) :
    Writes (· = .gpuOffset) (fun _ => only .gpuOffset offsetMHz) (setGraphicsOffset offsetMHz) :=
  writes_only _ _ _

theorem writes_memoryOffset (effectiveMHz : Int) :
    Writes (· = .memOffset) (fun _ => only .memOffset effectiveMHz)
      (setMemoryOffset effectiveMHz) :=
  writes_only _ _ _

/-- The registers of an XBAR write. -/
def xbarTarget (freqKHz msvddUv : Int) (writeFreq writeMsvdd : Bool) : Register → Option Int
  | .xbar => if writeFreq then some freqKHz else none
  | .msvdd => if writeMsvdd then some msvddUv else none
  | _ => none

theorem named_xbarTarget {freqKHz msvddUv : Int} {writeFreq writeMsvdd : Bool} {r : Register} :
    Named (xbarTarget freqKHz msvddUv writeFreq writeMsvdd) r ↔
      (r = .xbar ∧ writeFreq = true) ∨ (r = .msvdd ∧ writeMsvdd = true) := by
  unfold Named xbarTarget
  cases r <;> cases writeFreq <;> cases writeMsvdd <;> simp

theorem writes_xbarOwned (freqKHz msvddUv : Int) (writeFreq writeMsvdd : Bool) :
    Writes (fun r => (r = .xbar ∧ writeFreq = true) ∨ (r = .msvdd ∧ writeMsvdd = true))
      (fun _ => xbarTarget freqKHz msvddUv writeFreq writeMsvdd)
      (linuxXbarWriteOwned freqKHz msvddUv writeFreq writeMsvdd) :=
  writes_guarded fun s => ((writes_drive .xbar
    (xbarTarget freqKHz msvddUv writeFreq writeMsvdd)).mono fun _ => named_xbarTarget.mp) s

theorem writes_xbarEntry (domain : SetterDomain) (register : Register) (freqKHz : Int) :
    Writes (· = register) (fun _ => only register freqKHz)
      (linuxXbarWriteEntry domain register freqKHz) :=
  writes_guarded fun s => writes_only domain register freqKHz s

theorem writes_sysClk (freqKHz : Int) :
    Writes (· = .sysClk) (fun _ => only .sysClk freqKHz) (writeSysClk freqKHz) :=
  writes_xbarEntry _ _ _

theorem writes_videoClk (freqKHz : Int) :
    Writes (· = .videoClk) (fun _ => only .videoClk freqKHz) (writeVideoClk freqKHz) :=
  writes_xbarEntry _ _ _

/-- Wants nothing of any register. -/
abbrev anything : BackendState → Register → Option Int := fun _ _ => none

theorem holds_anything : Holds (fun _ => none) s := by
  intro r value hr
  cases hr

theorem Writes.weaken {step : BackendM Bool} (h : Writes owned target step) :
    Writes owned anything step :=
  fun s => (h s).mono (fun _ _ hs => ⟨hs.1, fun _ => holds_anything⟩) fun _ hs => hs

theorem writes_setPowerLimit (limitmW : Int) :
    Writes (· = .power) (fun _ => only .power limitmW) (setPowerLimit limitmW) :=
  writes_guarded fun s => writes_only .power .power limitmW s

theorem writes_powerLimitPct (pct : Int) : Writes (· = .power) anything (setPowerLimitPct pct) := by
  refine writes_guarded fun s => ?_
  refine ensures_bind ((writes_only .power .power _ s).mono (fun ok s' hs => ?_) fun _ hs => hs)
  split
  · exact ensures_pure ⟨hs.1, by simp⟩
  · exact ensures_bind (ensures_ask hs.1 fun _ =>
      ensures_pure ⟨hs.1, fun _ => holds_anything⟩)

/-- Every step of a list owns the registers the list owns. -/
theorem writes_everyOf {steps : List (BackendM Bool)}
    (h : ∀ step ∈ steps, Writes owned anything step) : Writes owned anything (everyOf steps) := by
  induction steps with
  | nil => exact fun s => ensures_pure ⟨.refl s, fun _ => holds_anything⟩
  | cons step rest ih =>
    intro s
    obtain ⟨hstep, hrest⟩ := List.forall_mem_cons.mp h
    refine ensures_bind ((hstep s).mono (fun ok s' hs => ?_) fun _ hs => hs)
    refine ensures_bind ((ih hrest s').mono (fun restOk s'' hs' => ?_) fun s'' hs' => hs.1.trans hs')
    exact ensures_pure ⟨hs.1.trans hs'.1, fun _ => holds_anything⟩

theorem writes_optional {c : Bool} {step : BackendM Bool} (h : Writes owned anything step) :
    Writes owned anything (optional c step) := by
  cases c with
  | true => exact h
  | false => exact fun s => ensures_pure ⟨.refl s, fun _ => holds_anything⟩

/-- The registers of the fans. -/
def IsFan (r : Register) : Prop := ∃ index, r = .fan index

theorem writes_nvmlSetFan (value : Int) : Writes IsFan anything (nvmlSetFan value) := by
  intro s
  refine ensures_bind (ensures_get (ensures_bind (ensures_ask (.refl s) fun fans => ?_)))
  split
  · exact ensures_false
  · refine writes_everyOf (fun step hstep => ?_) s
    obtain ⟨index, -, rfl⟩ := List.mem_map.mp hstep
    exact ((writes_only .fan (.fan index) value).mono fun r hr => ⟨index, hr⟩).weaken

theorem writes_fanManual (percent : Int) : Writes IsFan anything (setFanManual percent) :=
  writes_guarded fun s => writes_nvmlSetFan _ s

/-! ## The curve -/

/-- The registers of the VF points. -/
def IsVf (r : Register) : Prop := ∃ ci, r = .vf ci

/-- A read of the curve ends in one of two states. -/
inductive Reread (s : BackendState) : Bool → BackendState → Prop
  | read (curve : VFCurve)
      (valid : structurallyValid curve (programmedOffsets s) s.gpu.vfMask = true) :
      Reread s true (s.readCurve curve)
  | lost : Reread s false s.loseCurve

namespace Reread

variable {ok : Bool} {s' : BackendState}

theorem hw_eq (h : Reread s ok s') : s'.hw = s.hw := by
  cases h <;> rfl

theorem trace_eq (h : Reread s ok s') : s'.trace = s.trace := by
  cases h <;> rfl

theorem quiet (h : Reread s ok s') : Quiet s s' := by
  cases h with
  | read curve valid => exact ⟨rfl, rfl, [], rfl, by simp⟩
  | lost => exact ⟨rfl, rfl, [], rfl, by simp⟩

end Reread

theorem ensures_readVfSnapshot : Ensures nvapiReadVfSnapshot (Reread s) (· = s) s := by
  refine ensures_bind (ensures_ask rfl fun answer => ensures_bind (ensures_get ?_))
  dsimp only
  split
  · rename_i hvalid
    exact ensures_bind (ensures_modify (ensures_pure
      (.read _ (Bool.and_eq_true _ _ ▸ hvalid).2)))
  · exact ensures_bind (ensures_modify (ensures_pure .lost))

/-- A refresh reads the curve, once the driver is there. -/
def Refreshed (s s' : BackendState) : Prop :=
  (s.gpu.nvmlReady = false ∧ s' = s) ∨ ∃ ok, Reread s ok s'

theorem Refreshed.hw_eq {s' : BackendState} (h : Refreshed s s') : s'.hw = s.hw := by
  rcases h with ⟨-, rfl⟩ | ⟨ok, h⟩
  · rfl
  · exact h.hw_eq

theorem Refreshed.trace_eq {s' : BackendState} (h : Refreshed s s') : s'.trace = s.trace := by
  rcases h with ⟨-, rfl⟩ | ⟨ok, h⟩
  · rfl
  · exact h.trace_eq

theorem Refreshed.reads {s' : BackendState} (h : Refreshed s s') :
    ∀ read ∈ s.curvesRead, read ∈ s'.curvesRead := by
  rcases h with ⟨-, rfl⟩ | ⟨ok, h⟩
  · exact fun _ hread => hread
  · cases h with
    | read => exact fun _ hread => List.mem_cons_of_mem _ hread
    | lost => exact fun _ hread => hread

theorem Refreshed.quiet {s' : BackendState} (h : Refreshed s s') : Quiet s s' := by
  rcases h with ⟨-, rfl⟩ | ⟨ok, h⟩
  · exact .refl _
  · exact h.quiet

theorem ensures_refresh : Ensures linuxBackendRefresh (fun _ => Refreshed s) (· = s) s := by
  refine ensures_bind (ensures_get (ensures_bind ?_))
  cases hready : s.gpu.nvmlReady with
  | true =>
    exact ensures_readVfSnapshot.mono (fun ok _ hs => ensures_pure (.inr ⟨ok, hs⟩)) fun _ hs => hs
  | false => exact ensures_pure (ensures_pure (.inl ⟨hready, rfl⟩))

theorem named_curveTarget {gpu : LinuxGpuState} {targetOffsets : VfPoint → Int}
    {pointMask : VfPoint → Bool} {r : Register} :
    Named (curveTarget gpu targetOffsets pointMask) r ↔
      ∃ ci, r = .vf ci ∧ WritesPoint gpu pointMask ci := by
  cases r with
  | vf ci =>
    by_cases hwrites : WritesPoint gpu pointMask ci
    · simp [Named, curveTarget, hwrites]
    · simp [Named, curveTarget, hwrites]
  | _ => simp [Named, curveTarget]

/-- The curve write wants the clamped offset at each point it writes. -/
theorem ensures_curveOffsets (targetOffsets : VfPoint → Int) (pointMask : VfPoint → Bool) :
    Ensures (applyCurveOffsetsVerified targetOffsets pointMask)
      (fun ok s' => Frame (Named (curveTarget s.gpu targetOffsets pointMask)) s s' ∧
        (ok = true → Holds (curveTarget s.gpu targetOffsets pointMask) s'))
      (Frame (Named (curveTarget s.gpu targetOffsets pointMask)) s) s := by
  refine ensures_bind (ensures_get ?_)
  split
  · exact ensures_pure ⟨.refl s, by simp⟩
  · split
    · refine ensures_bind ((writes_drive .curve _ s).mono (fun ok s' hs => ?_) fun s' hs => hs)
      refine ensures_bind (ensures_modify (ensures_pure ⟨?_, hs.2⟩))
      exact hs.1.trans ⟨⟨rfl, rfl, [], rfl, by simp⟩, fun _ _ => rfl, rfl, rfl, rfl⟩
    · rename_i hnone
      refine ensures_pure ⟨.refl s, fun _ r value hr => ?_⟩
      obtain ⟨ci, -, hci⟩ := named_curveTarget.mp (show Named _ r by rw [Named, hr]; rfl)
      exact absurd ⟨ci, hci⟩ hnone

theorem writes_curveOffsets (targetOffsets : VfPoint → Int) (pointMask : VfPoint → Bool) :
    Writes IsVf (fun s => curveTarget s.gpu targetOffsets pointMask)
      (applyCurveOffsetsVerified targetOffsets pointMask) := by
  intro s
  have hvf : ∀ r, Named (curveTarget s.gpu targetOffsets pointMask) r → IsVf r := by
    intro r hr
    obtain ⟨ci, hci, -⟩ := named_curveTarget.mp hr
    exact ⟨ci, hci⟩
  exact (ensures_curveOffsets targetOffsets pointMask).mono
    (fun _ _ hs => ⟨hs.1.mono hvf, hs.2⟩) fun _ hs => hs.mono hvf

/-- Where a rebuild of the curve targets may end. -/
inductive Rebuilt (context : LinuxApplyTransactionContext) (s : BackendState) :
    Option CurveTargets → BackendState → Prop
  | kept (hkept : context.rebuildCurveTargets = false) : Rebuilt context s (some context.planned) s
  | rebuilt (curve : VFCurve) (hrebuilds : context.rebuildCurveTargets = true)
      (valid : structurallyValid curve (programmedOffsets s) s.gpu.vfMask = true)
      (keeps : linuxCurveRebuildKeepsShape context.planned.result
        (linuxApplyBuildCurve (s.readCurve curve).gpu context.desired context.previousIntent
          context.committedIntent).result = true) :
      Rebuilt context s (some (linuxApplyBuildCurve (s.readCurve curve).gpu context.desired
        context.previousIntent context.committedIntent)) (s.readCurve curve)
  | refused {ok : Bool} {s' : BackendState} (h : Reread s ok s') : Rebuilt context s none s'

theorem Rebuilt.hw_eq {context : LinuxApplyTransactionContext} {targets : Option CurveTargets}
    {s' : BackendState} (h : Rebuilt context s targets s') : s'.hw = s.hw := by
  cases h with
  | kept => rfl
  | rebuilt => rfl
  | refused h => exact h.hw_eq

theorem Rebuilt.quiet {context : LinuxApplyTransactionContext} {targets : Option CurveTargets}
    {s' : BackendState} (h : Rebuilt context s targets s') : Quiet s s' := by
  cases h with
  | kept => exact .refl _
  | rebuilt curve _ valid => exact (Reread.read curve valid).quiet
  | refused h => exact h.quiet

theorem ensures_rebuildCurveTargets {context : LinuxApplyTransactionContext} :
    Ensures (linuxApplyRebuildCurveTargets context) (Rebuilt context s) (· = s) s := by
  unfold linuxApplyRebuildCurveTargets
  split
  · rename_i hkept
    exact ensures_pure (.kept (by simpa using hkept))
  · rename_i hrebuilds
    refine ensures_bind (ensures_readVfSnapshot.mono (fun ok s' hs => ?_) fun _ hs => hs)
    cases hs with
    | lost => exact ensures_pure (.refused .lost)
    | read curve valid =>
      refine ensures_bind (ensures_get (ensures_pure ?_))
      split
      · exact .rebuilt curve (by simpa using hrebuilds) valid ‹_›
      · exact .refused (.read curve valid)

/-- The curve phase: what it rebuilt, and the write of it. -/
inductive CurveWritten (context : LinuxApplyTransactionContext) (s : BackendState) :
    Bool → BackendState → Prop
  | refused {s' : BackendState} (rebuilt : Rebuilt context s none s') :
      CurveWritten context s false s'
  | wrote {targets : CurveTargets} {s' s'' : BackendState} {ok : Bool}
      (rebuilt : Rebuilt context s (some targets) s')
      (frame : Frame (Named (curveTarget s'.gpu targets.targetOffsets targets.result.pointMask))
        s' s'')
      (holds : ok = true →
        Holds (curveTarget s'.gpu targets.targetOffsets targets.result.pointMask) s'') :
      CurveWritten context s ok s''

theorem CurveWritten.quiet {context : LinuxApplyTransactionContext} {ok : Bool}
    {s' : BackendState} (h : CurveWritten context s ok s') : Quiet s s' := by
  cases h with
  | refused rebuilt => exact rebuilt.quiet
  | wrote rebuilt frame => exact rebuilt.quiet.trans frame.toQuiet

/-- A reread adds to the curves read. -/
theorem Rebuilt.reads {context : LinuxApplyTransactionContext} {targets : CurveTargets}
    {s' : BackendState} (h : Rebuilt context s (some targets) s') :
    ∀ read ∈ s.curvesRead, read ∈ s'.curvesRead := by
  cases h with
  | kept => exact fun _ hread => hread
  | rebuilt => exact fun _ hread => List.mem_cons_of_mem _ hread

theorem CurveWritten.reads {context : LinuxApplyTransactionContext} {s' : BackendState}
    (h : CurveWritten context s true s') : ∀ read ∈ s.curvesRead, read ∈ s'.curvesRead := by
  cases h with
  | wrote rebuilt frame => exact fun read hread => frame.curvesRead ▸ rebuilt.reads read hread

theorem ensures_writeCurve {context : LinuxApplyTransactionContext} :
    Ensures (writeCurve context) (CurveWritten context s)
      (fun s' => s' = s ∨ CurveWritten context s false s') s := by
  refine ensures_bind (ensures_rebuildCurveTargets.mono (fun targets s' hs => ?_)
    fun s' hs => .inl hs)
  cases targets with
  | none => exact ensures_pure (.refused hs)
  | some targets =>
    exact (ensures_curveOffsets _ _).mono (fun _ s'' hs' => .wrote hs hs'.1 hs'.2)
      fun s'' hs' => .inr (.wrote hs hs' (by simp))

/-- What the curve phase leaves alone. -/
theorem quiet_writeCurve {context : LinuxApplyTransactionContext} :
    Ensures (writeCurve context) (fun _ => Quiet s) (Quiet s) s := by
  refine ensures_writeCurve.mono (fun _ _ hs => hs.quiet) ?_
  rintro s' (rfl | hs)
  · exact .refl _
  · exact hs.quiet

theorem writes_writeFan (d : DesiredSettings) (fanStart : FanRuntimeStart) :
    Writes IsFan anything (writeFan d fanStart) := by
  unfold writeFan
  split
  · exact writes_nvmlSetFan _
  · split
    · exact writes_nvmlSetFan _
    · exact writes_fanManual _

/-! ## The restoring writes -/

theorem writes_restoring {α : Type} {touched : Bool} {captured : Option α}
    {step : α → BackendM Bool} (h : ∀ value, Writes owned anything (step value)) :
    Writes owned anything (restoring touched captured step) := by
  cases captured with
  | none => exact fun s => ensures_pure ⟨.refl s, fun _ => holds_anything⟩
  | some value => exact writes_optional (h value)

theorem writes_restorePowerLimit (limitmW : Int) :
    Writes (· = .power) anything (restorePowerLimit limitmW) :=
  fun s => ensures_bind (ensures_get (writes_optional (writes_setPowerLimit limitmW).weaken s))

theorem writes_restoreFan (autoWritable speedWritable : Bool) (value : Int) (index : Nat) :
    Writes (· = .fan index) anything
      (if value = fanDriverAuto then
        if autoWritable then drive .fan (only (.fan index) fanDriverAuto) else pure false
      else if speedWritable then drive .fan (only (.fan index) value) else pure false) := by
  intro s
  split
  · split
    · exact (writes_only _ _ _).weaken s
    · exact ensures_false
  · split
    · exact (writes_only _ _ _).weaken s
    · exact ensures_false

theorem writes_restoreFans (fans : List Int) : Writes IsFan anything (restoreFans fans) := by
  intro s
  refine ensures_bind (ensures_get ?_)
  refine writes_everyOf (fun step hstep => ?_) s
  obtain ⟨⟨value, index⟩, -, rfl⟩ := List.mem_map.mp hstep
  exact (writes_restoreFan _ _ value index).mono fun r hr => ⟨index, hr⟩

/-- A rollback restores with setters only. -/
theorem writes_restoreSteps {snapshot : LinuxHardwareSnapshot} {phases : List LinuxMutationPhase}
    {step : BackendM Bool} (hstep : step ∈ restoreSteps snapshot phases) :
    Writes (fun _ => True) anything step := by
  have hany : ∀ {owned : Register → Prop} {target : BackendState → Register → Option Int}
      {step : BackendM Bool}, Writes owned target step → Writes (fun _ => True) anything step :=
    fun h => (h.mono fun _ _ => trivial).weaken
  simp only [restoreSteps, List.mem_cons, List.not_mem_nil, or_false] at hstep
  rcases hstep with rfl | rfl | rfl | rfl | rfl | rfl | rfl | rfl
  · exact writes_restoring fun value => hany (writes_graphicsOffset value)
  · exact writes_restoring fun value => hany (writes_memoryOffset _)
  · exact writes_restoring fun value => hany (writes_xbarOwned _ _ _ _)
  · exact writes_restoring fun value => hany (writes_sysClk value)
  · exact writes_restoring fun value => hany (writes_videoClk value)
  · exact writes_restoring fun value => hany (writes_restorePowerLimit value)
  · exact writes_restoring fun value => hany (writes_curveOffsets _ _)
  · exact writes_restoring fun value => hany (writes_restoreFans value)

end Primitives

/-! ## Transactions -/

section Transactions
variable {I J C : BackendState → Prop} {step : LinuxMutationPhase → BackendM Bool}
  {rollback : List LinuxMutationPhase → BackendM Bool}

/-- What every phase keeps holds until the rollback, and what the rollback leaves
holds after it. -/
theorem ensures_runPhases {phases : List LinuxMutationPhase}
    (hstep : ∀ phase ∈ phases, ∀ s, I s →
      Ensures (step phase) (fun _ => I) C (s.log (.began phase)))
    (hrollback : ∀ attempted s, I s →
      Ensures (rollback attempted) (fun _ => J) C (s.log .rollingBack))
    (hdone : ∀ s, I s → J s) (result : LinuxTransactionResult) {s : BackendState} (hs : I s) :
    Ensures (runPhases step rollback phases result) (fun _ => J) C s := by
  induction phases generalizing result s with
  | nil => exact ensures_pure (hdone s hs)
  | cons phase rest ih =>
    obtain ⟨hphase, hrest⟩ := List.forall_mem_cons.mp hstep
    refine ensures_bind (ensures_modify (ensures_bind
      ((hphase s hs).mono (fun ok s' hs' => ?_) fun _ hs' => hs')))
    split
    · refine ensures_bind (ensures_modify (ensures_bind
        ((hrollback _ s' hs').mono (fun _ _ hs'' => ?_) fun _ hs'' => hs'')))
      exact ensures_pure hs''
    · exact ih hrest _ hs'

/-- A run that succeeds takes the phases one by one, each successful. -/
theorem ensures_runPhases_success {I : List LinuxMutationPhase → BackendState → Prop}
    (hstep : ∀ phase rest s, I (phase :: rest) s →
      Ensures (step phase) (fun ok s' => ok = true → I rest s') (fun _ => True)
        (s.log (.began phase)))
    {phases : List LinuxMutationPhase} {result : LinuxTransactionResult}
    (hresult : result.success = false) {s : BackendState} (hs : I phases s) :
    Ensures (runPhases step rollback phases result)
      (fun result s' => result.success = true → I [] s') (fun _ => True) s := by
  induction phases generalizing result s with
  | nil => exact ensures_pure fun _ => hs
  | cons phase rest ih =>
    refine ensures_bind (ensures_modify (ensures_bind
      ((hstep phase rest s hs).mono (fun ok s' hs' => ?_) fun _ _ => trivial)))
    split
    · refine ensures_bind (ensures_modify (ensures_bind (ensures_true.mono
        (fun rolledBack s'' _ => ensures_pure fun hsuccess => ?_) fun _ _ => trivial)))
      exact absurd hsuccess (by simp [hresult])
    · rename_i hok
      exact ih (by exact hresult) (hs' (by simpa using hok))

end Transactions

/-! ## The start of an apply

Nothing is written before the first phase: the registers and the trace are those the
call found, but for the plan. -/

/-- Only reads were made. -/
def Untouched (s₀ s : BackendState) : Prop := s.hw = s₀.hw ∧ s.trace = s₀.trace

/-- What a captured snapshot says of the state it was captured in. -/
structure Captured (snapshot : LinuxHardwareSnapshot) (s : BackendState) : Prop where
  ready : s.gpu.nvmlReady = true
  values : ∃ reads, snapshot = captureSnapshot s.gpu s.hw reads ∧
    s.gpu.powerLimitDefaultmW = reads.powerDefaultmW
  /-- The offsets last read are the ones programmed. -/
  fresh : s.gpu.vfSnapshotFresh = true → s.gpu.freqOffsets = programmedOffsets s
  /-- The curve was read under these registers. -/
  read : s.gpu.vfSnapshotFresh = true → (s.gpu.curve, s.hw) ∈ s.curvesRead

/-- The board as the call found it, with the power default it read. -/
def SameBoard (s₀ s : BackendState) : Prop :=
  s.gpu.board = { s₀.gpu.board with powerLimitDefaultmW := s.gpu.powerLimitDefaultmW }

/-- What a mutation begins with. -/
theorem ensures_beginMutation {ceiling : CeilingState} {s₀ : BackendState} :
    Ensures (beginMutation ceiling)
      (fun captured s => Untouched s₀ s ∧ SameBoard s₀ s ∧ s.ceiling = ceiling ∧
        ∀ snapshot, captured = some snapshot → Captured snapshot s)
      (Untouched s₀) s₀ := by
  refine ensures_bind (ensures_modify (ensures_bind (ensures_refresh.mono (fun _ s hs => ?_)
    fun s hs => hs ▸ ⟨rfl, rfl⟩)))
  have huntouched : Untouched s₀ s := ⟨hs.hw_eq, hs.trace_eq⟩
  have hboard : s.gpu.board = s₀.gpu.board := hs.quiet.board
  refine ensures_bind (ensures_get ?_)
  split
  · refine ensures_pure ⟨huntouched, ?_, hs.quiet.ceiling, by simp⟩
    have hdefault : s.gpu.powerLimitDefaultmW = s₀.gpu.powerLimitDefaultmW := by
      show s.gpu.board.powerLimitDefaultmW = s₀.gpu.board.powerLimitDefaultmW
      rw [hboard]
    rw [SameBoard, hboard, hdefault]
    rfl
  · rename_i hready
    have hready : s.gpu.nvmlReady = true := by simpa using hready
    refine ensures_bind (ensures_ask huntouched fun answer => ensures_bind (ensures_modify
      (ensures_pure ⟨huntouched, ?_, hs.quiet.ceiling, fun snapshot hsnapshot => ?_⟩)))
    · exact congrArg (fun board : LinuxGpuState =>
        { board with powerLimitDefaultmW := answer.reads.powerDefaultmW }) hboard
    · split at hsnapshot
      · cases hsnapshot
        rcases hs with ⟨hnot, rfl⟩ | ⟨ok, hread⟩
        · rw [hnot] at hready
          cases hready
        · cases hread with
          | read curve valid =>
            exact ⟨hready, ⟨answer.reads, rfl, rfl⟩, fun _ => rfl, fun _ => List.mem_cons_self⟩
          | lost =>
            have hlost : ∀ {P : Prop}, false = true → P := fun h => by cases h
            exact ⟨hready, ⟨answer.reads, rfl, rfl⟩, fun h => hlost h, fun h => hlost h⟩
      · cases hsnapshot

/-- The curve is only written where it is plausible. -/
theorem curvePlausible_of_preflight {s : BackendState} {d : DesiredSettings}
    {snapshot : LinuxHardwareSnapshot} (h : linuxBackendPreflight s d snapshot = true)
    (hwrite : serviceDesiredMutationDomains d .vfCurve = true) :
    linuxBackendCurvePlausible s.gpu = true := by
  have hcurve : desiredHasCurveWrite d = true := hwrite
  by_contra hnot
  simp [linuxBackendPreflight, hcurve, hnot] at h

/-- An apply that started from `s₀` is ready to run in `s`. -/
structure Started (d : DesiredSettings) (previousIntent committedIntent : Option DesiredSettings)
    (s₀ : BackendState) (start : ApplyStart) (s : BackendState) : Prop where
  hw : s.hw = s₀.hw
  trace : s.trace = .planned (linuxApplyClockCeilingPlan s.gpu d previousIntent)
    (linuxOutgoingCeilingMHz s.gpu previousIntent) :: s₀.trace
  board : SameBoard s₀ s
  ceiling : s.ceiling = { enteringCeiling previousIntent with
    outgoingCeilingMHz := linuxOutgoingCeilingMHz s.gpu previousIntent }
  captured : Captured start.snapshot s
  preflight : linuxBackendPreflight s d start.snapshot = true
  context : ∃ fanStart, start = applyStart s.gpu d previousIntent committedIntent start.snapshot
    (linuxApplyBuildCurve s.gpu d previousIntent committedIntent) fanStart
  writable : clearsStaleGpuOffset d start.snapshot
    (linuxApplyBuildCurve s.gpu d previousIntent committedIntent) = true →
      s.gpu.gpuOffsetWritable = true

section Start
variable {d : DesiredSettings} {previousIntent committedIntent : Option DesiredSettings}
  {s₀ s : BackendState}

theorem ensures_enterApply :
    Ensures (enterApply d previousIntent)
      (fun entered s => Untouched s₀ s ∧ SameBoard s₀ s ∧
        s.ceiling = enteringCeiling previousIntent ∧ ∀ snapshot, entered = some snapshot →
          Captured snapshot s ∧ linuxBackendPreflight s d snapshot = true)
      (Untouched s₀) s₀ := by
  refine ensures_bind (ensures_beginMutation.mono (fun captured s hs => ?_) fun _ hs => hs)
  obtain ⟨huntouched, hboard, hceiling, hcaptured⟩ := hs
  cases captured with
  | none => exact ensures_pure ⟨huntouched, hboard, hceiling, by simp⟩
  | some snapshot =>
    refine ensures_bind (ensures_get (ensures_pure ⟨huntouched, hboard, hceiling, ?_⟩))
    intro entered hentered
    split at hentered
    · cases hentered
      exact ⟨hcaptured snapshot rfl, ‹_›⟩
    · cases hentered

theorem ensures_initialFanTarget :
    Ensures (initialFanTarget d) (fun _ s' => s' = s) (· = s) s := by
  unfold initialFanTarget
  split
  · refine ensures_bind (ensures_get ?_)
    split
    · exact ensures_pure rfl
    · exact ensures_bind (ensures_ask rfl fun _ => ensures_pure rfl)
  · exact ensures_pure rfl

/-- **The start of an apply**: either it was refused and nothing was written, or it is
ready to run its phases. -/
theorem ensures_startApply :
    Ensures (startApply d previousIntent committedIntent)
      (fun started s => match started with
        | none => Untouched s₀ s
        | some start => Started d previousIntent committedIntent s₀ start s)
      (Untouched s₀) s₀ := by
  refine ensures_bind (ensures_enterApply.mono (fun entered s hs => ?_) fun _ hs => hs)
  obtain ⟨huntouched, hboard, hceiling, hentered⟩ := hs
  cases entered with
  | none => exact ensures_pure huntouched
  | some snapshot =>
    obtain ⟨hcaptured, hpreflight⟩ := hentered snapshot rfl
    refine ensures_bind (ensures_modify (ensures_bind (ensures_get ?_)))
    dsimp only
    split
    · exact ensures_pure huntouched
    · rename_i hwritable
      refine ensures_bind (ensures_initialFanTarget.mono (fun fanStart s' hs' => ?_)
        fun _ hs' => hs' ▸ huntouched)
      subst hs'
      cases fanStart with
      | none => exact ensures_pure huntouched
      | some fanStart =>
        refine ensures_bind (ensures_modify (ensures_pure ?_))
        exact {
          hw := huntouched.1
          trace := congrArg _ huntouched.2
          board := hboard
          ceiling := by rw [← hceiling]; rfl
          captured := ⟨hcaptured.ready, hcaptured.values, hcaptured.fresh, hcaptured.read⟩
          preflight := hpreflight
          context := ⟨fanStart, rfl⟩
          writable := by
            intro hclears
            show s.gpu.gpuOffsetWritable = true
            cases hoff : s.gpu.gpuOffsetWritable with
            | true => rfl
            | false => exact absurd ((Bool.and_eq_true _ _).mpr ⟨hclears, by simp [hoff]⟩) hwritable }

/-- A property of the runs of an apply is one of the transactions it starts. -/
theorem ensures_linuxBackendApply {Q : LinuxTransactionResult → BackendState → Prop}
    {C : BackendState → Prop} (hdie : ∀ s, Untouched s₀ s → C s)
    (hrefused : ∀ s, Untouched s₀ s → Q {} s)
    (hrun : ∀ start s, Started d previousIntent committedIntent s₀ start s →
      Ensures (applyTransaction start)
        (fun result s' => C s' ∧ ∀ s'', Refreshed s' s'' → Q result s'') C s) :
    Ensures (linuxBackendApply d previousIntent committedIntent) Q C s₀ := by
  refine ensures_bind (ensures_startApply.mono (fun started s hs => ?_) hdie)
  cases started with
  | none => exact ensures_pure (hrefused s hs)
  | some start =>
    refine ensures_bind ((hrun start s hs).mono (fun result s' hs' => ?_) fun _ hs' => hs')
    exact ensures_bind (ensures_refresh.mono (fun _ s'' hs'' => ensures_pure (hs'.2 s'' hs''))
      fun s'' hs'' => hs'' ▸ hs'.1)

end Start

end GreenCurve.Backend
