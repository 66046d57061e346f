import GreenCurve.DaemonFrame

/-! # What an unattended write leaves behind

An unattended write that ends before the hardware was called leaves the record
and the uncertain flag as they were.  The lockout is latched without a hardware
call in two cases, both on purpose: the boot has used up its start attempts, or
the backend came up and a fan handback that had waited for it did not complete.
Every outcome is covered, the runs that die included. -/

namespace GreenCurve

open CrashM

/-- `linux_backend_apply` was called. -/
def CalledHardware (news : List DaemonAction) : Prop :=
  ∃ result, DaemonAction.mutated result ∈ news

/-- `linux_backend_apply` was called and failed, or its result was not stored. -/
def WriteFailed (news : List DaemonAction) : Prop :=
  ∃ result, DaemonAction.mutated result ∈ news ∧
    (result.success = false ∨ DaemonAction.stateStored .active false ∈ news)

namespace DaemonWorld
variable (w : DaemonWorld)

/-- The starts of this boot have used up their attempts. -/
def StartsExhausted (trigger : LinuxAutoRestoreTrigger) : Prop :=
  linuxAutoRestoreTriggerIsStart trigger = true ∧
    w.memory.autoRestoreGuard.startAttempts ≥ LINUX_AUTO_RESTORE_MAX_START_ATTEMPTS

/-- A handback waits for the backend. -/
def HandbackDue : Prop :=
  w.memory.gpuReady = false ∧ w.memory.fan.handbackDeferred = true ∧
    w.memory.fan.markerCommitted = true ∧ w.memory.fan.handbackPending = true

/-- The guard names an incomplete handback. -/
def HandbackIncomplete : Prop :=
  w.memory.autoRestoreGuard.lockoutReason = SERVICE_AUTO_RESTORE_LOCKOUT_HANDBACK_INCOMPLETE

end DaemonWorld

/-- What an unattended write from `w` may leave in `w'`, having done `news`. -/
structure RestoreOutcome (trigger : LinuxAutoRestoreTrigger) (w w' : DaemonWorld)
    (news : List DaemonAction) : Prop where
  trace : w'.trace = w.trace ++ news
  record : w'.disk.state = w.disk.state ∨ CalledHardware news
  uncertain : w'.memory.stateUncertain = w.memory.stateUncertain ∨ WriteFailed news
  lockout : w'.memory.autoRestoreGuard.lockedOut = w.memory.autoRestoreGuard.lockedOut ∨
    WriteFailed news ∨ w.StartsExhausted trigger ∨ (w.HandbackDue ∧ w'.HandbackIncomplete)

/-! ## Before the hardware is called -/

/-- Nothing was called, recorded or found uncertain since `w`. -/
structure Unwritten (w w' : DaemonWorld) : Prop where
  trace : w'.trace = w.trace
  record : w'.disk.state = w.disk.state
  uncertain : w'.memory.stateUncertain = w.memory.stateUncertain

/-- Nor was the lockout latched. -/
structure Unlatched (w w' : DaemonWorld) : Prop extends Unwritten w w' where
  lockedOut : w'.memory.autoRestoreGuard.lockedOut = w.memory.autoRestoreGuard.lockedOut

section Before
variable {w w' : DaemonWorld} {trigger : LinuxAutoRestoreTrigger}

theorem Unwritten.setGuard (h : Unwritten w w') (guard : LinuxAutoRestoreGuard) :
    Unwritten w (w'.setGuard guard) :=
  ⟨h.trace, h.record, h.uncertain⟩

theorem Unwritten.storeGuard (h : Unwritten w w') : Unwritten w w'.storeGuard :=
  ⟨h.trace, h.record, h.uncertain⟩

theorem Unlatched.refl (w : DaemonWorld) : Unlatched w w := ⟨⟨rfl, rfl, rfl⟩, rfl⟩

theorem Unlatched.setGuard (h : Unlatched w w') {guard : LinuxAutoRestoreGuard}
    (hlocked : guard.lockedOut = w'.memory.autoRestoreGuard.lockedOut) :
    Unlatched w (w'.setGuard guard) :=
  ⟨h.toUnwritten.setGuard guard, hlocked.trans h.lockedOut⟩

theorem Unlatched.storeGuard (h : Unlatched w w') : Unlatched w w'.storeGuard :=
  ⟨h.toUnwritten.storeGuard, h.lockedOut⟩

/-- Nor was the backend or the fan's owner touched. -/
structure Authorized (w w' : DaemonWorld) : Prop extends Unlatched w w' where
  gpuReady : w'.memory.gpuReady = w.memory.gpuReady
  fan : w'.memory.fan = w.memory.fan

theorem Authorized.refl (w : DaemonWorld) : Authorized w w := ⟨.refl w, rfl, rfl⟩

theorem Authorized.setGuard (h : Authorized w w') {guard : LinuxAutoRestoreGuard}
    (hlocked : guard.lockedOut = w'.memory.autoRestoreGuard.lockedOut) :
    Authorized w (w'.setGuard guard) :=
  ⟨h.toUnlatched.setGuard hlocked, h.gpuReady, h.fan⟩

theorem Authorized.storeGuard (h : Authorized w w') : Authorized w w'.storeGuard :=
  ⟨h.toUnlatched.storeGuard, h.gpuReady, h.fan⟩

theorem unlatched_fanKeeping (w : DaemonWorld) : FanKeeping (Unlatched w) where
  fan _ _ h := ⟨⟨h.trace, h.record, h.uncertain⟩, h.lockedOut⟩
  fanMarker _ _ h := ⟨⟨h.trace, h.record, h.uncertain⟩, h.lockedOut⟩

/-- An authorisation that is not given latches nothing, unless the starts of this
boot are exhausted. -/
def Denied (trigger : LinuxAutoRestoreTrigger) (w w' : DaemonWorld) : Prop :=
  Unwritten w w' ∧
    (w'.memory.autoRestoreGuard.lockedOut = w.memory.autoRestoreGuard.lockedOut ∨
      w.StartsExhausted trigger)

theorem Unlatched.denied (h : Unlatched w w') : Denied trigger w w' :=
  ⟨h.toUnwritten, .inl h.lockedOut⟩

/-- Only the attempts of a boot can be exhausted, and only for a start. -/
theorem exhausted_of_verdict {guard : LinuxAutoRestoreGuard} {uncertain : Bool} {nowMs : UInt32}
    (h : linuxAutoRestoreDecide guard trigger uncertain nowMs = .denyAttemptsExhausted) :
    linuxAutoRestoreTriggerIsStart trigger = true ∧
      guard.startAttempts ≥ LINUX_AUTO_RESTORE_MAX_START_ATTEMPTS := by
  unfold linuxAutoRestoreDecide at h
  split_ifs at h with hnone hlocked huncertain hresume hbudget hattempts
  exact ⟨by simpa using hresume, hattempts⟩

theorem noteResumeTrigger_start (h : linuxAutoRestoreTriggerIsStart trigger = true)
    (guard : LinuxAutoRestoreGuard) (nowMs : UInt32) :
    noteResumeTrigger trigger guard nowMs = guard := by
  simp [noteResumeTrigger, h]

theorem exhausted_of_noted (w : DaemonWorld) (trigger : LinuxAutoRestoreTrigger) (nowMs : UInt32)
    (h : (w.setGuard (noteResumeTrigger trigger w.memory.autoRestoreGuard nowMs)).verdict trigger
      nowMs = .denyAttemptsExhausted) : w.StartsExhausted trigger := by
  obtain ⟨hstart, hattempts⟩ := exhausted_of_verdict h
  have hguard := noteResumeTrigger_start hstart w.memory.autoRestoreGuard nowMs
  exact ⟨hstart, hguard ▸ hattempts⟩

/-- An exhausted boot is latched; any other verdict leaves the guard as it is. -/
theorem ensures_latchExhausted {verdict : LinuxAutoRestoreVerdict} {guard : LinuxAutoRestoreGuard}
    (h : Denied trigger w w')
    (hlatched : verdict = .denyAttemptsExhausted →
      Denied trigger w (w'.setGuard
        (linuxAutoRestoreNoteLockout guard SERVICE_AUTO_RESTORE_LOCKOUT_UNSTABLE_APPLY))) :
    Ensures (latchExhausted verdict guard) (fun _ => Denied trigger w) (Denied trigger w) w' := by
  have hpersist : Keeps (Denied trigger w) (Denied trigger w) persistAutoRestoreGuard :=
    keeps_persistAutoRestoreGuard fun w' h => ⟨h.1.storeGuard, h.2⟩
  unfold latchExhausted CrashM.when
  split
  · rename_i hlatch
    have hverdict : verdict = .denyAttemptsExhausted := by
      simp only [Bool.and_eq_true, beq_iff_eq] at hlatch
      exact hlatch.1
    refine ensures_bind (ensures_modify ?_)
    exact (hpersist.bind fun _ => keeps_pure _) _ (hlatched hverdict)
  · exact ensures_pure h

theorem ensures_authorize (trigger : LinuxAutoRestoreTrigger) (w : DaemonWorld) :
    Ensures (autoRestoreAuthorize trigger)
      (fun authorized w' => if authorized then Authorized w w' else Denied trigger w w')
      (Denied trigger w) w := by
  have hrefl := Authorized.refl w
  refine ensures_bind (ensures_ask hrefl.denied fun clock => ensures_bind (ensures_modify ?_))
  have hnoted := hrefl.setGuard (noteResumeTrigger_lockedOut trigger
    w.memory.autoRestoreGuard clock.nowMs)
  have hexhausted := exhausted_of_noted w trigger clock.nowMs
  generalize w.setGuard (noteResumeTrigger trigger w.memory.autoRestoreGuard clock.nowMs) = w₁
    at hnoted hexhausted ⊢
  refine ensures_bind (ensures_get ?_)
  show Ensures (if w₁.verdict trigger clock.nowMs ≠ .allow then _ else _) _ _ _
  split
  · refine ensures_bind ((ensures_latchExhausted hnoted.denied fun h => ?_).mono
      (fun _ w' h => ensures_pure h) fun _ h => h)
    exact ⟨hnoted.toUnwritten.setGuard _, .inr (hexhausted h)⟩
  · cases linuxAutoRestoreTriggerIsStart trigger with
    | false => exact ensures_pure hnoted
    | true =>
      have hcounted := hnoted.setGuard (noteStartAttempt_lockedOut w₁.memory.autoRestoreGuard)
      exact ensures_countStartAttempt (I := Denied trigger w) hnoted.denied hcounted.denied
        hcounted.storeGuard

theorem noteLockout_incomplete (guard : LinuxAutoRestoreGuard) :
    (linuxAutoRestoreNoteLockout guard SERVICE_AUTO_RESTORE_LOCKOUT_HANDBACK_INCOMPLETE).lockoutReason =
      SERVICE_AUTO_RESTORE_LOCKOUT_HANDBACK_INCOMPLETE :=
  if_pos (.inr rfl)

/-- Preparing the backend latches nothing but a handback that did not complete. -/
def Prepared (w w' : DaemonWorld) : Prop :=
  Unwritten w w' ∧
    (w'.memory.autoRestoreGuard.lockedOut = w.memory.autoRestoreGuard.lockedOut ∨
      (w.HandbackDue ∧ w'.memory.autoRestoreGuard.lockedOut = true ∧ w'.HandbackIncomplete))

theorem prepared_handbackKeeping (hdue : w.HandbackDue) :
    HandbackKeeping (Prepared w) where
  fan _ _ h := ⟨⟨h.1.trace, h.1.record, h.1.uncertain⟩, h.2⟩
  fanMarker _ _ h := ⟨⟨h.1.trace, h.1.record, h.1.uncertain⟩, h.2⟩
  latched _ h := ⟨h.1.setGuard _, .inr ⟨hdue, rfl, noteLockout_incomplete _⟩⟩
  guardStored _ h := ⟨h.1.storeGuard, h.2⟩

/-- A handback that was not due is not run when the backend comes up. -/
theorem ensures_resumeDeferred (h : Authorized w w') (hready : w'.memory.gpuReady = false) :
    Ensures daemonFanOwnershipResumeDeferredHandback (fun _ => Prepared w) (Prepared w)
      (w'.setGpuReady true) := by
  have hup : Prepared w (w'.setGpuReady true) :=
    ⟨⟨h.trace, h.record, h.uncertain⟩, .inl h.lockedOut⟩
  by_cases hdue : w.HandbackDue
  · exact (prepared_handbackKeeping hdue).resumeDeferredHandback _ hup
  · refine ensures_bind (ensures_get ?_)
    unfold CrashM.when
    split
    · rename_i hdeferred
      refine ensures_bind (ensures_modify ?_)
      split
      · -- The flags were those of `w`, so a handback was due.
        rename_i howned
        simp only [DaemonWorld.setGpuReady, h.fan, Bool.and_eq_true, and_true]
          at hdeferred howned
        exact absurd ⟨h.gpuReady ▸ hready, hdeferred, howned⟩ hdue
      · exact ensures_pure ⟨⟨h.trace, h.record, h.uncertain⟩, .inl h.lockedOut⟩
    · exact ensures_pure hup

theorem ensures_prepareBackend (h : Authorized w w') :
    Ensures autoRestorePrepareBackend (fun _ => Prepared w) (Prepared w) w' := by
  have hprepared : Prepared w w' := ⟨h.toUnwritten, .inl h.lockedOut⟩
  refine ensures_bind (ensures_get ?_)
  split
  · exact keeps_succeeds w' hprepared
  · rename_i hready
    refine keeps_succeeds.ensures_bind (I := (· = w')) rfl (fun _ h => h ▸ hprepared) ?_
    rintro initialized _ rfl
    split
    · exact ensures_pure hprepared
    · refine ensures_bind (ensures_modify (ensures_bind ?_))
      exact (ensures_resumeDeferred h (by simpa using hready)).mono
        (fun _ => keeps_succeeds) fun _ h => h

end Before

/-! ## From the hardware call on -/

section After
variable {w w' : DaemonWorld} {trigger : LinuxAutoRestoreTrigger}

/-- A failed write explains whatever is latched or recorded afterwards. -/
def Failed (w w' : DaemonWorld) : Prop :=
  ∃ news, w'.trace = w.trace ++ news ∧ WriteFailed news

theorem WriteFailed.append {news : List DaemonAction} (h : WriteFailed news)
    (more : List DaemonAction) : WriteFailed (news ++ more) := by
  obtain ⟨result, hcalled, hfailed⟩ := h
  refine ⟨result, List.mem_append_left _ hcalled, ?_⟩
  exact hfailed.imp_right fun hstored => List.mem_append_left _ hstored

theorem Failed.log (h : Failed w w') (action : DaemonAction) : Failed w (w'.log action) := by
  obtain ⟨news, htrace, hfailed⟩ := h
  refine ⟨news ++ [action], ?_, hfailed.append _⟩
  rw [DaemonWorld.log, htrace, List.append_assoc]

theorem failed_bookkeeping (w : DaemonWorld) : Bookkeeping (Failed w) where
  fan _ _ h := h
  fanMarker _ _ h := h
  gpuReady _ _ h := h
  uncertain _ h := h
  lockout _ _ h := h
  guardStored _ h := h

theorem failed_recordKeeping (w : DaemonWorld) : RecordKeeping (Failed w) where
  state _ _ h := h
  active _ _ h := h
  log _ action _ h := h.log action

theorem Failed.outcome (h : Failed w w') :
    ∃ news, RestoreOutcome trigger w w' news := by
  obtain ⟨news, htrace, hfailed⟩ := h
  have hcalled : CalledHardware news := hfailed.imp fun _ h => h.1
  exact ⟨news, htrace, .inr hcalled, .inr hfailed, .inr (.inl hfailed)⟩

theorem Prepared.outcome (h : Prepared w w') : ∃ news, RestoreOutcome trigger w w' news := by
  refine ⟨[], (List.append_nil _).symm ▸ h.1.trace, .inl h.1.record, .inl h.1.uncertain, ?_⟩
  exact h.2.imp_right fun hlatched => .inr (.inr ⟨hlatched.1, hlatched.2.2⟩)

theorem Denied.outcome (h : Denied trigger w w') : ∃ news, RestoreOutcome trigger w w' news := by
  refine ⟨[], (List.append_nil _).symm ▸ h.1.trace, .inl h.1.record, .inl h.1.uncertain, ?_⟩
  exact h.2.imp_right fun hexhausted => .inr (.inl hexhausted)

/-- The hardware was called, and nothing was latched or found uncertain since. -/
structure Called (news : List DaemonAction) (w w' : DaemonWorld) : Prop where
  trace : w'.trace = w.trace ++ news
  called : CalledHardware news
  uncertain : w'.memory.stateUncertain = w.memory.stateUncertain
  lockedOut : w'.memory.autoRestoreGuard.lockedOut = w.memory.autoRestoreGuard.lockedOut

theorem called_fanKeeping (news : List DaemonAction) (w : DaemonWorld) :
    FanKeeping (Called news w) where
  fan _ _ h := ⟨h.trace, h.called, h.uncertain, h.lockedOut⟩
  fanMarker _ _ h := ⟨h.trace, h.called, h.uncertain, h.lockedOut⟩

theorem Called.outcome {news : List DaemonAction} (h : Called news w w') :
    ∃ news, RestoreOutcome trigger w w' news :=
  ⟨news, h.trace, .inr h.called, .inl h.uncertain, .inl h.lockedOut⟩

theorem Called.failed {news : List DaemonAction} (h : Called news w w')
    {result : LinuxMutationResult} (hcalled : DaemonAction.mutated result ∈ news)
    (hfailed : result.success = false ∨ DaemonAction.stateStored .active false ∈ news) :
    Failed w w' :=
  ⟨news, h.trace, result, hcalled, hfailed⟩

/-- The call, with the guard open and the state certain. -/
theorem Unlatched.call (h : Unlatched w w') (request : DesiredSettings)
    (result : LinuxMutationResult) :
    Called [.automaticWrite trigger request, .mutated result] w
      ((w'.log (.automaticWrite trigger request)).log (.mutated result)) := by
  refine ⟨?_, ⟨result, by simp⟩, h.uncertain, h.lockedOut⟩
  simp [DaemonWorld.log, h.trace]

theorem Unlatched.issued (h : Unlatched w w') (request : DesiredSettings) :
    ∃ news, RestoreOutcome trigger w (w'.log (.automaticWrite trigger request)) news := by
  refine ⟨[.automaticWrite trigger request], ?_, .inl h.record, .inl h.uncertain, .inl h.lockedOut⟩
  rw [DaemonWorld.log, h.trace]

/-- A write that is settled without a failure leaves the state certain, as it was. -/
theorem ensures_settleRestore {news : List DaemonAction} {committed : DesiredSettings}
    {result : LinuxMutationResult} (h : Called news w w')
    (hcalled : DaemonAction.mutated result ∈ news) (hcertain : w.memory.stateUncertain = false) :
    Ensures (settleAutomaticRestore committed result)
      (fun _ w'' => ∃ news, RestoreOutcome trigger w w'' news)
      (fun w'' => ∃ news, RestoreOutcome trigger w w'' news) w' := by
  have hb := failed_bookkeeping w
  have hr := failed_recordKeeping w
  unfold settleAutomaticRestore
  split
  · rename_i hsuccess
    have hfailed := h.failed hcalled (.inl (by simpa using hsuccess))
    exact (hr.failAutomaticRestore hb committed w' hfailed).mono
      (fun _ _ h => h.outcome) fun _ h => h.outcome
  · refine ensures_bind (ensures_storeRecord h.outcome fun stored => ?_)
    cases stored with
    | false =>
      have hfailed : Failed w (w'.storeState ⟨.active, committed, 0, .none⟩ false) := by
        refine ⟨news ++ [.stateStored .active false], ?_, result,
          List.mem_append_left _ hcalled, .inr (List.mem_append_right _ (by simp))⟩
        simp [DaemonWorld.storeState, DaemonWorld.log, h.trace]
      exact ((hr.settling.restoreSnapshot.bind fun _ => hr.failAutomaticRestore hb committed) _ hfailed).mono
        (fun _ _ h => h.outcome) fun _ h => h.outcome
    | true =>
      have hactive : Called (news ++ [.stateStored .active true]) w
          ((w'.storeState ⟨.active, committed, 0, .none⟩ true).setActive (some committed)) := by
        refine ⟨?_, h.called.imp fun _ => List.mem_append_left _, hcertain.symm, h.lockedOut⟩
        simp [DaemonWorld.storeState, DaemonWorld.log, DaemonWorld.setActive,
          DaemonWorld.setState, h.trace]
      refine ensures_bind (ensures_modify ?_)
      refine ((Keeps.when (called_fanKeeping _ w).retire).bind fun _ => keeps_pure true) _ hactive
        |>.mono (fun _ _ h => h.outcome) fun _ h => h.outcome

theorem mayWrite_cases {guard : LinuxAutoRestoreGuard} {uncertain pending owned : Bool}
    (h : linuxAutoRestoreMayWriteAfterPrepare guard uncertain pending owned = true) :
    guard.lockedOut = false ∧ uncertain = false := by
  simp only [linuxAutoRestoreMayWriteAfterPrepare, Bool.and_eq_true, Bool.not_eq_true'] at h
  exact h.1.1

/-- A write may only be issued where nothing was latched while it was prepared. -/
theorem Prepared.unlatched (h : Prepared w w')
    (hopen : w'.memory.autoRestoreGuard.lockedOut = false) : Unlatched w w' := by
  refine ⟨h.1, ?_⟩
  rcases h.2 with hsame | ⟨_, hlatched, _⟩
  · exact hsame
  · exact nomatch hopen.symm.trans hlatched

theorem ensures_writeRestore (h : Authorized w w') (intent : DesiredSettings) :
    Ensures (writeAutomaticRestore trigger intent)
      (fun _ w'' => ∃ news, RestoreOutcome trigger w w'' news)
      (fun w'' => ∃ news, RestoreOutcome trigger w w'' news) w' := by
  refine ensures_bind ((ensures_prepareBackend h).mono (fun prepared w' h => ?_)
    fun _ h => h.outcome)
  split
  · exact ensures_pure h.outcome
  refine keeps_allowsSelectedWrite.ensures_bind h (fun _ h => h.outcome) fun owned w' h => ?_
  refine ensures_bind (ensures_get ?_)
  split
  · exact ensures_pure h.outcome
  rename_i hmay
  obtain ⟨hopen, hcertain⟩ := mayWrite_cases (by simpa using hmay)
  have hcertain : w.memory.stateUncertain = false := h.1.uncertain ▸ hcertain
  have hfan := unlatched_fanKeeping w
  have hdie : ∀ w', Unlatched w w' → ∃ news, RestoreOutcome trigger w w' news :=
    fun _ h => h.denied.outcome
  refine keeps_succeeds.ensures_bind (h.unlatched hopen) hdie fun captured w' h => ?_
  split
  · exact ensures_pure (hdie w' h)
  refine (hfan.ensureBeforeWrite _).ensures_bind h hdie fun recorded w' h => ?_
  split
  · exact ensures_pure (hdie w' h)
  refine ensures_bind (ensures_modify (ensures_bind (ensures_mutateHardware ?_ fun result => ?_)))
  · -- A run that dies in the call has not logged it.
    exact h.issued _
  · exact ensures_settleRestore (h.call _ result) (by simp) hcertain

end After

/-! ## The outcome of a run -/

/-- **An automatic restore that changed nothing does not disable automation.**
Whatever it is triggered by and however its run ends, the record only changes and
the state only becomes uncertain after `linux_backend_apply` was called; the
lockout is otherwise latched only by exhausted start attempts or by a handback
that did not complete. -/
theorem automaticRestore_outcome (trigger : LinuxAutoRestoreTrigger) (intent : DesiredSettings)
    (answers : List Answer) (w : DaemonWorld) :
    ∃ news, RestoreOutcome trigger w
      ((daemonAutomaticRestoreWrite trigger intent).exec answers w).2 news := by
  refine Ensures.exec_snd (C := fun w' => ∃ news, RestoreOutcome trigger w w' news) ?_ answers
  refine ensures_bind ((ensures_authorize trigger w).mono (fun authorized w' h => ?_)
    fun _ h => h.outcome)
  cases authorized with
  | false => exact ensures_pure h.outcome
  | true => exact ensures_writeRestore h intent

/-- A fourth start of one boot is denied, and latches the lockout without a write. -/
theorem exhaustedStart_latched :
    let guard : LinuxAutoRestoreGuard := { startAttempts := 3 }
    let w : DaemonWorld := { disk := {}, memory := { autoRestoreGuard := guard }, bootId := [] }
    let w' := ((daemonAutomaticRestoreWrite .bootRestoreLast {}).exec [{}, {}] w).2
    w.memory.autoRestoreGuard.lockedOut = false ∧
      w'.memory.autoRestoreGuard.lockedOut = true ∧ w'.trace = [] := by
  decide +kernel

end GreenCurve
