import GreenCurve.Daemon

/-! # What the daemon's programs keep

The rules every invariant of the daemon is proved with.  `Bookkeeping` and
`RecordKeeping` name the small updates the programs are made of; a predicate that
survives them survives every program that makes no others. -/

namespace GreenCurve

open CrashM

/-- `I` survives the bookkeeping of the fan's owner. -/
structure FanKeeping (I : DaemonWorld → Prop) : Prop where
  fan : ∀ w fan, I w → I (w.setFan fan)
  fanMarker : ∀ w file, I w → I (w.setFanMarker file)

/-- `I` also survives a handback that is latched as incomplete, and the store of the
guard. -/
structure HandbackKeeping (I : DaemonWorld → Prop) : Prop extends FanKeeping I where
  latched : ∀ w, I w → I (w.setGuard (linuxAutoRestoreNoteLockout w.memory.autoRestoreGuard
    SERVICE_AUTO_RESTORE_LOCKOUT_HANDBACK_INCOMPLETE))
  guardStored : ∀ w, I w → I w.storeGuard

/-- `I` also survives a backend coming up, a lockout latched for any reason and
stored, and the step into uncertainty. -/
structure Bookkeeping (I : DaemonWorld → Prop) : Prop extends FanKeeping I where
  gpuReady : ∀ w ready, I w → I (w.setGpuReady ready)
  uncertain : ∀ w, I w → I w.setUncertain
  lockout : ∀ w reason, I w →
    I (w.setGuard (linuxAutoRestoreNoteLockout w.memory.autoRestoreGuard reason))
  guardStored : ∀ w, I w → I w.storeGuard

section FanKeeping
variable {I : DaemonWorld → Prop}

theorem keeps_succeeds : Keeps I I succeeds :=
  (keeps_ask fun _ h => h).bind fun _ => keeps_pure _

theorem keeps_allowsSelectedWrite : Keeps I I daemonFanOwnershipAllowsSelectedWrite :=
  keeps_get.bind fun _ => Keeps.ite (fun _ => keeps_pure _) fun _ => keeps_succeeds

theorem FanKeeping.fanMarkerStore (h : FanKeeping I) (marker : LinuxFanOwnershipMarker) :
    Keeps I I (linuxFanOwnershipMarkerStore marker) := by
  refine keeps_succeeds.bind fun ok => (keeps_modify fun w hw => ?_).bind fun _ => keeps_pure ok
  split
  · exact h.fanMarker w _ hw
  · exact hw

theorem FanKeeping.commitFanMarker (h : FanKeeping I) : Keeps I I commitFanMarker := by
  refine keeps_succeeds.bind fun bootKnown => Keeps.ite (fun _ => keeps_pure _) fun _ => ?_
  refine keeps_get.bind fun w => (h.fanMarkerStore _).bind fun stored => ?_
  refine Keeps.ite (fun _ => keeps_pure _) fun _ => ?_
  exact (keeps_modify fun w hw => h.fan w _ hw).bind fun _ => keeps_pure _

theorem FanKeeping.ensureBeforeWrite (h : FanKeeping I) (committed : DesiredSettings) :
    Keeps I I (daemonFanOwnershipEnsureBeforeWrite committed) := by
  refine Keeps.ite (fun _ => keeps_pure _) fun _ => ?_
  refine keeps_succeeds.bind fun resolved => Keeps.ite (fun _ => keeps_pure _) fun _ => ?_
  refine keeps_allowsSelectedWrite.bind fun allowed => ?_
  refine Keeps.ite (fun _ => keeps_pure _) fun _ => keeps_get.bind fun w => ?_
  exact Keeps.ite (fun _ => keeps_pure _) fun _ => h.commitFanMarker

theorem FanKeeping.retire (h : FanKeeping I) : Keeps I I daemonFanOwnershipRetire := by
  refine keeps_allowsSelectedWrite.bind fun allowed => Keeps.when ?_
  refine keeps_succeeds.bind fun removed => Keeps.when ?_
  exact keeps_modify fun w hw => h.fan _ _ (h.fanMarker w _ hw)

theorem keeps_forceEmergencyDuty (autoOk : Bool) : Keeps I I (forceEmergencyDuty autoOk) :=
  Keeps.when (keeps_succeeds.bind fun _ => keeps_pure _)

theorem keeps_returnFanToDriver : Keeps I I returnFanToDriver :=
  keeps_succeeds.bind fun autoOk => (keeps_forceEmergencyDuty autoOk).bind fun _ => keeps_pure _

theorem FanKeeping.releaseForUncertain (h : FanKeeping I) :
    Keeps I I daemonFanOwnershipReleaseForUncertain := by
  refine keeps_get.bind fun w => Keeps.when (keeps_allowsSelectedWrite.bind fun allowed => ?_)
  refine Keeps.when (keeps_returnFanToDriver.bind fun autoOk => ?_)
  exact Keeps.when h.retire

theorem FanKeeping.releaseFanToDriver (h : FanKeeping I) :
    Keeps I I daemonReleaseFanToDriver := by
  refine keeps_get.bind fun w => Keeps.when (keeps_allowsSelectedWrite.bind fun allowed => ?_)
  refine Keeps.when (keeps_returnFanToDriver.bind fun autoOk => ?_)
  exact Keeps.when h.retire

end FanKeeping

section HandbackKeeping
variable {I : DaemonWorld → Prop}

theorem keeps_persistAutoRestoreGuard (hstored : ∀ w, I w → I w.storeGuard) :
    Keeps I I persistAutoRestoreGuard := by
  refine keeps_succeeds.bind fun ok => (keeps_modify fun w hw => ?_).bind fun _ => keeps_pure ok
  split
  · exact hstored w hw
  · exact hw

theorem HandbackKeeping.latchIncomplete (h : HandbackKeeping I) :
    Keeps I I daemonFanOwnershipLatchIncomplete :=
  (keeps_modify fun w hw => h.latched w hw).bind fun _ =>
    (keeps_persistAutoRestoreGuard h.guardStored).bind fun _ => keeps_pure _

theorem HandbackKeeping.handBackSelected (h : HandbackKeeping I)
    (marker : LinuxFanOwnershipMarker) : Keeps I I (handBackSelected marker) := by
  refine (h.fanMarkerStore _).bind fun stored => Keeps.when ?_
  refine (keeps_modify fun w hw => h.fan w _ hw).bind fun _ => ?_
  refine keeps_returnFanToDriver.bind fun autoOk => Keeps.ite (fun _ => h.retire) fun _ => ?_
  exact (h.fanMarkerStore _).bind fun _ => h.latchIncomplete

theorem HandbackKeeping.runHandback (h : HandbackKeeping I) (marker : LinuxFanOwnershipMarker) :
    Keeps I I (daemonFanOwnershipRunHandback marker) := by
  have hknown : Keeps I I (handbackTargetKnown marker) :=
    Keeps.ite (fun _ => keeps_pure _) fun _ => keeps_succeeds
  refine hknown.bind fun known => Keeps.ite (fun _ => h.latchIncomplete) fun _ => ?_
  refine keeps_succeeds.bind fun selected => Keeps.ite (fun _ => h.latchIncomplete) fun _ => ?_
  exact h.handBackSelected _

theorem HandbackKeeping.handBackOutstanding (h : HandbackKeeping I)
    (verdict : OwnershipHandbackVerdict) (marker : LinuxFanOwnershipMarker) :
    Keeps I I (handBackOutstanding verdict marker) := by
  refine (keeps_modify fun w hw => h.fan w _ hw).bind fun _ => keeps_get.bind fun w => ?_
  refine Keeps.ite (fun _ => h.latchIncomplete) fun _ => ?_
  exact Keeps.ite (fun _ => keeps_modify fun w hw => h.fan w _ hw) fun _ => h.runHandback marker

theorem HandbackKeeping.handbackAtStart (h : HandbackKeeping I) :
    Keeps I I daemonFanOwnershipHandbackAtStart := by
  have hfollow : ∀ verdict marker, Keeps I I (followHandbackVerdict verdict marker) := by
    intro verdict marker
    cases verdict with
    | noMarker => exact keeps_pure _
    | run => exact h.handBackOutstanding _ _
    | discardOtherBoot => exact h.retire
    | discardUnproven => exact h.retire
    | giveUpPreviousAttemptDied => exact h.handBackOutstanding _ _
  refine keeps_succeeds.bind fun readable => keeps_succeeds.bind fun bootKnown => ?_
  exact keeps_get.bind fun w => hfollow _ _

theorem HandbackKeeping.resumeDeferredHandback (h : HandbackKeeping I) :
    Keeps I I daemonFanOwnershipResumeDeferredHandback := by
  refine keeps_get.bind fun w => Keeps.when ?_
  exact (keeps_modify fun w hw => h.fan w _ hw).bind fun _ => Keeps.when (h.runHandback _)

end HandbackKeeping

section Bookkeeping
variable {I : DaemonWorld → Prop}

theorem Bookkeeping.handback (h : Bookkeeping I) : HandbackKeeping I where
  toFanKeeping := h.toFanKeeping
  latched w hw := h.lockout w _ hw
  guardStored := h.guardStored

theorem Bookkeeping.persistAutoRestoreGuard (h : Bookkeeping I) :
    Keeps I I persistAutoRestoreGuard :=
  keeps_persistAutoRestoreGuard h.guardStored

theorem Bookkeeping.enterUncertainState (h : Bookkeeping I) : Keeps I I daemonEnterUncertainState :=
  (keeps_modify fun w hw => h.uncertain w hw).bind fun _ => h.releaseForUncertain

theorem Bookkeeping.resumeDeferredHandback (h : Bookkeeping I) :
    Keeps I I daemonFanOwnershipResumeDeferredHandback :=
  h.handback.resumeDeferredHandback

theorem Bookkeeping.prepareBackend (h : Bookkeeping I) : Keeps I I autoRestorePrepareBackend := by
  refine keeps_get.bind fun w => Keeps.ite (fun _ => keeps_succeeds) fun _ => ?_
  refine keeps_succeeds.bind fun initialized => Keeps.ite (fun _ => keeps_pure _) fun _ => ?_
  refine (keeps_modify fun w hw => h.gpuReady w _ hw).bind fun _ => ?_
  exact h.resumeDeferredHandback.bind fun _ => keeps_succeeds

theorem Bookkeeping.noteAutomaticFailure (h : Bookkeeping I) :
    Keeps I I autoRestoreNoteAutomaticFailure := by
  refine keeps_get_bind fun w hw => ?_
  unfold CrashM.when
  split
  · refine ensures_bind (ensures_modify ?_)
    exact (h.persistAutoRestoreGuard.bind fun _ => keeps_pure _) _ (h.lockout w _ hw)
  · exact ensures_pure hw

theorem Bookkeeping.retryBackendForRead (h : Bookkeeping I) :
    Keeps I I daemonRetryBackendForRead := by
  refine keeps_get.bind fun w => Keeps.when (keeps_succeeds.bind fun initialized => ?_)
  exact Keeps.when (keeps_modify fun w hw => h.gpuReady w _ hw)

end Bookkeeping

/-! ## Programs that keep the state record -/

/-- What the daemon does that no guard depends on. -/
def DaemonAction.isRecordKeeping : DaemonAction → Bool
  | .automaticWrite _ _ => false
  | .rearmed => false
  | .cleanStop => false
  | _ => true

/-- `I` survives changes of the startup policy. -/
structure PolicyKeeping (I : DaemonWorld → Prop) : Prop where
  startup : ∀ w file, I w → I (w.setStartup file)
  policy : ∀ w policy, I w → I (w.setPolicy policy)

/-- `I` survives changes of the state record and of the active intent, and the log of
what they and the hardware did. -/
structure RecordKeeping (I : DaemonWorld → Prop) : Prop where
  state : ∀ w file, I w → I (w.setState file)
  active : ∀ w desired, I w → I (w.setActive desired)
  log : ∀ w (action : DaemonAction), action.isRecordKeeping = true → I w → I (w.log action)

/-! ### The state record

`P` says which records may be stored. -/

/-- `I` survives the calls on the state file. -/
structure StoreKeeping (P : LinuxDaemonStateRecord → Prop) (I : DaemonWorld → Prop) : Prop where
  store : ∀ w record ok, P record → I w → I (w.storeState record ok)
  remove : ∀ w ok, I w → I (w.removeState ok)
  discard : ∀ w, w.disk.state = .damaged → I w → I (w.setState .absent)

section StoreKeeping
variable {P : LinuxDaemonStateRecord → Prop} {I : DaemonWorld → Prop}

theorem ensures_storeRecord {record : LinuxDaemonStateRecord} {Q : Bool → DaemonWorld → Prop}
    {C : DaemonWorld → Prop} {w : DaemonWorld} (hdie : C w)
    (h : ∀ ok, Q ok (w.storeState record ok)) : Ensures (storeRecord record) Q C w :=
  ensures_bind (ensures_bind (ensures_ask hdie fun answer =>
    ensures_pure (ensures_bind (ensures_modify (ensures_pure (h answer.ok))))))

theorem ensures_stateRemove {Q : Bool → DaemonWorld → Prop} {C : DaemonWorld → Prop}
    {w : DaemonWorld} (hdie : C w) (h : ∀ ok, Q ok (w.removeState ok)) :
    Ensures linuxDaemonStateRemove Q C w :=
  ensures_bind (ensures_bind (ensures_ask hdie fun answer =>
    ensures_pure (ensures_bind (ensures_modify (ensures_pure (h answer.ok))))))

theorem StoreKeeping.storeRecord (h : StoreKeeping P I) {record : LinuxDaemonStateRecord}
    (hP : P record) : Keeps I I (storeRecord record) :=
  fun w hw => ensures_storeRecord hw fun ok => h.store w record ok hP hw

theorem StoreKeeping.stateRemove (h : StoreKeeping P I) : Keeps I I linuxDaemonStateRemove :=
  fun w hw => ensures_stateRemove hw fun ok => h.remove w ok hw

/-- What is loaded is what the file holds. -/
theorem StoreKeeping.ensures_stateLoad (h : StoreKeeping P I) {w : DaemonWorld} (hw : I w) :
    Ensures linuxDaemonStateLoad
      (fun result w' => I w' ∧ ∀ saved, result = .loaded saved → w'.disk.state = .record saved)
      I w := by
  refine ensures_bind ((keeps_succeeds w hw).mono (fun readable w hw => ?_) fun _ hw => hw)
  split
  · exact ensures_pure ⟨hw, fun _ hload => nomatch hload⟩
  refine ensures_bind (ensures_get ?_)
  split
  · exact ensures_pure ⟨hw, fun _ hload => nomatch hload⟩
  · rename_i record hrecord
    refine ensures_pure ⟨hw, fun saved hload => ?_⟩
    obtain rfl : record = saved := by injection hload
    exact hrecord
  · rename_i hdamaged
    -- Nothing is stored while the file is unlinked.
    have hunlink : Keeps (fun w => I w ∧ w.disk.state = .damaged)
        (fun w => I w ∧ w.disk.state = .damaged) succeeds := keeps_succeeds
    refine ensures_bind ((hunlink w ⟨hw, hdamaged⟩).mono (fun unlinked w' hw' => ?_)
      fun _ hw' => hw'.1)
    split
    · exact ensures_pure ⟨hw'.1, fun _ hload => nomatch hload⟩
    · have hdiscarded := h.discard w' hw'.2 hw'.1
      exact ensures_bind (ensures_modify (ensures_pure ⟨hdiscarded, fun _ hload => nomatch hload⟩))

theorem StoreKeeping.stateLoad (h : StoreKeeping P I) : Keeps I I linuxDaemonStateLoad :=
  fun _ hw => (h.ensures_stateLoad hw).mono (fun _ _ hw' => hw'.1) fun _ hw' => hw'

theorem StoreKeeping.restoreCommittedRecord (h : StoreKeeping P I) {wasUncertain : Bool}
    {previous : Option DesiredSettings} {captured : Option LinuxDaemonStateRecord}
    (huncertain : ∀ record : LinuxDaemonStateRecord, record.state = .uncertain → P record)
    (hactive : wasUncertain = false → ∀ intent, previous = some intent →
      P { state := .active, desired := intent }) :
    Keeps I I (restoreCommittedRecord wasUncertain previous captured) := by
  unfold GreenCurve.restoreCommittedRecord linuxFailedOperationRecord
  cases wasUncertain with
  | true =>
    cases captured with
    | none => exact h.storeRecord (huncertain _ rfl)
    | some record => exact h.storeRecord (huncertain _ rfl)
  | false =>
    cases previous with
    | none => exact h.stateRemove
    | some intent => exact h.storeRecord (hactive rfl intent rfl)

theorem StoreKeeping.captureUncertainRecord (h : StoreKeeping P I) (uncertain : Bool) :
    Keeps I I (captureUncertainRecord uncertain) := by
  refine Keeps.ite (fun _ => keeps_pure _) fun _ => h.stateLoad.bind fun result => ?_
  cases result with
  | missing => exact keeps_pure _
  | loaded record => exact keeps_pure _
  | removed => exact keeps_pure _
  | ioError => exact keeps_pure _

theorem StoreKeeping.leaveUncertain (h : StoreKeeping P I) (hb : Bookkeeping I)
    (huncertain : ∀ record : LinuxDaemonStateRecord, record.state = .uncertain → P record)
    (desired : DesiredSettings) : Keeps I I (leaveUncertain desired) :=
  (h.storeRecord (huncertain _ rfl)).bind fun _ => hb.enterUncertainState

theorem StoreKeeping.fanWorkerLockout (h : StoreKeeping P I) (hb : Bookkeeping I)
    (huncertain : ∀ record : LinuxDaemonStateRecord, record.state = .uncertain → P record) :
    Keeps I I fanWorkerLockout := by
  refine keeps_get.bind fun w => ?_
  cases w.memory.activeDesired with
  | none => exact keeps_pure _
  | some intent =>
    refine Keeps.when (keeps_succeeds.bind fun autoOk => ?_)
    refine (h.storeRecord (huncertain _ rfl)).bind fun _ => ?_
    refine (keeps_forceEmergencyDuty autoOk).bind fun _ => ?_
    refine (keeps_modify fun w hw => hb.uncertain w hw).bind fun _ => ?_
    exact Keeps.when hb.retire

/-- An explicit request up to its durable preparation; what it does from there on
depends on what the daemon held when it came. -/
theorem StoreKeeping.handleApply {Q C : DaemonWorld → Prop} (h : StoreKeeping P I)
    (hb : Bookkeeping I)
    (hprepared : ∀ record : LinuxDaemonStateRecord, record.state = .prepared → P record)
    (hQ : ∀ w, I w → Q w) (hC : ∀ w, I w → C w) {d : DesiredSettings} {operationId : UInt64}
    {w : DaemonWorld} (hw : I w)
    (hperform : ∀ captured w', I w' → Ensures (performApply d operationId w.memory.stateUncertain
      w.memory.activeDesired captured) (fun _ => Q) C w') :
    Ensures (handleApply d operationId) (fun _ => Q) C w := by
  refine ensures_bind (ensures_get ?_)
  split
  · exact ensures_pure (hQ w hw)
  refine keeps_succeeds.ensures_bind hw hC fun selected w' hw => ?_
  split
  · exact ensures_pure (hQ w' hw)
  split
  · exact ensures_pure (hQ w' hw)
  refine (h.captureUncertainRecord _).ensures_bind hw hC fun capture w' hw => ?_
  cases capture with
  | none => exact ensures_pure (hQ w' hw)
  | some captured =>
    refine keeps_allowsSelectedWrite.ensures_bind hw hC fun owned w' hw => ?_
    split
    · exact ensures_pure (hQ w' hw)
    refine keeps_succeeds.ensures_bind hw hC fun snapshot w' hw => ?_
    split
    · exact ensures_pure (hQ w' hw)
    refine (hb.ensureBeforeWrite _).ensures_bind hw hC fun recorded w' hw => ?_
    split
    · exact ensures_pure (hQ w' hw)
    refine (h.storeRecord (hprepared _ rfl)).ensures_bind hw hC fun prepared w' hw => ?_
    split
    · exact ensures_pure (hQ w' hw)
    · exact hperform captured w' hw

theorem StoreKeeping.handleReset {Q C : DaemonWorld → Prop} (h : StoreKeeping P I)
    (hprepared : ∀ record : LinuxDaemonStateRecord, record.state = .prepared → P record)
    (hQ : ∀ w, I w → Q w) (hC : ∀ w, I w → C w) {operationId : UInt64}
    {w : DaemonWorld} (hw : I w)
    (hperform : ∀ captured w', I w' → Ensures (performReset w.memory.stateUncertain
      w.memory.activeDesired captured) (fun _ => Q) C w') :
    Ensures (handleReset operationId) (fun _ => Q) C w := by
  refine ensures_bind (ensures_get ?_)
  split
  · exact ensures_pure (hQ w hw)
  refine keeps_succeeds.ensures_bind hw hC fun selected w' hw => ?_
  split
  · exact ensures_pure (hQ w' hw)
  refine (h.captureUncertainRecord _).ensures_bind hw hC fun capture w' hw => ?_
  cases capture with
  | none => exact ensures_pure (hQ w' hw)
  | some captured =>
    refine keeps_allowsSelectedWrite.ensures_bind hw hC fun owned w' hw => ?_
    split
    · exact ensures_pure (hQ w' hw)
    refine keeps_succeeds.ensures_bind hw hC fun snapshot w' hw => ?_
    split
    · exact ensures_pure (hQ w' hw)
    refine (h.storeRecord (hprepared _ rfl)).ensures_bind hw hC fun prepared w' hw => ?_
    split
    · exact ensures_pure (hQ w' hw)
    · exact hperform captured w' hw

end StoreKeeping

/-! ### The end of an operation -/

/-- What the daemon does once the hardware call of an operation has returned. -/
def DaemonAction.isSettling : DaemonAction → Bool
  | .rolledBack _ => true
  | .stateStored _ _ => true
  | .stateRemoved _ => true
  | .committed => true
  | _ => false

/-- `I` survives changes of the state record and the log of an operation's end. -/
structure SettleKeeping (I : DaemonWorld → Prop) : Prop where
  state : ∀ w file, I w → I (w.setState file)
  log : ∀ w (action : DaemonAction), action.isSettling = true → I w → I (w.log action)

section SettleKeeping
variable {I : DaemonWorld → Prop}

theorem RecordKeeping.settling (h : RecordKeeping I) : SettleKeeping I where
  state := h.state
  log w action hsettling hw := by
    refine h.log w action ?_ hw
    cases action <;> first | rfl | cases hsettling

/-- Whatever is stored, `I` survives it. -/
theorem SettleKeeping.stores (h : SettleKeeping I) : StoreKeeping (fun _ => True) I where
  store w record ok _ hw := by
    unfold DaemonWorld.storeState
    refine h.log _ _ rfl ?_
    split
    · exact h.state w _ hw
    · exact hw
  remove w ok hw := by
    unfold DaemonWorld.removeState
    refine h.log _ _ rfl ?_
    split
    · exact h.state w _ hw
    · exact hw
  discard w _ hw := h.state w _ hw

theorem SettleKeeping.storeRecord (h : SettleKeeping I) (record : LinuxDaemonStateRecord) :
    Keeps I I (storeRecord record) :=
  h.stores.storeRecord trivial

theorem SettleKeeping.restoreCommittedRecord (h : SettleKeeping I) (wasUncertain : Bool)
    (previous : Option DesiredSettings) (captured : Option LinuxDaemonStateRecord) :
    Keeps I I (restoreCommittedRecord wasUncertain previous captured) :=
  h.stores.restoreCommittedRecord (fun _ _ => trivial) fun _ _ _ => trivial

theorem SettleKeeping.leaveUncertain (h : SettleKeeping I) (hb : Bookkeeping I)
    (desired : DesiredSettings) : Keeps I I (leaveUncertain desired) :=
  h.stores.leaveUncertain hb (fun _ _ => trivial) desired

theorem ensures_restoreSnapshot {C : DaemonWorld → Prop} {Q : Bool → DaemonWorld → Prop}
    {w : DaemonWorld} (hdie : C w)
    (h : ∀ ok, Q ok (w.log (.rolledBack ok))) : Ensures linuxBackendRestoreSnapshot Q C w :=
  ensures_bind (ensures_bind (ensures_ask hdie fun answer =>
    ensures_pure (ensures_bind (ensures_modify (ensures_pure (h answer.ok))))))

theorem keeps_restoreSnapshot (hlog : ∀ w ok, I w → I (w.log (.rolledBack ok))) :
    Keeps I I linuxBackendRestoreSnapshot :=
  fun w hw => ensures_restoreSnapshot hw fun ok => hlog w ok hw

theorem SettleKeeping.restoreSnapshot (h : SettleKeeping I) :
    Keeps I I linuxBackendRestoreSnapshot :=
  keeps_restoreSnapshot fun w _ hw => h.log w _ rfl hw

theorem SettleKeeping.settleApply (h : SettleKeeping I) (hb : Bookkeeping I) (wasUncertain : Bool)
    (previous : Option DesiredSettings) (captured : Option LinuxDaemonStateRecord)
    (committed : DesiredSettings) (operationId : UInt64) (mutation : LinuxMutationResult) :
    Keeps I I (settleApply wasUncertain previous captured committed operationId mutation) := by
  refine Keeps.ite (fun _ => (h.storeRecord _).bind fun stored => ?_) fun _ => ?_
  · refine Keeps.ite (fun _ => ?_) fun _ => h.restoreSnapshot.bind fun rollbackOk => ?_
    · exact (keeps_modify fun w hw => h.log w _ rfl hw).bind fun _ => keeps_pure _
    · refine (h.restoreCommittedRecord _ _ _).bind fun recordOk => ?_
      refine (Keeps.when ((h.storeRecord _).bind fun _ => keeps_pure _)).bind fun _ => ?_
      exact (Keeps.when hb.enterUncertainState).bind fun _ => keeps_pure _
  · refine Keeps.ite (fun _ => ?_) fun _ => (h.leaveUncertain hb _).bind fun _ => keeps_pure _
    refine (h.restoreCommittedRecord _ _ _).bind fun recordOk => ?_
    exact (Keeps.when (h.leaveUncertain hb _)).bind fun _ => keeps_pure _

theorem SettleKeeping.settleReset (h : SettleKeeping I) (hb : Bookkeeping I) (wasUncertain : Bool)
    (previous : Option DesiredSettings) (captured : Option LinuxDaemonStateRecord)
    (mutation : LinuxMutationResult) :
    Keeps I I (settleReset wasUncertain previous captured mutation) := by
  refine Keeps.ite (fun _ => h.stores.stateRemove.bind fun removed => ?_) fun _ => ?_
  · refine Keeps.ite (fun _ => ?_) fun _ => h.restoreSnapshot.bind fun rollbackOk => ?_
    · exact (keeps_modify fun w hw => h.log w _ rfl hw).bind fun _ => keeps_pure _
    · refine (h.restoreCommittedRecord _ _ _).bind fun recordOk => ?_
      exact (Keeps.when hb.enterUncertainState).bind fun _ => keeps_pure _
  · refine Keeps.ite (fun _ => (h.leaveUncertain hb _).bind fun _ => keeps_pure _) fun _ => ?_
    refine (h.restoreCommittedRecord _ _ _).bind fun recordOk => ?_
    exact (Keeps.when (h.leaveUncertain hb _)).bind fun _ => keeps_pure _

end SettleKeeping

section RecordKeeping
variable {I C : DaemonWorld → Prop}

theorem ensures_mutateHardware {Q : LinuxMutationResult → DaemonWorld → Prop} {w : DaemonWorld}
    (hdie : C w) (h : ∀ result, Q result (w.log (.mutated result))) :
    Ensures mutateHardware Q C w :=
  ensures_bind (ensures_ask hdie fun answer =>
    ensures_bind (ensures_modify (ensures_pure (h answer.mutation))))

theorem keeps_mutateHardware (hlog : ∀ w result, I w → I (w.log (.mutated result))) :
    Keeps I I mutateHardware :=
  fun w hw => ensures_mutateHardware hw fun result => hlog w result hw

theorem RecordKeeping.mutateHardware (h : RecordKeeping I) : Keeps I I mutateHardware :=
  keeps_mutateHardware fun w _ hw => h.log w _ rfl hw

theorem RecordKeeping.failAutomaticRestore (h : RecordKeeping I) (hb : Bookkeeping I)
    (committed : DesiredSettings) : Keeps I I (failAutomaticRestore committed) := by
  refine (h.settling.storeRecord _).bind fun _ => hb.enterUncertainState.bind fun _ => ?_
  exact hb.noteAutomaticFailure.bind fun _ => keeps_pure _

theorem RecordKeeping.settleAutomaticRestore (h : RecordKeeping I) (hb : Bookkeeping I)
    (committed : DesiredSettings) (mutation : LinuxMutationResult) :
    Keeps I I (settleAutomaticRestore committed mutation) := by
  refine Keeps.ite (fun _ => h.failAutomaticRestore hb _) fun _ => ?_
  refine (h.settling.storeRecord _).bind fun stored => Keeps.ite (fun _ => ?_) fun _ => ?_
  · exact h.settling.restoreSnapshot.bind fun _ => h.failAutomaticRestore hb _
  · refine (keeps_modify fun w hw => h.active w _ hw).bind fun _ => ?_
    exact (Keeps.when hb.retire).bind fun _ => keeps_pure _

theorem PolicyKeeping.setStartupPolicy (h : PolicyKeeping I) (record : LinuxDaemonStartupRecord) :
    Keeps I I (daemonHandleSetStartupPolicy record) :=
  keeps_succeeds.bind fun _ =>
    Keeps.when (keeps_modify fun w hw => h.policy _ _ (h.startup w _ hw))

/-! ## The explicit requests -/

/-- An explicit operation clears the guard, stores it and says so, or leaves it as
it was. -/
theorem keeps_explicitSuccess
    (hcleared : ∀ w cleared, I w →
      linuxAutoRestoreNoteExplicitSuccess w.memory.autoRestoreGuard = some cleared →
      C (w.setGuard cleared) ∧ I ((w.setGuard cleared).storeGuard.log .rearmed)) :
    Keeps I C autoRestoreNoteExplicitSuccess := by
  refine keeps_get_bind fun w h => ?_
  split
  · exact ensures_pure h
  split
  · exact ensures_pure h
  rename_i cleared hsome
  obtain ⟨hdie, hstored⟩ := hcleared w cleared h hsome
  refine ensures_bind (ensures_modify ?_)
  refine ensures_bind (ensures_bind (ensures_bind (ensures_ask hdie fun answer => ?_)))
  refine ensures_pure (ensures_bind (ensures_modify (ensures_pure ?_)))
  cases answer.ok with
  | true => exact ensures_bind (ensures_modify (ensures_pure hstored))
  | false => exact ensures_bind (ensures_modify (ensures_pure h))

theorem Bookkeeping.finishApply (hb : Bookkeeping I)
    (hactive : ∀ w desired, I w → I (w.setActive desired)) (hC : ∀ w, I w → C w)
    (hsuccess : Keeps I C autoRestoreNoteExplicitSuccess) (d committed : DesiredSettings) :
    Keeps I C (finishApply d committed) := by
  refine (keeps_modify fun w hw => hactive w _ hw).bind fun _ => keeps_get.bind fun w => ?_
  refine (Keeps.when hb.retire |>.weaken hC).bind fun _ => ?_
  exact hsuccess.bind fun _ => keeps_pure _

theorem Bookkeeping.finishReset (hb : Bookkeeping I)
    (hactive : ∀ w desired, I w → I (w.setActive desired)) (hC : ∀ w, I w → C w)
    (hsuccess : Keeps I C autoRestoreNoteExplicitSuccess) : Keeps I C finishReset := by
  refine (keeps_modify fun w hw => hactive w _ hw).bind fun _ => ?_
  exact (hb.retire.weaken hC).bind fun _ => hsuccess.bind fun _ => keeps_pure _

/-- An Apply whose preparation is durable, from the issue of its hardware call on. -/
theorem SettleKeeping.performApply (h : SettleKeeping I) (hb : Bookkeeping I)
    (hactive : ∀ w desired, I w → I (w.setActive desired))
    (hmutated : ∀ w result, I w → I (w.log (.mutated result))) (hC : ∀ w, I w → C w)
    (hsuccess : Keeps I C autoRestoreNoteExplicitSuccess) {d : DesiredSettings}
    {operationId : UInt64} {wasUncertain : Bool} {previous : Option DesiredSettings}
    {captured : Option LinuxDaemonStateRecord} {w : DaemonWorld}
    (hissued : I (w.log (.explicitWrite d))) :
    Ensures (performApply d operationId wasUncertain previous captured) (fun _ => I) C w := by
  refine ensures_bind (ensures_modify ?_)
  refine (((keeps_mutateHardware hmutated).weaken hC).bind fun mutation => ?_) _ hissued
  refine (h.settleApply hb _ _ _ _ _ _ |>.weaken hC).bind fun committed => ?_
  exact Keeps.when (hb.finishApply hactive hC hsuccess d _)

theorem SettleKeeping.performReset (h : SettleKeeping I) (hb : Bookkeeping I)
    (hactive : ∀ w desired, I w → I (w.setActive desired))
    (hmutated : ∀ w result, I w → I (w.log (.mutated result))) (hC : ∀ w, I w → C w)
    (hsuccess : Keeps I C autoRestoreNoteExplicitSuccess) {wasUncertain : Bool}
    {previous : Option DesiredSettings} {captured : Option LinuxDaemonStateRecord}
    {w : DaemonWorld} (hissued : I (w.log (.explicitWrite {}))) :
    Ensures (performReset wasUncertain previous captured) (fun _ => I) C w := by
  refine ensures_bind (ensures_modify ?_)
  refine (((keeps_mutateHardware hmutated).weaken hC).bind fun mutation => ?_) _ hissued
  refine (h.settleReset hb _ _ _ _ |>.weaken hC).bind fun committed => ?_
  exact Keeps.when (hb.finishReset hactive hC hsuccess)

theorem RecordKeeping.handleApply (h : RecordKeeping I) (hb : Bookkeeping I)
    (hC : ∀ w, I w → C w) (hsuccess : Keeps I C autoRestoreNoteExplicitSuccess)
    (d : DesiredSettings) (operationId : UInt64) : Keeps I C (handleApply d operationId) := by
  intro w hw
  refine h.settling.stores.handleApply hb (fun _ _ => trivial) (fun _ h => h) hC hw ?_
  intro captured w' hw'
  exact h.settling.performApply hb h.active (fun w _ hw => h.log w _ rfl hw) hC hsuccess
    (h.log w' _ rfl hw')

theorem RecordKeeping.handleReset (h : RecordKeeping I) (hb : Bookkeeping I)
    (hC : ∀ w, I w → C w) (hsuccess : Keeps I C autoRestoreNoteExplicitSuccess)
    (operationId : UInt64) : Keeps I C (handleReset operationId) := by
  intro w hw
  refine h.settling.stores.handleReset (fun _ _ => trivial) (fun _ h => h) hC hw ?_
  intro captured w' hw'
  exact h.settling.performReset hb h.active (fun w _ hw => h.log w _ rfl hw) hC hsuccess
    (h.log w' _ rfl hw')

end RecordKeeping

/-! ## The unattended write

An authorisation leads from `I` to `J`; the write is issued from `J`, with the
guard still open, and leads back to `I`. -/

section AutomaticRestore
variable {I J Q C : DaemonWorld → Prop} {trigger : LinuxAutoRestoreTrigger}

theorem noteResumeTrigger_lockedOut (trigger : LinuxAutoRestoreTrigger)
    (guard : LinuxAutoRestoreGuard) (nowMs : UInt32) :
    (noteResumeTrigger trigger guard nowMs).lockedOut = guard.lockedOut := by
  simp only [noteResumeTrigger, linuxAutoRestoreNoteResumeAttempt]
  split_ifs <;> rfl

theorem noteStartAttempt_lockedOut (guard : LinuxAutoRestoreGuard) :
    (linuxAutoRestoreNoteStartAttempt guard).lockedOut = guard.lockedOut := by
  unfold linuxAutoRestoreNoteStartAttempt
  split_ifs <;> rfl

/-- The verdict on a trigger in a state of the daemon. -/
def DaemonWorld.verdict (w : DaemonWorld) (trigger : LinuxAutoRestoreTrigger) (nowMs : UInt32) :
    LinuxAutoRestoreVerdict :=
  linuxAutoRestoreDecide w.memory.autoRestoreGuard trigger w.memory.stateUncertain nowMs

/-- The state in which a start-time attempt is counted and not yet stored. -/
def DaemonWorld.countAttempt (w : DaemonWorld) : DaemonWorld :=
  w.setGuard (linuxAutoRestoreNoteStartAttempt w.memory.autoRestoreGuard)

/-- What an invariant has to say about an authorisation of `trigger`. -/
structure Authorizes (I J C : DaemonWorld → Prop) (trigger : LinuxAutoRestoreTrigger) : Prop where
  resume : ∀ w nowMs, I w →
    I (w.setGuard (noteResumeTrigger trigger w.memory.autoRestoreGuard nowMs))
  unattempted : ∀ w nowMs, linuxAutoRestoreTriggerIsStart trigger = false → I w →
    w.verdict trigger nowMs = .allow → J w
  counted : ∀ w nowMs, linuxAutoRestoreTriggerIsStart trigger = true → I w →
    w.verdict trigger nowMs = .allow → C w.countAttempt ∧ J w.countAttempt.storeGuard

theorem ensures_countStartAttempt {w : DaemonWorld} (hI : I w) (hdie : C w.countAttempt)
    (hcounted : J w.countAttempt.storeGuard) :
    Ensures (countStartAttempt w.memory.autoRestoreGuard)
      (fun authorized w' => if authorized then J w' else I w') C w := by
  refine ensures_bind (ensures_modify ?_)
  refine ensures_bind (ensures_bind (ensures_bind (ensures_ask hdie fun answer => ?_)))
  refine ensures_pure (ensures_bind (ensures_modify (ensures_pure ?_)))
  cases answer.ok with
  | true => exact ensures_pure hcounted
  | false => exact ensures_bind (ensures_modify (ensures_pure hI))

theorem Bookkeeping.latchExhausted (h : Bookkeeping I) {w : DaemonWorld} (hI : I w)
    (verdict : LinuxAutoRestoreVerdict) :
    Ensures (latchExhausted verdict w.memory.autoRestoreGuard) (fun _ => I) I w := by
  unfold GreenCurve.latchExhausted CrashM.when
  split
  · refine ensures_bind (ensures_modify ?_)
    exact (h.persistAutoRestoreGuard.bind fun _ => keeps_pure _) _ (h.lockout w _ hI)
  · exact ensures_pure hI

theorem Authorizes.ensures (h : Authorizes I J C trigger) (hb : Bookkeeping I)
    (hC : ∀ w, I w → C w) {w : DaemonWorld} (hI : I w) :
    Ensures (autoRestoreAuthorize trigger)
      (fun authorized w' => if authorized then J w' else I w') C w := by
  refine ensures_bind (ensures_ask (hC w hI) fun clock => ensures_bind (ensures_modify ?_))
  have hI' := h.resume w clock.nowMs hI
  generalize w.setGuard (noteResumeTrigger trigger w.memory.autoRestoreGuard clock.nowMs) = w'
    at hI' ⊢
  refine ensures_bind (ensures_get ?_)
  show Ensures (if w'.verdict trigger clock.nowMs ≠ .allow then _ else _) _ _ _
  split
  · refine ensures_bind ((hb.latchExhausted hI' _).mono (fun _ w'' hI'' => ?_) hC)
    exact ensures_pure hI''
  · rename_i hallow
    have hallow : w'.verdict trigger clock.nowMs = .allow := not_not.mp hallow
    cases hstart : linuxAutoRestoreTriggerIsStart trigger with
    | false => exact ensures_pure (h.unattempted w' _ hstart hI' hallow)
    | true =>
      obtain ⟨hdie, hcounted⟩ := h.counted w' _ hstart hI' hallow
      exact ensures_countStartAttempt hI' hdie hcounted

/-- What has to be shown of a write of `trigger`: it is given up in `J`, or issued
from `J` with the guard still open. -/
structure Writes (J Q C : DaemonWorld → Prop) (trigger : LinuxAutoRestoreTrigger) : Prop where
  abandon : ∀ w, J w → Q w
  perform : ∀ w request committed, J w → w.memory.autoRestoreGuard.lockedOut = false →
    Ensures (mutateHardware >>= settleAutomaticRestore committed) (fun _ => Q) C
      (w.log (.automaticWrite trigger request))

theorem Writes.ensures (h : Writes J Q C trigger) (hb : Bookkeeping J) (hC : ∀ w, Q w → C w)
    (intent : DesiredSettings) {w : DaemonWorld} (hJ : J w) :
    Ensures (writeAutomaticRestore trigger intent) (fun _ => Q) C w := by
  have hJC : ∀ w, J w → C w := fun w hw => hC w (h.abandon w hw)
  refine ensures_bind ((hb.prepareBackend w hJ).mono (fun prepared w hJ => ?_) hJC)
  split
  · exact ensures_pure (h.abandon w hJ)
  refine ensures_bind ((keeps_allowsSelectedWrite w hJ).mono (fun owned w hJ => ?_) hJC)
  refine ensures_bind (ensures_get ?_)
  split
  · exact ensures_pure (h.abandon w hJ)
  rename_i hmay
  have hopen : w.memory.autoRestoreGuard.lockedOut = false :=
    open_of_mayWriteAfterPrepare (by simpa using hmay)
  -- What is left before the write only touches the marker and its flags.
  have hfan : FanKeeping fun w => J w ∧ w.memory.autoRestoreGuard.lockedOut = false :=
    ⟨fun w fan hw => ⟨hb.fan w fan hw.1, hw.2⟩, fun w file hw => ⟨hb.fanMarker w file hw.1, hw.2⟩⟩
  refine ensures_bind ((keeps_succeeds (I := fun w => J w ∧
    w.memory.autoRestoreGuard.lockedOut = false) w ⟨hJ, hopen⟩).mono (fun captured w hJ => ?_)
    fun w hw => hJC w hw.1)
  split
  · exact ensures_pure (h.abandon w hJ.1)
  refine ensures_bind ((hfan.ensureBeforeWrite _ w hJ).mono (fun recorded w hJ => ?_)
    fun w hw => hJC w hw.1)
  split
  · exact ensures_pure (h.abandon w hJ.1)
  · exact ensures_bind (ensures_modify (h.perform w _ _ hJ.1 hJ.2))

theorem ensures_automaticRestoreWrite (ha : Authorizes I J C trigger) (hw : Writes J Q C trigger)
    (hbJ : Bookkeeping J) (hb : Bookkeeping I) (hQ : ∀ w, I w → Q w) (hC : ∀ w, Q w → C w)
    (intent : DesiredSettings) {w : DaemonWorld} (hI : I w) :
    Ensures (daemonAutomaticRestoreWrite trigger intent) (fun _ => Q) C w := by
  refine ensures_bind ((ha.ensures hb (fun w hw => hC w (hQ w hw)) hI).mono
    (fun authorized w' hauth => ?_) fun _ h => h)
  cases authorized with
  | false => exact ensures_pure (hQ w' hauth)
  | true => exact hw.ensures hbJ hC intent hauth

/-- A write that is always denied is never issued. -/
theorem Bookkeeping.deniedRestore (h : Bookkeeping I)
    (hresume : ∀ w nowMs, I w →
      I (w.setGuard (noteResumeTrigger trigger w.memory.autoRestoreGuard nowMs)))
    (hdenied : ∀ w nowMs, I w → w.verdict trigger nowMs ≠ .allow) (intent : DesiredSettings) :
    Keeps I I (daemonAutomaticRestoreWrite trigger intent) := by
  have hnever : Bookkeeping fun _ => False :=
    { fan := fun _ _ h => h, fanMarker := fun _ _ h => h, gpuReady := fun _ _ h => h,
      uncertain := fun _ h => h, lockout := fun _ _ h => h, guardStored := fun _ h => h }
  refine fun w hw => ensures_automaticRestoreWrite (J := fun _ => False) (Q := I) ⟨hresume, ?_, ?_⟩
    ⟨fun _ h => h.elim, fun _ _ _ h _ => h.elim⟩ hnever h (fun _ h => h) (fun _ h => h) intent hw
  · exact fun w nowMs _ hw hallow => hdenied w nowMs hw hallow
  · exact fun w nowMs _ hw hallow => absurd hallow (hdenied w nowMs hw)

/-- An invariant survives an unattended write when it survives its log. -/
theorem RecordKeeping.automaticRestoreWrite (hr : RecordKeeping I) (hb : Bookkeeping I)
    (ha : Authorizes I J C trigger) (hbJ : Bookkeeping J) (hC : ∀ w, I w → C w)
    (habandon : ∀ w, J w → I w)
    (hissue : ∀ w request, J w → w.memory.autoRestoreGuard.lockedOut = false →
      I (w.log (.automaticWrite trigger request)))
    (intent : DesiredSettings) : Keeps I C (daemonAutomaticRestoreWrite trigger intent) := by
  refine fun w hw => ensures_automaticRestoreWrite (Q := I) ha ⟨habandon, ?_⟩ hbJ hb (fun _ h => h)
    hC intent hw
  intro w request committed hJ hopen
  refine Keeps.bind (hr.mutateHardware.weaken hC) (fun mutation => ?_) _ (hissue w request hJ hopen)
  exact (hr.settleAutomaticRestore hb _ _).weaken hC

end AutomaticRestore

/-! ## Tasks, starts and stops -/

section Tasks
variable {I C : DaemonWorld → Prop}

/-- `I` survives everything a serving daemon does that is not an explicit
operation; an operation cut short leaves `C`. -/
structure Unattended (I C : DaemonWorld → Prop) : Prop where
  dies : ∀ w, I w → C w
  bookkeeping : Bookkeeping I
  records : RecordKeeping I
  policies : PolicyKeeping I
  restore : ∀ trigger intent, Keeps I C (daemonAutomaticRestoreWrite trigger intent)

theorem Unattended.resumeRestore (h : Unattended I C) : Keeps I C daemonHandleResumeRestore := by
  refine keeps_get.bind fun w => ?_
  cases w.memory.activeDesired with
  | none => exact keeps_pure _
  | some intent => exact (h.restore .resume intent).bind fun _ => keeps_pure _

theorem Unattended.applyStartupProfilePolicy (h : Unattended I C) :
    Keeps I C applyStartupProfilePolicy :=
  keeps_get.bind fun _ => Keeps.when ((h.restore .bootProfile _).bind fun _ => keeps_pure _)

theorem Unattended.restoreLastAtStart (h : Unattended I C) : Keeps I C restoreLastAtStart := by
  refine (h.records.settling.stores.stateLoad.weaken h.dies).bind fun result => ?_
  cases result with
  | missing => exact keeps_pure _
  | removed => exact keeps_pure _
  | ioError => exact keeps_modify fun w hw => h.bookkeeping.uncertain w hw
  | loaded saved =>
    refine keeps_get.bind fun w => Keeps.ite (fun _ => keeps_pure _) fun _ => ?_
    refine Keeps.ite (fun _ => keeps_modify fun w hw => h.bookkeeping.uncertain w hw) fun _ => ?_
    exact (h.restore .bootRestoreLast _).bind fun _ => keeps_pure _

/-- The guard as the start loads it. -/
def DaemonWorld.loadGuard (w : DaemonWorld) (reads : StartReads) : DaemonWorld :=
  w.setGuard (loadAutoRestoreGuardAtBoot w.disk.guard w.bootId reads)

/-- A start up to its policy; the policy decides what it does from there on. -/
theorem Bookkeeping.run {Q : DaemonWorld → Prop} (h : Bookkeeping I) (hC : ∀ w, I w → C w)
    {reads : StartReads} {w : DaemonWorld} (hdie : C w)
    (hload : ∀ ready, I ((w.setGpuReady ready).loadGuard reads))
    (hpolicy : ∀ w, I w → Ensures applyStartupProfilePolicy
      (fun _ w' => Ensures restoreLastAtStart (fun _ => Q) C w') C
      (w.setPolicy (loadStartupPolicyAtBoot w.disk.startup reads.policyReadable)))
    (hQ : ∀ w, Q w → C w) : Ensures (linuxDaemonRun reads) (fun _ => Q) C w := by
  refine ensures_bind (ensures_bind (ensures_ask hdie fun answer => ensures_pure ?_))
  refine ensures_bind (ensures_modify (ensures_bind (ensures_modify ?_)))
  refine ensures_bind ((h.handback.handbackAtStart _ (hload answer.ok)).mono (fun _ w hw => ?_) hC)
  refine ensures_bind (ensures_modify (ensures_bind ((hpolicy w hw).mono
    (fun _ w hrest => ?_) fun _ h => h)))
  refine ensures_bind (hrest.mono (fun _ w hw => ?_) fun _ h => h)
  exact (keeps_succeeds w hw).mono (fun _ _ h => h) hQ

/-- A start keeps what it has once the guard is loaded. -/
theorem Unattended.run (h : Unattended I C) {reads : StartReads} {w : DaemonWorld} (hdie : C w)
    (hload : ∀ ready, I ((w.setGpuReady ready).loadGuard reads)) :
    Ensures (linuxDaemonRun reads) (fun _ => I) C w := by
  refine h.bookkeeping.run h.dies hdie hload (fun w hw => ?_) h.dies
  have hprofile := h.applyStartupProfilePolicy _ (h.policies.policy w
    (loadStartupPolicyAtBoot w.disk.startup reads.policyReadable) hw)
  exact hprofile.mono (fun _ w hw => h.restoreLastAtStart w hw) fun _ h => h

theorem Unattended.task (h : Unattended I C) (hsuccess : Keeps I C autoRestoreNoteExplicitSuccess)
    (task : DaemonTask) : Keeps I C task.program := by
  cases task with
  | apply desired operationId =>
    exact h.records.handleApply h.bookkeeping h.dies hsuccess desired operationId
  | reset operationId => exact h.records.handleReset h.bookkeeping h.dies hsuccess operationId
  | resumeRestore => exact h.resumeRestore
  | setStartupPolicy record => exact (h.policies.setStartupPolicy record).weaken h.dies
  | retryBackend => exact h.bookkeeping.retryBackendForRead.weaken h.dies
  | deferredHandback => exact h.bookkeeping.resumeDeferredHandback.weaken h.dies
  | fanLockout =>
    exact (h.records.settling.stores.fanWorkerLockout h.bookkeeping fun _ _ => trivial).weaken h.dies

/-- An orderly stop clears the count after it has said that it stops. -/
theorem Bookkeeping.orderlyStop (h : Bookkeeping I) (hstop : ∀ w, I w → I (w.log .cleanStop))
    (hcleared : ∀ w cleared, I w →
      linuxAutoRestoreNoteCleanStop w.memory.autoRestoreGuard = some cleared →
      I ((w.log .cleanStop).setGuard cleared)) : Keeps I I orderlyStop := by
  refine Keeps.bind (fun w hw => ?_) fun _ => h.releaseFanToDriver
  refine ensures_bind (ensures_modify (ensures_bind (ensures_get ?_)))
  split
  · exact ensures_pure (hstop w hw)
  · rename_i cleared hsome
    refine ensures_bind (ensures_modify ?_)
    exact (h.persistAutoRestoreGuard.bind fun _ => keeps_pure _) _ (hcleared w cleared hw hsome)

end Tasks

/-! ## The machine

Before an event `Q` holds of the serving daemon and `C` of the files alone; after
it, of the world its program returned in or died in, of which only the files are
left where the daemon does not go on. -/

section Machine
variable {Q Q' : DaemonWorld → Prop} {C : DaemonDisk → List DaemonAction → Prop}
  {m : DaemonMachine}

/-- What an event leaves. -/
structure Holds (Q : DaemonWorld → Prop) (C : DaemonDisk → List DaemonAction → Prop)
    (result : DaemonMachine × List DaemonAction) : Prop where
  files : C result.1.disk result.2
  process : ∀ memory, result.1.process = some memory →
    Q { result.1.world memory with trace := result.2 }

theorem Holds.mono (h : Holds Q C (m, [])) (hQ : ∀ w, Q w → Q' w) : Holds Q' C (m, []) :=
  ⟨h.files, fun memory hp => hQ _ (h.process memory hp)⟩

theorem Holds.alive {w : DaemonWorld} (h : Q w) (hC : C w.disk w.trace) :
    Holds Q C (w.leave (some w.memory)) := by
  refine ⟨hC, fun memory hp => ?_⟩
  obtain rfl := Option.some.inj hp
  exact h

theorem Holds.dead {w : DaemonWorld} (hC : C w.disk w.trace) : Holds Q C (w.leave none) :=
  ⟨hC, fun _ hp => nomatch hp⟩

theorem Holds.serve (h : Holds Q C (m, [])) (answers : List Answer) (hC : ∀ w, Q' w → C w.disk w.trace)
    {program : DaemonM Unit}
    (hprogram : ∀ w, Q w → Ensures program (fun _ => Q') (fun w => C w.disk w.trace) w) :
    Holds Q' C (m.serve program answers) := by
  unfold DaemonMachine.serve
  split
  · rename_i hp
    exact ⟨h.files, fun _ hp' => nomatch hp.symm.trans hp'⟩
  · rename_i memory hp
    have hrun := (hprogram (m.world memory) (h.process memory hp)).exec answers
    generalize program.exec answers (m.world memory) = r at hrun
    obtain ⟨_ | _, w⟩ := r
    · exact Holds.dead hrun
    · exact Holds.alive hrun (hC w hrun)

theorem Holds.start (h : Holds Q C (m, [])) (answers : List Answer) (hQ : ∀ w, Q w → Q' w)
    (hC : ∀ w, Q' w → C w.disk w.trace) {reads : StartReads}
    (hrun : m.process = none →
      Ensures (linuxDaemonRun reads) (fun _ => Q') (fun w => C w.disk w.trace) (m.world {})) :
    Holds Q' C (m.start reads answers) := by
  unfold DaemonMachine.start
  split
  · exact h.mono hQ
  · rename_i hp
    have hrun := (hrun hp).exec answers
    generalize (linuxDaemonRun reads).exec answers (m.world {}) = r at hrun
    obtain ⟨_ | _ | _, w⟩ := r
    · exact Holds.dead hrun
    · exact Holds.dead (hC w hrun)
    · exact Holds.alive hrun (hC w hrun)

/-- What has to be shown of one event, for `Q` before it and `Q'` after it. -/
structure StepRules (Q Q' : DaemonWorld → Prop) (C : DaemonDisk → List DaemonAction → Prop) :
    Prop where
  result : ∀ w, Q w → Q' w
  files : ∀ w, Q' w → C w.disk w.trace
  task : ∀ task w, Q w →
    Ensures (DaemonTask.program task) (fun _ => Q') (fun w => C w.disk w.trace) w
  stop : ∀ w, Q w → Ensures orderlyStop (fun _ => Q') (fun w => C w.disk w.trace) w
  damageFile : ∀ disk file, C disk [] → C (disk.damage file) []
  damage : ∀ disk memory bootId file, Q ⟨disk, memory, bootId, []⟩ →
    Q' ⟨disk.damage file, memory, bootId, []⟩

/-- One event leads from `Q` to `Q'`, a start by what it does after it has loaded
the guard. -/
theorem StepRules.step (r : StepRules Q Q' C) (h : Holds Q C (m, [])) {e : DaemonEvent}
    (hstart : ∀ reads answers, e = .start reads answers → m.process = none →
      Ensures (linuxDaemonRun reads) (fun _ => Q') (fun w => C w.disk w.trace) (m.world {})) :
    Holds Q' C (daemonStep m e) := by
  cases e with
  | boot bootId => exact ⟨h.files, fun _ hp => nomatch hp⟩
  | start reads answers => exact h.start answers r.result r.files (hstart reads answers rfl)
  | serve task answers => exact h.serve answers r.files (r.task task)
  | stop answers => exact ⟨(h.serve answers r.files r.stop).files, fun _ hp => nomatch hp⟩
  | kill => exact ⟨h.files, fun _ hp => nomatch hp⟩
  | damage file =>
    exact ⟨r.damageFile _ file h.files, fun memory hp => r.damage _ _ _ file (h.process memory hp)⟩

end Machine

end GreenCurve
