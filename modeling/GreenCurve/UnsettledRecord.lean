import GreenCurve.GuardBudget
import Mathlib.Tactic.IntervalCases

/-! # Unsettled records and the writes they block

A machine is unsettled when its state file holds no committed intent and a serving
daemon, if there is one, is uncertain or holds no intent.  Every program keeps it so
until an explicit operation commits, and issues no unattended write meanwhile, with
one exception: a start under a profile policy applies the profile before it reads the
state file. -/

namespace GreenCurve

open CrashM

/-- The state of the record in a state file. -/
def storedState : DaemonFile LinuxDaemonStateRecord → Option LinuxDaemonRecordState
  | .absent => none
  | .damaged => none
  | .record record => some record.state

/-- The state file holds no committed intent. -/
def NotActive (file : DaemonFile LinuxDaemonStateRecord) : Prop := storedState file ≠ some .active

/-- The daemon knows that nothing is settled, or has nothing to write again. -/
def DaemonMemory.Unsettled (memory : DaemonMemory) : Prop :=
  memory.stateUncertain = true ∨ memory.activeDesired = none

structure Unsettled (w : DaemonWorld) : Prop where
  file : NotActive w.disk.state
  memory : w.memory.Unsettled
  untouched : Untouched w.trace

/-- An explicit operation has committed. -/
structure Committed (w : DaemonWorld) : Prop where
  untouched : Untouched w.trace
  logged : .committed ∈ w.trace

def UnsettledOrCommitted (w : DaemonWorld) : Prop := Committed w ∨ Unsettled w

/-- What the files keep of it. -/
def FileUnsettledOrCommitted (disk : DaemonDisk) (actions : List DaemonAction) : Prop :=
  Untouched actions ∧ (.committed ∈ actions ∨ NotActive disk.state)

/-! ## Along the programs -/

section Programs
variable {w : DaemonWorld}

theorem Unsettled.left (h : Unsettled w) : FileUnsettledOrCommitted w.disk w.trace :=
  ⟨h.untouched, .inr h.file⟩

theorem Committed.left (h : Committed w) : FileUnsettledOrCommitted w.disk w.trace :=
  ⟨h.untouched, .inl h.logged⟩

theorem UnsettledOrCommitted.left (h : UnsettledOrCommitted w) :
    FileUnsettledOrCommitted w.disk w.trace :=
  h.elim Committed.left Unsettled.left

theorem Unsettled.log (h : Unsettled w) {action : DaemonAction}
    (ha : action.isAutomaticWrite = false) : Unsettled (w.log action) :=
  ⟨h.file, h.memory, h.untouched.log ha⟩

theorem Untouched.committed (h : Untouched w.trace) : Committed (w.log .committed) :=
  ⟨h.log rfl, List.mem_append_right _ (List.mem_singleton_self _)⟩

theorem unsettled_bookkeeping : Bookkeeping Unsettled where
  fan _ _ h := ⟨h.file, h.memory, h.untouched⟩
  fanMarker _ _ h := ⟨h.file, h.memory, h.untouched⟩
  gpuReady _ _ h := ⟨h.file, h.memory, h.untouched⟩
  uncertain _ h := ⟨h.file, .inl rfl, h.untouched⟩
  lockout _ _ h := ⟨h.file, h.memory, h.untouched⟩
  guardStored _ h := ⟨h.file, h.memory, h.untouched⟩

theorem notActive_record {record : LinuxDaemonStateRecord} (h : record.state ≠ .active) :
    NotActive (.record record) :=
  fun heq => h (Option.some.inj heq)

theorem notActive_absent : NotActive .absent := fun heq => nomatch heq

theorem unsettled_stores :
    StoreKeeping (fun record => record.state ≠ LinuxDaemonRecordState.active) Unsettled where
  store w record ok hne h := by
    cases ok with
    | true => exact ⟨notActive_record hne, h.memory, h.untouched.log rfl⟩
    | false => exact h.log rfl
  remove w ok h := by
    cases ok with
    | true => exact ⟨notActive_absent, h.memory, h.untouched.log rfl⟩
    | false => exact h.log rfl
  discard w _ h := ⟨notActive_absent, h.memory, h.untouched⟩

theorem Unsettled.storeFailed (h : Unsettled w) (record : LinuxDaemonStateRecord) :
    Unsettled (w.storeState record false) :=
  h.log rfl

theorem Unsettled.removeFailed (h : Unsettled w) : Unsettled (w.removeState false) :=
  h.log rfl

theorem committed_bookkeeping : Bookkeeping Committed where
  fan _ _ h := ⟨h.untouched, h.logged⟩
  fanMarker _ _ h := ⟨h.untouched, h.logged⟩
  gpuReady _ _ h := ⟨h.untouched, h.logged⟩
  uncertain _ h := ⟨h.untouched, h.logged⟩
  lockout _ _ h := ⟨h.untouched, h.logged⟩
  guardStored _ h := ⟨h.untouched, h.logged⟩

theorem committed_records : RecordKeeping Committed where
  state _ _ h := ⟨h.untouched, h.logged⟩
  active _ _ h := ⟨h.untouched, h.logged⟩
  log _ _ hrec h := ⟨h.untouched.log (untouched_of_isRecordKeeping hrec),
    List.mem_append_left _ h.logged⟩

theorem uncertain_ne_active (record : LinuxDaemonStateRecord) (h : record.state = .uncertain) :
    record.state ≠ .active := by
  rw [h]
  decide

theorem prepared_ne_active (record : LinuxDaemonStateRecord) (h : record.state = .prepared) :
    record.state ≠ .active := by
  rw [h]
  decide

/-- A failed operation of an unsettled daemon puts no committed intent back. -/
theorem unsettled_restoreCommitted {wasUncertain : Bool} {previous : Option DesiredSettings}
    {captured : Option LinuxDaemonStateRecord} (hwas : wasUncertain = true ∨ previous = none) :
    Keeps Unsettled Unsettled (restoreCommittedRecord wasUncertain previous captured) := by
  refine unsettled_stores.restoreCommittedRecord uncertain_ne_active fun hsettled intent hprev => ?_
  rcases hwas with hwas | hwas
  · exact absurd (hsettled.symm.trans hwas) (by decide)
  · exact absurd (hprev.symm.trans hwas) (Option.some_ne_none intent)

theorem unsettled_leaveUncertain (desired : DesiredSettings) :
    Keeps Unsettled Unsettled (leaveUncertain desired) :=
  unsettled_stores.leaveUncertain unsettled_bookkeeping uncertain_ne_active desired

/-- A hardware operation of an unsettled daemon commits, or leaves it unsettled. -/
abbrev SettlesOrNot (committed : Bool) (w : DaemonWorld) : Prop :=
  if committed then Committed w else Unsettled w

theorem ensures_settleApply {wasUncertain : Bool} {previous : Option DesiredSettings}
    {captured : Option LinuxDaemonStateRecord} (hwas : wasUncertain = true ∨ previous = none)
    (committed : DesiredSettings) (operationId : UInt64) (mutation : LinuxMutationResult)
    (h : Unsettled w) :
    Ensures (settleApply wasUncertain previous captured committed operationId mutation)
      SettlesOrNot Unsettled w := by
  have hdies : ∀ w, Unsettled w → Unsettled w := fun _ h => h
  unfold settleApply
  split
  · refine ensures_bind (ensures_storeRecord h fun stored => ?_)
    cases stored with
    | true => exact ensures_bind (ensures_modify (ensures_pure (h.untouched.log rfl).committed))
    | false =>
      refine (keeps_restoreSnapshot fun w ok h => h.log rfl).ensures_bind (h.storeFailed _) hdies
        fun rollbackOk w h => ?_
      refine (unsettled_restoreCommitted hwas).ensures_bind h hdies fun recordOk w h => ?_
      refine Keeps.ensures_bind (Keeps.when ?_) h hdies fun _ w h => ?_
      · exact (unsettled_stores.storeRecord (uncertain_ne_active _ rfl)).bind fun _ => keeps_pure ()
      · exact (Keeps.when unsettled_bookkeeping.enterUncertainState).ensures_bind h hdies
          fun _ w h => ensures_pure h
  · split
    · refine (unsettled_restoreCommitted hwas).ensures_bind h hdies fun recordOk w h => ?_
      exact (Keeps.when (unsettled_leaveUncertain committed)).ensures_bind h hdies
        fun _ w h => ensures_pure h
    · exact (unsettled_leaveUncertain committed).ensures_bind h hdies fun _ w h => ensures_pure h

theorem ensures_settleReset {wasUncertain : Bool} {previous : Option DesiredSettings}
    {captured : Option LinuxDaemonStateRecord} (hwas : wasUncertain = true ∨ previous = none)
    (mutation : LinuxMutationResult) (h : Unsettled w) :
    Ensures (settleReset wasUncertain previous captured mutation) SettlesOrNot Unsettled w := by
  have hdies : ∀ w, Unsettled w → Unsettled w := fun _ h => h
  unfold settleReset
  split
  · refine ensures_bind (ensures_stateRemove h fun removed => ?_)
    cases removed with
    | true => exact ensures_bind (ensures_modify (ensures_pure (h.untouched.log rfl).committed))
    | false =>
      refine (keeps_restoreSnapshot fun w ok h => h.log rfl).ensures_bind h.removeFailed hdies
        fun rollbackOk w h => ?_
      refine (unsettled_restoreCommitted hwas).ensures_bind h hdies fun recordOk w h => ?_
      exact (Keeps.when unsettled_bookkeeping.enterUncertainState).ensures_bind h hdies
        fun _ w h => ensures_pure h
  · split
    · exact (unsettled_leaveUncertain {}).ensures_bind h hdies fun _ w h => ensures_pure h
    · refine (unsettled_restoreCommitted hwas).ensures_bind h hdies fun recordOk w h => ?_
      exact (Keeps.when (unsettled_leaveUncertain {})).ensures_bind h hdies
        fun _ w h => ensures_pure h

theorem committed_success : Keeps Committed Committed autoRestoreNoteExplicitSuccess := by
  refine keeps_explicitSuccess fun w cleared h _ => ⟨⟨h.untouched, h.logged⟩, ?_⟩
  exact ⟨h.untouched.log rfl, List.mem_append_left _ h.logged⟩

/-- What follows the end of an operation: only a committed one goes on. -/
theorem SettlesOrNot.finish {committed : Bool} (h : SettlesOrNot committed w)
    {finish : DaemonM Unit} (hfinish : Keeps Committed Committed finish) :
    Ensures (CrashM.when committed finish) (fun _ => UnsettledOrCommitted)
      (fun w => FileUnsettledOrCommitted w.disk w.trace) w := by
  cases committed with
  | true => exact (hfinish w h).mono (fun _ _ h => .inl h) fun _ h => h.left
  | false => exact ensures_pure (.inr h)

theorem unsettled_apply (d : DesiredSettings) (operationId : UInt64) (h : Unsettled w) :
    Ensures (handleApply d operationId) (fun _ => UnsettledOrCommitted)
      (fun w => FileUnsettledOrCommitted w.disk w.trace) w := by
  have hdies : ∀ w, Unsettled w → FileUnsettledOrCommitted w.disk w.trace := fun _ h => h.left
  refine unsettled_stores.handleApply unsettled_bookkeeping prepared_ne_active (fun _ h => .inr h)
    hdies h fun captured w' h' => ?_
  refine ensures_bind (ensures_modify ?_)
  refine (keeps_mutateHardware fun w result h => h.log rfl).ensures_bind (h'.log rfl) hdies
    fun mutation w' h' => ?_
  refine ensures_bind ((ensures_settleApply h.memory _ _ mutation h').mono (fun committed w h => ?_)
    hdies)
  refine h.finish (committed_bookkeeping.finishApply committed_records.active (fun _ h => h)
    committed_success d _)

theorem unsettled_reset (operationId : UInt64) (h : Unsettled w) :
    Ensures (handleReset operationId) (fun _ => UnsettledOrCommitted)
      (fun w => FileUnsettledOrCommitted w.disk w.trace) w := by
  have hdies : ∀ w, Unsettled w → FileUnsettledOrCommitted w.disk w.trace := fun _ h => h.left
  refine unsettled_stores.handleReset prepared_ne_active (fun _ h => .inr h) hdies h
    fun captured w' h' => ?_
  refine ensures_bind (ensures_modify ?_)
  refine (keeps_mutateHardware fun w result h => h.log rfl).ensures_bind (h'.log rfl) hdies
    fun mutation w' h' => ?_
  refine ensures_bind ((ensures_settleReset h.memory mutation h').mono (fun committed w h => ?_)
    hdies)
  exact h.finish (committed_bookkeeping.finishReset committed_records.active (fun _ h => h)
    committed_success)

/-- An uncertain daemon writes nothing unattended. -/
theorem verdict_ne_allow_of_uncertain (h : w.memory.stateUncertain = true)
    (trigger : LinuxAutoRestoreTrigger) (nowMs : UInt32) : w.verdict trigger nowMs ≠ .allow := by
  unfold DaemonWorld.verdict linuxAutoRestoreDecide
  rw [if_pos h]
  split_ifs <;> exact nofun

theorem unsettled_resumeRestore : Keeps Unsettled Unsettled daemonHandleResumeRestore := by
  refine keeps_get_bind fun w h => ?_
  split
  · exact ensures_pure h
  · rename_i intent hintent
    have huncertain : w.memory.stateUncertain = true :=
      h.memory.resolve_right (hintent.trans_ne (Option.some_ne_none intent))
    have hb : Bookkeeping fun w => Unsettled w ∧ w.memory.stateUncertain = true :=
      { fan := fun w fan h => ⟨unsettled_bookkeeping.fan w fan h.1, h.2⟩
        fanMarker := fun w file h => ⟨unsettled_bookkeeping.fanMarker w file h.1, h.2⟩
        gpuReady := fun w ready h => ⟨unsettled_bookkeeping.gpuReady w ready h.1, h.2⟩
        uncertain := fun w h => ⟨unsettled_bookkeeping.uncertain w h.1, rfl⟩
        lockout := fun w reason h => ⟨unsettled_bookkeeping.lockout w reason h.1, h.2⟩
        guardStored := fun w h => ⟨unsettled_bookkeeping.guardStored w h.1, h.2⟩ }
    refine ensures_bind ((hb.deniedRestore (fun w nowMs h => ?_) (fun w nowMs h => ?_) intent w
      ⟨h, huncertain⟩).mono (fun _ w h => ensures_pure h.1) fun _ h => h.1)
    · exact ⟨⟨h.1.file, h.1.memory, h.1.untouched⟩, h.2⟩
    · exact verdict_ne_allow_of_uncertain h.2 .resume nowMs

theorem unsettled_setStartupPolicy (record : LinuxDaemonStartupRecord) :
    Keeps Unsettled Unsettled (daemonHandleSetStartupPolicy record) :=
  keeps_succeeds.bind fun _ =>
    Keeps.when (keeps_modify fun _ h => ⟨h.file, h.memory, h.untouched⟩)

/-- An unsettled record is not replayed. -/
theorem unsettled_restoreLastAtStart : Keeps Unsettled Unsettled restoreLastAtStart := by
  intro w h
  refine ensures_bind ((unsettled_stores.ensures_stateLoad h).mono (fun result w h => ?_)
    fun _ h => h)
  cases result with
  | missing => exact ensures_pure h.1
  | removed => exact ensures_pure h.1
  | ioError => exact ensures_modify (unsettled_bookkeeping.uncertain w h.1)
  | loaded saved =>
    refine ensures_bind (ensures_get ?_)
    split
    · exact ensures_pure h.1
    split
    · exact ensures_modify (unsettled_bookkeeping.uncertain w h.1)
    · rename_i hactive
      have hstored : storedState w.disk.state = some saved.state := by
        rw [h.2 saved rfl]
        rfl
      exact absurd (hstored.trans (congrArg some (not_not.mp hactive))) h.1.file

theorem unsettled_task (task : DaemonTask) (h : Unsettled w) :
    Ensures task.program (fun _ => UnsettledOrCommitted)
      (fun w => FileUnsettledOrCommitted w.disk w.trace) w := by
  have hkept : ∀ {m : DaemonM Unit}, Keeps Unsettled Unsettled m →
      Ensures m (fun _ => UnsettledOrCommitted)
        (fun w => FileUnsettledOrCommitted w.disk w.trace) w :=
    fun hm => (hm w h).mono (fun _ _ h => .inr h) fun _ h => h.left
  cases task with
  | apply desired operationId => exact unsettled_apply desired operationId h
  | reset operationId => exact unsettled_reset operationId h
  | resumeRestore => exact hkept unsettled_resumeRestore
  | setStartupPolicy record => exact hkept (unsettled_setStartupPolicy record)
  | retryBackend => exact hkept unsettled_bookkeeping.retryBackendForRead
  | deferredHandback => exact hkept unsettled_bookkeeping.resumeDeferredHandback
  | fanLockout =>
    exact hkept (unsettled_stores.fanWorkerLockout unsettled_bookkeeping uncertain_ne_active)

theorem unsettled_stop : Keeps Unsettled Unsettled orderlyStop :=
  unsettled_bookkeeping.orderlyStop (fun _ h => h.log rfl) fun _ _ h _ =>
    ⟨h.file, h.memory, h.untouched.log rfl⟩

/-! ### The start -/

/-- The guard refuses every start-time write. -/
def LinuxAutoRestoreGuard.DeniesStart (guard : LinuxAutoRestoreGuard) : Prop :=
  guard.lockedOut = true ∨ LINUX_AUTO_RESTORE_MAX_START_ATTEMPTS ≤ guard.startAttempts

theorem verdict_ne_allow_of_deniesStart (h : w.memory.autoRestoreGuard.DeniesStart)
    (nowMs : UInt32) : w.verdict .bootProfile nowMs ≠ .allow := by
  intro hallow
  obtain ⟨hopen, hleft⟩ := open_of_verdict_allow rfl hallow
  rcases h with hlocked | hspent
  · exact absurd (hlocked.symm.trans hopen) (by decide)
  · exact absurd hspent (UInt32.not_le.mpr hleft)

/-- An unsettled start that a profile policy does not reach, before it has its
policy. -/
structure StartsUnsettled (startup : DaemonFile LinuxDaemonStartupRecord) (readable : Bool)
    (w : DaemonWorld) : Prop where
  unsettled : Unsettled w
  startup_eq : w.disk.startup = startup
  denied : (loadStartupPolicyAtBoot startup readable).mode = .profile →
    w.memory.autoRestoreGuard.DeniesStart

theorem startsUnsettled_bookkeeping (startup : DaemonFile LinuxDaemonStartupRecord)
    (readable : Bool) : Bookkeeping (StartsUnsettled startup readable) where
  fan w fan h := ⟨unsettled_bookkeeping.fan w fan h.unsettled, h.startup_eq, h.denied⟩
  fanMarker w file h :=
    ⟨unsettled_bookkeeping.fanMarker w file h.unsettled, h.startup_eq, h.denied⟩
  gpuReady w ready h := ⟨unsettled_bookkeeping.gpuReady w ready h.unsettled, h.startup_eq, h.denied⟩
  uncertain w h := ⟨unsettled_bookkeeping.uncertain w h.unsettled, h.startup_eq, h.denied⟩
  lockout w reason h :=
    ⟨unsettled_bookkeeping.lockout w reason h.unsettled, h.startup_eq, fun _ => .inl rfl⟩
  guardStored w h := ⟨unsettled_bookkeeping.guardStored w h.unsettled, h.startup_eq, h.denied⟩

/-- A profile that the guard denies is not applied. -/
theorem unsettled_startupProfile (h : Unsettled w)
    (hdenied : w.memory.startupPolicy.mode = .profile →
      w.memory.autoRestoreGuard.DeniesStart) :
    Ensures applyStartupProfilePolicy (fun _ => Unsettled) Unsettled w := by
  refine ensures_bind (ensures_get ?_)
  unfold CrashM.when
  split
  · rename_i hprofile
    have hb : Bookkeeping fun w => Unsettled w ∧ w.memory.autoRestoreGuard.DeniesStart :=
      { fan := fun w fan h => ⟨unsettled_bookkeeping.fan w fan h.1, h.2⟩
        fanMarker := fun w file h => ⟨unsettled_bookkeeping.fanMarker w file h.1, h.2⟩
        gpuReady := fun w ready h => ⟨unsettled_bookkeeping.gpuReady w ready h.1, h.2⟩
        uncertain := fun w h => ⟨unsettled_bookkeeping.uncertain w h.1, h.2⟩
        lockout := fun w reason h => ⟨unsettled_bookkeeping.lockout w reason h.1, .inl rfl⟩
        guardStored := fun w h => ⟨unsettled_bookkeeping.guardStored w h.1, h.2⟩ }
    refine ensures_bind ((hb.deniedRestore (fun w nowMs h => ?_) (fun w nowMs h => ?_) _ w
      ⟨h, hdenied (by simpa using hprofile)⟩).mono (fun _ w h => ensures_pure h.1) fun _ h => h.1)
    · exact ⟨⟨h.1.file, h.1.memory, h.1.untouched⟩, h.2⟩
    · exact verdict_ne_allow_of_deniesStart h.2 nowMs
  · exact ensures_pure h

theorem unsettled_run (startup : DaemonFile LinuxDaemonStartupRecord) {reads : StartReads}
    (hdie : FileUnsettledOrCommitted w.disk w.trace)
    (hload : ∀ ready,
      StartsUnsettled startup reads.policyReadable ((w.setGpuReady ready).loadGuard reads)) :
    Ensures (linuxDaemonRun reads) (fun _ => UnsettledOrCommitted)
      (fun w => FileUnsettledOrCommitted w.disk w.trace) w := by
  refine (startsUnsettled_bookkeeping startup reads.policyReadable).run
    (fun _ h => h.unsettled.left) hdie hload (fun w h => ?_) fun _ h => h.left
  have hpolicy : Unsettled (w.setPolicy
      (loadStartupPolicyAtBoot w.disk.startup reads.policyReadable)) :=
    ⟨h.unsettled.file, h.unsettled.memory, h.unsettled.untouched⟩
  refine (unsettled_startupProfile hpolicy fun hprofile => ?_).mono (fun _ w h => ?_)
    fun _ h => h.left
  · exact h.denied (h.startup_eq ▸ hprofile)
  · exact (unsettled_restoreLastAtStart w h).mono (fun _ _ h => .inr h) fun _ h => h.left

end Programs

/-! ## Along the machine -/

/-- A start that would apply a profile: its policy names one and the guard it loads
allows it. -/
def ProfileDue (m : DaemonMachine) : DaemonEvent → Prop
  | .start reads _ =>
    m.process = none ∧
      (loadStartupPolicyAtBoot m.disk.startup reads.policyReadable).mode = .profile ∧
      linuxAutoRestoreDecide (loadAutoRestoreGuardAtBoot m.disk.guard m.bootId reads) .bootProfile
        false 0 = .allow
  | _ => False

/-- Nothing is committed on disk or in the memory of a serving daemon. -/
structure UnsettledMachine (m : DaemonMachine) : Prop where
  file : NotActive m.disk.state
  memory : ∀ memory, m.process = some memory → memory.Unsettled

theorem notActive_damage {disk : DaemonDisk} (file : DaemonFileName) (h : NotActive disk.state) :
    NotActive (disk.damage file).state := by
  cases file with
  | state => exact fun heq => nomatch heq
  | guard => exact h
  | fanMarker => exact h
  | startup => exact h

theorem unsettled_rules : StepRules Unsettled UnsettledOrCommitted FileUnsettledOrCommitted where
  result _ h := .inr h
  files _ h := h.left
  task task _ h := unsettled_task task h
  stop w h := (unsettled_stop w h).mono (fun _ _ h => .inr h) fun _ h => h.left
  damageFile _ file h :=
    ⟨h.1, .inr (notActive_damage file (h.2.resolve_left List.not_mem_nil))⟩
  damage _ _ _ file h := .inr ⟨notActive_damage file h.file, h.memory, h.untouched⟩

/-- A guard that does not allow the profile denies it whatever it does later. -/
theorem deniesStart_of_decide {guard : LinuxAutoRestoreGuard}
    (h : linuxAutoRestoreDecide guard .bootProfile false 0 ≠ .allow) : guard.DeniesStart := by
  by_contra hopen
  obtain ⟨hlocked, hspent⟩ := not_or.mp hopen
  exact h (by simp [linuxAutoRestoreDecide, linuxAutoRestoreTriggerIsStart, hlocked, hspent])

/-- **Nothing is written to an unsettled machine, and it stays unsettled until an
explicit operation commits, unless a profile is due.** -/
theorem UnsettledMachine.step {m : DaemonMachine} (h : UnsettledMachine m) {e : DaemonEvent}
    (hdue : ¬ ProfileDue m e) : Untouched (daemonStep m e).2 ∧
      (.committed ∈ (daemonStep m e).2 ∨ UnsettledMachine (daemonStep m e).1) := by
  have hbefore : Holds Unsettled FileUnsettledOrCommitted (m, []) :=
    ⟨⟨untouched_nil, .inr h.file⟩, fun memory hp => ⟨h.file, h.memory memory hp, untouched_nil⟩⟩
  have hafter := unsettled_rules.step hbefore (e := e) fun reads answers he hp => by
    subst he
    refine unsettled_run m.disk.startup hbefore.files fun ready => ?_
    refine ⟨⟨h.file, .inr rfl, untouched_nil⟩, rfl, fun hprofile => ?_⟩
    exact deniesStart_of_decide fun hallow => hdue ⟨hp, hprofile, hallow⟩
  refine ⟨hafter.files.1, or_iff_not_imp_left.mpr fun hcommitted => ?_⟩
  refine ⟨hafter.files.2.resolve_left hcommitted, fun memory hp => ?_⟩
  exact ((hafter.process memory hp).resolve_left fun hc => hcommitted hc.logged).memory

/-! ## Runs -/

/-- A start that finds a record which is prepared or uncertain. -/
def FindsUnsettled (m : DaemonMachine) : DaemonEvent → Prop
  | .start _ _ =>
    m.process = none ∧
      (storedState m.disk.state = some .prepared ∨ storedState m.disk.state = some .uncertain)
  | _ => False

/-- Since some start up to the `j`-th event that found an unsettled record, no
explicit operation has committed. -/
def UnsettledSince (ev : Nat → DaemonEvent) (j : Nat) : Prop :=
  ∃ i, i ≤ j ∧ FindsUnsettled (linuxDaemon.stateAt ev i) (ev i) ∧
    ∀ k, i ≤ k → k < j → .committed ∉ daemonOutput ev k

theorem FindsUnsettled.machine {m : DaemonMachine} {e : DaemonEvent} (h : FindsUnsettled m e) :
    UnsettledMachine m := by
  cases e with
  | start reads answers =>
    obtain ⟨hp, hstored⟩ := h
    refine ⟨fun hactive => ?_, fun memory hp' => nomatch hp.symm.trans hp'⟩
    rcases hstored with hstored | hstored
    · exact nomatch hstored.symm.trans hactive
    · exact nomatch hstored.symm.trans hactive
  | boot bootId => exact h.elim
  | serve task answers => exact h.elim
  | stop answers => exact h.elim
  | kill => exact h.elim
  | damage file => exact h.elim

/-- The machine stays unsettled while nothing commits and no profile is due. -/
theorem unsettledMachine_until {ev : Nat → DaemonEvent} {i j : Nat} (hij : i ≤ j)
    (h : UnsettledMachine (linuxDaemon.stateAt ev i))
    (hopen : ∀ k, i ≤ k → k < j → .committed ∉ daemonOutput ev k)
    (hdue : ∀ k, i ≤ k → k < j → ¬ ProfileDue (linuxDaemon.stateAt ev k) (ev k)) :
    UnsettledMachine (linuxDaemon.stateAt ev j) := by
  induction j, hij using Nat.le_induction with
  | base => exact h
  | succ j hij ih =>
    have hbefore := ih (fun k hik hkj => hopen k hik (Nat.lt_succ_of_lt hkj))
      fun k hik hkj => hdue k hik (Nat.lt_succ_of_lt hkj)
    have hstep := hbefore.step (hdue j hij (Nat.lt_succ_self j))
    exact hstep.2.resolve_left (hopen j hij (Nat.lt_succ_self j))

/-- No unattended write is issued from a start that finds an unsettled record until
an explicit operation commits. -/
def UnsettledRecordBlocks (ev : Nat → DaemonEvent) : Prop :=
  ∀ j, UnsettledSince ev j → Untouched (daemonOutput ev j)

/-- **An unsettled record blocks every unattended write until an explicit operation
commits, in every run in which no profile is due meanwhile.** -/
theorem unsettled_record_blocks (ev : Nat → DaemonEvent)
    (hdue : ∀ j, UnsettledSince ev j → ¬ ProfileDue (linuxDaemon.stateAt ev j) (ev j)) :
    UnsettledRecordBlocks ev := by
  intro j h
  have hprofile := hdue j h
  obtain ⟨i, hij, hfinds, hopen⟩ := h
  have hmachine := unsettledMachine_until hij hfinds.machine hopen fun k hik hkj =>
    hdue k ⟨i, hik, hfinds, fun l hil hlk => hopen l hil (hlk.trans hkj)⟩
  exact (hmachine.step hprofile).1

/-! ## An Apply cut short

The daemon dies in the hardware call of an Apply, after its record was prepared, and
is started again under the startup policy `mode`. -/

def cutShortEvents (mode : ServiceStartupPolicyMode) : List DaemonEvent :=
  [.boot ['a'], answeredStart true,
    .serve (.setStartupPolicy
      { mode, desired := { hasGpuOffset := true, gpuOffsetMHz := 100 } }) [{}],
    .serve (.apply { hasGpuOffset := true, gpuOffsetMHz := 150 } 1) [{}, {}, {}],
    answeredStart true]

def cutShortRun (mode : ServiceStartupPolicyMode) (n : Nat) : DaemonEvent :=
  (cutShortEvents mode).getD n .kill

/-- Under a policy that applies nothing, nothing is written. -/
theorem cutShortRun_blocks : UnsettledRecordBlocks (cutShortRun .none) := by
  refine unsettled_record_blocks (cutShortRun .none) fun n _ hdue => ?_
  rcases Nat.lt_or_ge n 5 with hn | hn
  · interval_cases n
    all_goals first | exact hdue | exact absurd hdue.2.1 (by decide +kernel)
  · have hnone : (cutShortEvents .none)[n]? = none := List.getElem?_eq_none hn
    have hlate : cutShortRun .none n = .kill := by
      rw [cutShortRun, List.getD_eq_getElem?_getD, hnone]
      rfl
    rw [hlate] at hdue
    exact hdue

/-- A profile is written over the prepared record. -/
theorem cutShortRun_not_blocks : ¬ UnsettledRecordBlocks (cutShortRun .profile) := by
  intro h
  have hfound : FindsUnsettled (linuxDaemon.stateAt (cutShortRun .profile) 4)
      (cutShortRun .profile 4) :=
    ⟨Option.isNone_iff_eq_none.mp (by decide +kernel), .inl (by decide +kernel)⟩
  have huntouched := h 4 ⟨4, Nat.le_refl 4, hfound, fun k hk hk' => absurd hk' (Nat.not_lt.mpr hk)⟩
  have hwritten : (daemonOutput (cutShortRun .profile) 4).any DaemonAction.isAutomaticWrite =
      true := by
    decide +kernel
  obtain ⟨action, hmem, hwrite⟩ := List.any_eq_true.mp hwritten
  exact absurd (hwrite.symm.trans (huntouched action hmem)) (by decide)

end GreenCurve
