import GreenCurve.DaemonFrame

/-! # The crash-loop guard over whole histories

Three invariants of the daemon's guard, each proved of every program and lifted to
runs of boots, starts, crashes, stops and requests: the guard in memory and the
guard on disk are sound, a stored lockout admits no unattended write until it is
cleared, and the start-time writes of a boot are covered by the count. -/

namespace GreenCurve

open CrashM

/-! ## Soundness -/

/-- The guard on disk, if it decodes, passes its check. -/
def ValidFile (disk : DaemonDisk) : Prop :=
  ∀ record, disk.guard = .record record → linuxDaemonGuardValid record = true

/-- The guard in memory is sound and the guard on disk passes its check. -/
def SoundGuards (w : DaemonWorld) : Prop :=
  GuardSound w.memory.autoRestoreGuard ∧ ValidFile w.disk

section Soundness

theorem SoundGuards.setGuard {w : DaemonWorld} (h : SoundGuards w) {guard : LinuxAutoRestoreGuard}
    (hg : GuardSound guard) : SoundGuards (w.setGuard guard) :=
  ⟨hg, h.2⟩

theorem SoundGuards.storeGuard {w : DaemonWorld} (h : SoundGuards w) : SoundGuards w.storeGuard := by
  refine ⟨h.1, fun record hrecord => ?_⟩
  obtain rfl : linuxDaemonGuardInitialize w.memory.autoRestoreGuard = record := by
    simpa [DaemonWorld.storeGuard] using hrecord
  exact linuxDaemonGuardValid_stored _

theorem soundGuards_bookkeeping : Bookkeeping SoundGuards where
  fan _ _ h := h
  fanMarker _ _ h := h
  gpuReady _ _ h := h
  uncertain _ h := h
  lockout _ reason h := h.setGuard (h.1.noteLockout reason)
  guardStored _ h := h.storeGuard

theorem soundGuards_records : RecordKeeping SoundGuards where
  state _ _ h := h
  active _ _ h := h
  log _ _ _ h := h

theorem soundGuards_policies : PolicyKeeping SoundGuards where
  startup _ _ h := h
  policy _ _ h := h

theorem SoundGuards.noteResumeTrigger {w : DaemonWorld} (h : SoundGuards w)
    (trigger : LinuxAutoRestoreTrigger) (nowMs : UInt32) :
    SoundGuards (w.setGuard (noteResumeTrigger trigger w.memory.autoRestoreGuard nowMs)) := by
  refine h.setGuard ?_
  unfold GreenCurve.noteResumeTrigger
  split
  · exact h.1.noteResumeAttempt nowMs
  · exact h.1

theorem soundGuards_restore (trigger : LinuxAutoRestoreTrigger) (intent : DesiredSettings) :
    Keeps SoundGuards SoundGuards (daemonAutomaticRestoreWrite trigger intent) := by
  refine soundGuards_records.automaticRestoreWrite (J := SoundGuards) soundGuards_bookkeeping
    ⟨?_, ?_, ?_⟩ soundGuards_bookkeeping (fun _ h => h) (fun _ h => h) (fun _ _ h _ => h) intent
  · exact fun w nowMs h => h.noteResumeTrigger trigger nowMs
  · exact fun w _ _ h _ => h
  · intro w _ _ h _
    have hcounted : SoundGuards w.countAttempt := h.setGuard h.1.noteStartAttempt
    exact ⟨hcounted, hcounted.storeGuard⟩

theorem soundGuards_unattended : Unattended SoundGuards SoundGuards :=
  ⟨fun _ h => h, soundGuards_bookkeeping, soundGuards_records, soundGuards_policies, soundGuards_restore⟩

theorem soundGuards_success : Keeps SoundGuards SoundGuards autoRestoreNoteExplicitSuccess := by
  refine keeps_explicitSuccess fun w cleared h hcleared => ?_
  have hsound : SoundGuards (w.setGuard cleared) := h.setGuard (h.1.noteExplicitSuccess hcleared)
  exact ⟨hsound, hsound.storeGuard⟩

theorem soundGuards_stop : Keeps SoundGuards SoundGuards orderlyStop :=
  soundGuards_bookkeeping.orderlyStop (fun _ h => h) fun _ _ h hcleared =>
    h.setGuard (h.1.noteCleanStop hcleared)

theorem guardSound_loaded {file : DaemonFile LinuxDaemonRestoreGuardRecord} (readable : Bool) :
    GuardSound (loadedGuard file readable) := by
  have hlocked : GuardSound
      (linuxAutoRestoreNoteLockout {} SERVICE_AUTO_RESTORE_LOCKOUT_AUTOMATIC_APPLY_FAILED) :=
    guardSound_zero.noteLockout _
  cases file with
  | absent => cases readable <;> first | exact hlocked | exact guardSound_zero
  | damaged => exact hlocked
  | record record =>
    unfold loadedGuard linuxDaemonGuardLoad
    by_cases hread : (readable && linuxDaemonGuardValid record) = true
    · simp only [hread, if_true]
      exact guardSound_toPolicy (Bool.and_eq_true _ _ ▸ hread).2
    · simp only [hread]
      exact hlocked

theorem guardSound_loadAtBoot (file : DaemonFile LinuxDaemonRestoreGuardRecord) (bootId : BootId)
    (reads : StartReads) : GuardSound (loadAutoRestoreGuardAtBoot file bootId reads) := by
  unfold loadAutoRestoreGuardAtBoot
  split
  · exact guardSound_loaded _
  · exact (guardSound_loaded _).adoptBoot bootId

theorem validFile_damage {disk : DaemonDisk} (file : DaemonFileName) (h : ValidFile disk) :
    ValidFile (disk.damage file) := by
  intro record hrecord
  cases file with
  | guard => cases hrecord
  | state => exact h record hrecord
  | fanMarker => exact h record hrecord
  | startup => exact h record hrecord

theorem soundGuards_rules : StepRules SoundGuards SoundGuards fun disk _ => ValidFile disk where
  result _ h := h
  files _ h := h.2
  task task w h := (soundGuards_unattended.task soundGuards_success task w h).mono
    (fun _ _ h => h) fun _ h => h.2
  stop w h := (soundGuards_stop w h).mono (fun _ _ h => h) fun _ h => h.2
  damageFile _ file h := validFile_damage file h
  damage _ _ _ file h := ⟨h.1, validFile_damage file h.2⟩

/-- The guards of the machine: the one on disk, and the one of a serving daemon. -/
def SoundMachine (m : DaemonMachine) : Prop := Holds SoundGuards (fun disk _ => ValidFile disk) (m, [])

theorem SoundMachine.run {m : DaemonMachine} (h : SoundMachine m) (reads : StartReads) :
    Ensures (linuxDaemonRun reads) (fun _ => SoundGuards) SoundGuards (m.world {}) :=
  soundGuards_unattended.run ⟨guardSound_zero, h.files⟩
    fun _ => ⟨guardSound_loadAtBoot _ _ _, h.files⟩

theorem soundMachine_step {m : DaemonMachine} (h : SoundMachine m) (e : DaemonEvent) :
    SoundMachine (daemonStep m e).1 := by
  have hstep := soundGuards_rules.step h (e := e) fun reads _ _ _ =>
    (h.run reads).mono (fun _ _ h => h) fun _ h => h.2
  exact ⟨hstep.files, hstep.process⟩

end Soundness

/-! ## A stored lockout -/

/-- The guard on disk locks out whoever reads it. -/
def LockedFile : DaemonFile LinuxDaemonRestoreGuardRecord → Prop
  | .absent => False
  | .damaged => True
  | .record record => record.lockedOut ≠ 0

def DaemonAction.isAutomaticWrite : DaemonAction → Bool
  | .automaticWrite _ _ => true
  | _ => false

/-- No unattended write has been issued. -/
def Untouched (actions : List DaemonAction) : Prop :=
  ∀ action ∈ actions, action.isAutomaticWrite = false

/-- The guard locks out in memory and on disk, and nothing was written. -/
structure LockedOut (w : DaemonWorld) : Prop where
  memory : w.memory.autoRestoreGuard.lockedOut = true
  file : LockedFile w.disk.guard
  untouched : Untouched w.trace

/-- An explicit operation has cleared the lockout durably, or it still holds. -/
def LockedOrRearmed (w : DaemonWorld) : Prop :=
  Untouched w.trace ∧ (.rearmed ∈ w.trace ∨
    (w.memory.autoRestoreGuard.lockedOut = true ∧ LockedFile w.disk.guard))

/-- What the files keep of it. -/
def FileLockedOrRearmed (disk : DaemonDisk) (actions : List DaemonAction) : Prop :=
  Untouched actions ∧ (.rearmed ∈ actions ∨ LockedFile disk.guard)

section Lockout

theorem untouched_nil : Untouched [] :=
  fun _ h => absurd h List.not_mem_nil

theorem Untouched.log {actions : List DaemonAction} (h : Untouched actions) {action : DaemonAction}
    (ha : action.isAutomaticWrite = false) : Untouched (actions ++ [action]) := by
  intro a hmem
  rcases List.mem_append.mp hmem with hmem | hmem
  · exact h a hmem
  · rw [List.mem_singleton.mp hmem]
    exact ha

theorem untouched_of_isRecordKeeping {action : DaemonAction}
    (h : action.isRecordKeeping = true) : action.isAutomaticWrite = false := by
  cases action <;> first | rfl | cases h

theorem lockedFile_stored {guard : LinuxAutoRestoreGuard} (h : guard.lockedOut = true) :
    LockedFile (.record (linuxDaemonGuardInitialize guard)) := by
  simp [LockedFile, linuxDaemonGuardInitialize, h]

theorem lockedOut_bookkeeping : Bookkeeping LockedOut where
  fan _ _ h := ⟨h.memory, h.file, h.untouched⟩
  fanMarker _ _ h := ⟨h.memory, h.file, h.untouched⟩
  gpuReady _ _ h := ⟨h.memory, h.file, h.untouched⟩
  uncertain _ h := ⟨h.memory, h.file, h.untouched⟩
  lockout _ _ h := ⟨rfl, h.file, h.untouched⟩
  guardStored _ h := ⟨h.memory, lockedFile_stored h.memory, h.untouched⟩

theorem lockedOut_records : RecordKeeping LockedOut where
  state _ _ h := ⟨h.memory, h.file, h.untouched⟩
  active _ _ h := ⟨h.memory, h.file, h.untouched⟩
  log _ _ hrec h := ⟨h.memory, h.file, h.untouched.log (untouched_of_isRecordKeeping hrec)⟩

theorem lockedOut_policies : PolicyKeeping LockedOut where
  startup _ _ h := ⟨h.memory, h.file, h.untouched⟩
  policy _ _ h := ⟨h.memory, h.file, h.untouched⟩

/-- A locked guard authorises nothing. -/
theorem LockedOut.verdict_ne_allow {w : DaemonWorld} (h : LockedOut w)
    (trigger : LinuxAutoRestoreTrigger) (nowMs : UInt32) : w.verdict trigger nowMs ≠ .allow := by
  unfold DaemonWorld.verdict linuxAutoRestoreDecide
  rw [if_pos h.memory]
  split
  · exact nofun
  · exact nofun

theorem noteResumeTrigger_startAttempts (trigger : LinuxAutoRestoreTrigger)
    (guard : LinuxAutoRestoreGuard) (nowMs : UInt32) :
    (noteResumeTrigger trigger guard nowMs).startAttempts = guard.startAttempts := by
  simp only [noteResumeTrigger, linuxAutoRestoreNoteResumeAttempt]
  split_ifs <;> rfl

theorem lockedOut_restore (trigger : LinuxAutoRestoreTrigger) (intent : DesiredSettings) :
    Keeps LockedOut LockedOut (daemonAutomaticRestoreWrite trigger intent) := by
  refine lockedOut_bookkeeping.deniedRestore (fun w nowMs h => ?_) (fun w nowMs h => ?_) intent
  · exact ⟨(noteResumeTrigger_lockedOut _ _ _).trans h.memory, h.file, h.untouched⟩
  · exact h.verdict_ne_allow trigger nowMs

theorem noteCleanStop_lockedOut {guard cleared : LinuxAutoRestoreGuard}
    (h : linuxAutoRestoreNoteCleanStop guard = some cleared) :
    cleared.lockedOut = guard.lockedOut := by
  unfold linuxAutoRestoreNoteCleanStop at h
  split_ifs at h
  cases h
  rfl

theorem lockedOut_stop : Keeps LockedOut LockedOut orderlyStop :=
  lockedOut_bookkeeping.orderlyStop (fun _ h => ⟨h.memory, h.file, h.untouched.log rfl⟩)
    fun _ _ h hcleared =>
      ⟨(noteCleanStop_lockedOut hcleared).trans h.memory, h.file, h.untouched.log rfl⟩

/-- The loaded guard is locked out when its file is. -/
theorem lockedOut_loadAtBoot {file : DaemonFile LinuxDaemonRestoreGuardRecord}
    (h : LockedFile file) (bootId : BootId) (reads : StartReads) :
    (loadAutoRestoreGuardAtBoot file bootId reads).lockedOut = true := by
  have hloaded : (loadedGuard file reads.guardReadable).lockedOut = true := by
    cases file with
    | absent => exact h.elim
    | damaged => rfl
    | record record =>
      unfold loadedGuard linuxDaemonGuardLoad
      by_cases hread : (reads.guardReadable && linuxDaemonGuardValid record) = true
      · simp only [hread, if_true]
        exact decide_eq_true h
      · simp only [hread]
        rfl
  unfold loadAutoRestoreGuardAtBoot linuxAutoRestoreGuardAdoptBoot
  split_ifs <;> exact hloaded

/-! ### Along the programs -/

theorem LockedOut.rearmable {w : DaemonWorld} (h : LockedOut w) : LockedOrRearmed w :=
  ⟨h.untouched, .inr ⟨h.memory, h.file⟩⟩

theorem LockedOrRearmed.file {w : DaemonWorld} (h : LockedOrRearmed w) : FileLockedOrRearmed w.disk w.trace :=
  ⟨h.1, h.2.imp_right And.right⟩

theorem LockedOut.fileLocked {w : DaemonWorld} (h : LockedOut w) : FileLockedOrRearmed w.disk w.trace :=
  h.rearmable.file

theorem lockedOut_unattended : Unattended LockedOut fun w => FileLockedOrRearmed w.disk w.trace :=
  ⟨fun _ h => h.fileLocked, lockedOut_bookkeeping, lockedOut_records, lockedOut_policies,
    fun trigger intent => (lockedOut_restore trigger intent).weaken fun _ h => h.fileLocked⟩

theorem lockedOrRearmed_bookkeeping : Bookkeeping LockedOrRearmed where
  fan _ _ h := h
  fanMarker _ _ h := h
  gpuReady _ _ h := h
  uncertain _ h := h
  lockout _ _ h := ⟨h.1, h.2.imp_right fun hlocked => ⟨rfl, hlocked.2⟩⟩
  guardStored _ h := ⟨h.1, h.2.imp_right fun hlocked => ⟨hlocked.1, lockedFile_stored hlocked.1⟩⟩

theorem LockedOrRearmed.log {w : DaemonWorld} (h : LockedOrRearmed w) {action : DaemonAction}
    (ha : action.isAutomaticWrite = false) : LockedOrRearmed (w.log action) :=
  ⟨h.1.log ha, h.2.imp_left (List.mem_append_left _)⟩

theorem lockedOrRearmed_records : RecordKeeping LockedOrRearmed where
  state _ _ h := h
  active _ _ h := h
  log _ _ hrec h := h.log (untouched_of_isRecordKeeping hrec)

theorem lockedOrRearmed_success :
    Keeps LockedOrRearmed (fun w => FileLockedOrRearmed w.disk w.trace)
      autoRestoreNoteExplicitSuccess := by
  refine keeps_explicitSuccess fun w cleared h _ => ⟨h.file, h.1.log rfl, .inl ?_⟩
  exact List.mem_append_right _ (List.mem_singleton_self _)

/-- No task writes unattended under a lockout, and only an explicit operation
lifts it. -/
theorem lockedOut_task (task : DaemonTask) {w : DaemonWorld} (h : LockedOut w) :
    Ensures task.program (fun _ => LockedOrRearmed)
      (fun w => FileLockedOrRearmed w.disk w.trace) w := by
  have hexplicit : ∀ w, LockedOrRearmed w → FileLockedOrRearmed w.disk w.trace := fun _ h => h.file
  have hkept : ∀ {m : DaemonM Unit},
      Keeps LockedOut (fun w => FileLockedOrRearmed w.disk w.trace) m →
      Ensures m (fun _ => LockedOrRearmed) (fun w => FileLockedOrRearmed w.disk w.trace) w :=
    fun hm => (hm w h).mono (fun _ _ h => h.rearmable) fun _ h => h
  have hdies : ∀ w, LockedOut w → FileLockedOrRearmed w.disk w.trace := fun _ h => h.fileLocked
  cases task with
  | apply desired operationId =>
    exact lockedOrRearmed_records.handleApply lockedOrRearmed_bookkeeping hexplicit
      lockedOrRearmed_success desired operationId w h.rearmable
  | reset operationId =>
    exact lockedOrRearmed_records.handleReset lockedOrRearmed_bookkeeping hexplicit
      lockedOrRearmed_success operationId w h.rearmable
  | resumeRestore => exact hkept lockedOut_unattended.resumeRestore
  | setStartupPolicy record => exact hkept ((lockedOut_policies.setStartupPolicy record).weaken hdies)
  | retryBackend => exact hkept (lockedOut_bookkeeping.retryBackendForRead.weaken hdies)
  | deferredHandback => exact hkept (lockedOut_bookkeeping.resumeDeferredHandback.weaken hdies)
  | fanLockout =>
    exact hkept ((lockedOut_records.settling.stores.fanWorkerLockout lockedOut_bookkeeping
      fun _ _ => trivial).weaken hdies)

theorem lockedFile_damage {disk : DaemonDisk} (file : DaemonFileName) (h : LockedFile disk.guard) :
    LockedFile (disk.damage file).guard := by
  cases file with
  | guard => exact trivial
  | state => exact h
  | fanMarker => exact h
  | startup => exact h

theorem lockedOut_rules : StepRules LockedOut LockedOrRearmed FileLockedOrRearmed where
  result _ h := h.rearmable
  files _ h := h.file
  task task _ h := lockedOut_task task h
  stop w h := (lockedOut_stop w h).mono (fun _ _ h => h.rearmable) fun _ h => h.fileLocked
  damageFile _ file h :=
    ⟨h.1, .inr (lockedFile_damage file (h.2.resolve_left List.not_mem_nil))⟩
  damage _ _ _ file h := ⟨h.untouched, .inr ⟨h.memory, lockedFile_damage file h.file⟩⟩

/-- A lockout on disk that a serving daemon knows of. -/
structure LockedMachine (m : DaemonMachine) : Prop where
  file : LockedFile m.disk.guard
  memory : ∀ memory, m.process = some memory → memory.autoRestoreGuard.lockedOut = true

/-- Nothing is written to a locked machine, and it stays locked until it is
rearmed. -/
theorem LockedMachine.step {m : DaemonMachine} (h : LockedMachine m) (e : DaemonEvent) :
    Untouched (daemonStep m e).2 ∧
      (.rearmed ∈ (daemonStep m e).2 ∨ LockedMachine (daemonStep m e).1) := by
  have hbefore : Holds LockedOut FileLockedOrRearmed (m, []) :=
    ⟨⟨untouched_nil, .inr h.file⟩, fun memory hp => ⟨h.memory memory hp, h.file, untouched_nil⟩⟩
  have hafter := lockedOut_rules.step hbefore (e := e) fun reads _ _ _ =>
    (lockedOut_unattended.run (w := m.world {}) hbefore.files fun ready =>
      ⟨lockedOut_loadAtBoot h.file _ _, h.file, untouched_nil⟩).mono
      (fun _ _ h => h.rearmable) fun _ h => h
  refine ⟨hafter.files.1, or_iff_not_imp_left.mpr fun hrearmed => ?_⟩
  refine ⟨hafter.files.2.resolve_left hrearmed, fun memory hp => ?_⟩
  exact ((hafter.process memory hp).2.resolve_left hrearmed).1

end Lockout

/-! ## A lockout that was stored

A process that serves while its guard file holds a lockout has that lockout in
memory: it stores what it holds, and loads what was stored. -/

/-- The file holds a lockout, as one was stored. -/
def StoredLockout (file : DaemonFile LinuxDaemonRestoreGuardRecord) : Prop :=
  ∃ record, file = .record record ∧ record.lockedOut ≠ 0

/-- A lockout on disk is also in memory. -/
def LockoutKnown (w : DaemonWorld) : Prop :=
  StoredLockout w.disk.guard → w.memory.autoRestoreGuard.lockedOut = true

section StoredLockout

theorem StoredLockout.locked {file : DaemonFile LinuxDaemonRestoreGuardRecord}
    (h : StoredLockout file) : LockedFile file := by
  obtain ⟨record, rfl, hlocked⟩ := h
  exact hlocked

theorem lockoutKnown_storeGuard (w : DaemonWorld) : LockoutKnown w.storeGuard := by
  rintro ⟨record, hrecord, hlocked⟩
  obtain rfl : linuxDaemonGuardInitialize w.memory.autoRestoreGuard = record := by
    simpa [DaemonWorld.storeGuard] using hrecord
  by_contra hopen
  exact hlocked (if_neg hopen)

theorem LockoutKnown.setGuard {w : DaemonWorld} (h : LockoutKnown w) {guard : LinuxAutoRestoreGuard}
    (hg : guard.lockedOut = w.memory.autoRestoreGuard.lockedOut) : LockoutKnown (w.setGuard guard) :=
  fun hstored => hg.trans (h hstored)

theorem lockoutKnown_bookkeeping : Bookkeeping LockoutKnown where
  fan _ _ h := h
  fanMarker _ _ h := h
  gpuReady _ _ h := h
  uncertain _ h := h
  lockout _ _ _ := fun _ => rfl
  guardStored w _ := lockoutKnown_storeGuard w

theorem lockoutKnown_records : RecordKeeping LockoutKnown where
  state _ _ h := h
  active _ _ h := h
  log _ _ _ h := h

theorem lockoutKnown_policies : PolicyKeeping LockoutKnown where
  startup _ _ h := h
  policy _ _ h := h

theorem lockoutKnown_unattended : Unattended LockoutKnown fun _ => True := by
  refine ⟨fun _ _ => trivial, lockoutKnown_bookkeeping, lockoutKnown_records, lockoutKnown_policies,
    fun trigger intent => ?_⟩
  refine lockoutKnown_records.automaticRestoreWrite (J := LockoutKnown) lockoutKnown_bookkeeping
    ⟨?_, ?_, ?_⟩ lockoutKnown_bookkeeping (fun _ _ => trivial) (fun _ h => h) (fun _ _ h _ => h)
    intent
  · exact fun w nowMs h => h.setGuard (noteResumeTrigger_lockedOut _ _ _)
  · exact fun w _ _ h _ => h
  · exact fun w _ _ _ _ => ⟨trivial, lockoutKnown_storeGuard _⟩

theorem lockoutKnown_success :
    Keeps LockoutKnown (fun _ => True) autoRestoreNoteExplicitSuccess :=
  keeps_explicitSuccess fun _ _ _ _ => ⟨trivial, lockoutKnown_storeGuard _⟩

theorem lockoutKnown_rules : StepRules LockoutKnown LockoutKnown fun _ _ => True where
  result _ h := h
  files _ _ := trivial
  task task w h := lockoutKnown_unattended.task lockoutKnown_success task w h
  stop w h := (lockoutKnown_bookkeeping.orderlyStop (fun _ h => h)
    (fun _ _ h hcleared => h.setGuard (noteCleanStop_lockedOut hcleared)) w h).mono
    (fun _ _ h => h) fun _ _ => trivial
  damageFile _ _ _ := trivial
  damage _ _ _ file h := by
    cases file with
    | guard =>
      rintro ⟨record, hrecord, _⟩
      cases hrecord
    | state => exact h
    | fanMarker => exact h
    | startup => exact h

/-- The lockout on disk, if one was stored, is in the memory of a serving daemon. -/
def LockoutKnownMachine (m : DaemonMachine) : Prop := Holds LockoutKnown (fun _ _ => True) (m, [])

theorem lockoutKnownMachine_step {m : DaemonMachine} (h : LockoutKnownMachine m) (e : DaemonEvent) :
    LockoutKnownMachine (daemonStep m e).1 := by
  have hstep := lockoutKnown_rules.step h (e := e) fun reads _ _ _ =>
    lockoutKnown_unattended.run (w := m.world {}) trivial
      fun ready hstored => lockedOut_loadAtBoot hstored.locked _ _
  exact ⟨trivial, hstep.process⟩

theorem StoredLockout.machine {m : DaemonMachine} (h : StoredLockout m.disk.guard)
    (hknown : LockoutKnownMachine m) : LockedMachine m :=
  ⟨h.locked, fun memory hp => hknown.process memory hp h⟩

end StoredLockout

end GreenCurve
