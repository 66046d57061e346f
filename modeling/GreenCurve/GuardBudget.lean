import GreenCurve.GuardHistory
import Mathlib.Algebra.BigOperators.Intervals
import Mathlib.Tactic.IntervalCases

/-! # The start-time budget of a boot

The count in the guard covers the start-time writes issued since the boot, or
since the last clean stop or explicit success, unless the guard was locked out.
It does so only while every start that binds the guard to the boot precedes those
writes: a start that cannot read the boot id counts into the guard of another
boot, and the first start that can read it drops that count. -/

namespace GreenCurve

open CrashM

/-! ## The writes to be covered -/

def DaemonAction.isStartWrite : DaemonAction → Bool
  | .automaticWrite trigger _ => linuxAutoRestoreTriggerIsStart trigger
  | _ => false

/-- An orderly stop, or an explicit success whose guard was stored. -/
def DaemonAction.isReopening : DaemonAction → Bool
  | .rearmed => true
  | .cleanStop => true
  | _ => false

/-- The start-time writes since the last reopening, one action later. -/
def countAction (writes : Nat) (action : DaemonAction) : Nat :=
  if action.isReopening then 0
  else if action.isStartWrite then writes + 1
  else writes

def tally (writes : Nat) (actions : List DaemonAction) : Nat := actions.foldl countAction writes

/-- The start-time writes among some actions. -/
def startWrites (actions : List DaemonAction) : Nat := actions.countP DaemonAction.isStartWrite

section Tally
variable {writes : Nat} {actions : List DaemonAction}

theorem tally_log (action : DaemonAction) :
    tally writes (actions ++ [action]) = countAction (tally writes actions) action :=
  List.foldl_append

theorem countAction_automaticWrite (trigger : LinuxAutoRestoreTrigger) (request : DesiredSettings) :
    countAction writes (.automaticWrite trigger request) =
      if linuxAutoRestoreTriggerIsStart trigger then writes + 1 else writes := rfl

theorem countAction_isRecordKeeping {action : DaemonAction} (h : action.isRecordKeeping = true) :
    countAction writes action = writes := by
  cases action <;> first | rfl | cases h

/-- Where nothing reopens the guard the tally is a plain count. -/
theorem tally_eq_add (h : ∀ action ∈ actions, action.isReopening = false) :
    tally writes actions = writes + startWrites actions := by
  induction actions generalizing writes with
  | nil => rfl
  | cons action rest ih =>
    have hrest := @ih (countAction writes action)
      fun a ha => h a (List.mem_cons_of_mem action ha)
    have hopen := h action (List.mem_cons_self)
    show tally (countAction writes action) rest = _
    rw [hrest, startWrites, startWrites, List.countP_cons, countAction, hopen]
    cases action.isStartWrite <;> simp [Nat.add_comm, Nat.add_left_comm]

end Tally

/-! ## The budget -/

/-- The stored guard covers `writes`: it counts as many attempts, or locks out. -/
def Covers (file : DaemonFile LinuxDaemonRestoreGuardRecord) (writes : Nat) : Prop :=
  match file with
  | .absent => writes = 0
  | .damaged => True
  | .record record => record.lockedOut ≠ 0 ∨ writes ≤ record.startAttempts.toNat

/-- A guard covers `writes`: it counts as many attempts, or locks out. -/
def GuardCovers (guard : LinuxAutoRestoreGuard) (writes : Nat) : Prop :=
  guard.lockedOut = true ∨ writes ≤ guard.startAttempts.toNat

/-- The budget on disk: the writes of `actions` come on top of `writes`, and
`issued` more are under way. -/
def BudgetFile (writes issued : Nat) (disk : DaemonDisk) (actions : List DaemonAction) : Prop :=
  Covers disk.guard (tally writes actions + issued) ∧
    tally writes actions + issued ≤ LINUX_AUTO_RESTORE_MAX_START_ATTEMPTS.toNat

/-- The budget, which the guard in memory covers too. -/
def Budget (writes issued : Nat) (w : DaemonWorld) : Prop :=
  BudgetFile writes issued w.disk w.trace ∧
    GuardCovers w.memory.autoRestoreGuard (tally writes w.trace + issued)

section Budget
variable {writes issued n n' : Nat}

theorem Covers.anti {file : DaemonFile LinuxDaemonRestoreGuardRecord} (h : Covers file n)
    (hle : n' ≤ n) : Covers file n' := by
  cases file with
  | absent =>
    obtain rfl : n = 0 := h
    exact Nat.le_zero.mp hle
  | damaged => exact trivial
  | record record => exact h.imp_right hle.trans

theorem GuardCovers.anti {guard : LinuxAutoRestoreGuard} (h : GuardCovers guard n) (hle : n' ≤ n) :
    GuardCovers guard n' :=
  h.imp_right hle.trans

theorem covers_zero (file : DaemonFile LinuxDaemonRestoreGuardRecord) : Covers file 0 := by
  cases file with
  | absent => exact rfl
  | damaged => exact trivial
  | record record => exact .inr (Nat.zero_le _)

theorem guardCovers_zero (guard : LinuxAutoRestoreGuard) : GuardCovers guard 0 :=
  .inr (Nat.zero_le _)

/-- A guard is stored as a file that covers what it covers. -/
theorem covers_stored {guard : LinuxAutoRestoreGuard} (h : GuardCovers guard n) :
    Covers (.record (linuxDaemonGuardInitialize guard)) n := by
  rcases h with hlocked | hcount
  · exact .inl (lockedFile_stored hlocked)
  · exact .inr hcount

theorem Budget.abandon {w : DaemonWorld} (h : Budget writes issued w) : Budget writes 0 w := by
  have hle : tally writes w.trace + 0 ≤ tally writes w.trace + issued :=
    Nat.add_le_add_left (Nat.zero_le _) _
  exact ⟨⟨h.1.1.anti hle, hle.trans h.1.2⟩, h.2.anti hle⟩

theorem Budget.setGuard {w : DaemonWorld} (h : Budget writes issued w)
    {guard : LinuxAutoRestoreGuard} (hg : GuardCovers guard (tally writes w.trace + issued)) :
    Budget writes issued (w.setGuard guard) :=
  ⟨h.1, hg⟩

theorem budget_bookkeeping : Bookkeeping (Budget writes issued) where
  fan _ _ h := h
  fanMarker _ _ h := h
  gpuReady _ _ h := h
  uncertain _ h := h
  lockout _ _ h := h.setGuard (.inl rfl)
  guardStored _ h := ⟨⟨covers_stored h.2, h.1.2⟩, h.2⟩

/-- After a reopening there is nothing to cover. -/
theorem budget_reopened (w : DaemonWorld) {action : DaemonAction}
    (h : action.isReopening = true) : Budget writes 0 (w.log action) := by
  have hzero : tally writes (w.log action).trace + 0 = 0 :=
    (tally_log action).trans (if_pos h)
  refine ⟨⟨?_, ?_⟩, ?_⟩
  · rw [hzero]
    exact covers_zero _
  · rw [hzero]
    exact Nat.zero_le _
  · rw [hzero]
    exact guardCovers_zero _

theorem Budget.log {w : DaemonWorld} (h : Budget writes issued w) {action : DaemonAction} {left : Nat}
    (hleft : countAction (tally writes w.trace) action + left = tally writes w.trace + issued) :
    Budget writes left (w.log action) := by
  have heq : tally writes (w.log action).trace + left = tally writes w.trace + issued :=
    (congrArg (· + left) (tally_log action)).trans hleft
  unfold Budget BudgetFile
  rw [heq]
  exact h

theorem budget_records : RecordKeeping (Budget writes 0) where
  state _ _ h := h
  active _ _ h := h
  log _ _ hrec h := h.log (congrArg (· + 0) (countAction_isRecordKeeping hrec))

theorem budget_policies : PolicyKeeping (Budget writes 0) where
  startup _ _ h := h
  policy _ _ h := h

theorem GuardCovers.noteResumeTrigger {guard : LinuxAutoRestoreGuard} (h : GuardCovers guard n)
    (trigger : LinuxAutoRestoreTrigger) (nowMs : UInt32) :
    GuardCovers (noteResumeTrigger trigger guard nowMs) n := by
  unfold GuardCovers
  rw [noteResumeTrigger_lockedOut, noteResumeTrigger_startAttempts]
  exact h

/-- An allowed start-time trigger meets an open guard with attempts left. -/
theorem open_of_verdict_allow {w : DaemonWorld} {trigger : LinuxAutoRestoreTrigger} {nowMs : UInt32}
    (hstart : linuxAutoRestoreTriggerIsStart trigger = true)
    (h : w.verdict trigger nowMs = .allow) : w.memory.autoRestoreGuard.lockedOut = false ∧
      w.memory.autoRestoreGuard.startAttempts < LINUX_AUTO_RESTORE_MAX_START_ATTEMPTS := by
  unfold DaemonWorld.verdict linuxAutoRestoreDecide at h
  rw [hstart] at h
  split_ifs at h with _ hlocked _ hresume _ hspent
  · exact absurd hresume (by decide)
  · exact ⟨Bool.eq_false_iff.mpr hlocked, UInt32.not_le.mp hspent⟩

/-- An attempt that is counted is covered, and still within the budget. -/
theorem Budget.counted {w : DaemonWorld} (h : Budget writes 0 w)
    (hopen : w.memory.autoRestoreGuard.lockedOut = false)
    (hleft : w.memory.autoRestoreGuard.startAttempts < LINUX_AUTO_RESTORE_MAX_START_ATTEMPTS) :
    Budget writes 1 w.countAttempt.storeGuard := by
  have hcount : tally writes w.trace ≤ w.memory.autoRestoreGuard.startAttempts.toNat :=
    h.2.resolve_left (by simp [hopen])
  have hlt := UInt32.lt_iff_toNat_lt.mp hleft
  have hnext : (linuxAutoRestoreNoteStartAttempt w.memory.autoRestoreGuard).startAttempts.toNat =
      w.memory.autoRestoreGuard.startAttempts.toNat + 1 := by
    have hmax : LINUX_AUTO_RESTORE_MAX_START_ATTEMPTS.toNat = 3 := rfl
    have hsmall : w.memory.autoRestoreGuard.startAttempts < 0xFFFFFFFF :=
      UInt32.lt_iff_toNat_lt.mpr (hlt.trans (by decide))
    simp only [linuxAutoRestoreNoteStartAttempt, if_pos hsmall, UInt32.toNat_add]
    exact Nat.mod_eq_of_lt (by simp; omega)
  have hcovers : GuardCovers (linuxAutoRestoreNoteStartAttempt w.memory.autoRestoreGuard)
      (tally writes w.trace + 1) :=
    .inr (hnext ▸ Nat.add_le_add_right hcount 1)
  exact ⟨⟨covers_stored hcovers, (Nat.add_le_add_right hcount 1).trans hlt⟩, hcovers⟩

theorem budget_restore (trigger : LinuxAutoRestoreTrigger) (intent : DesiredSettings) :
    Keeps (Budget writes 0) (fun w => BudgetFile writes 0 w.disk w.trace)
      (daemonAutomaticRestoreWrite trigger intent) := by
  refine budget_records.automaticRestoreWrite
    (J := Budget writes (if linuxAutoRestoreTriggerIsStart trigger then 1 else 0))
    budget_bookkeeping ⟨?_, ?_, ?_⟩ budget_bookkeeping (fun _ h => h.1) (fun _ h => h.abandon) ?_
    intent
  · exact fun w nowMs h => h.setGuard (h.2.noteResumeTrigger trigger nowMs)
  · intro w nowMs hresume h _
    rw [hresume]
    exact h
  · intro w nowMs hstart h hallow
    obtain ⟨hopen, hleft⟩ := open_of_verdict_allow hstart hallow
    rw [hstart]
    exact ⟨h.1, h.counted hopen hleft⟩
  · intro w request h _
    refine h.log ?_
    rw [countAction_automaticWrite]
    cases linuxAutoRestoreTriggerIsStart trigger <;> rfl

theorem budget_unattended :
    Unattended (Budget writes 0) fun w => BudgetFile writes 0 w.disk w.trace :=
  ⟨fun _ h => h.1, budget_bookkeeping, budget_records, budget_policies, budget_restore⟩

theorem budget_success :
    Keeps (Budget writes 0) (fun w => BudgetFile writes 0 w.disk w.trace)
      autoRestoreNoteExplicitSuccess :=
  keeps_explicitSuccess fun _ _ h _ => ⟨h.1, budget_reopened _ rfl⟩

theorem budget_stop : Keeps (Budget writes 0) (Budget writes 0) orderlyStop := by
  refine budget_bookkeeping.orderlyStop (fun w _ => budget_reopened w rfl) fun w cleared _ _ => ?_
  exact budget_reopened (w.setGuard cleared) rfl

theorem covers_damage {disk : DaemonDisk} (file : DaemonFileName) (h : Covers disk.guard n) :
    Covers (disk.damage file).guard n := by
  cases file with
  | guard => exact trivial
  | state => exact h
  | fanMarker => exact h
  | startup => exact h

theorem budget_rules : StepRules (Budget writes 0) (Budget writes 0) (BudgetFile writes 0) where
  result _ h := h
  files _ h := h.1
  task task w h := budget_unattended.task budget_success task w h
  stop w h := (budget_stop w h).mono (fun _ _ h => h) fun _ h => h.1
  damageFile _ file h := ⟨covers_damage file h.1, h.2⟩
  damage _ _ _ file h := ⟨⟨covers_damage file h.1.1, h.1.2⟩, h.2⟩

end Budget

/-! ## The start -/

/-- The guard was bound to this boot. -/
def LinuxAutoRestoreGuard.BoundTo (guard : LinuxAutoRestoreGuard) (bootId : BootId) : Prop :=
  guard.bootId ≠ [] ∧ bootIdField guard.bootId = bootIdField bootId

/-- A start that binds the guard to the boot, and drops its count, after `writes`
start-time writes. -/
def LateBinding (m : DaemonMachine) (writes : Nat) : DaemonEvent → Prop
  | .start reads _ =>
    m.process = none ∧ reads.bootIdKnown = true ∧ m.bootId ≠ [] ∧
      ¬ (loadedGuard m.disk.guard reads.guardReadable).BoundTo m.bootId ∧ 0 < writes
  | _ => False

section Start
variable {n : Nat}

theorem Covers.loaded {file : DaemonFile LinuxDaemonRestoreGuardRecord} (h : Covers file n)
    (readable : Bool) : GuardCovers (loadedGuard file readable) n := by
  cases file with
  | absent =>
    obtain rfl : n = 0 := h
    exact guardCovers_zero _
  | damaged => exact .inl rfl
  | record record =>
    unfold loadedGuard linuxDaemonGuardLoad
    by_cases hread : (readable && linuxDaemonGuardValid record) = true
    · simp only [hread, if_true]
      exact h.imp_left fun hlocked => decide_eq_true hlocked
    · simp only [hread]
      exact .inl rfl

/-- The guard of a start covers what the file covered, unless it binds late. -/
theorem Covers.loadAtBoot {m : DaemonMachine} (h : Covers m.disk.guard n) {reads : StartReads}
    {answers : List Answer} (hp : m.process = none)
    (hbind : ¬ LateBinding m n (.start reads answers)) :
    GuardCovers (loadAutoRestoreGuardAtBoot m.disk.guard m.bootId reads) n := by
  have hloaded := h.loaded reads.guardReadable
  unfold loadAutoRestoreGuardAtBoot linuxAutoRestoreGuardAdoptBoot
  split_ifs with hknown hboot hbound
  · exact hloaded
  · exact hloaded
  · exact hloaded
  · obtain rfl : n = 0 := by
      by_contra hwrites
      exact hbind ⟨hp, by simpa using hknown, hboot, hbound, Nat.pos_of_ne_zero hwrites⟩
    exact guardCovers_zero _

end Start

/-! ## Runs -/

/-- What the daemon does in the `n`-th event. -/
def daemonOutput (ev : Nat → DaemonEvent) (n : Nat) : List DaemonAction :=
  (daemonStep (linuxDaemon.stateAt ev n) (ev n)).2

def DaemonEvent.isBoot : DaemonEvent → Bool
  | .boot _ => true
  | _ => false

/-- The start-time writes since the boot or the last reopening. -/
def writesSince (ev : Nat → DaemonEvent) : Nat → Nat
  | 0 => 0
  | n + 1 => if (ev n).isBoot then 0 else tally (writesSince ev n) (daemonOutput ev n)

/-- The guards cover the writes, before an event. -/
def BudgetMachine (writes : Nat) (m : DaemonMachine) : Prop :=
  Holds (Budget writes 0) (BudgetFile writes 0) (m, [])

section Runs
variable {ev : Nat → DaemonEvent}

theorem budgetMachine_zero {m : DaemonMachine} : BudgetMachine 0 m :=
  ⟨⟨covers_zero _, Nat.zero_le _⟩, fun _ _ => ⟨⟨covers_zero _, Nat.zero_le _⟩, guardCovers_zero _⟩⟩

theorem BudgetMachine.step {writes : Nat} {m : DaemonMachine} (h : BudgetMachine writes m)
    {e : DaemonEvent} (hbind : ¬ LateBinding m writes e) :
    BudgetMachine (tally writes (daemonStep m e).2) (daemonStep m e).1 := by
  have hstep := budget_rules.step h (e := e) fun reads answers he hp => by
    subst he
    exact budget_unattended.run (w := m.world {}) h.files fun ready =>
      ⟨h.files, h.files.1.loadAtBoot hp hbind⟩
  exact ⟨hstep.files, hstep.process⟩

theorem budgetMachine_stateAt
    (hbind : ∀ n, ¬ LateBinding (linuxDaemon.stateAt ev n) (writesSince ev n) (ev n)) (n : Nat) :
    BudgetMachine (writesSince ev n) (linuxDaemon.stateAt ev n) := by
  induction n with
  | zero => exact budgetMachine_zero
  | succ n ih =>
    unfold writesSince
    split
    · exact budgetMachine_zero
    · exact ih.step (hbind n)

/-- Between two reopenings of one boot the writes add up. -/
theorem writesSince_eq_add {i j : Nat} (hij : i ≤ j)
    (hclosed : ∀ k, i ≤ k → k < j → (ev k).isBoot = false ∧
      ∀ action ∈ daemonOutput ev k, action.isReopening = false) :
    writesSince ev j =
      writesSince ev i + ∑ k ∈ Finset.Ico i j, startWrites (daemonOutput ev k) := by
  induction j, hij using Nat.le_induction with
  | base => simp
  | succ j hij ih =>
    obtain ⟨hboot, hopen⟩ := hclosed j hij (Nat.lt_succ_self j)
    have hsum := ih fun k hik hkj => hclosed k hik (Nat.lt_succ_of_lt hkj)
    have hlast : writesSince ev (j + 1) = tally (writesSince ev j) (daemonOutput ev j) := by
      rw [writesSince, hboot]
      rfl
    rw [hlast, tally_eq_add hopen, hsum, Finset.sum_Ico_succ_top hij, Nat.add_assoc]

theorem soundMachine_stateAt (n : Nat) : SoundMachine (linuxDaemon.stateAt ev n) :=
  linuxDaemon.invariant ev (I := SoundMachine) ⟨(fun _ h => nomatch h), fun _ h => nomatch h⟩
    (fun _ e h => soundMachine_step h e) n

theorem lockoutKnown_stateAt (n : Nat) : LockoutKnownMachine (linuxDaemon.stateAt ev n) :=
  linuxDaemon.invariant ev (I := LockoutKnownMachine) ⟨trivial, fun _ h => nomatch h⟩
    (fun _ e h => lockoutKnownMachine_step h e) n

/-- A stored lockout holds until it is rearmed. -/
theorem lockedMachine_until {i j : Nat} (hij : i ≤ j)
    (h : LockedMachine (linuxDaemon.stateAt ev i))
    (hkept : ∀ k, i ≤ k → k < j → .rearmed ∉ daemonOutput ev k) :
    LockedMachine (linuxDaemon.stateAt ev j) := by
  induction j, hij using Nat.le_induction with
  | base => exact h
  | succ j hij ih =>
    have hbefore := ih fun k hik hkj => hkept k hik (Nat.lt_succ_of_lt hkj)
    exact (hbefore.step (ev j)).2.resolve_left (hkept j hij (Nat.lt_succ_self j))

end Runs

/-! ## The guard over whole histories -/

/-- The worlds a machine is in at an event, at each call of a program included: a
run that is left without an answer ends in the world it called from. -/
inductive DaemonMachine.Visits (m : DaemonMachine) : DaemonWorld → Prop
  | idle : Visits m (m.world {})
  | serving (memory : DaemonMemory) : m.process = some memory → Visits m (m.world memory)
  | start (reads : StartReads) (answers : List Answer) :
    Visits m ((linuxDaemonRun reads).exec answers (m.world {})).2
  | task (memory : DaemonMemory) (task : DaemonTask) (answers : List Answer) :
    m.process = some memory → Visits m (task.program.exec answers (m.world memory)).2
  | stop (memory : DaemonMemory) (answers : List Answer) :
    m.process = some memory → Visits m (orderlyStop.exec answers (m.world memory)).2

theorem SoundMachine.visits {m : DaemonMachine} (h : SoundMachine m) {w : DaemonWorld}
    (hw : m.Visits w) : SoundGuards w := by
  cases hw with
  | idle => exact ⟨guardSound_zero, h.files⟩
  | serving memory hp => exact h.process memory hp
  | start reads answers => exact (h.run reads).exec_snd answers
  | task memory task answers hp =>
    exact (soundGuards_unattended.task soundGuards_success task _ (h.process memory hp)).exec_snd
      answers
  | stop memory answers hp => exact (soundGuards_stop _ (h.process memory hp)).exec_snd answers

/-- What the crash-loop guard promises of a run. -/
structure CrashLoopGuarded (ev : Nat → DaemonEvent) : Prop where
  /-- Within one boot, between two reopenings, the start-time writes are few. -/
  budget : ∀ i j, i ≤ j →
    (∀ k, i ≤ k → k < j → (ev k).isBoot = false ∧
      ∀ action ∈ daemonOutput ev k, action.isReopening = false) →
    ∑ k ∈ Finset.Ico i j, startWrites (daemonOutput ev k) ≤
      LINUX_AUTO_RESTORE_MAX_START_ATTEMPTS.toNat
  /-- Under a stored lockout nothing is written unattended, until it is rearmed. -/
  lockout : ∀ i j, i ≤ j → StoredLockout (linuxDaemon.stateAt ev i).disk.guard →
    (∀ k, i ≤ k → k < j → .rearmed ∉ daemonOutput ev k) → Untouched (daemonOutput ev j)
  /-- A guard locks out exactly when it names a reason, in memory and on disk. -/
  coherent : ∀ n w, (linuxDaemon.stateAt ev n).Visits w →
    (w.memory.autoRestoreGuard.lockedOut = true ↔
      w.memory.autoRestoreGuard.lockoutReason ≠ SERVICE_AUTO_RESTORE_LOCKOUT_NONE) ∧
    ∀ record, w.disk.guard = .record record →
      (record.lockedOut ≠ 0 ↔ record.lockoutReason ≠ SERVICE_AUTO_RESTORE_LOCKOUT_NONE)

theorem coherent_of_valid {record : LinuxDaemonRestoreGuardRecord}
    (h : linuxDaemonGuardValid record = true) :
    record.lockedOut ≠ 0 ↔ record.lockoutReason ≠ SERVICE_AUTO_RESTORE_LOCKOUT_NONE := by
  simp only [linuxDaemonGuardValid, Bool.and_eq_true, beq_iff_eq] at h
  exact decide_eq_decide.mp h.1.2

/-- **The crash-loop guard holds over every history in which no start binds it to
the boot after start-time writes of that boot.** -/
theorem crash_loop_guarded (ev : Nat → DaemonEvent)
    (hbind : ∀ n, ¬ LateBinding (linuxDaemon.stateAt ev n) (writesSince ev n) (ev n)) :
    CrashLoopGuarded ev where
  budget i j hij hclosed := by
    have hbudget := (budgetMachine_stateAt hbind j).files.2
    have hsum := writesSince_eq_add hij hclosed
    exact (Nat.le_add_left _ _).trans (hsum ▸ hbudget)
  lockout i j hij hstored hkept :=
    ((lockedMachine_until hij (hstored.machine (lockoutKnown_stateAt i)) hkept).step (ev j)).1
  coherent n w hw := by
    have hsound := (soundMachine_stateAt n).visits hw
    exact ⟨hsound.1.coherent, fun record hrecord => coherent_of_valid (hsound.2 record hrecord)⟩

/-! ## A boot id that is lost and found

A profile is stored; then the daemon is started again and again in one boot, each
time after a crash.  `known` says whether the last start can read the boot id the
others could not. -/

/-- A start that is given every answer it asks for. -/
def answeredStart (bootIdKnown : Bool) : DaemonEvent :=
  .start { bootIdKnown } (List.replicate 16 {})

def bootIdLossEvents (known : Bool) : List DaemonEvent :=
  [.boot ['a'], answeredStart true,
    .serve (.setStartupPolicy
      { mode := .profile, desired := { hasGpuOffset := true, gpuOffsetMHz := 100 } }) [{}], .kill,
    answeredStart false, .kill, answeredStart false, .kill, answeredStart false, .kill,
    answeredStart known]

def bootIdLossRun (known : Bool) (n : Nat) : DaemonEvent := (bootIdLossEvents known).getD n .kill

/-- Without a boot id throughout, the guard holds. -/
theorem bootIdLossRun_guarded : CrashLoopGuarded (bootIdLossRun false) := by
  refine crash_loop_guarded (bootIdLossRun false) fun n => ?_
  have hearly : ∀ n < 11, ¬ LateBinding (linuxDaemon.stateAt (bootIdLossRun false) n)
      (writesSince (bootIdLossRun false) n) (bootIdLossRun false n) := by
    intro n hn hbind
    interval_cases n
    case «1» => exact absurd hbind.2.2.2.2 (by decide)
    all_goals first | exact hbind | exact absurd hbind.2.1 (by decide)
  rcases Nat.lt_or_ge n 11 with hn | hn
  · exact hearly n hn
  · have hnone : (bootIdLossEvents false)[n]? = none := List.getElem?_eq_none hn
    have hlate : bootIdLossRun false n = .kill := by
      rw [bootIdLossRun, List.getD_eq_getElem?_getD, hnone]
      rfl
    rw [hlate]
    exact id

/-- A fourth write in one boot, nothing having reopened the guard. -/
theorem bootIdLossRun_not_guarded : ¬ CrashLoopGuarded (bootIdLossRun true) := by
  intro h
  have hclosed : ∀ k, 1 ≤ k → k < 11 → (bootIdLossRun true k).isBoot = false ∧
      ∀ action ∈ daemonOutput (bootIdLossRun true) k, action.isReopening = false := by
    intro k hk hk'
    interval_cases k <;> exact ⟨rfl, by decide +kernel⟩
  have hbudget := h.budget 1 11 (by decide) hclosed
  exact absurd hbudget (by decide +kernel)

end GreenCurve
