import GreenCurve.OperationMemory

/-! # What the ring and the records know

A completed operation stands in the ring of its process and ages with every other that
begins (`held_complete_begin`, `Ring.Held.complete_begin`).  A start restores the operation
of the operation file and then that of the state record, each under a slot of its own
(`find_restoredRing_of_file`, `find_restoredRing_of_saved`); what it reads of the latter is
the record the file held before, unless an unattended write came first (`Unreplaced`). -/

namespace GreenCurve.Operations

open CrashM RecordRing

abbrev Ring.Wf (t : OperationRing) : Prop :=
  t.Wf SERVICE_OPERATION_HISTORY_CAPACITY OperationRecord.operationId 0

abbrev Ring.Held (t : OperationRing) (record : OperationRecord) (age : Nat) : Prop :=
  RecordRing.Held SERVICE_OPERATION_HISTORY_CAPACITY t record age

/-! ## The ring -/

section Ring
variable {t t' : OperationRing} {operationId : UInt64} {record : OperationRecord} {age : Nat}

theorem wf_emptyRing : Ring.Wf emptyRing where
  length := List.length_replicate
  next := by decide
  distinct := by
    intro i j r r' hi _ _ hne
    have hmem := List.eq_of_mem_replicate (List.mem_of_getElem? hi)
    rw [hmem] at hne
    exact absurd rfl hne

theorem find_emptyRing (operationId : UInt64) (h : operationId ≠ 0) :
    serviceOperationFind emptyRing operationId = none := by
  rw [serviceOperationFind, if_neg h]
  refine List.find?_eq_none.mpr fun r hr => ?_
  rw [List.eq_of_mem_replicate hr]
  simpa using h.symm

theorem Ring.Held.find_eq (h : Ring.Held t record age) (hwf : Ring.Wf t)
    (hid : record.operationId ≠ 0) : serviceOperationFind t record.operationId = some record := by
  rw [serviceOperationFind, if_neg hid]
  exact RecordRing.Held.find_eq h hwf hid

theorem serviceOperationBegin_started (h : serviceOperationBegin t operationId = .started t') :
    operationId ≠ 0 ∧ serviceOperationFind t operationId = none ∧
      t' = t.push SERVICE_OPERATION_HISTORY_CAPACITY (begunRecord operationId) := by
  unfold serviceOperationBegin at h
  split at h
  · cases h
  · rename_i hid
    split at h
    · cases h
    · exact ⟨hid, ‹_›, (OperationBegin.started.inj h).symm⟩

theorem serviceOperationBegin_of_find (hid : operationId ≠ 0)
    (h : serviceOperationFind t operationId = some record) :
    serviceOperationBegin t operationId = .duplicate record := by
  rw [serviceOperationBegin, if_neg hid, h]

theorem find_eq_none_of_begin (h : serviceOperationBegin t operationId = .started t') :
    t.find OperationRecord.operationId operationId = none := by
  obtain ⟨hid, hfind, -⟩ := serviceOperationBegin_started h
  rwa [serviceOperationFind, if_neg hid] at hfind

theorem wf_begin (hwf : Ring.Wf t) (h : serviceOperationBegin t operationId = .started t') :
    Ring.Wf t' := by
  have hfresh := find_eq_none_of_begin h
  obtain ⟨-, -, rfl⟩ := serviceOperationBegin_started h
  exact RecordRing.Wf.push hwf hfresh

theorem wf_complete (hwf : Ring.Wf t) (operationId : UInt64) (answer : OperationAnswer) :
    Ring.Wf (serviceOperationComplete t operationId answer) := by
  unfold serviceOperationComplete
  split
  · exact hwf
  · refine RecordRing.Wf.update (fun r hr => ?_) hwf
    split <;> exact hr

/-- The record of an operation that begins, once it is completed. -/
theorem held_complete_begin (hwf : Ring.Wf t)
    (h : serviceOperationBegin t operationId = .started t') (answer : OperationAnswer) :
    Ring.Held (serviceOperationComplete t' operationId answer) ⟨operationId, answer⟩ 1 := by
  have hwf' := wf_begin hwf h
  obtain ⟨hid, -, rfl⟩ := serviceOperationBegin_started h
  rw [serviceOperationComplete, if_neg hid]
  exact RecordRing.Held.update_self (held_push_self hwf (begunRecord operationId)) hwf' hid

/-- Another operation begins and is completed. -/
theorem Ring.Held.complete_begin (hheld : Ring.Held t record age) (hwf : Ring.Wf t)
    (hage : age < SERVICE_OPERATION_HISTORY_CAPACITY)
    (h : serviceOperationBegin t operationId = .started t') (hne : record.operationId ≠ operationId)
    (answer : OperationAnswer) :
    Ring.Held (serviceOperationComplete t' operationId answer) record (age + 1) := by
  obtain ⟨hid, -, rfl⟩ := serviceOperationBegin_started h
  rw [serviceOperationComplete, if_neg hid]
  exact RecordRing.Held.update_of_ne (RecordRing.Held.push hheld hwf hage _) hne

/-! ### What a start restores -/

/-- A restored record is in the ring under its id, which began or was there. -/
theorem serviceOperationRestore_eq (hid : record.operationId ≠ 0)
    (hstate : record.answer.state ≠ .none) :
    ∃ ring answer, serviceOperationRestore t record =
        ring.update OperationRecord.operationId record.operationId
          (fun _ => ⟨record.operationId, answer⟩) ∧
      (ring = t ∧ (serviceOperationFind t record.operationId).isSome ∨
        serviceOperationBegin t record.operationId = .started ring) := by
  unfold serviceOperationRestore
  rw [if_neg hstate]
  cases hbegin : serviceOperationBegin t record.operationId with
  | invalid =>
    unfold serviceOperationBegin at hbegin
    rw [if_neg hid] at hbegin
    split at hbegin <;> cases hbegin
  | started ring => exact ⟨ring, _, rfl, .inr rfl⟩
  | duplicate existing =>
    refine ⟨t, _, rfl, .inl ⟨rfl, ?_⟩⟩
    unfold serviceOperationBegin at hbegin
    rw [if_neg hid] at hbegin
    split at hbegin
    · rename_i hfind
      rw [hfind]
      rfl
    · cases hbegin

theorem wf_restore (hwf : Ring.Wf t) (record : OperationRecord) :
    Ring.Wf (serviceOperationRestore t record) := by
  by_cases hid : record.operationId = 0
  · have hbegin : serviceOperationBegin t record.operationId = .invalid := if_pos hid
    unfold serviceOperationRestore
    rw [hbegin]
    split <;> exact hwf
  by_cases hstate : record.answer.state = .none
  · rw [serviceOperationRestore, if_pos hstate]
    exact hwf
  obtain ⟨ring, answer, heq, hring⟩ := serviceOperationRestore_eq (t := t) hid hstate
  rw [heq]
  refine RecordRing.Wf.update (fun _ _ => rfl) ?_
  rcases hring with ⟨rfl, -⟩ | hbegin
  · exact hwf
  · exact wf_begin hwf hbegin

theorem find_isSome_iff (hid : operationId ≠ 0) :
    (serviceOperationFind t operationId).isSome = true ↔
      ∃ r ∈ t.slots, r.operationId = operationId := by
  rw [serviceOperationFind, if_neg hid]
  exact RecordRing.find_isSome_iff

/-- A restored operation is found. -/
theorem find_restore (hwf : Ring.Wf t) (hid : record.operationId ≠ 0)
    (hstate : record.answer.state ≠ .none) :
    (serviceOperationFind (serviceOperationRestore t record) record.operationId).isSome := by
  obtain ⟨ring, answer, heq, hring⟩ := serviceOperationRestore_eq (t := t) hid hstate
  have hfound : ∃ r ∈ ring.slots, r.operationId = record.operationId := by
    rcases hring with ⟨rfl, hfind⟩ | hbegin
    · exact (find_isSome_iff hid).mp hfind
    · obtain ⟨-, -, rfl⟩ := serviceOperationBegin_started hbegin
      have hpushed := held_push_self hwf (begunRecord record.operationId)
      exact ⟨_, List.mem_of_getElem? hpushed.slot, rfl⟩
  obtain ⟨r, hr, hkey⟩ := hfound
  rw [find_isSome_iff hid, heq]
  have hkeys : ∀ r : OperationRecord, r.operationId = record.operationId →
      (⟨record.operationId, answer⟩ : OperationRecord).operationId = record.operationId :=
    fun _ _ => rfl
  obtain ⟨r', hr', hkey'⟩ := exists_key_update hkeys hr
  exact ⟨r', hr', hkey'.trans hkey⟩

/-- Only a restored operation is new. -/
theorem find_of_restore (hid : operationId ≠ 0)
    (h : (serviceOperationFind (serviceOperationRestore t record) operationId).isSome) :
    (serviceOperationFind t operationId).isSome ∨
      record.operationId = operationId ∧ record.answer.state ≠ .none := by
  by_cases hzero : record.operationId = 0
  · have hbegin : serviceOperationBegin t record.operationId = .invalid := if_pos hzero
    unfold serviceOperationRestore at h
    rw [hbegin] at h
    split at h <;> exact .inl h
  by_cases hstate : record.answer.state = .none
  · rw [serviceOperationRestore, if_pos hstate] at h
    exact .inl h
  obtain ⟨ring, answer, heq, hring⟩ := serviceOperationRestore_eq (t := t) hzero hstate
  have hkeys : ∀ r : OperationRecord, r.operationId = record.operationId →
      (⟨record.operationId, answer⟩ : OperationRecord).operationId = record.operationId :=
    fun _ _ => rfl
  rw [heq, find_isSome_iff hid] at h
  obtain ⟨r, hr, hkey⟩ := h
  obtain ⟨r', hr', hkey'⟩ := exists_key_of_update hkeys hr
  rw [find_isSome_iff hid]
  rcases hring with ⟨rfl, -⟩ | hbegin
  · exact .inl ⟨r', hr', hkey'.trans hkey⟩
  · obtain ⟨-, -, rfl⟩ := serviceOperationBegin_started hbegin
    rcases List.mem_or_eq_of_mem_set hr' with hr' | rfl
    · exact .inl ⟨r', hr', hkey'.trans hkey⟩
    · exact .inr ⟨hkey'.trans hkey, hstate⟩

/-- Another restored operation takes a slot of its own. -/
theorem find_restore_of_held (hwf : Ring.Wf t) (hheld : Ring.Held t record age)
    (hage : age < SERVICE_OPERATION_HISTORY_CAPACITY) (hid : record.operationId ≠ 0)
    (other : OperationRecord) :
    (serviceOperationFind (serviceOperationRestore t other) record.operationId).isSome := by
  have hkept : ∀ {ring : OperationRing} {age : Nat}, Ring.Wf ring → Ring.Held ring record age →
      (serviceOperationFind ring record.operationId).isSome := by
    intro ring age hwf hheld
    rw [hheld.find_eq hwf hid]
    rfl
  by_cases hother : other.operationId = 0
  · have hbegin : serviceOperationBegin t other.operationId = .invalid := if_pos hother
    unfold serviceOperationRestore
    rw [hbegin]
    split <;> exact hkept hwf hheld
  by_cases hstate : other.answer.state = .none
  · rw [serviceOperationRestore, if_pos hstate]
    exact hkept hwf hheld
  by_cases hsame : other.operationId = record.operationId
  · rw [← hsame]
    exact find_restore hwf hother hstate
  have hwf' := wf_restore hwf other
  obtain ⟨ring, answer, heq, hring⟩ := serviceOperationRestore_eq (t := t) hother hstate
  rw [heq] at hwf' ⊢
  rcases hring with ⟨rfl, -⟩ | hbegin
  · exact hkept hwf' (RecordRing.Held.update_of_ne hheld (Ne.symm hsame))
  · obtain ⟨-, -, rfl⟩ := serviceOperationBegin_started hbegin
    exact hkept hwf' (RecordRing.Held.update_of_ne (RecordRing.Held.push hheld hwf hage _)
      (Ne.symm hsame))

/-- The operation that a new ring restores first. -/
theorem held_restore_emptyRing (hid : record.operationId ≠ 0)
    (hstate : record.answer.state ≠ .none) :
    ∃ answer, Ring.Held (serviceOperationRestore emptyRing record)
      ⟨record.operationId, answer⟩ 1 := by
  obtain ⟨ring, answer, heq, hring⟩ := serviceOperationRestore_eq (t := emptyRing) hid hstate
  refine ⟨answer, ?_⟩
  rw [heq]
  rcases hring with ⟨-, hfind⟩ | hbegin
  · rw [find_emptyRing _ hid] at hfind
    cases hfind
  · have hwf := wf_begin wf_emptyRing hbegin
    obtain ⟨-, -, rfl⟩ := serviceOperationBegin_started hbegin
    exact RecordRing.Held.update_self (r := begunRecord record.operationId)
      (held_push_self wf_emptyRing _) hwf hid

end Ring

/-- An operation record that can be stored. -/
structure OperationRecord.Valid (record : OperationRecord) : Prop where
  operationId : record.operationId ≠ 0
  state : record.answer.state ≠ .none

theorem restoredOperation_valid {record : OperationRecord} (h : record.Valid) :
    (restoredOperation record).Valid ∧
      (restoredOperation record).operationId = record.operationId := by
  unfold restoredOperation
  split
  · exact ⟨⟨h.operationId, fun hstate => nomatch hstate⟩, rfl⟩
  · exact ⟨h, rfl⟩

theorem wf_restoredRing (file : DaemonFile OperationRecord)
    (saved : Option LinuxDaemonStateRecord) : Ring.Wf (restoredRing file saved) := by
  have hfile : Ring.Wf (restoredRing file none) := by
    cases file with
    | absent => exact wf_emptyRing
    | damaged => exact wf_emptyRing
    | record record => exact wf_restore wf_emptyRing _
  cases saved with
  | none => exact hfile
  | some saved =>
    simp only [restoredRing]
    split
    · exact wf_restore hfile _
    · exact hfile

/-- The operation the operation file names is found after a start that reads it. -/
theorem find_restoredRing_of_file {record : OperationRecord} (h : record.Valid)
    (saved : Option LinuxDaemonStateRecord) :
    (serviceOperationFind (restoredRing (.record record) saved) record.operationId).isSome := by
  obtain ⟨hvalid, hid⟩ := restoredOperation_valid h
  obtain ⟨answer, hheld⟩ := held_restore_emptyRing hvalid.operationId hvalid.state
  have hwf := wf_restore wf_emptyRing (restoredOperation record)
  rw [hid] at hheld
  have hfile : (serviceOperationFind (serviceOperationRestore emptyRing (restoredOperation record))
      record.operationId).isSome := by
    rw [hheld.find_eq hwf h.operationId]
    rfl
  cases saved with
  | none => exact hfile
  | some saved =>
    simp only [restoredRing]
    split
    · exact find_restore_of_held hwf hheld (by decide) h.operationId _
    · exact hfile

/-- The operation the state record names is found after a start that reads it. -/
theorem find_restoredRing_of_saved {saved : LinuxDaemonStateRecord} (hid : saved.operationId ≠ 0)
    (hstate : (restoredFromState saved).answer.state ≠ .none) (file : DaemonFile OperationRecord) :
    (serviceOperationFind (restoredRing file (some saved)) saved.operationId).isSome := by
  have hwf := wf_restoredRing file none
  have heq : restoredRing file (some saved) =
      serviceOperationRestore (restoredRing file none) (restoredFromState saved) := by
    simp only [restoredRing]
    rw [if_pos hid]
  rw [heq]
  have hrestored : (restoredFromState saved).operationId ≠ 0 := hid
  exact find_restore hwf hrestored hstate

/-- A start finds no other operations. -/
theorem find_of_restoredRing {operationId : UInt64} {file : DaemonFile OperationRecord}
    {saved : Option LinuxDaemonStateRecord} (hid : operationId ≠ 0)
    (h : (serviceOperationFind (restoredRing file saved) operationId).isSome) :
    (∃ record, file = .record record ∧ record.operationId = operationId) ∨
      ∃ known, saved = some known ∧ known.operationId = operationId ∧
        (restoredFromState known).answer.state ≠ .none := by
  have hempty : ¬(serviceOperationFind emptyRing operationId).isSome := by
    rw [find_emptyRing operationId hid]
    exact Bool.false_ne_true
  have hfile : (serviceOperationFind (restoredRing file none) operationId).isSome →
      ∃ record, file = .record record ∧ record.operationId = operationId := by
    intro hfound
    cases file with
    | absent => exact absurd hfound hempty
    | damaged => exact absurd hfound hempty
    | record record =>
      have hrestored := (find_of_restore hid hfound).resolve_left hempty
      refine ⟨record, rfl, ?_⟩
      rw [← hrestored.1, restoredOperation]
      split <;> rfl
  cases saved with
  | none => exact .inl (hfile h)
  | some known =>
    by_cases hknown : known.operationId = 0
    · have heq : restoredRing file (some known) = restoredRing file none := by
        simp only [restoredRing]
        rw [if_neg (not_not_intro hknown)]
      rw [heq] at h
      exact .inl (hfile h)
    · have heq : restoredRing file (some known) =
          serviceOperationRestore (restoredRing file none) (restoredFromState known) := by
        simp only [restoredRing]
        rw [if_pos hknown]
      rw [heq] at h
      rcases find_of_restore hid h with hfound | ⟨hsame, hstate⟩
      · exact .inl (hfile hfound)
      · exact .inr ⟨known, rfl, hsame, hstate⟩

/-! ## The start -/

theorem restoreLastAtStart_eq : restoreLastAtStart = restoreLastReading >>= fun _ => pure () := by
  unfold restoreLastAtStart restoreLastReading
  rw [CrashM.bind_assoc]
  congr 1
  funext result
  cases result with
  | missing => rfl
  | removed => rfl
  | ioError => rfl
  | loaded saved =>
    change resumeCommittedState saved =
      (resumeCommittedState saved >>= fun _ => pure (some saved)) >>= fun _ => pure ()
    rw [CrashM.bind_assoc]
    exact (CrashM.bind_pure (resumeCommittedState saved)).symm

/-- The start is the daemon's, with the record it reads. -/
theorem linuxDaemonRun_eq (reads : StartReads) :
    linuxDaemonRun reads = linuxDaemonStart reads >>= fun r => pure r.1 := by
  have hserves : ∀ saved : Option LinuxDaemonStateRecord,
      (succeeds >>= fun serves => pure (serves, saved) >>= fun r => pure r.1) = succeeds :=
    fun _ => CrashM.bind_pure succeeds
  simp only [linuxDaemonRun, linuxDaemonStart, startUntilState, restoreLastAtStart_eq,
    CrashM.bind_assoc, hserves]
  rfl

/-- The machine under the operations starts as the daemon does. -/
theorem machine_start (s : OperationDaemon) (reads : StartReads) (operationReadable : Bool)
    (answers : List Answer) :
    (s.start reads operationReadable answers).machine = (s.machine.start reads answers).1 := by
  unfold OperationDaemon.start DaemonMachine.start
  cases s.machine.process with
  | some memory => rfl
  | none =>
    rw [linuxDaemonRun_eq]
    simp only [CrashM.exec]
    rcases run_bind (linuxDaemonStart reads) (fun r => pure r.1) answers (s.machine.world {}) with
      ⟨w, hstart, hrun⟩ | ⟨⟨serves, saved⟩, rest, w, hstart, hrun⟩
    · rw [hstart, hrun]
      rfl
    · rw [hstart, hrun]
      cases serves <;> rfl

/-! ### The state record a start reads -/

/-- What became of the state record: one without an id was stored over it, or it stands. -/
def Unreplaced (file : DaemonFile LinuxDaemonStateRecord) (w : DaemonWorld) : Prop :=
  ((∃ state, .stateStored state true ∈ w.trace) ∧
    ∃ record, w.disk.state = .record record ∧ record.operationId = 0) ∨
  ((∀ state, .stateStored state true ∉ w.trace) ∧ w.disk.state = file)

section Unreplaced
variable {file : DaemonFile LinuxDaemonStateRecord} {w : DaemonWorld}

theorem Unreplaced.log (h : Unreplaced file w) {action : DaemonAction}
    (hother : ∀ state, .stateStored state true ≠ action) : Unreplaced file (w.log action) := by
  rcases h with ⟨⟨state, hmem⟩, hrecord⟩ | ⟨hnone, hstate⟩
  · exact .inl ⟨⟨state, List.mem_append_left _ hmem⟩, hrecord⟩
  · refine .inr ⟨fun state hmem => ?_, hstate⟩
    rcases List.mem_append.mp hmem with hmem | hmem
    · exact hnone state hmem
    · exact hother state (List.mem_singleton.mp hmem)

theorem Unreplaced.of_eq {w' : DaemonWorld} (h : Unreplaced file w) (htrace : w'.trace = w.trace)
    (hstate : w'.disk.state = w.disk.state) : Unreplaced file w' := by
  rw [Unreplaced, htrace, hstate]
  exact h

theorem Unreplaced.store (h : Unreplaced file w) {record : LinuxDaemonStateRecord}
    (hid : record.operationId = 0) (ok : Bool) : Unreplaced file (w.storeState record ok) := by
  cases ok with
  | false => exact h.log fun _ heq => nomatch heq
  | true =>
    have hmem : DaemonAction.stateStored record.state true ∈ (w.storeState record true).trace :=
      List.mem_append_right _ (List.mem_singleton_self _)
    exact .inl ⟨⟨record.state, hmem⟩, record, rfl, hid⟩

theorem unreplaced_bookkeeping (file : DaemonFile LinuxDaemonStateRecord) :
    Bookkeeping (Unreplaced file) where
  fan _ _ h := h
  fanMarker _ _ h := h
  gpuReady _ _ h := h
  uncertain _ h := h
  lockout _ _ h := h
  guardStored _ h := h

theorem unreplaced_storeRecord {record : LinuxDaemonStateRecord} (hid : record.operationId = 0) :
    Keeps (Unreplaced file) (Unreplaced file) (storeRecord record) :=
  fun _ h => ensures_storeRecord h fun ok => h.store hid ok

theorem unreplaced_settle (committed : DesiredSettings) (mutation : LinuxMutationResult) :
    Keeps (Unreplaced file) (Unreplaced file) (settleAutomaticRestore committed mutation) := by
  have hb := unreplaced_bookkeeping file
  have hfail : Keeps (Unreplaced file) (Unreplaced file) (failAutomaticRestore committed) := by
    refine (unreplaced_storeRecord rfl).bind fun _ => hb.enterUncertainState.bind fun _ => ?_
    exact hb.noteAutomaticFailure.bind fun _ => keeps_pure _
  have hrestored := keeps_restoreSnapshot (I := Unreplaced file)
    fun w ok h => h.log fun _ heq => nomatch heq
  refine Keeps.ite (fun _ => hfail) fun _ => ?_
  refine (unreplaced_storeRecord rfl).bind fun stored => Keeps.ite (fun _ => ?_) fun _ => ?_
  · exact hrestored.bind fun _ => hfail
  · refine (keeps_modify fun _ h => h.of_eq rfl rfl).bind fun _ => ?_
    exact (Keeps.when hb.retire).bind fun _ => keeps_pure _

theorem unreplaced_automaticRestore (trigger : LinuxAutoRestoreTrigger) (intent : DesiredSettings) :
    Keeps (Unreplaced file) (Unreplaced file) (daemonAutomaticRestoreWrite trigger intent) := by
  have hb := unreplaced_bookkeeping file
  intro w hw
  refine ensures_automaticRestoreWrite (I := Unreplaced file) (J := Unreplaced file) ?_ ?_ hb hb
    (fun _ h => h) (fun _ h => h) intent hw
  · exact ⟨fun _ _ h => h, fun _ _ _ h _ => h, fun _ _ _ h _ => ⟨h, h⟩⟩
  · refine ⟨fun _ h => h, fun w request committed h _ => ?_⟩
    have hmutated := keeps_mutateHardware (I := Unreplaced file)
      fun w result h => h.log fun _ heq => nomatch heq
    refine Keeps.bind hmutated (fun mutation => ?_) _ (h.log fun _ heq => nomatch heq)
    exact unreplaced_settle committed mutation

theorem unreplaced_startUntilState (reads : StartReads) :
    Keeps (Unreplaced file) (Unreplaced file) (startUntilState reads) := by
  have hb := unreplaced_bookkeeping file
  refine keeps_succeeds.bind fun backend => ?_
  refine (keeps_modify fun _ h => h.of_eq rfl rfl).bind fun _ => ?_
  refine (keeps_modify fun _ h => h.of_eq rfl rfl).bind fun _ => ?_
  refine hb.handback.handbackAtStart.bind fun _ => ?_
  refine (keeps_modify fun _ h => h.of_eq rfl rfl).bind fun _ => keeps_get.bind fun w => ?_
  exact Keeps.when ((unreplaced_automaticRestore .bootProfile _).bind fun _ => keeps_pure _)

/-- What a start reads is what the file held when it came to it. -/
theorem ensures_restoreLastReading (w : DaemonWorld) :
    Ensures restoreLastReading
      (fun read _ => ∀ saved, read = some saved → w.disk.state = .record saved)
      (fun _ => True) w := by
  have hload : Ensures linuxDaemonStateLoad
      (fun result _ => ∀ saved, result = .loaded saved → w.disk.state = .record saved)
      (fun _ => True) w := by
    refine ensures_bind (ensures_bind (ensures_ask trivial fun answer => ensures_pure ?_))
    split
    · exact ensures_pure fun saved h => nomatch h
    · refine ensures_bind (ensures_get ?_)
      split
      · exact ensures_pure fun saved h => nomatch h
      · rename_i record hrecord
        refine ensures_pure fun saved h => ?_
        obtain rfl := LinuxDaemonStateLoadResult.loaded.inj h
        exact hrecord
      · refine ensures_bind (ensures_true.mono (fun unlinked w' _ => ?_) fun _ h => h)
        split
        · exact ensures_pure fun saved h => nomatch h
        · exact ensures_bind (ensures_modify (ensures_pure fun saved h => nomatch h))
  refine ensures_bind (hload.mono (fun result w' hresult => ?_) fun _ h => h)
  cases result with
  | missing => exact ensures_pure fun saved h => nomatch h
  | removed => exact ensures_pure fun saved h => nomatch h
  | ioError => exact ensures_bind (ensures_modify (ensures_pure fun saved h => nomatch h))
  | loaded saved =>
    refine ensures_bind (ensures_true.mono (fun _ w' _ => ensures_pure fun saved' h => ?_)
      fun _ h => h)
    exact hresult saved' (by rw [Option.some.inj h])

end Unreplaced

end GreenCurve.Operations
