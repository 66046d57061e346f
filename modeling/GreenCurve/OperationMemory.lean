import GreenCurve.DaemonClient
import GreenCurve.DaemonFrame
import GreenCurve.RecordRing

/-! # What a daemon remembers of its mutations

A mutation is remembered under its operation id in three places: in the ring of the
process, in the operation file, which the operation guard writes before and after the
mutation, and in the state record, which names the id while the mutation is prepared and
once it has committed.  A start fills a new ring from the two files.  Every unattended
write stores a state record without an id, and under a PROFILE policy a start makes one
before it reads the record. -/

namespace GreenCurve.Operations

open CrashM

inductive ServiceOutcomeSeverity where
  | success | warning | error
  deriving DecidableEq, Repr

/-- `service_response_resolve_outcome_severity`. -/
def serviceResponseResolveOutcomeSeverity (status : ServiceResponseStatus)
    (recorded : ServiceOutcomeSeverity) : ServiceOutcomeSeverity :=
  if status ≠ .ok then .error
  else if recorded = .success then .success
  else .warning

/-- What the client of an operation is told. -/
structure OperationAnswer where
  state : ServiceOperationState := .none
  status : ServiceResponseStatus := .ok
  severity : ServiceOutcomeSeverity := .success
  message : List Char := []
  deriving DecidableEq, Repr

/-- `ServiceOperationRecord`, and what the operation file holds of it. -/
structure OperationRecord where
  operationId : UInt64 := 0
  answer : OperationAnswer := {}
  deriving DecidableEq, Repr

/-! ## The ring -/

abbrev OperationRing : Type := RecordRing OperationRecord

/-- The ring of a new process. -/
def emptyRing : OperationRing := ⟨List.replicate SERVICE_OPERATION_HISTORY_CAPACITY {}, 0⟩

section Ring
variable (t : OperationRing) (operationId : UInt64)

/-- `service_operation_find`. -/
def serviceOperationFind : Option OperationRecord :=
  if operationId = 0 then none else t.find OperationRecord.operationId operationId

inductive OperationBegin where
  | invalid
  | started (ring : OperationRing)
  | duplicate (existing : OperationRecord)

/-- The record of an operation that begins. -/
def begunRecord : OperationRecord :=
  ⟨operationId, { state := .inProgress, status := .error, severity := .error }⟩

/-- `service_operation_begin`. -/
def serviceOperationBegin : OperationBegin :=
  if operationId = 0 then .invalid
  else
    match serviceOperationFind t operationId with
    | some existing => .duplicate existing
    | none => .started (t.push SERVICE_OPERATION_HISTORY_CAPACITY (begunRecord operationId))

/-- The answer with its severity resolved and the state its status stands for. -/
def settledAnswer (status : ServiceResponseStatus) (severity : ServiceOutcomeSeverity)
    (message : List Char) : OperationAnswer where
  state := if status = .ok then .succeeded else .failed
  status := status
  severity := serviceResponseResolveOutcomeSeverity status severity
  message := message

/-- `service_operation_complete`: only a record in progress takes the answer. -/
def serviceOperationComplete (answer : OperationAnswer) : OperationRing :=
  if operationId = 0 then t
  else
    t.update OperationRecord.operationId operationId fun record =>
      if record.answer.state = .inProgress then { record with answer } else record

end Ring

/-- `service_operation_restore`. -/
def serviceOperationRestore (t : OperationRing) (record : OperationRecord) : OperationRing :=
  if record.answer.state = .none then t
  else
    let restored : OperationRecord := { record with
      answer.severity := serviceResponseResolveOutcomeSeverity record.answer.status
        record.answer.severity }
    let take (ring : OperationRing) : OperationRing :=
      ring.update OperationRecord.operationId record.operationId fun _ => restored
    match serviceOperationBegin t record.operationId with
    | .invalid => t
    | .started ring => take ring
    | .duplicate _ => take t

def acrossRestart : List Char := "operation outcome became uncertain across daemon restart".toList

/-- What a start takes from the operation file. -/
def restoredOperation (record : OperationRecord) : OperationRecord :=
  if record.answer.state = .inProgress then
    { record with
      answer.state := .outcomeUnknown
      answer.message := acrossRestart }
  else record

/-- What a start takes from the state record. -/
def restoredFromState (saved : LinuxDaemonStateRecord) : OperationRecord :=
  let state : ServiceOperationState :=
    if saved.state ≠ .active ∨ saved.operationState = .inProgress then .outcomeUnknown
    else saved.operationState
  let status : ServiceResponseStatus := if state = .succeeded then .ok else .error
  { operationId := saved.operationId
    answer := {
      state := state
      status := status
      severity := serviceResponseResolveOutcomeSeverity status .success
      message :=
        if state = .succeeded then "operation restored from committed daemon state".toList
        else acrossRestart } }

/-- The ring of a start: first the operation file, then the state record. -/
def restoredRing (file : DaemonFile OperationRecord) (saved : Option LinuxDaemonStateRecord) :
    OperationRing :=
  let ring :=
    match file with
    | .record record => serviceOperationRestore emptyRing (restoredOperation record)
    | .absent => emptyRing
    | .damaged => emptyRing
  match saved with
  | some saved =>
    if saved.operationId ≠ 0 then serviceOperationRestore ring (restoredFromState saved) else ring
  | none => ring

/-! ## The start -/

/-- The start of `linux_daemon_run` up to the state record. -/
def startUntilState (reads : StartReads) : DaemonM Unit := do
  let backend ← succeeds
  modify fun w => w.setGpuReady backend
  modify fun w => w.setGuard (loadAutoRestoreGuardAtBoot w.disk.guard w.bootId reads)
  daemonFanOwnershipHandbackAtStart
  modify fun w => w.setPolicy (loadStartupPolicyAtBoot w.disk.startup reads.policyReadable)
  applyStartupProfilePolicy

/-- The restore of the last intent, with the record that is read for it. -/
def restoreLastReading : DaemonM (Option LinuxDaemonStateRecord) := do
  let result ← linuxDaemonStateLoad
  match result with
  | .missing => return none
  | .removed => return none
  | .ioError =>
    modify fun w => w.setUncertain
    return none
  | .loaded saved =>
    resumeCommittedState saved
    return some saved

/-- The start of `linux_daemon_run`: whether it serves, and the state record it read. -/
def linuxDaemonStart (reads : StartReads) : DaemonM (Bool × Option LinuxDaemonStateRecord) := do
  startUntilState reads
  let saved ← restoreLastReading
  let serves ← succeeds
  return (serves, saved)

/-! ## The daemon and its requests -/

structure OperationDaemon where
  machine : DaemonMachine := {}
  ring : OperationRing := emptyRing
  operationFile : DaemonFile OperationRecord := .absent

/-- `SERVICE_CMD_APPLY` and `SERVICE_CMD_RESET`. -/
inductive MutationCommand where
  | apply (desired : DesiredSettings)
  | reset

def MutationCommand.program (operationId : UInt64) : MutationCommand → DaemonM Unit
  | .apply desired => handleApply desired operationId
  | .reset => handleReset operationId

/-- Only an Apply checks a fan curve. -/
def MutationCommand.takesFanCurve : MutationCommand → Bool
  | .apply _ => true
  | .reset => false

/-- What the daemon meets while it handles a mutation: the checks before the operation
guard, the stores of the operation file (nothing where the daemon dies at one), and what the
handler leaves in the response.  Every branch of the handlers leaves a message. -/
structure Handling where
  accepted : Bool := true
  beginStore : Option Bool := some true
  fanCurveValid : Bool := true
  answers : List Answer := []
  severity : ServiceOutcomeSeverity := .success
  message : List Char
  message_ne : message ≠ []
  endStore : Option Bool := some true

/-- What a request does: an operation begins, it writes the hardware, its record is
completed, or the record of an earlier one answers. -/
inductive OperationAction where
  | begun (operationId : UInt64)
  | executed (operationId : UInt64)
  | completed (operationId : UInt64) (answer : OperationAnswer)
  | replayed (operationId : UInt64) (answer : OperationAnswer)
  deriving DecidableEq, Repr

/-- The answer of a duplicate. -/
def cachedAnswer (existing : OperationRecord) : OperationAnswer :=
  { existing.answer with
    message :=
      if existing.answer.message = [] then "operation result cached".toList
      else existing.answer.message }

/-- A store of the operation file. -/
def storeOperation (file : DaemonFile OperationRecord) (record : OperationRecord) (ok : Bool) :
    DaemonFile OperationRecord :=
  if ok then .record record else file

namespace OperationDaemon
variable (s : OperationDaemon)

def die : OperationDaemon := { s with machine := s.machine.dropProcess }

/-- The hardware part of a mutation that the guard lets execute. -/
def perform (command : MutationCommand) (operationId : UInt64) (h : Handling) :
    DaemonMachine × List DaemonAction :=
  if command.takesFanCurve && !h.fanCurveValid then (s.machine, [])
  else s.machine.serve (command.program operationId) h.answers

/-- The answer of a mutation that did so. -/
def answerOf (h : Handling) (actions : List DaemonAction) : OperationAnswer :=
  settledAnswer (if actions.contains .committed then .ok else .error) h.severity h.message

/-- `LinuxOperationRequestGuard` around a mutation that begins. -/
def execute (begun : OperationRing) (command : MutationCommand) (operationId : UInt64)
    (h : Handling) : OperationDaemon × List OperationAction :=
  match h.beginStore with
  | none => ({ s with ring := begun }.die, [.begun operationId])
  | some stored =>
    let file := storeOperation s.operationFile (begunRecord operationId) stored
    let run := s.perform command operationId h
    let wrote := (run.2.filter DaemonAction.isExplicitWrite).map fun _ =>
      OperationAction.executed operationId
    let answer := answerOf h run.2
    match run.1.process with
    | none => (⟨run.1, begun, file⟩, .begun operationId :: wrote)
    | some _ =>
      let actions := .begun operationId :: wrote ++ [.completed operationId answer]
      let completed := serviceOperationComplete begun operationId answer
      match h.endStore with
      | none => (die ⟨run.1, completed, file⟩, actions)
      | some stored =>
        (⟨run.1, completed, storeOperation file ⟨operationId, answer⟩ stored⟩, actions)

/-- A mutation, from the checks before its guard on. -/
def request (command : MutationCommand) (operationId : UInt64) (h : Handling) :
    OperationDaemon × List OperationAction :=
  if s.machine.process.isNone || !h.accepted then (s, [])
  else
    match serviceOperationBegin s.ring operationId with
    | .invalid => (s, [])
    | .duplicate existing => (s, [.replayed operationId (cachedAnswer existing)])
    | .started begun => s.execute begun command operationId h

/-- A start, if no daemon is running. -/
def start (reads : StartReads) (operationReadable : Bool) (answers : List Answer) :
    OperationDaemon :=
  match s.machine.process with
  | some _ => s
  | none =>
    match (linuxDaemonStart reads).exec answers (s.machine.world {}) with
    | (some (true, saved), w) =>
      { machine := (w.leave (some w.memory)).1
        ring := restoredRing (if operationReadable then s.operationFile else .absent) saved
        operationFile := s.operationFile }
    | (some (false, _), w) => { s with machine := (w.leave none).1 }
    | (none, w) => { s with machine := (w.leave none).1 }

end OperationDaemon

/-- What a daemon does beside mutations. -/
inductive BackgroundTask where
  | resumeRestore
  | setStartupPolicy (record : LinuxDaemonStartupRecord)
  | retryBackend
  | deferredHandback
  | fanLockout

def BackgroundTask.task : BackgroundTask → DaemonTask
  | .resumeRestore => .resumeRestore
  | .setStartupPolicy record => .setStartupPolicy record
  | .retryBackend => .retryBackend
  | .deferredHandback => .deferredHandback
  | .fanLockout => .fanLockout

inductive OperationEvent where
  | request (command : MutationCommand) (operationId : UInt64) (handling : Handling)
  | background (task : BackgroundTask) (answers : List Answer)
  | start (reads : StartReads) (operationReadable : Bool) (answers : List Answer)
  | stop (answers : List Answer)
  | kill
  | boot (bootId : BootId)

/-- The daemon with its operations, from a fresh installation. -/
def operationDaemon : EventMachine OperationDaemon OperationEvent (List OperationAction) where
  initial := {}
  step s
    | .request command operationId h => s.request command operationId h
    | .background task answers =>
      ({ s with machine := (s.machine.serve task.task.program answers).1 }, [])
    | .start reads operationReadable answers => (s.start reads operationReadable answers, [])
    | .stop answers => ({ s with machine := (daemonStep s.machine (.stop answers)).1 }, [])
    | .kill => (s.die, [])
    | .boot bootId => ({ s with machine := (daemonStep s.machine (.boot bootId)).1 }, [])

end GreenCurve.Operations
