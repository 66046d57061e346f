import GreenCurve.CrashProgram
import Mathlib.Algebra.Ring.Nat

/-! # The installer's transaction

Setup saves what it is about to change, stops the service, replaces the payload
files one by one, writes the uninstall record and runs the service helper.  Each
call to the file system, the registry or the service manager consumes an answer
that says whether it succeeded, and a call that fails has no effect.  Two steps
may fail half-way: the uninstall record, of which any part may be written, and
the service helper, which may leave any service at all.

`Name` is what the file system tells files apart by. -/

namespace GreenCurve.Setup

open CrashM

abbrev Bytes := List UInt8

/-- A service registration.  `running` is every state but `SERVICE_STOPPED`. -/
structure Service where
  command : String
  displayName : String
  startType : UInt32
  failureActions : Bytes
  failureFlag : Bytes
  description : Bytes
  running : Bool
  deriving DecidableEq

inductive RegistryValue where
  | string (text : String)
  | dword (value : UInt32)
  | other (type : UInt32) (data : Bytes)
  deriving DecidableEq

/-- The uninstall key's values by name. -/
abbrev UninstallRecord := String → Option RegistryValue

/-- `gc_registration_values`. -/
def registrationValues : List String :=
  ["DisplayName", "DisplayVersion", "Publisher", "InstallLocation", "UninstallString",
    "QuietUninstallString", "DisplayIcon", "NoModify", "NoRepair", "EstimatedSize",
    "GreenCurveStartMenuShortcut", "GreenCurveDesktopShortcut", "GreenCurveSettingsExport"]

/-- What an installation is made of: the target folder's files, the service and
the uninstall record. -/
structure Machine (Name : Type) where
  target : Name → Option Bytes
  service : Option Service := none
  record : Option UninstallRecord := none

/-- The private folder: the staged payload, and the saved copies in `old`. -/
structure Storage (Name : Type) where
  staged : Name → Option Bytes := fun _ => none
  backup : Name → Option Bytes := fun _ => none

structure PayloadFile (Name : Type) where
  name : Name
  data : Bytes

/-- `GcInstallContext`. -/
structure InstallContext (Name : Type) where
  files : List (PayloadFile Name)
  targetDirectory : String
  version : String
  createStartMenuShortcut : Bool
  createDesktopShortcut : Bool

/-- `GcInstallTransaction`. -/
structure Transaction (Name : Type) where
  names : List Name := []
  oldFile : Nat → Bool := fun _ => false
  changedFile : Nat → Bool := fun _ => false
  registryPresent : Bool := false
  servicePresent : Bool := false
  serviceWasRunning : Bool := false
  serviceStartType : UInt32 := 0xFFFFFFFF
  serviceCommand : String := ""
  serviceDisplayName : String := ""
  previousDirectoryHardened : Bool := false
  previousBinaryHardened : Bool := false
  failureActions : Bytes := []
  failureFlag : Bytes := []
  description : Bytes := []
  values : UninstallRecord := fun _ => none

/-- `GcStopFailureServiceState`. -/
inductive StopFailureServiceState where
  | absent | stopped | active | unknown
  deriving DecidableEq

/-- `GcStopFailureRecovery`. -/
inductive StopFailureRecovery where
  | nothingToDo | restartPrevious | leaveActive | stateUnknown
  deriving DecidableEq

/-- A recovery that ran, with what it reported. -/
inductive Recovery where
  | stopFailure (action : StopFailureRecovery) (restarted : Bool)
  | rollback (restored : Bool)
  deriving DecidableEq

structure Session (Name : Type) where
  machine : Machine Name
  storage : Storage Name := {}
  transaction : Transaction Name := {}
  recoveries : List Recovery := []

/-- What the environment answers to one call.  `applied` says whether a stop that
was not seen to complete took effect, `created` and `written` which part of a
failed record step did, and `left` is the service a helper leaves. -/
structure Answer where
  ok : Bool := true
  applied : Bool := false
  created : Bool := false
  written : String → Bool := fun _ => false
  left : Option Service := none

abbrev SetupM (Name : Type) := CrashM Answer (Session Name)

section Template
variable {m : Type → Type} [Monad m]

/-- Every index in turn, until one fails. -/
def replaceAll (replace : Nat → m Bool) : List Nat → m Bool
  | [] => return true
  | index :: rest => do
    let replaced ← replace index
    if !replaced then return false else replaceAll replace rest

/-- `gc_run_install_transaction`. -/
def gcRunInstallTransaction (fileCount : Nat) (stop : m Bool) (stopFailed : m Unit)
    (replace : Nat → m Bool) (record service : m Bool) (rollback : Bool → m Unit) : m Bool := do
  let stopped ← stop
  if !stopped then
    stopFailed
    return false
  else
  let replaced ← replaceAll replace (List.range fileCount)
  if !replaced then
    rollback false
    return false
  else
  let recorded ← record
  if !recorded then
    rollback true
    return false
  else
  let registered ← service
  if !registered then
    rollback true
    return false
  else return true

/-- The loop of `gc_restore_install_files`: it goes on after a failure. -/
def restoreChanged (changed hadPrevious : Nat → Bool) (restorePrevious removeNew : Nat → m Bool)
    (complete : Bool) : List Nat → m Bool
  | [] => return complete
  | index :: rest =>
    if !changed index then
      restoreChanged changed hadPrevious restorePrevious removeNew complete rest
    else do
      let restored ← (if hadPrevious index then restorePrevious index else removeNew index)
      restoreChanged changed hadPrevious restorePrevious removeNew (complete && restored) rest

/-- `gc_restore_install_files`. -/
def gcRestoreInstallFiles (fileCount : Nat) (changed hadPrevious : Nat → Bool)
    (restorePrevious removeNew : Nat → m Bool) : m Bool :=
  restoreChanged changed hadPrevious restorePrevious removeNew true (List.range fileCount)

end Template

/-- `gc_stop_failure_recovery`. -/
def gcStopFailureRecovery (serviceWasRunning : Bool) :
    StopFailureServiceState → StopFailureRecovery
  | .active => .leaveActive
  | .stopped => if serviceWasRunning then .restartPrevious else .nothingToDo
  | .absent => .nothingToDo
  | .unknown => .stateUnknown

/-! ## What the calls change -/

/-- `f` with `value` at `key`. -/
def put {K V : Type} [DecidableEq K] (f : K → V) (key : K) (value : V) : K → V :=
  fun key' => if key' = key then value else f key'

namespace Session
variable {Name : Type}

def setTarget (s : Session Name) (target : Name → Option Bytes) : Session Name :=
  { s with machine := { s.machine with target := target } }

def setService (s : Session Name) (service : Option Service) : Session Name :=
  { s with machine := { s.machine with service := service } }

def setRecord (s : Session Name) (record : Option UninstallRecord) : Session Name :=
  { s with machine := { s.machine with record := record } }

def setStorage (s : Session Name) (storage : Storage Name) : Session Name :=
  { s with storage := storage }

def setTransaction (s : Session Name) (transaction : Transaction Name) : Session Name :=
  { s with transaction := transaction }

/-- Log a recovery. -/
def recovered (s : Session Name) (recovery : Recovery) : Session Name :=
  { s with recoveries := s.recoveries ++ [recovery] }

end Session

variable {Name : Type} [DecidableEq Name]

/-- A call that succeeds, or fails with no effect. -/
def succeeds : SetupM Name Bool := do
  let answer ← ask
  return answer.ok

/-! ## The saved state -/

/-- What `snapshot_service` keeps of a registration. -/
def Transaction.saveService (tx : Transaction Name) (service : Service)
    (directoryHardened binaryHardened : Bool) : Transaction Name :=
  { tx with
    servicePresent := true
    serviceCommand := service.command
    serviceDisplayName := service.displayName
    serviceStartType := service.startType
    failureActions := service.failureActions
    failureFlag := service.failureFlag
    description := service.description
    previousDirectoryHardened := directoryHardened
    previousBinaryHardened := binaryHardened
    serviceWasRunning := service.running }

/-- `query_extra`: a configuration of no bytes is a failed query. -/
def queryExtra (data : Bytes) : SetupM Name Bool := do
  let queried ← succeeds
  return queried && !data.isEmpty

/-- `snapshot_service`. -/
def snapshotService : SetupM Name Bool := do
  let manager ← succeeds
  if !manager then return false else
  let opened ← succeeds
  if !opened then return false else
  let s ← get
  match s.machine.service with
  | none => return true
  | some service =>
    let configured ← succeeds
    if !configured then return false else
    let failureActions ← queryExtra service.failureActions
    if !failureActions then return false else
    let failureFlag ← queryExtra service.failureFlag
    if !failureFlag then return false else
    let description ← queryExtra service.description
    if !description then return false else
    let directoryHardened ← succeeds
    let binaryHardened ← succeeds
    let status ← succeeds
    if !status then return false else
    modify fun s => s.setTransaction
      (s.transaction.saveService service directoryHardened binaryHardened)
    return true

/-- The values of `record` under `names`, read one by one. -/
def readValues (record : UninstallRecord) : List String → SetupM Name Bool
  | [] => return true
  | name :: rest => do
    let read ← succeeds
    if !read then return false else
    modify fun s => s.setTransaction
      { s.transaction with values := put s.transaction.values name (record name) }
    readValues record rest

/-- `snapshot_registry`. -/
def snapshotRegistry : SetupM Name Bool := do
  let opened ← succeeds
  if !opened then return false else
  let s ← get
  match s.machine.record with
  | none => return true
  | some record =>
    modify fun s => s.setTransaction { s.transaction with registryPresent := true }
    readValues record registrationValues

/-- Remove the staged and the saved copy of each name; a failed removal is only
logged. -/
def discard : List Name → SetupM Name Unit
  | [] => return ()
  | name :: rest => do
    let unstaged ← succeeds
    CrashM.when unstaged do
      modify fun s => s.setStorage { s.storage with staged := put s.storage.staged name none }
    let removed ← succeeds
    CrashM.when removed do
      modify fun s => s.setStorage { s.storage with backup := put s.storage.backup name none }
    discard rest

/-- `cleanup`. -/
def cleanup : SetupM Name Unit := do
  let s ← get
  discard s.transaction.names

/-- `CopyFileW(finalPath, backupPath, TRUE)`: the copy must not exist yet. -/
def saveOldFile (index : Nat) (name : Name) (data : Bytes) : SetupM Name Bool := do
  let copied ← succeeds
  let s ← get
  if !copied || (s.storage.backup name).isSome then return false else
  modify fun s => (s.setStorage
    { s.storage with backup := put s.storage.backup name (some data) }).setTransaction
    { s.transaction with oldFile := put s.transaction.oldFile index true }
  return true

/-- What is at the target is inspected, and saved if there is anything. -/
def saveExisting (index : Nat) (name : Name) : SetupM Name Bool := do
  let inspected ← succeeds
  if !inspected then return false else
  let s ← get
  match s.machine.target name with
  | none => return true
  | some data =>
    let ordinary ← succeeds
    if !ordinary then return false else saveOldFile index name data

/-- One file of `prepare`: stage the payload, and save what it will replace. -/
def prepareFile (index : Nat) (file : PayloadFile Name) : SetupM Name Bool := do
  let decoded ← succeeds
  if !decoded then return false else
  modify fun s => s.setTransaction
    { s.transaction with names := s.transaction.names ++ [file.name] }
  let staged ← succeeds
  if !staged then return false else
  modify fun s => s.setStorage
    { s.storage with staged := put s.storage.staged file.name (some file.data) }
  saveExisting index file.name

/-- The files from `index` on. -/
def prepareFrom (index : Nat) : List (PayloadFile Name) → SetupM Name Bool
  | [] => return true
  | file :: rest => do
    let prepared ← prepareFile index file
    if !prepared then
      cleanup
      return false
    else prepareFrom (index + 1) rest

/-- `prepare`. -/
def prepare (context : InstallContext Name) : SetupM Name Bool := do
  let fits ← succeeds
  if !fits then return false else
  let service ← snapshotService
  if !service then return false else
  let registry ← snapshotRegistry
  if !registry then return false else
  let storage ← succeeds
  if !storage then
    cleanup
    return false
  else prepareFrom 0 context.files

/-! ## The forward steps -/

/-- `replace`: the staged bytes are renamed over the target in one step. -/
def replace (context : InstallContext Name) (index : Nat) : SetupM Name Bool := do
  let replaced ← succeeds
  let s ← get
  match context.files[index]? with
  | none => return false
  | some file =>
    match s.storage.staged file.name with
    | none => return false
    | some data =>
      if !replaced then return false else
      modify fun s => (s.setTarget (put s.machine.target file.name (some data))).setTransaction
        { s.transaction with changedFile := put s.transaction.changedFile index true }
      return true

/-- What a stop that took effect leaves. -/
def stoppedService (service : Option Service) : Option Service :=
  service.map fun registered => { registered with running := false }

/-- What a start leaves. -/
def startedService (service : Option Service) : Option Service :=
  service.map fun registered => { registered with running := true }

/-- `gc_stop_background_service`: whether the service is stopped, and whether it
was running. -/
def gcStopBackgroundService : SetupM Name (Bool × Bool) := do
  let manager ← succeeds
  if !manager then return (false, false) else
  let opened ← succeeds
  if !opened then return (false, false) else
  let s ← get
  match s.machine.service with
  | none => return (true, false)
  | some service =>
    let queried ← succeeds
    if !queried then return (false, false) else
    if !service.running then return (true, false) else
    let process ← succeeds
    if !process then return (false, true) else
    let controlled ← succeeds
    if !controlled then return (false, true) else
    let exit ← ask
    CrashM.when (exit.ok || exit.applied) do
      modify fun s => s.setService (stoppedService s.machine.service)
    return (exit.ok, true)

/-- The `stop` of the transaction. -/
def stop : SetupM Name Bool := do
  let (stopped, wasRunning) ← gcStopBackgroundService
  modify fun s => s.setTransaction
    { s.transaction with serviceWasRunning := s.transaction.serviceWasRunning || wasRunning }
  return stopped

/-- `gc_join_path`. -/
def gcJoinPath (directory leaf : String) : String :=
  String.ofList (directory.toList.reverse.dropWhile fun c => c == '\\' || c == '/').reverse ++
    "\\" ++ leaf

/-- `gc_estimated_size_kb`. -/
def gcEstimatedSizeKb (files : List (PayloadFile Name)) : UInt32 :=
  let total := (files.map fun file => file.data.length).sum
  let kb := (total + 1023) / 1024
  (min kb 0xFFFFFFFF).toUInt32

/-- The values of the uninstall record, in the order they are written. -/
def uninstallRegistration (context : InstallContext Name) : List (String × RegistryValue) :=
  let uninstallPath := gcJoinPath context.targetDirectory "greencurve-uninstall.exe"
  [("DisplayName", .string "Green Curve"),
    ("DisplayVersion", .string context.version),
    ("Publisher", .string "aufkrawall"),
    ("InstallLocation", .string context.targetDirectory),
    ("UninstallString", .string ("\"" ++ uninstallPath ++ "\"")),
    ("QuietUninstallString", .string ("\"" ++ uninstallPath ++ "\" /S")),
    ("DisplayIcon", .string (gcJoinPath context.targetDirectory "greencurve.exe")),
    ("NoModify", .dword 1),
    ("NoRepair", .dword 1),
    ("EstimatedSize", .dword (gcEstimatedSizeKb context.files)),
    ("GreenCurveStartMenuShortcut", .dword (if context.createStartMenuShortcut then 1 else 0)),
    ("GreenCurveDesktopShortcut", .dword (if context.createDesktopShortcut then 1 else 0)),
    ("GreenCurveSettingsExport", .dword 1)]

/-- `record` with the values of `registration` that `written` selects. -/
def writeSome (written : String → Bool) (record : UninstallRecord) :
    List (String × RegistryValue) → UninstallRecord
  | [] => record
  | (name, value) :: rest =>
    writeSome written (if written name then put record name (some value) else record) rest

/-- `gc_write_uninstall_registration`.  The source stops at the first value it
cannot write; here a failure leaves any part of them. -/
def gcWriteUninstallRegistration (context : InstallContext Name) : SetupM Name Bool := do
  let answer ← ask
  modify fun s =>
    let record := s.machine.record.getD fun _ => none
    if answer.ok then
      s.setRecord (some (writeSome (fun _ => true) record (uninstallRegistration context)))
    else if s.machine.record.isSome || answer.created then
      s.setRecord (some (writeSome answer.written record (uninstallRegistration context)))
    else s
  return answer.ok

/-- `gc_register_service`: the helper may leave any service, whatever it reports. -/
def gcRegisterService : SetupM Name Bool := do
  let answer ← ask
  modify fun s => s.setService answer.left
  return answer.ok

/-! ## The recoveries -/

/-- `restart_previous_service`: a service that runs already counts as started. -/
def restartPreviousService : SetupM Name Bool := do
  let started ← succeeds
  if !started then return false else
  modify fun s => s.setService (startedService s.machine.service)
  succeeds

/-- `query_service_after_stop_failure`. -/
def queryServiceAfterStopFailure : SetupM Name StopFailureServiceState := do
  let opened ← succeeds
  if !opened then return .unknown else
  let s ← get
  match s.machine.service with
  | none => return .absent
  | some service =>
    let queried ← succeeds
    if !queried then return .unknown else
    return if service.running then .active else .stopped

/-- `recover_after_stop_failure`. -/
def recoverAfterStopFailure : SetupM Name Unit := do
  let manager ← succeeds
  let now ← (if manager then queryServiceAfterStopFailure else pure .unknown)
  let s ← get
  let action := gcStopFailureRecovery s.transaction.serviceWasRunning now
  let restarted ← (if action = .restartPrevious then restartPreviousService else pure false)
  cleanup
  modify fun s => s.recovered (.stopFailure action restarted)

/-- `gc_restore_previous_install_file` on one name. -/
def restorePrevious (name : Name) : SetupM Name Bool := do
  let restored ← succeeds
  let s ← get
  match s.storage.backup name with
  | none => return false
  | some data =>
    if !restored then return false else
    modify fun s => s.setTarget (put s.machine.target name (some data))
    return true

/-- A new file is deleted; one that is not there counts as deleted. -/
def removeNew (name : Name) : SetupM Name Bool := do
  let removed ← succeeds
  if !removed then return false else
  modify fun s => s.setTarget (put s.machine.target name none)
  return true

/-- `step` on the name of the `index`-th payload file. -/
def onFile (context : InstallContext Name) (step : Name → SetupM Name Bool) (index : Nat) :
    SetupM Name Bool :=
  match context.files[index]? with
  | none => return false
  | some file => step file.name

/-- `restore_files`. -/
def restoreFiles (context : InstallContext Name) : SetupM Name Bool := do
  let s ← get
  gcRestoreInstallFiles context.files.length s.transaction.changedFile s.transaction.oldFile
    (onFile context restorePrevious) (onFile context removeNew)

/-- One configuration write of `restore_service`. -/
def changeConfig (change : Service → Service) : SetupM Name Bool := do
  let changed ← succeeds
  CrashM.when changed do
    modify fun s => s.setService (s.machine.service.map change)
  return changed

/-- A configuration that was saved empty is not written. -/
def changeConfig2 (data : Bytes) (change : Service → Service) : SetupM Name Bool :=
  if data.isEmpty then return true else changeConfig change

/-- The protection of a folder or binary that was ours is put back. -/
def restoreProtection (hardened : Bool) : SetupM Name Bool :=
  if hardened then succeeds else return true

/-- `restore_service` on a service that existed before. -/
def restoreRegistration : SetupM Name Bool := do
  let s ← get
  let tx := s.transaction
  let configured ← changeConfig fun service => { service with
    startType := tx.serviceStartType
    command := tx.serviceCommand
    displayName := tx.serviceDisplayName }
  let failureActions ← changeConfig2 tx.failureActions fun service => { service with
    failureActions := tx.failureActions }
  let failureFlag ← changeConfig2 tx.failureFlag fun service => { service with
    failureFlag := tx.failureFlag }
  let description ← changeConfig2 tx.description fun service => { service with
    description := tx.description }
  let directory ← restoreProtection tx.previousDirectoryHardened
  let binary ← restoreProtection tx.previousBinaryHardened
  let ok := configured && failureActions && failureFlag && description && directory && binary
  if ok && tx.serviceWasRunning then restartPreviousService else return ok

/-- `restore_service`. -/
def restoreService : SetupM Name Bool := do
  let manager ← succeeds
  if !manager then return false else
  let opened ← succeeds
  if !opened then return false else
  let s ← get
  match s.machine.service with
  | none => return !s.transaction.servicePresent
  | some _ =>
    if s.transaction.servicePresent then restoreRegistration else
    let deleted ← succeeds
    if !deleted then return false else
    modify fun s => s.setService none
    return true

/-- Each saved value is set again, and one that was absent is deleted; the loop
goes on after a failure. -/
def restoreValues (saved : UninstallRecord) (ok : Bool) : List String → SetupM Name Bool
  | [] => return ok
  | name :: rest => do
    let restored ← succeeds
    CrashM.when restored do
      modify fun s => s.setRecord (s.machine.record.map fun record => put record name (saved name))
    restoreValues saved (ok && restored) rest

/-- `restore_registry`. -/
def restoreRegistry : SetupM Name Bool := do
  let created ← succeeds
  if !created then return false else
  modify fun s => s.setRecord (some (s.machine.record.getD fun _ => none))
  let s ← get
  let ok ← restoreValues s.transaction.values true registrationValues
  if !s.transaction.registryPresent && ok then
    let deleted ← succeeds
    CrashM.when deleted do
      modify fun s => s.setRecord none
    return deleted
  else return ok

/-- `rollback`. -/
def rollback (context : InstallContext Name) (recordMayHaveChanged : Bool) :
    SetupM Name Bool := do
  let (stopped, _) ← gcStopBackgroundService
  if !stopped then return false else
  let files ← restoreFiles context
  let service ← (if files then restoreService else pure false)
  let record ← (if recordMayHaveChanged then restoreRegistry else pure true)
  let ok := files && service && record
  CrashM.when ok cleanup
  return ok

/-- The `rollback` of the transaction. -/
def rollbackAndReport (context : InstallContext Name) (recordMayHaveChanged : Bool) :
    SetupM Name Unit := do
  let restored ← rollback context recordMayHaveChanged
  modify fun s => s.recovered (.rollback restored)

/-- The transaction `gc_install_execute` runs once `prepare` has succeeded. -/
def installTransaction (context : InstallContext Name) : SetupM Name Bool :=
  gcRunInstallTransaction context.files.length stop recoverAfterStopFailure (replace context)
    (gcWriteUninstallRegistration context) gcRegisterService (rollbackAndReport context)

end GreenCurve.Setup
