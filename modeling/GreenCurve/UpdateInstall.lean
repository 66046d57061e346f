import GreenCurve.UpdateService

/-! # Install, start and response of the update service

The install job, which is the only one that starts a program; what a start of the service
restores from its settings and its cache; and the part of a response the dialog is filled
from.  `UpdateEvent` is everything that moves the service, and `updateStep` what it does. -/

namespace GreenCurve

open Ini (Text)

/-! ## The install -/

structure GcUpdateInstallGate where
  userConsented : Bool
  packageVerified : Bool
  packageStaged : Bool
  applyInFlight : Bool
  foregroundAppActive : Bool
  isInstalledCopy : Bool
  installAlreadyRunning : Bool
  updateAvailable : Bool

/-- `gc_update_install_decision`. -/
def gcUpdateInstallDecision (gate : GcUpdateInstallGate) : GcUpdateInstallRefusal :=
  if !gate.userConsented then .noConsent
  else if gate.installAlreadyRunning then .alreadyRunning
  else if !gate.packageStaged then .noPackage
  else if !gate.packageVerified then .notVerified
  else if !gate.updateAvailable then .notVerified
  else if !gate.isInstalledCopy then .notInstalledCopy
  else if gate.applyInFlight then .busyApplying
  else if gate.foregroundAppActive then .busyForeground
  else .allowed

/-- How a setup that was started ended. -/
inductive InstallerEnd where
  | exited (code : Nat)
  | terminated
  | abandoned

/-- What an install meets. -/
structure InstallIo where
  now : UInt64
  isInstalledCopy : Bool
  installDir : Text
  /-- The staged file behind the pinned handle. -/
  pinned : Option FileBytes
  /-- The private copy behind the handle that is held across the start of the process. -/
  launchCopy : Option FileBytes
  commandLineBuilt : Bool
  launchNow : UInt64
  windowsClosed : Bool
  launchDirReproved : Bool
  created : Bool
  ended : InstallerEnd
  swept : Bool

/-- The install ends without a launch, after the writes were reserved. -/
def releaseInstall (w : UpdateWorld) : Bool × UpdateWorld :=
  (false, { w with state := { w.state with installReserved := false, installRunning := false } })

/-- What the worker does once setup runs. -/
def awaitInstaller (w : UpdateWorld) (io : InstallIo) : Bool × UpdateWorld :=
  match io.ended with
  | .exited 0 =>
    let w := { w with state := { w.state with installRunning := false } }
    (true, (serviceUpdateClearStaging w io.swept).setPhase .idle)
  | .exited _ | .terminated =>
    let w := { w with state := { w.state with installReserved := false, installRunning := false } }
    (false, w.setPhase .failed)
  | .abandoned =>
    let w := { w with state := { w.state with installRunning := false } }
    (false, w.setPhase .failed)

/-- The start of setup: what it is started on, and its image. -/
def launchSetup (w : UpdateWorld) (manifest : GcUpdateManifest) (image : FileBytes) (now : Int) :
    UpdateWorld :=
  let launch : UpdateLaunch :=
    { manifest, freshness := w.state.freshness, decidedAt := now, running := w.running, image }
  { w with history := { w.history with
      launches := launch :: w.history.launches
      launchedHere := launch :: w.history.launchedHere } }

/-- The install behind the gate: the manifest, the asset and the private copy of its file. -/
def launchVerified (w : UpdateWorld) (manifest : GcUpdateManifest) (image : FileBytes)
    (io : InstallIo) : Bool × UpdateWorld :=
  if w.state.installReserved then (false, w)
  else
    let w := { w with state := { w.state with installReserved := true } }
    let w := w.setPhase .installing
    let w := { w with state := { w.state with installRunning := true } }
    let launchNow := serviceUpdateNowUnix io.launchNow
    if !io.commandLineBuilt then releaseInstall w
    else if !gcUpdateFreshTimeValid w.state.freshness launchNow then releaseInstall w
    else if !io.windowsClosed then releaseInstall w
    else if !io.launchDirReproved then releaseInstall w
    else if !io.created then releaseInstall w
    else awaitInstaller (launchSetup w manifest image launchNow) io

/-- `service_update_run_install`. -/
def serviceUpdateRunInstall (host : UpdateHost) (w : UpdateWorld) (io : InstallIo) :
    Bool × UpdateWorld :=
  let s := w.state
  let gate : GcUpdateInstallGate :=
    { userConsented := true
      packageStaged := s.packageStaged
      packageVerified := s.packageVerified
      installAlreadyRunning := s.installRunning || s.installReserved
      updateAvailable := s.decision == .available &&
        gcUpdateFreshTimeValid s.freshness (serviceUpdateNowUnix io.now)
      isInstalledCopy := io.isInstalledCopy
      foregroundAppActive := false
      applyInFlight := false }
  let refusal := gcUpdateInstallDecision gate
  let w := { w with state := { s with lastRefusal := refusal } }
  if refusal ≠ .allowed then (false, w)
  else if s.stagedPath = [] ∨ io.installDir = [] then (false, w)
  else
    match io.pinned with
    | none => (false, w)
    | some pinned =>
      match s.manifest with
      | none => (false, { w with state := { w.state with
          packageStaged := false, packageVerified := false } })
      | some manifest =>
        match gcUpdateSelectAsset manifest host.arch with
        | none => (false, { w with state := { w.state with
            packageStaged := false, packageVerified := false } })
        | some asset =>
          let w := w.hashed pinned
          if !gcUpdateStagedFileMatches host asset pinned then
            (false, { w with state := { w.state with
              packageStaged := false, packageVerified := false } })
          else
            match io.launchCopy with
            | none => (false, w)
            | some image =>
              if !gcUpdateStagedFileMatches host asset image then (false, w)
              else launchVerified w manifest image io

/-- `service_update_worker_thread`, of an install. -/
def installJob (host : UpdateHost) (w : UpdateWorld) (io : InstallIo) : UpdateWorld :=
  let install := serviceUpdateRunInstall host w io
  if install.1 then install.2 else install.2.setPhase .failed

/-! ## The start of the service -/

/-- What a start of the service meets; `left` is the version a setup left running. -/
structure RestartIo where
  left : Option GcUpdateVersion
  cacheRead : Bool
  cacheCleared : Bool
  now : UInt64
  directory : Bool
  present : Bool
  staged : StagedRead
  swept : Bool

/-- `service_update_adopt_staged_package`. -/
def serviceUpdateAdoptStagedPackage (host : UpdateHost) (w : UpdateWorld)
    (manifest : GcUpdateManifest) (io : RestartIo) : UpdateWorld :=
  match gcUpdateSelectAsset manifest host.arch with
  | none => w
  | some asset =>
    if !io.directory ∨ !io.present then w
    else
      let w := { w with state := { w.state with stagedPath := asset.file } }
      let recheck := serviceUpdateStagedPackageMatchesManifest host w manifest io.staged
      if !recheck.1 then serviceUpdateClearStaging recheck.2 io.swept
      else
        { recheck.2 with state := { recheck.2.state with
          packageStaged := true, packageVerified := true, phase := .ready } }

/-- `service_update_restore_from_cache`. -/
def serviceUpdateRestoreFromCache (host : UpdateHost) (w : UpdateWorld) (io : RestartIo) :
    UpdateWorld :=
  let discard := if io.cacheCleared then { w with cache := none } else w
  match if io.cacheRead then w.cache else none with
  | none => w
  | some (document, signature) =>
    if !host.signatureVerifies document signature then discard
    else
      match readEnvelope document (serviceUpdateNowUnix io.now) with
      | none => discard
      | some (freshness, manifest) =>
        if w.running.isNone then w
        else
          let decision := gcUpdateDecide manifest w.running host.arch
          let w := { w with state := { w.state with
            manifest := some manifest, freshness, decision } }
          if decision = .available then serviceUpdateAdoptStagedPackage host w manifest io
          else serviceUpdateClearStaging w io.swept

/-- The build of a new process: what a setup of the last process left, or the same. -/
def restartedBuild (w : UpdateWorld) (left : Option GcUpdateVersion) : Option GcUpdateVersion :=
  match left with
  | some version =>
    if version ∈ w.history.launchedHere.map (fun launch => launch.manifest.version) then
      some version
    else w.running
  | none => w.running

/-- A new process. -/
def restart (host : UpdateHost) (w : UpdateWorld) (io : RestartIo) : UpdateWorld :=
  let fresh : UpdateWorld := { w with
    state := {}
    running := restartedBuild w io.left
    history := { w.history with launchedHere := [] } }
  serviceUpdateRestoreFromCache host (serviceUpdateLoadSettings fresh) io

/-! ## Responses -/

/-- The part of `ServiceUpdateState` that says what the channel offers. -/
structure ServiceUpdateState where
  phase : ServiceUpdatePhase
  decision : GcUpdateDecision
  autoCheck : GcUpdateAutoCheck
  consecutiveFailures : Int
  lastCheckUnix : Int
  availableVersion : Text
  packageStaged : Bool
  packageVerified : Bool
  channelState : GcUpdateChannelState

/-- `service_update_populate_response`. -/
def serviceUpdatePopulateResponse (w : UpdateWorld) (now : UInt64) : ServiceUpdateState :=
  let s := w.state
  let nowUnix := serviceUpdateNowUnix now
  let available := (s.manifest.map fun m => m.version.text).getD []
  let fresh := s.manifest.isNone || gcUpdateFreshTimeValid s.freshness nowUnix
  { phase := s.phase
    decision := if fresh then s.decision else .rejected
    autoCheck := s.autoCheck
    consecutiveFailures := s.consecutiveFailures
    lastCheckUnix := if s.lastCheckUnix > 0 then s.lastCheckUnix else 0
    availableVersion := available
    packageStaged := s.packageStaged
    packageVerified := if fresh then s.packageVerified else false
    channelState := gcUpdateChannelState s.autoCheck s.lastCheckUnix nowUnix s.highestSeenVersion
      available }

/-! ## Runs -/

/-- Everything that moves the update service. -/
inductive UpdateEvent where
  | check (io : CheckJobIo)
  /-- `SERVICE_CMD_INSTALL_UPDATE`, which a person asks for. -/
  | install (io : InstallIo)
  /-- `SERVICE_CMD_SET_UPDATE_POLICY`. -/
  | setPolicy (autoCheck : GcUpdateAutoCheck) (intervalSeconds : Int)
  | restart (io : RestartIo)

def updateStep (host : UpdateHost) (w : UpdateWorld) : UpdateEvent → UpdateWorld
  | .check io => checkJob host w io
  | .install io => installJob host w io
  | .setPolicy autoCheck intervalSeconds =>
    serviceUpdateSaveSettings { w with state := { w.state with
      autoCheck, intervalSeconds := gcUpdateClampInterval intervalSeconds } }
  | .restart io => restart host w io

/-- The service as it is first started, with nothing stored. -/
def freshInstall (running : Option GcUpdateVersion) : UpdateWorld := { running }

/-- The service after a list of events. -/
def updateRun (host : UpdateHost) (running : Option GcUpdateVersion) (events : List UpdateEvent) :
    UpdateWorld :=
  events.foldl (updateStep host) (freshInstall running)

theorem updateRun_snoc (host : UpdateHost) (running : Option GcUpdateVersion)
    (events : List UpdateEvent) (event : UpdateEvent) :
    updateRun host running (events ++ [event]) =
      updateStep host (updateRun host running events) event := by
  rw [updateRun, List.foldl_append]
  rfl

end GreenCurve
