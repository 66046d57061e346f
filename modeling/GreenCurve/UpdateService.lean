import GreenCurve.UpdateChannel
import GreenCurve.UpdateFreshness

/-! # The update service

The state of the updater and the jobs of its worker: the check, the download behind it, the
install, and what a start of the service restores.  One job runs at a time, so a job is one
step here.  What a job meets outside the state — the documents a request returned, the bytes a
handle read, the clock, whether a call succeeded — is an argument of the job, one for each
place of the source that asks, so that the clock and the staged file may change between any two
of them.

The signature check and the digest are parameters.  The texts the phases carry for the dialog
are left out. -/

namespace GreenCurve

open Ini (Text)

abbrev FileBytes := List UInt8

/-- The machine the service runs on, and the two primitives the service trusts. -/
structure UpdateHost where
  /-- `gc_update_verify_manifest_signature`, of a document and its signature. -/
  signatureVerifies : Text → Text → Bool
  /-- `gc_update_sha256_handle`. -/
  sha256Hex : FileBytes → Text
  /-- `service_update_host_arch`. -/
  arch : GcUpdateArch

inductive ServiceUpdatePhase where
  | idle | checking | downloading | verifying | ready | installing | failed
  deriving DecidableEq, Repr

inductive GcUpdateInstallRefusal where
  | allowed | noConsent | notVerified | noPackage | busyApplying | busyForeground
  | notInstalledCopy | alreadyRunning
  deriving DecidableEq, Repr

/-- `GcUpdateRuntimeState`; `manifest` is `none` while `manifestValid` is false. -/
structure GcUpdateRuntimeState where
  phase : ServiceUpdatePhase := .idle
  decision : GcUpdateDecision := .rejected
  autoCheck : GcUpdateAutoCheck := .unset
  intervalSeconds : Int := GC_UPDATE_INTERVAL_DEFAULT_SECONDS
  consecutiveFailures : Int := 0
  lastRefusal : GcUpdateInstallRefusal := .allowed
  lastCheckUnix : Int := 0
  manifest : Option GcUpdateManifest := none
  freshness : GcUpdateFreshness := {}
  highestSeenVersion : Text := []
  stagedPath : Text := []
  packageStaged : Bool := false
  packageVerified : Bool := false
  installRunning : Bool := false
  /-- `g_serviceUpdateInstallReserved`. -/
  installReserved : Bool := false
  deriving DecidableEq, Repr

/-- The `[updates]` section of the machine's settings file. -/
structure UpdateSettings where
  autoCheck : Int := 0
  intervalSeconds : Int := GC_UPDATE_INTERVAL_DEFAULT_SECONDS
  consecutiveFailures : Int := 0
  highestSeenVersion : Text := []
  lastCheckHigh : Int := 0
  lastCheckLow : Int := 0
  deriving DecidableEq, Repr

/-- A setup the service started: what it was started on, and what it was. -/
structure UpdateLaunch where
  manifest : GcUpdateManifest
  freshness : GcUpdateFreshness
  decidedAt : Int
  running : Option GcUpdateVersion
  image : FileBytes

/-- What happened so far; no job reads it. -/
structure UpdateHistory where
  /-- The versions advertised by a check that succeeded, newest first. -/
  advertised : List GcUpdateVersion := []
  /-- The checks, newest first: when the result was recorded, and whether it succeeded. -/
  attempts : List (Int × Bool) := []
  launches : List UpdateLaunch := []
  /-- The setups started by the process that runs now. -/
  launchedHere : List UpdateLaunch := []
  /-- The bytes of the staged file, when it was last hashed. -/
  lastHashed : Option FileBytes := none

structure UpdateWorld where
  state : GcUpdateRuntimeState := {}
  settings : UpdateSettings := {}
  /-- The cached document and signature. -/
  cache : Option (Text × Text) := none
  /-- The version of the running build, where it is a release. -/
  running : Option GcUpdateVersion := none
  history : UpdateHistory := {}

namespace UpdateWorld

/-- `service_update_set_phase`. -/
def setPhase (w : UpdateWorld) (phase : ServiceUpdatePhase) : UpdateWorld :=
  { w with state := { w.state with phase } }

/-- The staged file was hashed. -/
def hashed (w : UpdateWorld) (bytes : FileBytes) : UpdateWorld :=
  { w with history := { w.history with lastHashed := some bytes } }

end UpdateWorld

/-! ## Settings -/

/-- `service_update_save_settings`; an empty mark leaves the stored one alone. -/
def serviceUpdateSaveSettings (w : UpdateWorld) : UpdateWorld :=
  let halves := gcUpdateSplitTimestamp w.state.lastCheckUnix
  { w with settings :=
    { autoCheck := w.state.autoCheck.toInt
      intervalSeconds := w.state.intervalSeconds
      consecutiveFailures := w.state.consecutiveFailures
      highestSeenVersion :=
        if w.state.highestSeenVersion ≠ [] then w.state.highestSeenVersion
        else w.settings.highestSeenVersion
      lastCheckHigh := halves.1
      lastCheckLow := halves.2 } }

/-- `service_update_load_settings`. -/
def serviceUpdateLoadSettings (w : UpdateWorld) : UpdateWorld :=
  { w with state := { w.state with
      autoCheck := .ofInt w.settings.autoCheck
      intervalSeconds := gcUpdateClampInterval w.settings.intervalSeconds
      lastCheckUnix := gcUpdateJoinTimestamp w.settings.lastCheckHigh w.settings.lastCheckLow
      consecutiveFailures :=
        if w.settings.consecutiveFailures < 0 then 0 else w.settings.consecutiveFailures
      highestSeenVersion := w.settings.highestSeenVersion } }

/-! ## The staged package -/

/-- `gc_update_staged_file_matches`: length and digest, both against the signed manifest. -/
def gcUpdateStagedFileMatches (host : UpdateHost) (asset : GcUpdateAsset) (bytes : FileBytes) : Bool :=
  decide (bytes.length = asset.size) && decide (host.sha256Hex bytes = asset.sha256)

/-- What re-hashing the staged file meets: the clock, and the bytes behind the handle where the
file could be opened and read. -/
structure StagedRead where
  now : UInt64
  content : Option FileBytes

/-- `service_update_staged_package_matches_manifest`. -/
def serviceUpdateStagedPackageMatchesManifest (host : UpdateHost) (w : UpdateWorld)
    (manifest : GcUpdateManifest) (io : StagedRead) : Bool × UpdateWorld :=
  if !gcUpdateFreshTimeValid w.state.freshness (serviceUpdateNowUnix io.now) then (false, w)
  else
    match gcUpdateSelectAsset manifest host.arch with
    | none => (false, w)
    | some asset =>
      if w.state.stagedPath = [] then (false, w)
      else
        match io.content with
        | none => (false, w)
        | some bytes => (gcUpdateStagedFileMatches host asset bytes, w.hashed bytes)

/-- `service_update_clear_staging`: a sweep that does not get to the directory forgets
nothing. -/
def serviceUpdateClearStaging (w : UpdateWorld) (swept : Bool) : UpdateWorld :=
  if !swept then w
  else { w with state := { w.state with
    stagedPath := [], packageStaged := false, packageVerified := false } }

/-! ## The check -/

/-- What became of the cached documents when a check stored its own. -/
inductive CacheOutcome where
  | kept | stored | torn | cleared

/-- `service_update_cache_store`: the document first, the signature second. -/
def serviceUpdateCacheStore (w : UpdateWorld) (document signature : Text) :
    CacheOutcome → UpdateWorld
  | .kept => w
  | .stored => { w with cache := some (document, signature) }
  | .torn => { w with cache := w.cache.map fun old => (document, old.2) }
  | .cleared => { w with cache := none }

/-- What a check meets: the documents the two requests returned, the clock, and the cache. -/
structure CheckIo where
  fetched : Option (Text × Text)
  now : UInt64
  cacheOutcome : CacheOutcome

/-- What a check does once its documents are authenticated: it holds the release they
advertise, folds its version into the mark, and stores both. -/
def holdRelease (host : UpdateHost) (w : UpdateWorld) (document signature : Text)
    (freshness : GcUpdateFreshness) (manifest : GcUpdateManifest) (outcome : CacheOutcome) :
    UpdateWorld :=
  let raised := gcUpdateChannelNoteVersion w.state.highestSeenVersion manifest.version.text
  let w := { w with
    state := { w.state with
      manifest := some manifest
      freshness
      decision := gcUpdateDecide manifest w.running host.arch
      highestSeenVersion := raised.getD w.state.highestSeenVersion }
    history := { w.history with advertised := manifest.version :: w.history.advertised } }
  (serviceUpdateCacheStore (serviceUpdateSaveSettings w) document signature outcome).setPhase .idle

/-- `service_update_run_check`: whether it completed. -/
def serviceUpdateRunCheck (host : UpdateHost) (w : UpdateWorld) (io : CheckIo) :
    Bool × UpdateWorld :=
  let w := w.setPhase .checking
  match io.fetched with
  | none => (false, w)
  | some (document, signature) =>
    if !host.signatureVerifies document signature then (false, w)
    else
      match readEnvelope document (serviceUpdateNowUnix io.now) with
      | none => (false, w)
      | some (freshness, manifest) =>
        if w.running.isNone then (false, w)
        else (true, holdRelease host w document signature freshness manifest io.cacheOutcome)

/-- `service_update_record_check_result`. -/
def serviceUpdateRecordCheckResult (w : UpdateWorld) (succeeded : Bool) (now : UInt64) :
    UpdateWorld :=
  let failures := w.state.consecutiveFailures
  serviceUpdateSaveSettings { w with
    state := { w.state with
      lastCheckUnix := serviceUpdateNowUnix now
      consecutiveFailures :=
        if succeeded then 0 else if failures < 1000 then failures + 1 else failures }
    history := { w.history with
      attempts := (serviceUpdateNowUnix now, succeeded) :: w.history.attempts } }

/-! ## The download -/

/-- What a download meets: the clock, the staging directory, the sweep before it, and the
bytes of the downloaded file when it was re-opened. -/
structure DownloadIo where
  now : UInt64
  directory : Bool
  swept : Bool
  content : Option FileBytes

/-- `service_update_run_download`. -/
def serviceUpdateRunDownload (host : UpdateHost) (w : UpdateWorld) (io : DownloadIo) :
    Bool × UpdateWorld :=
  if w.state.decision ≠ .available ∨
      !gcUpdateFreshTimeValid w.state.freshness (serviceUpdateNowUnix io.now) then (false, w)
  else
    match w.state.manifest.bind (gcUpdateSelectAsset · host.arch) with
    | none => (false, w)
    | some asset =>
      if !io.directory then (false, w)
      else
        let w := (serviceUpdateClearStaging w io.swept).setPhase .downloading
        match io.content with
        | none => (false, w)
        | some bytes =>
          let w := (w.setPhase .verifying).hashed bytes
          if !gcUpdateStagedFileMatches host asset bytes then (false, w)
          else
            let w := { w with state := { w.state with
              stagedPath := asset.file, packageStaged := true, packageVerified := true } }
            (true, w.setPhase .ready)

/-- `gc_update_download_allowed`. -/
def gcUpdateDownloadAllowed (setting : GcUpdateAutoCheck) (userRequested updateAvailable
    alreadyStaged : Bool) : Bool :=
  if !updateAvailable then false
  else if alreadyStaged then false
  else if userRequested then true
  else setting == .on

/-- `gc_update_failed_check_recovery`: whether the package is kept ready. -/
def gcUpdateFailedCheckRecovery (packageStaged decisionAvailable manifestValid
    stagedPackageMatchesManifest : Bool) : Bool :=
  packageStaged && decisionAvailable && manifestValid && stagedPackageMatchesManifest

/-- `gc_update_staged_check_action`: whether the package is kept. -/
def gcUpdateStagedCheckAction (manifestValid stagedPackageMatchesManifest : Bool) : Bool :=
  manifestValid && stagedPackageMatchesManifest

/-- What a check job meets. -/
structure CheckJobIo where
  userRequested : Bool
  check : CheckIo
  recordedAt : UInt64
  staged : StagedRead
  swept : Bool
  download : DownloadIo

/-- The worker asks whether the staged package still matches the manifest it holds. -/
def recheckStaged (host : UpdateHost) (w : UpdateWorld) (needed : Bool) (io : StagedRead) :
    Bool × UpdateWorld :=
  if !needed then (false, w)
  else
    match w.state.manifest with
    | some manifest => serviceUpdateStagedPackageMatchesManifest host w manifest io
    | none => (false, w)

/-- The worker after a check that failed: a package that still matches stays ready. -/
def afterFailedCheck (host : UpdateHost) (w : UpdateWorld) (io : CheckJobIo) : UpdateWorld :=
  let available := w.state.decision == .available
  let stagedStillVerified := w.state.packageStaged && available
  let recheck := recheckStaged host w stagedStillVerified io.staged
  if gcUpdateFailedCheckRecovery stagedStillVerified available w.state.manifest.isSome recheck.1
  then recheck.2.setPhase .ready
  else recheck.2.setPhase .failed

/-- The worker after a check that completed: whether a package is still staged. -/
def keepStaged (host : UpdateHost) (w : UpdateWorld) (io : CheckJobIo) : Bool × UpdateWorld :=
  if !w.state.packageStaged then (false, w)
  else
    let recheck := recheckStaged host w true io.staged
    if gcUpdateStagedCheckAction w.state.manifest.isSome recheck.1 then
      (true, recheck.2.setPhase .ready)
    else (false, serviceUpdateClearStaging recheck.2 io.swept)

/-- The worker once it knows whether a package is staged. -/
def downloadIfAllowed (host : UpdateHost) (w : UpdateWorld) (staged : Bool) (io : CheckJobIo) :
    UpdateWorld :=
  if gcUpdateDownloadAllowed w.state.autoCheck io.userRequested (w.state.decision == .available)
      staged then
    let download := serviceUpdateRunDownload host w io.download
    if download.1 then download.2 else download.2.setPhase .failed
  else w

/-- `service_update_worker_thread`, of a check. -/
def checkJob (host : UpdateHost) (w : UpdateWorld) (io : CheckJobIo) : UpdateWorld :=
  let check := serviceUpdateRunCheck host w io.check
  let w := serviceUpdateRecordCheckResult check.2 check.1 io.recordedAt
  if !check.1 then afterFailedCheck host w io
  else
    let kept := keepStaged host w io
    downloadIfAllowed host kept.2 kept.1 io

end GreenCurve
