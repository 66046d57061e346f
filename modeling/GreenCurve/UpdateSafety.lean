import GreenCurve.UpdateChannelLaw

/-! # What the update service executes

Over any run: setup is started only on an install request, on bytes that are the asset of a
release that verified, fresh when the start was decided and newer than the running one.  That
rests on the release held alone, since the install re-hashes the file it starts.

The flag `packageVerified` is weaker.  A check that fails re-hashes the staged file and leaves
the flag standing where the file no longer matches, and a sweep that does not reach the staging
directory leaves it standing beside a new release. -/

namespace GreenCurve

open Ini (Text)

/-- The release came out of a document whose signature verified. -/
def Verified (host : UpdateHost) (freshness : GcUpdateFreshness) (m : GcUpdateManifest) : Prop :=
  ∃ document signature t, host.signatureVerifies document signature = true ∧
    readEnvelope document t = some (freshness, m)

/-- **What a start of setup has to rest on.** -/
structure SafeLaunch (host : UpdateHost) (launch : UpdateLaunch) : Prop where
  verified : Verified host launch.freshness launch.manifest
  fresh : gcUpdateFreshTimeValid launch.freshness launch.decidedAt = true
  image : ∃ asset, gcUpdateSelectAsset launch.manifest host.arch = some asset ∧
    launch.image.length = asset.size ∧ host.sha256Hex launch.image = asset.sha256
  newer : ∃ running, launch.running = some running ∧
    gcUpdateVersionCompare launch.manifest.version running > 0 ∧
    gcUpdateMeetsMinimumFrom running launch.manifest.minimumFrom = true

/-- The staged file, when it was last hashed, matched the release now held. -/
def PackageTrue (host : UpdateHost) (w : UpdateWorld) : Prop :=
  w.state.packageVerified = true →
    ∃ m asset bytes, w.state.manifest = some m ∧ gcUpdateSelectAsset m host.arch = some asset ∧
      w.history.lastHashed = some bytes ∧ gcUpdateStagedFileMatches host asset bytes = true

/-! ## The release that is held -/

/-- The release held verified, and the decision is the one it calls for. -/
structure OfferInv (host : UpdateHost) (o : UpdateOffer) : Prop where
  verified : ∀ m, o.manifest = some m → Verified host o.freshness m
  decided : ∀ m, o.manifest = some m → o.decision = gcUpdateDecide m o.running host.arch
  nothing : o.manifest = none → o.decision = .rejected

/-- The result of a check leaves the release alone, and its documents were verified. -/
theorem offerInv_recorded {host : UpdateHost} {w : UpdateWorld} (h : OfferInv host w.offer)
    (io : CheckIo) (succeeded : Bool) (now : UInt64) :
    OfferInv host (serviceUpdateRecordCheckResult (serviceUpdateRunCheck host w io).2 succeeded
      now).offer := by
  rcases serviceUpdateRunCheck_cases host w io with
    heq | ⟨document, signature, freshness, m, -, hverifies, hread, heq⟩
  · rw [heq]
    exact ⟨h.verified, h.decided, h.nothing⟩
  · rw [heq]
    have hheld : OfferInv host
        (holdRelease host (w.setPhase .checking) document signature freshness m
          io.cacheOutcome).offer := by
      unfold holdRelease
      cases io.cacheOutcome <;>
      exact
        { verified := by
            rintro m' hm'
            cases hm'
            exact ⟨document, signature, _, hverifies, hread⟩
          decided := by
            rintro m' hm'
            cases hm'
            rfl
          nothing := fun hnone => nomatch hnone }
    exact ⟨hheld.verified, hheld.decided, hheld.nothing⟩

theorem offerInv_check {host : UpdateHost} {w : UpdateWorld} (h : OfferInv host w.offer)
    (io : CheckJobIo) : OfferInv host (checkJob host w io).offer := by
  rw [checkJob_offer]
  exact offerInv_recorded h io.check _ io.recordedAt

theorem offerInv_restart {host : UpdateHost} (w : UpdateWorld) (io : RestartIo) :
    OfferInv host (restart host w io).offer := by
  unfold restart
  simp only
  generalize hloaded : serviceUpdateLoadSettings _ = loaded
  have hempty : loaded.state.manifest = none ∧ loaded.state.decision = .rejected := by
    rw [← hloaded]
    exact ⟨rfl, rfl⟩
  clear hloaded
  have hbase : OfferInv host loaded.offer :=
    { verified := fun m hm => absurd (hempty.1.symm.trans hm) (by simp)
      decided := fun m hm => absurd (hempty.1.symm.trans hm) (by simp)
      nothing := fun _ => hempty.2 }
  have hdiscard : OfferInv host
      (if io.cacheCleared then { loaded with cache := none } else loaded).offer := by
    split
    · exact ⟨hbase.verified, hbase.decided, hbase.nothing⟩
    · exact hbase
  unfold serviceUpdateRestoreFromCache
  simp only
  split
  · exact hbase
  · rename_i document signature _
    split
    · exact hdiscard
    · rename_i hverifies
      split
      · exact hdiscard
      · rename_i freshness m hread
        have hheld : OfferInv host ({ loaded with state := { loaded.state with
            manifest := some m
            freshness
            decision := gcUpdateDecide m loaded.running host.arch } } : UpdateWorld).offer :=
          { verified := by
              rintro m' hm'
              cases hm'
              exact ⟨document, signature, _, by simpa using hverifies, hread⟩
            decided := by
              rintro m' hm'
              cases hm'
              rfl
            nothing := fun hnone => nomatch hnone }
        split
        · exact hbase
        · split
          · rw [adoptStagedPackage_offer]
            exact hheld
          · rw [clearStaging_offer]
            exact hheld

theorem offerInv_step {host : UpdateHost} {w : UpdateWorld} (h : OfferInv host w.offer)
    (event : UpdateEvent) : OfferInv host (updateStep host w event).offer := by
  cases event with
  | check io => exact offerInv_check h io
  | install io =>
    rw [updateStep, installJob_offer]
    exact h
  | setPolicy autoCheck intervalSeconds => exact ⟨h.verified, h.decided, h.nothing⟩
  | restart io => exact offerInv_restart w io

theorem offerInv_run (host : UpdateHost) (running : Option GcUpdateVersion)
    (events : List UpdateEvent) : OfferInv host (updateRun host running events).offer := by
  induction events using List.reverseRecOn with
  | nil =>
    exact
      { verified := fun m hm => nomatch hm
        decided := fun m hm => nomatch hm
        nothing := fun _ => rfl }
  | append_singleton events event ih =>
    rw [updateRun_snoc]
    exact offerInv_step ih event

/-! ## The setups that were started -/

/-- The setups started so far, in all and by this process. -/
def UpdateWorld.launched (w : UpdateWorld) : List UpdateLaunch × List UpdateLaunch :=
  (w.history.launches, w.history.launchedHere)

section Launched
variable (host : UpdateHost) (w : UpdateWorld)

theorem clearStaging_launched (swept : Bool) :
    (serviceUpdateClearStaging w swept).launched = w.launched := by
  unfold serviceUpdateClearStaging
  split_ifs <;> rfl

theorem stagedMatches_launched (manifest : GcUpdateManifest) (io : StagedRead) :
    (serviceUpdateStagedPackageMatchesManifest host w manifest io).2.launched = w.launched := by
  unfold serviceUpdateStagedPackageMatchesManifest
  repeat' split
  all_goals rfl

theorem recheckStaged_launched (needed : Bool) (io : StagedRead) :
    (recheckStaged host w needed io).2.launched = w.launched := by
  unfold recheckStaged
  split
  · rfl
  · split
    · exact stagedMatches_launched host w _ io
    · rfl

theorem runDownload_launched (io : DownloadIo) :
    (serviceUpdateRunDownload host w io).2.launched = w.launched := by
  have hclear := clearStaging_launched w io.swept
  unfold serviceUpdateRunDownload
  repeat' split
  all_goals first | rfl | exact hclear

theorem runCheck_launched (io : CheckIo) :
    (serviceUpdateRunCheck host w io).2.launched = w.launched := by
  rcases serviceUpdateRunCheck_cases host w io with
    heq | ⟨document, signature, freshness, m, -, -, -, heq⟩
  · rw [heq]
    rfl
  · rw [heq]
    unfold holdRelease
    cases io.cacheOutcome <;> rfl

theorem afterFailedCheck_launched (io : CheckJobIo) :
    (afterFailedCheck host w io).launched = w.launched := by
  unfold afterFailedCheck
  simp only
  split
  · exact recheckStaged_launched host w _ _
  · exact recheckStaged_launched host w _ _

theorem keepStaged_launched (io : CheckJobIo) :
    (keepStaged host w io).2.launched = w.launched := by
  unfold keepStaged
  simp only
  split
  · rfl
  · split
    · exact recheckStaged_launched host w _ _
    · exact (clearStaging_launched _ _).trans (recheckStaged_launched host w _ _)

theorem downloadIfAllowed_launched (staged : Bool) (io : CheckJobIo) :
    (downloadIfAllowed host w staged io).launched = w.launched := by
  unfold downloadIfAllowed
  simp only
  repeat' split
  · exact runDownload_launched host w _
  · exact runDownload_launched host w _
  · rfl

/-- **A check starts nothing.** -/
theorem checkJob_launched (io : CheckJobIo) : (checkJob host w io).launched = w.launched := by
  have hrecord : (serviceUpdateRecordCheckResult (serviceUpdateRunCheck host w io.check).2
      (serviceUpdateRunCheck host w io.check).1 io.recordedAt).launched = w.launched :=
    runCheck_launched host w io.check
  unfold checkJob
  simp only
  split
  · exact (afterFailedCheck_launched host _ io).trans hrecord
  · exact (downloadIfAllowed_launched host _ _ io).trans
      ((keepStaged_launched host _ io).trans hrecord)

theorem restoreFromCache_launched (io : RestartIo) :
    (serviceUpdateRestoreFromCache host w io).launched = w.launched := by
  have hadopt : ∀ (w : UpdateWorld) m,
      (serviceUpdateAdoptStagedPackage host w m io).launched = w.launched := by
    intro w m
    unfold serviceUpdateAdoptStagedPackage
    simp only
    repeat' split
    · rfl
    · rfl
    · exact (clearStaging_launched _ _).trans (stagedMatches_launched host _ m _)
    · exact stagedMatches_launched host _ m _
  unfold serviceUpdateRestoreFromCache
  simp only
  repeat' split
  any_goals rfl
  · exact hadopt _ _
  · exact clearStaging_launched _ _

theorem awaitInstaller_launched (io : InstallIo) : (awaitInstaller w io).2.launched = w.launched := by
  unfold awaitInstaller
  split
  · exact clearStaging_launched _ _
  all_goals rfl

end Launched

/-- The gate asks for everything at once. -/
theorem gcUpdateInstallDecision_eq_allowed {gate : GcUpdateInstallGate} :
    gcUpdateInstallDecision gate = .allowed ↔
      gate.userConsented = true ∧ gate.installAlreadyRunning = false ∧ gate.packageStaged = true ∧
        gate.packageVerified = true ∧ gate.updateAvailable = true ∧ gate.isInstalledCopy = true ∧
        gate.applyInFlight = false ∧ gate.foregroundAppActive = false := by
  unfold gcUpdateInstallDecision
  split_ifs <;> simp_all

theorem launchVerified_launched (w : UpdateWorld) (manifest : GcUpdateManifest) (image : FileBytes)
    (io : InstallIo) :
    (launchVerified w manifest image io).2.launched = w.launched ∨
      (gcUpdateFreshTimeValid w.state.freshness (serviceUpdateNowUnix io.launchNow) = true ∧
        (launchVerified w manifest image io).2.launched =
          (launchSetup w manifest image (serviceUpdateNowUnix io.launchNow)).launched) := by
  unfold launchVerified
  simp only
  split_ifs with hreserved hcommand hfresh hwindows hproved hcreated
  any_goals exact .inl rfl
  refine .inr ⟨?_, awaitInstaller_launched _ io⟩
  rw [Bool.not_eq_true, Bool.not_eq_false'] at hfresh
  exact hfresh

/-- **What an install can start**: nothing, or the file of the release held, which it hashed,
once, while that release is available and fresh. -/
theorem installJob_launched (host : UpdateHost) (w : UpdateWorld) (io : InstallIo) :
    (installJob host w io).launched = w.launched ∨
    ∃ manifest asset image, w.state.manifest = some manifest ∧
      gcUpdateSelectAsset manifest host.arch = some asset ∧
      gcUpdateStagedFileMatches host asset image = true ∧ w.state.decision = .available ∧
      gcUpdateFreshTimeValid w.state.freshness (serviceUpdateNowUnix io.launchNow) = true ∧
      (installJob host w io).launched =
        (launchSetup w manifest image (serviceUpdateNowUnix io.launchNow)).launched := by
  have hphase : (installJob host w io).launched = (serviceUpdateRunInstall host w io).2.launched := by
    unfold installJob
    simp only
    split <;> rfl
  rw [hphase]
  unfold serviceUpdateRunInstall
  simp only
  split
  · exact .inl rfl
  · rename_i hallowed
    obtain ⟨-, -, -, -, havailable, -⟩ := gcUpdateInstallDecision_eq_allowed.mp (not_not.mp hallowed)
    simp only [Bool.and_eq_true, beq_iff_eq] at havailable
    split
    · exact .inl rfl
    · split
      · exact .inl rfl
      · rename_i pinned _
        split
        · exact .inl rfl
        · rename_i manifest hmanifest
          split
          · exact .inl rfl
          · rename_i asset hasset
            split
            · exact .inl rfl
            · split
              · exact .inl rfl
              · rename_i image _
                split
                · exact .inl rfl
                · rename_i himage
                  rw [Bool.not_eq_true, Bool.not_eq_false'] at himage
                  rcases launchVerified_launched _ manifest image io with h | ⟨hfresh, h⟩
                  · exact .inl h
                  · exact .inr ⟨manifest, asset, image, hmanifest, hasset, himage, havailable.1,
                      hfresh, h⟩

/-- Every setup started so far was safe to start, and those of this process were started by the
build that runs now. -/
structure LaunchInv (host : UpdateHost) (w : UpdateWorld) : Prop where
  safe : ∀ launch ∈ w.history.launches, SafeLaunch host launch
  here : ∀ launch ∈ w.history.launchedHere, SafeLaunch host launch ∧ launch.running = w.running

theorem LaunchInv.congr {host : UpdateHost} {w w' : UpdateWorld} (h : LaunchInv host w)
    (hlaunched : w'.launched = w.launched) (hrunning : w'.running = w.running) :
    LaunchInv host w' := by
  obtain ⟨hall, hhere⟩ := Prod.ext_iff.mp hlaunched
  have hall : w'.history.launches = w.history.launches := hall
  have hhere : w'.history.launchedHere = w.history.launchedHere := hhere
  refine ⟨hall ▸ h.safe, ?_⟩
  rw [hhere, hrunning]
  exact h.here

/-- The file of an available release is safe to start while the release is fresh. -/
theorem safeLaunch_of_held {host : UpdateHost} {w : UpdateWorld} (h : OfferInv host w.offer)
    {manifest : GcUpdateManifest} {asset : GcUpdateAsset} {image : FileBytes} {now : Int}
    (hmanifest : w.state.manifest = some manifest)
    (hasset : gcUpdateSelectAsset manifest host.arch = some asset)
    (himage : gcUpdateStagedFileMatches host asset image = true)
    (havailable : w.state.decision = .available)
    (hfresh : gcUpdateFreshTimeValid w.state.freshness now = true) :
    SafeLaunch host
      { manifest, freshness := w.state.freshness, decidedAt := now, running := w.running, image } := by
  have hdecided : w.state.decision = gcUpdateDecide manifest w.running host.arch :=
    h.decided manifest hmanifest
  obtain ⟨running, hrunning, hrank, -, hfloor⟩ :=
    gcUpdateDecide_eq_available.mp (hdecided.symm.trans havailable)
  rw [gcUpdateStagedFileMatches, Bool.and_eq_true, decide_eq_true_eq, decide_eq_true_eq] at himage
  exact
    { verified := h.verified manifest hmanifest
      fresh := hfresh
      image := ⟨asset, hasset, himage.1, himage.2⟩
      newer := ⟨running, hrunning, GcUpdateVersion.compare_pos_iff.mpr hrank, hfloor⟩ }

/-- A check runs on the build it found. -/
theorem checkJob_running (host : UpdateHost) (w : UpdateWorld) (io : CheckJobIo) :
    (checkJob host w io).running = w.running := by
  have hrunning := congrArg UpdateOffer.running (checkJob_offer host w io)
  rcases serviceUpdateRunCheck_cases host w io.check with
    heq | ⟨document, signature, freshness, m, -, -, -, heq⟩
  · rw [heq] at hrunning
    exact hrunning
  · rw [heq] at hrunning
    refine hrunning.trans ?_
    unfold holdRelease
    cases io.check.cacheOutcome <;> rfl

/-- A new process has started no setup. -/
theorem restart_launched (host : UpdateHost) (w : UpdateWorld) (io : RestartIo) :
    (restart host w io).launched = (w.history.launches, []) :=
  restoreFromCache_launched host _ io

theorem restoreFromCache_running (host : UpdateHost) (w : UpdateWorld) (io : RestartIo) :
    (serviceUpdateRestoreFromCache host w io).running = w.running := by
  unfold serviceUpdateRestoreFromCache
  simp only
  repeat' split
  any_goals rfl
  · exact congrArg UpdateOffer.running (adoptStagedPackage_offer host _ _ io)
  · exact congrArg UpdateOffer.running (clearStaging_offer _ _)

theorem restart_running (host : UpdateHost) (w : UpdateWorld) (io : RestartIo) :
    (restart host w io).running = restartedBuild w io.left :=
  restoreFromCache_running host _ io

theorem launchInv_step {host : UpdateHost} {w : UpdateWorld} (h : LaunchInv host w)
    (hoffer : OfferInv host w.offer) (event : UpdateEvent) :
    LaunchInv host (updateStep host w event) := by
  cases event with
  | check io =>
    exact h.congr (checkJob_launched host w io) (checkJob_running host w io)
  | install io =>
    have hrunning : (installJob host w io).running = w.running :=
      congrArg UpdateOffer.running (installJob_offer host w io)
    rcases installJob_launched host w io with
      heq | ⟨manifest, asset, image, hmanifest, hasset, himage, havailable, hfresh, heq⟩
    · exact h.congr heq hrunning
    · have hsafe := safeLaunch_of_held hoffer hmanifest hasset himage havailable hfresh
      have hbase : LaunchInv host
          (launchSetup w manifest image (serviceUpdateNowUnix io.launchNow)) :=
        { safe := List.forall_mem_cons.mpr ⟨hsafe, h.safe⟩
          here := List.forall_mem_cons.mpr ⟨⟨hsafe, rfl⟩, h.here⟩ }
      exact hbase.congr heq hrunning
  | setPolicy autoCheck intervalSeconds => exact h.congr rfl rfl
  | restart io =>
    obtain ⟨hall, hhere⟩ := Prod.ext_iff.mp (restart_launched host w io)
    have hall : (restart host w io).history.launches = w.history.launches := hall
    have hhere : (restart host w io).history.launchedHere = [] := hhere
    refine ⟨fun launch hlaunch => h.safe launch (hall ▸ hlaunch), fun launch hlaunch => ?_⟩
    rw [updateStep, hhere] at hlaunch
    cases hlaunch

theorem launchInv_run (host : UpdateHost) (running : Option GcUpdateVersion)
    (events : List UpdateEvent) : LaunchInv host (updateRun host running events) := by
  induction events using List.reverseRecOn with
  | nil =>
    exact
      { safe := fun launch hlaunch => nomatch hlaunch
        here := fun launch hlaunch => nomatch hlaunch }
  | append_singleton events event ih =>
    rw [updateRun_snoc]
    exact launchInv_step ih (offerInv_run host running events) event

/-! ## Requests and versions -/

def UpdateEvent.isInstall : UpdateEvent → Bool
  | .install _ => true
  | _ => false

theorem launches_step (host : UpdateHost) (w : UpdateWorld) (event : UpdateEvent) :
    (updateStep host w event).history.launches.length ≤
      w.history.launches.length + if event.isInstall then 1 else 0 := by
  cases event with
  | check io =>
    exact (congrArg (fun l => l.1.length) (checkJob_launched host w io)).le
  | install io =>
    rcases installJob_launched host w io with h | ⟨_, _, _, -, -, -, -, -, h⟩
    · exact (congrArg (fun l => l.1.length) h).le.trans (Nat.le_succ _)
    · exact (congrArg (fun l => l.1.length) h).le
  | setPolicy autoCheck intervalSeconds => exact le_rfl
  | restart io =>
    exact (congrArg (fun l => l.1.length) (restart_launched host w io)).le

/-- **Each start of setup was asked for.** -/
theorem launches_le_requests (host : UpdateHost) (running : Option GcUpdateVersion)
    (events : List UpdateEvent) : (updateRun host running events).history.launches.length ≤
      events.countP UpdateEvent.isInstall := by
  induction events using List.reverseRecOn with
  | nil => exact Nat.zero_le _
  | append_singleton events event ih =>
    have hstep := launches_step host (updateRun host running events) event
    rw [updateRun_snoc, List.countP_append, List.countP_singleton]
    omega

/-- The running build is the same or newer. -/
def NotOlder (running running' : Option GcUpdateVersion) : Prop :=
  ∀ v ∈ running, ∃ v' ∈ running', gcUpdateVersionCompare v' v ≥ 0

theorem notOlder_refl (running : Option GcUpdateVersion) : NotOlder running running := by
  intro v hv
  refine ⟨v, hv, ?_⟩
  rw [ge_iff_le, ← not_lt, GcUpdateVersion.compare_neg_iff]
  exact lt_irrefl _

theorem NotOlder.trans {a b c : Option GcUpdateVersion} (hab : NotOlder a b) (hbc : NotOlder b c) :
    NotOlder a c := by
  intro u hu
  obtain ⟨v, hv, huv⟩ := hab u hu
  obtain ⟨w, hw, hvw⟩ := hbc v hv
  refine ⟨w, hw, ?_⟩
  rw [ge_iff_le, ← not_lt, GcUpdateVersion.compare_neg_iff, not_lt] at *
  exact huv.trans hvw

/-- A step runs on the same build, or on one a setup of this process left. -/
theorem notOlder_step {host : UpdateHost} {w : UpdateWorld} (h : LaunchInv host w)
    (event : UpdateEvent) : NotOlder w.running (updateStep host w event).running := by
  cases event with
  | check io =>
    rw [updateStep, checkJob_running]
    exact notOlder_refl _
  | install io =>
    have hrunning : (installJob host w io).running = w.running :=
      congrArg UpdateOffer.running (installJob_offer host w io)
    rw [updateStep, hrunning]
    exact notOlder_refl _
  | setPolicy autoCheck intervalSeconds => exact notOlder_refl _
  | restart io =>
    rw [updateStep, restart_running]
    unfold restartedBuild
    split
    · rename_i version _
      split
      · rename_i hmem
        intro v hv
        obtain ⟨launch, hlaunch, rfl⟩ := List.mem_map.mp hmem
        obtain ⟨hsafe, hrunning⟩ := h.here launch hlaunch
        obtain ⟨running, hsome, hnewer, -⟩ := hsafe.newer
        obtain rfl : running = v := Option.some.inj ((hsome.symm.trans hrunning).trans hv)
        exact ⟨_, rfl, hnewer.le⟩
      · exact notOlder_refl _
    · exact notOlder_refl _

end GreenCurve
