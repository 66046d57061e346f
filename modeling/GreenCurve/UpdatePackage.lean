import GreenCurve.UpdateSafety

/-! # The flag of the staged package

`packageVerified` is the truth about the release held as long as two things are so: a check
that fails and re-hashes the staged file finds it unchanged, and a check that completes and
does not keep the staged package gets to sweep it away.  Neither is guaranteed. -/

namespace GreenCurve

open Ini (Text)

/-- The check completes, and this is the release it finds. -/
def CheckFinds (host : UpdateHost) (w : UpdateWorld) (io : CheckIo)
    (freshness : GcUpdateFreshness) (m : GcUpdateManifest) : Prop :=
  w.running.isSome ∧ ∃ document signature, io.fetched = some (document, signature) ∧
    host.signatureVerifies document signature = true ∧
    readEnvelope document (serviceUpdateNowUnix io.now) = some (freshness, m)

/-- The staged file is the asset of the release, which is still fresh. -/
def StillMatches (host : UpdateHost) (freshness : GcUpdateFreshness) (m : GcUpdateManifest)
    (io : StagedRead) : Prop :=
  gcUpdateFreshTimeValid freshness (serviceUpdateNowUnix io.now) = true ∧
    ∃ asset bytes, gcUpdateSelectAsset m host.arch = some asset ∧ io.content = some bytes ∧
      gcUpdateStagedFileMatches host asset bytes = true

/-- The staged file is not re-hashed as something else. -/
def NotReplaced (host : UpdateHost) (w : UpdateWorld) (io : StagedRead) : Prop :=
  ∀ m asset bytes, w.state.packageStaged = true → w.state.manifest = some m →
    gcUpdateFreshTimeValid w.state.freshness (serviceUpdateNowUnix io.now) = true →
    gcUpdateSelectAsset m host.arch = some asset → io.content = some bytes →
    gcUpdateStagedFileMatches host asset bytes = true

/-- **Where a step keeps the flag of the package true.** -/
def KeepsPackage (host : UpdateHost) (w : UpdateWorld) : UpdateEvent → Prop
  | .check io =>
    (∀ freshness m, CheckFinds host w io.check freshness m → w.state.packageStaged = true →
      StillMatches host freshness m io.staged ∨ io.swept = true) ∧
    ((∀ freshness m, ¬CheckFinds host w io.check freshness m) → w.state.decision = .available →
      NotReplaced host w io.staged)
  | _ => True

/-- The state of the staged package. -/
structure PackageInv (host : UpdateHost) (w : UpdateWorld) : Prop where
  flags : w.state.packageVerified = w.state.packageStaged
  path : w.state.packageStaged = true → w.state.stagedPath ≠ []
  truth : PackageTrue host w

/-- Nothing is staged. -/
def PackageOff (w : UpdateWorld) : Prop :=
  w.state.packageStaged = false ∧ w.state.packageVerified = false

theorem PackageOff.packageInv {host : UpdateHost} {w : UpdateWorld} (h : PackageOff w) :
    PackageInv host w where
  flags := h.2.trans h.1.symm
  path := fun hstaged => absurd (h.1.symm.trans hstaged) (by decide)
  truth := fun hverified => absurd (h.2.symm.trans hverified) (by decide)

/-- An asset of a release that verified has a name. -/
theorem file_ne_nil_of_verified {host : UpdateHost} {freshness : GcUpdateFreshness}
    {m : GcUpdateManifest} (h : Verified host freshness m) {arch : GcUpdateArch}
    {asset : GcUpdateAsset} (hasset : gcUpdateSelectAsset m arch = some asset) : asset.file ≠ [] := by
  obtain ⟨document, signature, t, -, hread⟩ := h
  obtain ⟨payload, -, -, -, hparse⟩ := readEnvelope_eq_some.mp hread
  obtain ⟨-, entries, -, hagrees⟩ := gcUpdateManifestParse_eq_ok.mp hparse
  have hname : ∀ arch, asset.file = Tools.assetName m.version.text (gcUpdateArchName arch) →
      asset.file ≠ [] := by
    intro arch heq hnil
    have hlen := length_assetName m.version.text (gcUpdateArchName arch)
    rw [← heq, hnil] at hlen
    simp only [List.length_nil] at hlen
    omega
  cases arch with
  | unknown => cases hasset
  | x64 =>
    have hx64 := hagrees.x64
    rw [show m.x64 = some asset from hasset] at hx64
    exact hname .x64 hx64.name
  | arm64 =>
    have harm64 := hagrees.arm64
    rw [show m.arm64 = some asset from hasset] at harm64
    exact hname .arm64 harm64.name

/-! ## The jobs -/

section Jobs
variable {host : UpdateHost} {w : UpdateWorld}

/-- What a re-hash of the staged file can find. -/
theorem stagedMatches_cases (manifest : GcUpdateManifest) (io : StagedRead) :
    serviceUpdateStagedPackageMatchesManifest host w manifest io = (false, w) ∨
    ∃ asset bytes, gcUpdateFreshTimeValid w.state.freshness (serviceUpdateNowUnix io.now) = true ∧
      gcUpdateSelectAsset manifest host.arch = some asset ∧ io.content = some bytes ∧
      serviceUpdateStagedPackageMatchesManifest host w manifest io =
        (gcUpdateStagedFileMatches host asset bytes, w.hashed bytes) := by
  unfold serviceUpdateStagedPackageMatchesManifest
  split
  · exact .inl rfl
  · rename_i hfresh
    rw [Bool.not_eq_true, Bool.not_eq_false'] at hfresh
    split
    · exact .inl rfl
    · rename_i asset hasset
      split
      · exact .inl rfl
      · split
        · exact .inl rfl
        · rename_i bytes hbytes
          exact .inr ⟨asset, bytes, hfresh, hasset, hbytes, rfl⟩

/-- A file that still matches is found to. -/
theorem stagedMatches_of_stillMatches {manifest : GcUpdateManifest} {io : StagedRead}
    (hpath : w.state.stagedPath ≠ []) (h : StillMatches host w.state.freshness manifest io) :
    (serviceUpdateStagedPackageMatchesManifest host w manifest io).1 = true := by
  obtain ⟨hfresh, asset, bytes, hasset, hbytes, hmatches⟩ := h
  unfold serviceUpdateStagedPackageMatchesManifest
  rw [hfresh, Bool.not_true, if_neg Bool.false_ne_true, hasset]
  simp only
  rw [if_neg hpath, hbytes]
  exact hmatches

theorem clearStaging_off {w : UpdateWorld} : PackageOff (serviceUpdateClearStaging w true) :=
  ⟨rfl, rfl⟩

theorem PackageInv.clearStaging (h : PackageInv host w) (swept : Bool) :
    PackageInv host (serviceUpdateClearStaging w swept) := by
  cases swept with
  | true => exact clearStaging_off.packageInv
  | false => exact h

theorem PackageOff.clearStaging (h : PackageOff w) (swept : Bool) :
    PackageOff (serviceUpdateClearStaging w swept) := by
  cases swept with
  | true => exact clearStaging_off
  | false => exact h

/-- Hashing the file of the release held keeps the flag true. -/
theorem PackageInv.hashed (h : PackageInv host w) {m : GcUpdateManifest} {asset : GcUpdateAsset}
    {bytes : FileBytes} (hm : w.state.manifest = some m)
    (hasset : gcUpdateSelectAsset m host.arch = some asset)
    (hmatches : gcUpdateStagedFileMatches host asset bytes = true) :
    PackageInv host (w.hashed bytes) where
  flags := h.flags
  path := h.path
  truth := fun _ => ⟨m, asset, bytes, hm, hasset, rfl, hmatches⟩

theorem PackageInv.setPhase (h : PackageInv host w) (phase : ServiceUpdatePhase) :
    PackageInv host (w.setPhase phase) := ⟨h.flags, h.path, h.truth⟩

/-- A failed check keeps the flag true where the staged file was not replaced. -/
theorem packageInv_afterFailedCheck (h : PackageInv host w) {io : CheckJobIo}
    (hfile : w.state.decision = .available → NotReplaced host w io.staged) :
    PackageInv host (afterFailedCheck host w io) := by
  have hrecheck : PackageInv host (recheckStaged host w
      (w.state.packageStaged && (w.state.decision == .available)) io.staged).2 := by
    unfold recheckStaged
    split
    · exact h
    · rename_i hneeded
      simp only [Bool.not_eq_true', Bool.not_eq_false, Bool.and_eq_true, beq_iff_eq] at hneeded
      split
      · rename_i m hm
        rcases stagedMatches_cases m io.staged with heq | ⟨asset, bytes, hfresh, hasset, hbytes, heq⟩
        · rw [heq]
          exact h
        · rw [heq]
          exact h.hashed hm hasset
            (hfile hneeded.2 m asset bytes hneeded.1 hm hfresh hasset hbytes)
      · exact h
  unfold afterFailedCheck
  simp only
  split
  · exact hrecheck.setPhase _
  · exact hrecheck.setPhase _

/-- A download stages nothing, or the file it hashed. -/
theorem packageInv_runDownload (h : PackageOff w)
    (hverified : ∀ m, w.state.manifest = some m → Verified host w.state.freshness m)
    (io : DownloadIo) : PackageInv host (serviceUpdateRunDownload host w io).2 := by
  have hclear : PackageOff (serviceUpdateClearStaging w io.swept) := h.clearStaging io.swept
  have hmanifest : (serviceUpdateClearStaging w io.swept).state.manifest = w.state.manifest :=
    congrArg UpdateOffer.manifest (clearStaging_offer w io.swept)
  unfold serviceUpdateRunDownload
  split
  · exact h.packageInv
  · split
    · exact h.packageInv
    · rename_i asset hasset
      obtain ⟨m, hm, hasset⟩ := Option.bind_eq_some_iff.mp hasset
      split
      · exact h.packageInv
      · simp only
        split
        · exact (hclear.packageInv).setPhase _
        · rename_i bytes _
          split
          · have hoff : PackageOff ((((serviceUpdateClearStaging w io.swept).setPhase
                .downloading).setPhase .verifying).hashed bytes) := hclear
            exact hoff.packageInv
          · rename_i hmatches
            rw [Bool.not_eq_true, Bool.not_eq_false'] at hmatches
            exact
              { flags := rfl
                path := fun _ => file_ne_nil_of_verified (hverified m hm) hasset
                truth := fun _ => ⟨m, asset, bytes, hmanifest.trans hm, hasset, rfl, hmatches⟩ }

/-- A check that completed keeps a package that matches the new release, or sweeps it. -/
theorem keepStaged_cases (hflags : w.state.packageVerified = w.state.packageStaged)
    (hpath : w.state.packageStaged = true → w.state.stagedPath ≠ []) {m : GcUpdateManifest}
    (hm : w.state.manifest = some m) {io : CheckJobIo}
    (hkeeps : w.state.packageStaged = true →
      StillMatches host w.state.freshness m io.staged ∨ io.swept = true) :
    ((keepStaged host w io).1 = true ∧ PackageInv host (keepStaged host w io).2) ∨
      ((keepStaged host w io).1 = false ∧ PackageOff (keepStaged host w io).2) := by
  unfold keepStaged
  by_cases hstaged : w.state.packageStaged = true
  swap
  · rw [Bool.not_eq_true] at hstaged
    rw [hstaged, Bool.not_false, if_pos rfl]
    exact .inr ⟨rfl, hstaged, hflags.trans hstaged⟩
  rw [hstaged, Bool.not_true, if_neg Bool.false_ne_true]
  have hrecheck : recheckStaged host w true io.staged =
      serviceUpdateStagedPackageMatchesManifest host w m io.staged := by
    unfold recheckStaged
    rw [Bool.not_true, if_neg Bool.false_ne_true, hm]
  simp only [hrecheck, gcUpdateStagedCheckAction, hm, Option.isSome_some, Bool.true_and]
  by_cases hmatches : (serviceUpdateStagedPackageMatchesManifest host w m io.staged).1 = true
  · rw [if_pos hmatches]
    refine .inl ⟨rfl, PackageInv.setPhase ?_ _⟩
    rcases stagedMatches_cases m io.staged with heq | ⟨asset, bytes, -, hasset, -, heq⟩
    · rw [heq] at hmatches
      cases hmatches
    · rw [heq] at hmatches ⊢
      exact
        { flags := hflags
          path := hpath
          truth := fun _ => ⟨m, asset, bytes, hm, hasset, rfl, hmatches⟩ }
  · rw [if_neg hmatches]
    have hswept : io.swept = true := by
      refine (hkeeps hstaged).resolve_left fun hstill => hmatches ?_
      exact stagedMatches_of_stillMatches (hpath hstaged) hstill
    rw [hswept]
    exact .inr ⟨rfl, clearStaging_off⟩

/-- The documents of a check decide whether it completes; neither way does it touch the
staged package. -/
theorem runCheck_package (host : UpdateHost) (w : UpdateWorld) (io : CheckIo) :
    ((∀ freshness m, ¬CheckFinds host w io freshness m) ∧
      serviceUpdateRunCheck host w io = (false, w.setPhase .checking)) ∨
    ∃ freshness m, CheckFinds host w io freshness m ∧ (serviceUpdateRunCheck host w io).1 = true ∧
      (serviceUpdateRunCheck host w io).2.state.manifest = some m ∧
      (serviceUpdateRunCheck host w io).2.state.freshness = freshness ∧
      (serviceUpdateRunCheck host w io).2.state.packageStaged = w.state.packageStaged ∧
      (serviceUpdateRunCheck host w io).2.state.packageVerified = w.state.packageVerified ∧
      (serviceUpdateRunCheck host w io).2.state.stagedPath = w.state.stagedPath := by
  unfold serviceUpdateRunCheck CheckFinds
  simp only
  split
  · rename_i hfetched
    refine .inl ⟨?_, rfl⟩
    rintro freshness m ⟨-, document, signature, hsome, -⟩
    cases hfetched.symm.trans hsome
  · rename_i document signature hfetched
    split
    · rename_i hrefused
      refine .inl ⟨?_, rfl⟩
      rintro freshness m ⟨-, document', signature', hsome, hverifies, -⟩
      cases hfetched.symm.trans hsome
      rw [hverifies] at hrefused
      cases hrefused
    · rename_i hverifies
      split
      · rename_i hnone
        refine .inl ⟨?_, rfl⟩
        rintro freshness m ⟨-, document', signature', hsome, -, hread⟩
        cases hfetched.symm.trans hsome
        cases hnone.symm.trans hread
      · rename_i freshness m hread
        split
        · rename_i hrunning
          have hrunning : w.running.isNone = true := hrunning
          refine .inl ⟨?_, rfl⟩
          rintro freshness m ⟨hsome, -⟩
          rw [Option.isNone_iff_eq_none.mp hrunning] at hsome
          cases hsome
        · rename_i hrunning
          have hrunning : ¬w.running.isNone = true := hrunning
          refine .inr ⟨freshness, m, ⟨?_, document, signature, hfetched, by simpa using hverifies,
            hread⟩, rfl, ?_⟩
          · exact Option.isSome_iff_ne_none.mpr fun h => hrunning (Option.isNone_iff_eq_none.mpr h)
          · unfold holdRelease
            cases io.cacheOutcome <;> exact ⟨rfl, rfl, rfl, rfl, rfl⟩

/-- The worker behind a check that completed. -/
theorem packageInv_afterCheck (hoffer : OfferInv host w.offer)
    (hflags : w.state.packageVerified = w.state.packageStaged)
    (hpath : w.state.packageStaged = true → w.state.stagedPath ≠ []) {m : GcUpdateManifest}
    (hm : w.state.manifest = some m) {io : CheckJobIo}
    (hkeeps : w.state.packageStaged = true →
      StillMatches host w.state.freshness m io.staged ∨ io.swept = true) :
    PackageInv host (downloadIfAllowed host (keepStaged host w io).2 (keepStaged host w io).1 io) := by
  have hkept := keepStaged_offer host w io
  rcases keepStaged_cases hflags hpath hm hkeeps with ⟨hstaged, hinv⟩ | ⟨-, hoff⟩
  · have hdone : ∀ setting userRequested available,
        gcUpdateDownloadAllowed setting userRequested available true = false := by
      intro setting userRequested available
      cases available <;> rfl
    unfold downloadIfAllowed
    rw [hstaged, hdone, if_neg Bool.false_ne_true]
    exact hinv
  · have hdownload : PackageInv host
        (serviceUpdateRunDownload host (keepStaged host w io).2 io.download).2 :=
      packageInv_runDownload hoff (hkept ▸ hoffer).verified io.download
    unfold downloadIfAllowed
    simp only
    split
    · split
      · exact hdownload
      · exact hdownload.setPhase _
    · exact hoff.packageInv

/-- A check keeps the flag true where its condition holds. -/
theorem packageInv_check (h : PackageInv host w) (hoffer : OfferInv host w.offer) {io : CheckJobIo}
    (hkeeps : KeepsPackage host w (.check io)) : PackageInv host (checkJob host w io) := by
  have hrecorded := offerInv_recorded hoffer io.check (serviceUpdateRunCheck host w io.check).1
    io.recordedAt
  unfold checkJob
  simp only
  rcases runCheck_package host w io.check with
    ⟨hfails, heq⟩ | ⟨freshness, m, hfinds, hok, hm, hfreshness, hstaged, hverified, hpath⟩
  · rw [heq, Bool.not_false, if_pos rfl]
    have hbase : PackageInv host
        (serviceUpdateRecordCheckResult (w.setPhase .checking) false io.recordedAt) :=
      ⟨h.flags, h.path, h.truth⟩
    exact packageInv_afterFailedCheck hbase fun havailable => hkeeps.2 hfails havailable
  · rw [hok] at hrecorded
    rw [hok, Bool.not_true, if_neg Bool.false_ne_true]
    exact packageInv_afterCheck hrecorded ((hverified.trans h.flags).trans hstaged.symm)
      (fun hs => hpath ▸ h.path (hstaged.symm.trans hs)) hm
      (fun hs => hfreshness ▸ hkeeps.1 freshness m hfinds (hstaged.symm.trans hs))

theorem packageInv_awaitInstaller (h : PackageInv host w) (io : InstallIo) :
    PackageInv host (awaitInstaller w io).2 := by
  unfold awaitInstaller
  split
  · have hdone : PackageInv host { w with state := { w.state with installRunning := false } } :=
      ⟨h.flags, h.path, h.truth⟩
    exact (hdone.clearStaging io.swept).setPhase _
  all_goals exact ⟨h.flags, h.path, h.truth⟩

theorem packageInv_launchVerified (h : PackageInv host w) (manifest : GcUpdateManifest)
    (image : FileBytes) (io : InstallIo) : PackageInv host (launchVerified w manifest image io).2 := by
  unfold launchVerified
  simp only
  split_ifs
  rotate_left 6
  · refine packageInv_awaitInstaller ?_ io
    exact ⟨h.flags, h.path, h.truth⟩
  all_goals exact ⟨h.flags, h.path, h.truth⟩

/-- An install clears the flag, or hashed the file of the release held. -/
theorem packageInv_runInstall (h : PackageInv host w) (io : InstallIo) :
    PackageInv host (serviceUpdateRunInstall host w io).2 := by
  -- the refusal is recorded first, whatever it is
  have hrefusal : ∀ refusal, PackageInv host
      { w with state := { w.state with lastRefusal := refusal } } :=
    fun _ => ⟨h.flags, h.path, h.truth⟩
  unfold serviceUpdateRunInstall
  simp only
  split
  · exact hrefusal _
  · split
    · exact hrefusal _
    · split
      · exact hrefusal _
      · split
        · exact PackageOff.packageInv ⟨rfl, rfl⟩
        · rename_i manifest hmanifest
          split
          · exact PackageOff.packageInv ⟨rfl, rfl⟩
          · rename_i asset hasset
            split
            · exact PackageOff.packageInv ⟨rfl, rfl⟩
            · rename_i hmatches
              rw [Bool.not_eq_true, Bool.not_eq_false'] at hmatches
              have hhashed := fun refusal => (hrefusal refusal).hashed hmanifest hasset hmatches
              split
              · exact hhashed _
              · split
                · exact hhashed _
                · exact packageInv_launchVerified (hhashed _) manifest _ io

/-- Adopting a package stages nothing, or the file it hashed. -/
theorem packageInv_adopt (h : PackageOff w) {manifest : GcUpdateManifest}
    (hmanifest : w.state.manifest = some manifest)
    (hverified : Verified host w.state.freshness manifest) (io : RestartIo) :
    PackageInv host (serviceUpdateAdoptStagedPackage host w manifest io) := by
  unfold serviceUpdateAdoptStagedPackage
  split
  · exact h.packageInv
  · rename_i asset hasset
    split
    · exact h.packageInv
    · simp only
      have hnamed : PackageOff { w with state := { w.state with stagedPath := asset.file } } := h
      have hmatches := @stagedMatches_cases host { w with state := { w.state with stagedPath := asset.file } }
        manifest io.staged
      rcases hmatches with
        heq | ⟨asset', bytes, -, hasset', -, heq⟩
      · rw [heq]
        exact (hnamed.clearStaging io.swept).packageInv
      · rw [heq]
        split
        · exact PackageOff.packageInv (PackageOff.clearStaging (by exact hnamed) io.swept)
        · rename_i hmatches
          rw [Bool.not_eq_true, Bool.not_eq_false'] at hmatches
          exact
            { flags := rfl
              path := fun _ => file_ne_nil_of_verified hverified hasset
              truth := fun _ => ⟨manifest, asset', bytes, hmanifest, hasset', rfl, hmatches⟩ }

/-- A new process adopts only a package it hashed. -/
theorem packageInv_restart (w : UpdateWorld) (io : RestartIo) :
    PackageInv host (restart host w io) := by
  unfold restart
  simp only
  generalize hloaded : serviceUpdateLoadSettings _ = loaded
  have hoff : PackageOff loaded := by
    rw [← hloaded]
    exact ⟨rfl, rfl⟩
  clear hloaded
  have hdiscard : PackageInv host
      (if io.cacheCleared then { loaded with cache := none } else loaded) := by
    split
    · exact PackageOff.packageInv ⟨hoff.1, hoff.2⟩
    · exact hoff.packageInv
  unfold serviceUpdateRestoreFromCache
  simp only
  split
  · exact hoff.packageInv
  · rename_i document signature _
    split
    · exact hdiscard
    · rename_i hverifies
      split
      · exact hdiscard
      · rename_i freshness manifest hread
        split
        · exact hoff.packageInv
        · split
          · have hverified : Verified host freshness manifest :=
              ⟨document, signature, _, by simpa using hverifies, hread⟩
            refine packageInv_adopt ?_ rfl hverified io
            exact hoff
          · refine PackageOff.packageInv (PackageOff.clearStaging ?_ io.swept)
            exact hoff

end Jobs

theorem packageInv_step {host : UpdateHost} {w : UpdateWorld} (h : PackageInv host w)
    (hoffer : OfferInv host w.offer) {event : UpdateEvent} (hkeeps : KeepsPackage host w event) :
    PackageInv host (updateStep host w event) := by
  cases event with
  | check io => exact packageInv_check h hoffer hkeeps
  | install io =>
    have hinstall := packageInv_runInstall h io
    show PackageInv host (installJob host w io)
    unfold installJob
    simp only
    split
    · exact hinstall
    · exact hinstall.setPhase _
  | setPolicy autoCheck intervalSeconds => exact ⟨h.flags, h.path, h.truth⟩
  | restart io => exact packageInv_restart w io

/-- Every step of a run keeps the flag of the package true. -/
def RunKeeps (host : UpdateHost) (running : Option GcUpdateVersion) (events : List UpdateEvent) :
    Prop :=
  ∀ before event after, events = before ++ event :: after →
    KeepsPackage host (updateRun host running before) event

theorem packageInv_run {host : UpdateHost} {running : Option GcUpdateVersion}
    {events : List UpdateEvent} (h : RunKeeps host running events) :
    PackageInv host (updateRun host running events) := by
  induction events using List.reverseRecOn with
  | nil => exact PackageOff.packageInv ⟨rfl, rfl⟩
  | append_singleton events event ih =>
    have hbefore : RunKeeps host running events := by
      rintro before e after rfl
      exact h before e (after ++ [event]) (by simp)
    rw [updateRun_snoc]
    exact packageInv_step (ih hbefore) (offerInv_run host running events)
      (h events event [] rfl)

/-! ## A check that fails -/

/-- The release held, the decision on it, and the package staged for it. -/
def UpdateWorld.held (w : UpdateWorld) :
    Option GcUpdateManifest × GcUpdateFreshness × GcUpdateDecision × Text × Bool × Bool :=
  (w.state.manifest, w.state.freshness, w.state.decision, w.state.stagedPath,
    w.state.packageStaged, w.state.packageVerified)

theorem recheckStaged_held (host : UpdateHost) (w : UpdateWorld) (needed : Bool) (io : StagedRead) :
    (recheckStaged host w needed io).2.held = w.held := by
  unfold recheckStaged
  split
  · rfl
  · split
    · rename_i manifest _
      rcases @stagedMatches_cases host w manifest io with heq | ⟨_, _, -, -, -, heq⟩
      · rw [heq]
      · rw [heq]
        rfl
    · rfl

/-- **A check that fails leaves the release and its package alone.** -/
theorem held_of_failedCheck {host : UpdateHost} {w : UpdateWorld} {io : CheckJobIo}
    (h : ∀ freshness m, ¬CheckFinds host w io.check freshness m) :
    (checkJob host w io).held = w.held := by
  unfold checkJob
  simp only
  rcases runCheck_package host w io.check with ⟨-, heq⟩ | ⟨freshness, m, hfinds, -⟩
  · rw [heq, Bool.not_false, if_pos rfl]
    unfold afterFailedCheck
    simp only
    split
    · exact recheckStaged_held host _ _ _
    · exact recheckStaged_held host _ _ _
  · exact absurd hfinds (h freshness m)

/-! ## The law of the update service -/

/-- **The update service over any run.**  Each start of setup was asked for, was safe and left
no older build behind; a check that fails changes nothing that is held; and in a run whose
steps all keep the package, the flag of the package is the truth. -/
theorem update_execution_safe (host : UpdateHost) (running : Option GcUpdateVersion)
    (events : List UpdateEvent) :
    (∀ launch ∈ (updateRun host running events).history.launches, SafeLaunch host launch) ∧
    (updateRun host running events).history.launches.length ≤
      events.countP UpdateEvent.isInstall ∧
    (∀ more, NotOlder (updateRun host running events).running
      (updateRun host running (events ++ more)).running) ∧
    (∀ io, (∀ freshness m, ¬CheckFinds host (updateRun host running events) io.check freshness m) →
      (updateRun host running (events ++ [.check io])).held =
        (updateRun host running events).held) ∧
    (RunKeeps host running events → PackageTrue host (updateRun host running events)) := by
  refine ⟨(launchInv_run host running events).safe, launches_le_requests host running events,
    fun more => ?_, fun io h => ?_, fun h => (packageInv_run h).truth⟩
  · induction more using List.reverseRecOn with
    | nil =>
      rw [List.append_nil]
      exact notOlder_refl _
    | append_singleton more event ih =>
      rw [← List.append_assoc, updateRun_snoc]
      exact ih.trans (notOlder_step (launchInv_run host running (events ++ more)) event)
  · rw [updateRun_snoc]
    exact held_of_failedCheck h

/-- A check that finds release 1.2 and downloads its file of one byte. -/
def stagingCheck : UpdateEvent :=
  let now := fileTimeOf 1000
  .check
    { userRequested := true
      check := { fetched := some (smallRelease, []), now, cacheOutcome := .stored }
      recordedAt := now
      staged := { now, content := none }
      swept := true
      download := { now, directory := true, swept := true, content := some [0] } }

/-- A check that fails while the staged file is two bytes long. -/
def failingCheck : UpdateEvent :=
  let now := fileTimeOf 2000
  .check
    { userRequested := false
      check := { fetched := none, now, cacheOutcome := .kept }
      recordedAt := now
      staged := { now, content := some [0, 0] }
      swept := true
      download := { now, directory := true, swept := true, content := none } }

theorem update_execution_safe_staged :
    (updateRun trustingHost (some versionOne) [stagingCheck]).state.packageVerified = true ∧
      PackageTrue trustingHost (updateRun trustingHost (some versionOne) [stagingCheck]) := by
  refine ⟨by decide +kernel, (update_execution_safe trustingHost (some versionOne)
    [stagingCheck]).2.2.2.2 ?_⟩
  intro before event after hsplit
  obtain ⟨rfl, rfl⟩ : before = [] ∧ event = stagingCheck := by
    cases before with
    | nil => exact ⟨rfl, (List.cons.inj hsplit).1.symm⟩
    | cons e before => exact absurd (List.cons.inj hsplit).2 (by simp)
  refine ⟨fun _ _ _ hstaged => ?_, fun _ havailable => ?_⟩
  · cases hstaged
  · cases havailable

/-- The state after the check that fails: the flag, the file and the size it was to have. -/
theorem failingCheck_state :
    let w := updateRun trustingHost (some versionOne) [stagingCheck, failingCheck]
    w.state.packageVerified = true ∧ w.history.lastHashed = some [0, 0] ∧
      (w.state.manifest.bind (gcUpdateSelectAsset · trustingHost.arch)).map GcUpdateAsset.size =
        some 1 := by
  decide +kernel

/-- **A replaced file stays marked as verified**: the check that fails re-hashes it, finds that
it is not the file of the release, and leaves the flag. -/
theorem failingCheck_keeps_flag : ¬∀ host running events,
    PackageTrue host (updateRun host running events) := by
  intro h
  obtain ⟨hverified, hhashed, hsize⟩ := failingCheck_state
  obtain ⟨m, asset, bytes, hm, hasset, hbytes, hmatches⟩ :=
    h trustingHost (some versionOne) [stagingCheck, failingCheck] hverified
  rw [hm, Option.bind_some, hasset, Option.map_some, Option.some.injEq] at hsize
  rw [hhashed, Option.some.injEq] at hbytes
  rw [gcUpdateStagedFileMatches, ← hbytes, hsize] at hmatches
  exact absurd hmatches (by simp)

end GreenCurve
