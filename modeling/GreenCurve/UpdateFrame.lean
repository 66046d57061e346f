import GreenCurve.UpdateInstall

/-! # What a job of the update service leaves alone

`UpdateWorld.offer` is what the service knows about the channel: the release it holds, the
settings, the cache and the record of its checks.  Only a check, its result, the policy command
and a start of the service move it; staging, downloading and installing do not. -/

namespace GreenCurve

open Ini (Text)

structure UpdateOffer where
  manifest : Option GcUpdateManifest
  freshness : GcUpdateFreshness
  decision : GcUpdateDecision
  autoCheck : GcUpdateAutoCheck
  intervalSeconds : Int
  consecutiveFailures : Int
  lastCheckUnix : Int
  highestSeenVersion : Text
  settings : UpdateSettings
  cache : Option (Text × Text)
  running : Option GcUpdateVersion
  advertised : List GcUpdateVersion
  attempts : List (Int × Bool)

namespace UpdateWorld

def offer (w : UpdateWorld) : UpdateOffer where
  manifest := w.state.manifest
  freshness := w.state.freshness
  decision := w.state.decision
  autoCheck := w.state.autoCheck
  intervalSeconds := w.state.intervalSeconds
  consecutiveFailures := w.state.consecutiveFailures
  lastCheckUnix := w.state.lastCheckUnix
  highestSeenVersion := w.state.highestSeenVersion
  settings := w.settings
  cache := w.cache
  running := w.running
  advertised := w.history.advertised
  attempts := w.history.attempts

variable (w : UpdateWorld)

@[simp] theorem setPhase_offer (phase : ServiceUpdatePhase) : (w.setPhase phase).offer = w.offer :=
  rfl

end UpdateWorld

section Offer
variable (host : UpdateHost) (w : UpdateWorld)

@[simp] theorem clearStaging_offer (swept : Bool) :
    (serviceUpdateClearStaging w swept).offer = w.offer := by
  unfold serviceUpdateClearStaging
  split_ifs <;> rfl

@[simp] theorem stagedMatches_offer (manifest : GcUpdateManifest) (io : StagedRead) :
    (serviceUpdateStagedPackageMatchesManifest host w manifest io).2.offer = w.offer := by
  unfold serviceUpdateStagedPackageMatchesManifest
  repeat' split
  all_goals rfl

@[simp] theorem recheckStaged_offer (needed : Bool) (io : StagedRead) :
    (recheckStaged host w needed io).2.offer = w.offer := by
  unfold recheckStaged
  split
  · rfl
  · split
    · exact stagedMatches_offer host w _ io
    · rfl

@[simp] theorem runDownload_offer (io : DownloadIo) :
    (serviceUpdateRunDownload host w io).2.offer = w.offer := by
  have hclear := clearStaging_offer w io.swept
  unfold serviceUpdateRunDownload
  repeat' split
  all_goals first | rfl | exact hclear

theorem afterFailedCheck_offer (io : CheckJobIo) :
    (afterFailedCheck host w io).offer = w.offer := by
  unfold afterFailedCheck
  simp only
  split <;> rw [UpdateWorld.setPhase_offer, recheckStaged_offer]

theorem keepStaged_offer (io : CheckJobIo) : (keepStaged host w io).2.offer = w.offer := by
  unfold keepStaged
  simp only
  split
  · rfl
  · split
    · rw [UpdateWorld.setPhase_offer, recheckStaged_offer]
    · rw [clearStaging_offer, recheckStaged_offer]

theorem downloadIfAllowed_offer (staged : Bool) (io : CheckJobIo) :
    (downloadIfAllowed host w staged io).offer = w.offer := by
  unfold downloadIfAllowed
  simp only
  split
  · split
    · rw [runDownload_offer]
    · rw [UpdateWorld.setPhase_offer, runDownload_offer]
  · rfl

/-- **A check moves the channel only through its documents and its result.** -/
theorem checkJob_offer (io : CheckJobIo) :
    (checkJob host w io).offer =
      (serviceUpdateRecordCheckResult (serviceUpdateRunCheck host w io.check).2
        (serviceUpdateRunCheck host w io.check).1 io.recordedAt).offer := by
  unfold checkJob
  simp only
  split
  · rw [afterFailedCheck_offer]
  · rw [downloadIfAllowed_offer, keepStaged_offer]

theorem awaitInstaller_offer (io : InstallIo) : (awaitInstaller w io).2.offer = w.offer := by
  unfold awaitInstaller
  split
  · simp only
    rw [UpdateWorld.setPhase_offer, clearStaging_offer]
    rfl
  all_goals rfl

theorem launchVerified_offer (manifest : GcUpdateManifest) (image : FileBytes) (io : InstallIo) :
    (launchVerified w manifest image io).2.offer = w.offer := by
  unfold launchVerified
  simp only
  split_ifs
  any_goals rfl
  exact awaitInstaller_offer _ io

theorem runInstall_offer (io : InstallIo) :
    (serviceUpdateRunInstall host w io).2.offer = w.offer := by
  unfold serviceUpdateRunInstall
  simp only
  repeat' split
  any_goals rfl
  exact launchVerified_offer _ _ _ io

/-- **An install leaves the channel alone.** -/
theorem installJob_offer (io : InstallIo) : (installJob host w io).offer = w.offer := by
  unfold installJob
  simp only
  split
  · exact runInstall_offer host _ io
  · exact runInstall_offer host _ io

theorem adoptStagedPackage_offer (manifest : GcUpdateManifest) (io : RestartIo) :
    (serviceUpdateAdoptStagedPackage host w manifest io).offer = w.offer := by
  unfold serviceUpdateAdoptStagedPackage
  split
  · rfl
  · split
    · rfl
    · simp only
      split
      · rw [clearStaging_offer, stagedMatches_offer]
        rfl
      · exact stagedMatches_offer host _ manifest io.staged

end Offer

/-! ## The check -/

/-- A check either completes with the release its documents advertise, or moves nothing. -/
theorem serviceUpdateRunCheck_cases (host : UpdateHost) (w : UpdateWorld) (io : CheckIo) :
    serviceUpdateRunCheck host w io = (false, w.setPhase .checking) ∨
    ∃ document signature freshness manifest, w.running.isSome ∧
      host.signatureVerifies document signature = true ∧
      readEnvelope document (serviceUpdateNowUnix io.now) = some (freshness, manifest) ∧
      serviceUpdateRunCheck host w io = (true, holdRelease host (w.setPhase .checking) document
        signature freshness manifest io.cacheOutcome) := by
  unfold serviceUpdateRunCheck
  simp only
  split
  · exact .inl rfl
  · rename_i document signature _
    split
    · exact .inl rfl
    · rename_i hverifies
      split
      · exact .inl rfl
      · rename_i freshness manifest hread
        split
        · exact .inl rfl
        · rename_i hrunning
          refine .inr ⟨document, signature, freshness, manifest, ?_, by simpa using hverifies, hread,
            rfl⟩
          exact Option.isSome_iff_ne_none.mpr fun h => hrunning (Option.isNone_iff_eq_none.mpr h)

end GreenCurve
