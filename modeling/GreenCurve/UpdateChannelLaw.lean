import GreenCurve.UpdateFrame
import GreenCurve.HighWater
import GreenCurve.EnvelopeLaw

/-! # What the channel warnings say

Over any run of the update service, `REGRESSED` is the truth: the release held is older than
one a check advertised before, in this process or an earlier one.  `STALE` is computed from the
last check of any outcome, where the policy asks for the last one that succeeded, so it is the
truth only where the two are on the same side of the limit. -/

namespace GreenCurve

open Ini (Text)
open HighWater (Marks)

/-- The time of the last check as the settings file can hold it; zero where there is none. -/
def lastAttempt : List (Int × Bool) → Int
  | [] => 0
  | (time, _) :: _ => max time 0

/-- The last check that succeeded. -/
def lastSuccess (attempts : List (Int × Bool)) : Option Int :=
  (attempts.find? Prod.snd).map Prod.fst

/-- A stored text is the mark of the versions advertised so far. -/
def MarkText (advertised : List GcUpdateVersion) (text : Text) : Prop :=
  ∃ mark, Marks GcUpdateVersion.rank advertised mark ∧
    text = (mark.map GcUpdateVersion.text).getD []

/-- What the service remembers of its channel is what happened on it. -/
structure ChannelCore (o : UpdateOffer) : Prop where
  reads : ∀ v ∈ o.advertised, gcUpdateVersionParse v.text = some v
  mark : MarkText o.advertised o.highestSeenVersion
  held : ∀ m, o.manifest = some m → m.version ∈ o.advertised
  cached : ∀ document signature, o.cache = some (document, signature) →
    ∀ t freshness m, readEnvelope document t = some (freshness, m) → m.version ∈ o.advertised
  lastCheck : max o.lastCheckUnix 0 = lastAttempt o.attempts
  lastCheckLt : o.lastCheckUnix < 2 ^ 41

/-- The settings file says the same, so a start of the service restores it. -/
structure ChannelInv (o : UpdateOffer) : Prop extends ChannelCore o where
  markStored : o.settings.highestSeenVersion = o.highestSeenVersion
  lastCheckStored :
    gcUpdateJoinTimestamp o.settings.lastCheckHigh o.settings.lastCheckLow = max o.lastCheckUnix 0

/-! ## The release that is held -/

/-- The version of a release that was read keeps the text it was read from. -/
theorem version_of_readEnvelope {e : Text} {now : Int} {freshness : GcUpdateFreshness}
    {m : GcUpdateManifest} (h : readEnvelope e now = some (freshness, m)) :
    gcUpdateVersionParse m.version.text = some m.version := by
  obtain ⟨payload, -, -, -, hparse⟩ := readEnvelope_eq_some.mp h
  obtain ⟨-, entries, -, hagrees⟩ := gcUpdateManifestParse_eq_ok.mp hparse
  exact gcUpdateVersionParse_eq_some.mpr hagrees.versionReads

/-- One document has one reading, whenever it is read. -/
theorem readEnvelope_unique {e : Text} {t t' : Int} {freshness freshness' : GcUpdateFreshness}
    {m m' : GcUpdateManifest} (h : readEnvelope e t = some (freshness, m))
    (h' : readEnvelope e t' = some (freshness', m')) : freshness = freshness' ∧ m = m' := by
  obtain ⟨payload, hheader, -, hoffset, hparse⟩ := readEnvelope_eq_some.mp h
  obtain ⟨payload', hheader', -, hoffset', hparse'⟩ := readEnvelope_eq_some.mp h'
  obtain ⟨hissued, hexpires, rfl⟩ := hheader.unique hheader'
  refine ⟨?_, Except.ok.inj (hparse.symm.trans hparse')⟩
  cases freshness
  cases freshness'
  simp only at hissued hexpires hoffset hoffset'
  rw [hissued, hexpires, hoffset, hoffset']

/-- Folding a version that was read into the mark raises it. -/
theorem noteVersion_eq {mark : Option GcUpdateVersion} {v : GcUpdateVersion}
    (hmark : ∀ m ∈ mark, gcUpdateVersionParse m.text = some m)
    (hv : gcUpdateVersionParse v.text = some v) :
    gcUpdateChannelNoteVersion ((mark.map GcUpdateVersion.text).getD []) v.text =
      some (HighWater.raise GcUpdateVersion.rank mark v).text := by
  cases mark with
  | none => simp [gcUpdateChannelNoteVersion, hv, gcUpdateVersionParse_nil, HighWater.raise]
  | some m =>
    have hm := hmark m rfl
    simp only [gcUpdateChannelNoteVersion, Option.map_some, Option.getD_some, hv, hm,
      GcUpdateVersion.compare_pos_iff, HighWater.raise]
    split_ifs <;> rfl

/-! ## One step -/

theorem join_zero : gcUpdateJoinTimestamp 0 0 = max 0 0 := by decide

theorem channelInv_freshInstall (running : Option GcUpdateVersion) :
    ChannelInv (freshInstall running).offer where
  reads := fun v hv => nomatch hv
  mark := ⟨none, rfl, rfl⟩
  held := fun m hm => nomatch hm
  cached := fun document signature h => nomatch h
  lastCheck := rfl
  lastCheckLt := show (0 : Int) < 2 ^ 41 by decide
  markStored := rfl
  lastCheckStored := join_zero

/-- Saving the settings stores what is remembered. -/
theorem ChannelCore.save {w : UpdateWorld} (h : ChannelCore w.offer)
    (hempty : w.state.highestSeenVersion = [] → w.settings.highestSeenVersion = []) :
    ChannelInv (serviceUpdateSaveSettings w).offer where
  reads := h.reads
  mark := h.mark
  held := h.held
  cached := h.cached
  lastCheck := h.lastCheck
  lastCheckLt := h.lastCheckLt
  markStored := by
    show (if w.state.highestSeenVersion ≠ [] then w.state.highestSeenVersion
      else w.settings.highestSeenVersion) = w.state.highestSeenVersion
    split_ifs with hmark
    · rfl
    · rw [hempty (not_not.mp hmark), not_not.mp hmark]
  lastCheckStored := by
    have hlt : w.state.lastCheckUnix < 2 ^ 41 := h.lastCheckLt
    exact join_split_timestamp (by omega)

/-- A check that completed raised the mark to the release it holds. -/
theorem channelInv_holdRelease {host : UpdateHost} {w : UpdateWorld} (h : ChannelInv w.offer)
    {document signature : Text} {now : Int} {freshness : GcUpdateFreshness} {m : GcUpdateManifest}
    (hread : readEnvelope document now = some (freshness, m)) (outcome : CacheOutcome) :
    ChannelInv (holdRelease host w document signature freshness m outcome).offer := by
  have hv := version_of_readEnvelope hread
  obtain ⟨mark, hmark, htext⟩ := h.mark
  have hreads : ∀ v ∈ mark, gcUpdateVersionParse v.text = some v := by
    rintro v rfl
    exact h.reads v hmark.1
  have hnote : gcUpdateChannelNoteVersion w.state.highestSeenVersion m.version.text =
      some (HighWater.raise GcUpdateVersion.rank mark m.version).text := by
    rw [show w.state.highestSeenVersion = _ from htext]
    exact noteVersion_eq hreads hv
  have hraised := hmark.raise m.version
  have hnew : ∀ v ∈ m.version :: w.history.advertised, gcUpdateVersionParse v.text = some v :=
    List.forall_mem_cons.mpr ⟨hv, h.reads⟩
  have hne : (HighWater.raise GcUpdateVersion.rank mark m.version).text ≠ [] := by
    intro hnil
    have hparse := hnew _ hraised.1
    rw [hnil, gcUpdateVersionParse_nil] at hparse
    cases hparse
  -- the state before the settings and the cache are written
  have hcore : ChannelCore ({ w with
      state := { w.state with
        manifest := some m
        freshness
        decision := gcUpdateDecide m w.running host.arch
        highestSeenVersion :=
          (gcUpdateChannelNoteVersion w.state.highestSeenVersion m.version.text).getD
            w.state.highestSeenVersion }
      history := { w.history with
        advertised := m.version :: w.history.advertised } } : UpdateWorld).offer :=
    { reads := hnew
      mark := ⟨_, hraised, congrArg (Option.getD · _) hnote⟩
      held := by
        rintro m' hm'
        cases hm'
        exact List.mem_cons_self
      cached := fun d s hcache t f m' hread' =>
        List.mem_cons_of_mem _ (h.cached d s hcache t f m' hread')
      lastCheck := h.lastCheck
      lastCheckLt := h.lastCheckLt }
  have hsaved := hcore.save fun hnil => absurd ((congrArg (Option.getD · _) hnote).symm.trans hnil) hne
  have hheld : ∀ t f m', readEnvelope document t = some (f, m') →
      m'.version ∈ m.version :: w.history.advertised := by
    intro t f m' hread'
    rw [(readEnvelope_unique hread' hread).2]
    exact List.mem_cons_self
  cases outcome with
  | kept => exact hsaved
  | stored =>
    refine { hsaved with cached := ?_ }
    rintro d s hcache t f m' hread'
    cases hcache
    exact hheld t f m' hread'
  | torn =>
    refine { hsaved with cached := ?_ }
    rintro d s hcache t f m' hread'
    obtain ⟨old, -, hold⟩ := Option.map_eq_some_iff.mp hcache
    cases hold
    exact hheld t f m' hread'
  | cleared =>
    refine { hsaved with cached := ?_ }
    rintro d s hcache
    cases hcache

/-- The result of a check is the last attempt. -/
theorem channelInv_record {w : UpdateWorld} (h : ChannelInv w.offer) (succeeded : Bool)
    (now : UInt64) : ChannelInv (serviceUpdateRecordCheckResult w succeeded now).offer := by
  refine ChannelCore.save ?_ fun hnil => h.markStored.trans hnil
  exact
    { reads := h.reads
      mark := h.mark
      held := h.held
      cached := h.cached
      lastCheck := rfl
      lastCheckLt := serviceUpdateNowUnix_lt now }

theorem channelInv_check {host : UpdateHost} {w : UpdateWorld} (h : ChannelInv w.offer)
    (io : CheckJobIo) : ChannelInv (checkJob host w io).offer := by
  rw [checkJob_offer]
  apply channelInv_record
  rcases serviceUpdateRunCheck_cases host w io.check with
    heq | ⟨document, signature, freshness, m, -, -, hread, heq⟩
  · rw [heq]
    exact h
  · rw [heq]
    exact channelInv_holdRelease (w := w.setPhase .checking) h hread _

theorem channelInv_policy {w : UpdateWorld} (h : ChannelInv w.offer)
    (autoCheck : GcUpdateAutoCheck) (intervalSeconds : Int) :
    ChannelInv (serviceUpdateSaveSettings { w with state := { w.state with
      autoCheck, intervalSeconds } }).offer := by
  refine ChannelCore.save ?_ fun hnil => h.markStored.trans hnil
  exact { h with }

/-- A start of the service restores what was stored. -/
theorem channelInv_load {w : UpdateWorld} (h : ChannelInv w.offer) (running : Option GcUpdateVersion)
    (launchedHere : List UpdateLaunch) :
    ChannelInv (serviceUpdateLoadSettings { w with
      state := {}, running, history := { w.history with launchedHere } }).offer := by
  have hmark : w.settings.highestSeenVersion = w.state.highestSeenVersion := h.markStored
  have hcheck : gcUpdateJoinTimestamp w.settings.lastCheckHigh w.settings.lastCheckLow =
      max w.state.lastCheckUnix 0 := h.lastCheckStored
  have hlast : max w.state.lastCheckUnix 0 = lastAttempt w.history.attempts := h.lastCheck
  have hlt : w.state.lastCheckUnix < 2 ^ 41 := h.lastCheckLt
  exact
    { reads := h.reads
      mark := (congrArg (MarkText w.history.advertised) hmark).mpr h.mark
      held := fun m hm => nomatch hm
      cached := h.cached
      lastCheck := by
        show max (gcUpdateJoinTimestamp _ _) 0 = lastAttempt w.history.attempts
        rw [hcheck, ← hlast]
        omega
      lastCheckLt := by
        show gcUpdateJoinTimestamp _ _ < 2 ^ 41
        rw [hcheck]
        omega
      markStored := rfl
      lastCheckStored := by
        show gcUpdateJoinTimestamp w.settings.lastCheckHigh w.settings.lastCheckLow =
          max (gcUpdateJoinTimestamp w.settings.lastCheckHigh w.settings.lastCheckLow) 0
        rw [hcheck]
        omega }

theorem channelInv_restore {host : UpdateHost} {w : UpdateWorld} (h : ChannelInv w.offer)
    (io : RestartIo) : ChannelInv (serviceUpdateRestoreFromCache host w io).offer := by
  have hdiscard : ChannelInv (if io.cacheCleared then { w with cache := none } else w).offer := by
    split
    · exact { h with cached := fun d s hcache => nomatch hcache }
    · exact h
  unfold serviceUpdateRestoreFromCache
  simp only
  split
  · exact h
  · rename_i document signature hcache
    split
    · exact hdiscard
    · split
      · exact hdiscard
      · rename_i freshness m hread
        have hcached : w.cache = some (document, signature) := by
          split at hcache
          · exact hcache
          · cases hcache
        have hheld : ∀ decision, ChannelInv ({ w with state := { w.state with
            manifest := some m, freshness, decision } } : UpdateWorld).offer := by
          refine fun decision => { h with held := ?_ }
          rintro m' hm'
          cases hm'
          exact h.cached document signature hcached _ freshness m hread
        split
        · exact h
        · split
          · rw [adoptStagedPackage_offer]
            exact hheld _
          · rw [clearStaging_offer]
            exact hheld _

theorem channelInv_step {host : UpdateHost} {w : UpdateWorld} (h : ChannelInv w.offer)
    (event : UpdateEvent) : ChannelInv (updateStep host w event).offer := by
  cases event with
  | check io => exact channelInv_check h io
  | install io =>
    rw [updateStep, installJob_offer]
    exact h
  | setPolicy autoCheck intervalSeconds => exact channelInv_policy h autoCheck _
  | restart io => exact channelInv_restore (channelInv_load h _ _) io

/-- **The memory of the channel, over any run.** -/
theorem channelInv_run (host : UpdateHost) (running : Option GcUpdateVersion)
    (events : List UpdateEvent) : ChannelInv (updateRun host running events).offer := by
  induction events using List.reverseRecOn with
  | nil => exact channelInv_freshInstall running
  | append_singleton events event ih =>
    rw [updateRun_snoc]
    exact channelInv_step ih event

/-! ## The warnings -/

/-- The release held is older than one advertised before. -/
def Regressed (w : UpdateWorld) : Prop :=
  ∃ m v, w.state.manifest = some m ∧ v ∈ w.history.advertised ∧
    gcUpdateVersionCompare m.version v < 0

/-- Some check succeeded, and that is longer ago than the limit. -/
def LongSilence (w : UpdateWorld) (now : Int) : Prop :=
  ∃ t, lastSuccess w.history.attempts = some t ∧ now - t > GC_UPDATE_CHANNEL_STALE_SECONDS

/-- What the warnings of a response should say. -/
def WarnsTruly (w : UpdateWorld) (now : UInt64) : Prop :=
  let state := (serviceUpdatePopulateResponse w now).channelState
  (state = .regressed ↔ Regressed w) ∧
    (¬Regressed w → (state = .stale ↔ LongSilence w (serviceUpdateNowUnix now)))

/-- The checks so far happened on a clock that never went back. -/
def ClockRuns (w : UpdateWorld) (now : Int) : Prop :=
  (now :: w.history.attempts.map Prod.fst).Pairwise (· ≥ ·)

/-- Where the age of the last check says whether the last success is too old: no check was
made; or the last one succeeded, after 1970 or within the limit; or it failed, nothing ever
succeeded and it is within the limit; or it failed, and the last success is within the limit or
the failure itself is beyond it. -/
def AttemptsShowSilence (now : Int) : List (Int × Bool) → Prop
  | [] => True
  | (a, true) :: _ => 0 < a ∨ now - a ≤ GC_UPDATE_CHANNEL_STALE_SECONDS
  | (a, false) :: earlier =>
    match lastSuccess earlier with
    | none => a ≤ 0 ∨ now - a ≤ GC_UPDATE_CHANNEL_STALE_SECONDS
    | some s => now - s ≤ GC_UPDATE_CHANNEL_STALE_SECONDS ∨
        (0 < a ∧ now - a > GC_UPDATE_CHANNEL_STALE_SECONDS)

theorem channelState_eq_regressed {setting : GcUpdateAutoCheck} {last now : Int}
    {highest advertised : Text} :
    gcUpdateChannelState setting last now highest advertised = .regressed ↔
      ∃ v m, gcUpdateVersionParse highest = some v ∧ gcUpdateVersionParse advertised = some m ∧
        gcUpdateVersionCompare m v < 0 := by
  unfold gcUpdateChannelState
  simp only
  cases hv : gcUpdateVersionParse highest with
  | none =>
    simp only [Bool.false_eq_true, if_false, reduceCtorEq, false_and]
    split_ifs <;> simp
  | some v =>
    cases hm : gcUpdateVersionParse advertised with
    | none =>
      simp only [Bool.false_eq_true, if_false, reduceCtorEq, false_and, and_false]
      split_ifs <;> simp
    | some m =>
      simp only [decide_eq_true_eq, Option.some.injEq]
      by_cases hlt : gcUpdateVersionCompare m v < 0
      · rw [if_pos hlt]
        exact ⟨fun _ => ⟨v, m, rfl, rfl, hlt⟩, fun _ => rfl⟩
      · rw [if_neg hlt]
        constructor
        · intro h
          split_ifs at h
        · rintro ⟨v', m', rfl, rfl, hlt'⟩
          exact absurd hlt' hlt

/-- Where nothing regressed, the classifier only looks at the last check. -/
theorem channelState_eq_stale {last now : Int} {highest advertised : Text}
    (h : gcUpdateChannelState .on last now highest advertised ≠ .regressed) (hnow : last ≤ now) :
    gcUpdateChannelState .on last now highest advertised = .stale ↔
      0 < last ∧ now - last > GC_UPDATE_CHANNEL_STALE_SECONDS := by
  unfold gcUpdateChannelState at h ⊢
  simp only at h ⊢
  split_ifs at h ⊢ with hregressed hsetting hnone hback hlong
  · exact absurd rfl h
  · exact absurd rfl hsetting
  · simp only [false_iff]
    omega
  · omega
  · simp only [true_iff]
    exact ⟨by omega, hlong⟩
  · simp only [false_iff]
    exact fun hstale => hlong hstale.2

/-- **`REGRESSED` is the truth.** -/
theorem regressed_iff {w : UpdateWorld} (h : ChannelInv w.offer) (now : UInt64) :
    (serviceUpdatePopulateResponse w now).channelState = .regressed ↔ Regressed w := by
  obtain ⟨mark, hmark, htext⟩ := h.mark
  have htext : w.state.highestSeenVersion = (mark.map GcUpdateVersion.text).getD [] := htext
  unfold serviceUpdatePopulateResponse
  simp only
  rw [channelState_eq_regressed]
  cases hm : w.state.manifest with
  | none =>
    constructor
    · rintro ⟨v, m, -, hparse, -⟩
      cases hparse
    · rintro ⟨m, v, hheld, -⟩
      exact absurd (hm.symm.trans hheld) (by simp)
  | some m =>
    have hmem : m.version ∈ w.history.advertised := h.held m hm
    obtain ⟨v, rfl⟩ := hmark.exists_of_mem hmem
    have hreadV : gcUpdateVersionParse w.state.highestSeenVersion = some v := by
      rw [htext]
      exact h.reads v hmark.1
    have hreadM : gcUpdateVersionParse m.version.text = some m.version := h.reads _ hmem
    constructor
    · rintro ⟨v', m', hv', hm', hlt⟩
      obtain rfl : v = v' := Option.some.inj (hreadV.symm.trans hv')
      obtain rfl : m.version = m' := Option.some.inj (hreadM.symm.trans hm')
      exact ⟨m, v, hm, hmark.1, hlt⟩
    · rintro ⟨m', u, hm', hu, hlt⟩
      obtain rfl : m = m' := Option.some.inj (hm.symm.trans hm')
      rw [GcUpdateVersion.compare_neg_iff] at hlt
      exact ⟨v, m.version, hreadV, hreadM,
        GcUpdateVersion.compare_neg_iff.mpr ((hmark.lt_iff m.version).mpr ⟨u, hu, hlt⟩)⟩

theorem stale_iff {w : UpdateWorld} (h : ChannelInv w.offer) (hon : w.state.autoCheck = .on)
    {now : UInt64} (hclock : ClockRuns w (serviceUpdateNowUnix now)) (hnot : ¬Regressed w) :
    (serviceUpdatePopulateResponse w now).channelState = .stale ↔
      0 < lastAttempt w.history.attempts ∧ serviceUpdateNowUnix now -
        lastAttempt w.history.attempts > GC_UPDATE_CHANNEL_STALE_SECONDS := by
  have hlast : max w.state.lastCheckUnix 0 = lastAttempt w.history.attempts := h.lastCheck
  rw [← hlast]
  have hregressed := mt (regressed_iff h now).mp hnot
  unfold serviceUpdatePopulateResponse at hregressed ⊢
  simp only [hon] at hregressed ⊢
  by_cases hpos : 0 < w.state.lastCheckUnix
  · have hle : w.state.lastCheckUnix ≤ serviceUpdateNowUnix now := by
      unfold ClockRuns at hclock
      cases hattempts : w.history.attempts with
      | nil =>
        rw [hattempts] at hlast
        simp only [lastAttempt] at hlast
        omega
      | cons attempt earlier =>
        rw [hattempts] at hlast hclock
        have hge : serviceUpdateNowUnix now ≥ attempt.1 :=
          (List.pairwise_cons.mp hclock).1 _ (by simp)
        simp only [lastAttempt] at hlast
        omega
    rw [channelState_eq_stale hregressed hle, max_eq_left hpos.le]
  · constructor
    · intro hstale
      unfold gcUpdateChannelState at hstale
      simp only at hstale
      split_ifs at hstale
      omega
    · omega

/-- **Where the staleness warning is the truth**, on any history of checks and restarts: where
the last check of any outcome is on the same side of the limit as the last that succeeded. -/
theorem warnsTruly_iff (host : UpdateHost) (running : Option GcUpdateVersion)
    (events : List UpdateEvent) (now : UInt64)
    (hon : (updateRun host running events).state.autoCheck = .on)
    (hclock : ClockRuns (updateRun host running events) (serviceUpdateNowUnix now)) :
    WarnsTruly (updateRun host running events) now ↔
      Regressed (updateRun host running events) ∨
        AttemptsShowSilence (serviceUpdateNowUnix now)
          (updateRun host running events).history.attempts := by
  have hinv := channelInv_run host running events
  generalize updateRun host running events = w at hon hclock hinv ⊢
  unfold WarnsTruly
  simp only [regressed_iff hinv, true_and]
  by_cases hregressed : Regressed w
  · simp [hregressed]
  simp only [hregressed, not_false_eq_true, true_implies, false_or]
  rw [stale_iff hinv hon hclock hregressed]
  unfold LongSilence
  unfold ClockRuns at hclock
  cases hattempts : w.history.attempts with
  | nil => simp [lastAttempt, lastSuccess, AttemptsShowSilence]
  | cons attempt earlier =>
    rw [hattempts] at hclock
    obtain ⟨a, succeeded⟩ := attempt
    cases succeeded with
    | true =>
      simp only [lastAttempt, lastSuccess, AttemptsShowSilence, List.find?_cons_of_pos,
        Option.map_some, Option.some.injEq, exists_eq_left']
      omega
    | false =>
      have hfind : lastSuccess ((a, false) :: earlier) = lastSuccess earlier := rfl
      simp only [lastAttempt, hfind, AttemptsShowSilence]
      cases hsuccess : lastSuccess earlier with
      | none =>
        simp only [reduceCtorEq, false_and, exists_const, iff_false]
        omega
      | some s =>
        have hmem : s ∈ earlier.map Prod.fst := by
          obtain ⟨attempt, hfind, rfl⟩ := Option.map_eq_some_iff.mp hsuccess
          exact List.mem_map_of_mem (List.mem_of_find?_eq_some hfind)
        have hle : a ≥ s := by
          have htail := (List.pairwise_cons.mp hclock).2
          exact (List.pairwise_cons.mp htail).1 s hmem
        simp only [Option.some.injEq, exists_eq_left']
        omega

/-! ## A channel that is cut off -/

/-- A host that takes every signature, and whose digest is the same for all files. -/
def trustingHost : UpdateHost where
  signatureVerifies := fun _ _ => true
  sha256Hex := fun _ => List.replicate 64 '0'
  arch := .x64

/-- An envelope of release 1.2, issued at 1000. -/
def smallRelease : Text :=
  ("freshness=1\nissued=1000\nexpires=2593000\nformat=1\nversion=1.2\n" ++
    "x64_file=greencurve-1.2-windows-x64-setup.exe\nx64_size=1\nx64_sha256=").toList ++
    List.replicate 64 '0' ++ ['\n']

/-- A file time, from seconds since 1970. -/
def fileTimeOf (unixSeconds : Nat) : UInt64 := .ofNat ((unixSeconds + 11644473600) * 10000000)

/-- A check at a time that fetched the document, or nothing. -/
def checkAt (unixSeconds : Nat) (document : Option Text) : UpdateEvent :=
  let now := fileTimeOf unixSeconds
  .check
    { userRequested := false
      check := { fetched := document.map fun d => (d, []), now, cacheOutcome := .stored }
      recordedAt := now
      staged := { now, content := none }
      swept := true
      download := { now, directory := true, swept := true, content := none } }

/-- One check succeeds, and one fails 31 days later. -/
def cutOff : List UpdateEvent :=
  [.setPolicy .on 86400, checkAt 1000 (some smallRelease), checkAt 2679400 none]

def versionOne : GcUpdateVersion := { major := 1, minor := 0, patch := 0, text := "1.0".toList }

/-- The state after the check that succeeds. -/
theorem checked_state :
    let w := updateRun trustingHost (some versionOne) (cutOff.take 2)
    w.state.autoCheck = .on ∧ ClockRuns w (serviceUpdateNowUnix (fileTimeOf 1000)) ∧
      w.history.attempts = [(1000, true)] := by
  unfold ClockRuns
  decide +kernel

/-- The state after the check that fails, and what the response then says. -/
theorem cutOff_state :
    let w := updateRun trustingHost (some versionOne) cutOff
    w.state.autoCheck = .on ∧ ClockRuns w (serviceUpdateNowUnix (fileTimeOf 2679400)) ∧
      (serviceUpdatePopulateResponse w (fileTimeOf 2679400)).channelState = .ok ∧
      w.history.attempts = [(2679400, false), (1000, true)] := by
  unfold ClockRuns
  decide +kernel

theorem warnsTruly_iff_small :
    WarnsTruly (updateRun trustingHost (some versionOne) (cutOff.take 2)) (fileTimeOf 1000) := by
  obtain ⟨hon, hclock, hattempts⟩ := checked_state
  refine (warnsTruly_iff trustingHost (some versionOne) (cutOff.take 2) (fileTimeOf 1000)
    hon hclock).mpr (.inr ?_)
  rw [hattempts]
  exact .inl (by decide)

/-- **A channel that is cut off is not reported**: 31 days after the last success the response
says nothing, since the last check that failed is recent. -/
theorem cutOff_not_reported : ¬∀ host running events now,
    (updateRun host running events).state.autoCheck = .on →
    ClockRuns (updateRun host running events) (serviceUpdateNowUnix now) →
    WarnsTruly (updateRun host running events) now := by
  intro h
  obtain ⟨hon, hclock, hstate, hattempts⟩ := cutOff_state
  have hwarns := h trustingHost (some versionOne) cutOff (fileTimeOf 2679400) hon hclock
  have hregressed : ¬Regressed (updateRun trustingHost (some versionOne) cutOff) := by
    intro hregressed
    exact absurd (hstate.symm.trans (hwarns.1.mpr hregressed)) (by decide)
  have hsilence : LongSilence (updateRun trustingHost (some versionOne) cutOff)
      (serviceUpdateNowUnix (fileTimeOf 2679400)) := by
    refine ⟨1000, ?_, by decide +kernel⟩
    rw [hattempts]
    rfl
  exact absurd (hstate.symm.trans ((hwarns.2 hregressed).mpr hsilence)) (by decide)

end GreenCurve
