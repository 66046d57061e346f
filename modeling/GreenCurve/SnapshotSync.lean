import GreenCurve.Daemon
import GreenCurve.ProfileLoad

/-! # The snapshot a boot applies

The daemon cannot read the configuration file, so a policy that applies a profile at
boot keeps a copy of its settings.  A client that rewrote the profile refreshes the
copy; what it compares afterwards is the profile, loaded again, with the copy.  The copy
went through the boundary of the daemon, the profile through the editor: a profile that
loads at all is left alone by both (`Loaded.validate_eq`, `Loaded.normalize_eq`), so a
refreshed copy is never reported stale. -/

namespace GreenCurve

/-! ## The record of the policy -/

/-- The card a stored policy is bound to. -/
structure BootTarget where
  valid : Bool
  pciInfoValid : Bool
  deriving DecidableEq

/-- `LinuxDaemonStartupRecord`, as far as a refresh reads and writes it. -/
structure StartupSnapshot where
  mode : ServiceStartupPolicyMode
  profileSlot : Nat
  profileName : String
  target : BootTarget
  desired : DesiredSettings

def startupSnapshotSlotIsValid (slot : Nat) : Bool :=
  decide (1 ≤ slot ∧ slot ≤ Profile.CONFIG_NUM_SLOTS)

/-- `linux_daemon_startup_valid`: what a profile record has to name. -/
def StartupSnapshot.valid (record : StartupSnapshot) : Bool :=
  match record.mode with
  | .profile =>
    startupSnapshotSlotIsValid record.profileSlot && record.target.valid &&
      record.target.pciInfoValid
  | _ => decide (record.profileSlot = 0) && !record.target.valid

/-- `linux_daemon_startup_initialize`: only a profile owns a slot, a name, a card and
settings. -/
def startupInitializeSnapshot (mode : ServiceStartupPolicyMode) (profileSlot : Nat)
    (profileName : String) (target : BootTarget) (desired : DesiredSettings) : StartupSnapshot :=
  if mode = .profile then ⟨mode, profileSlot, profileName, target, desired⟩
  else ⟨mode, 0, "", ⟨false, false⟩, {}⟩

/-- `startup_snapshot_refresh_allowed`. -/
def startupSnapshotRefreshAllowed (storedMode : ServiceStartupPolicyMode)
    (storedSlot requestSlot : Nat) : Bool :=
  storedMode == .profile && startupSnapshotSlotIsValid storedSlot && requestSlot == storedSlot

/-- `daemon_handle_refresh_startup_profile`: the policy afterwards and whether the request
was answered with success.  `stored` says whether the record reached the disk. -/
def daemonHandleRefreshStartupProfile (policy : StartupSnapshot) (requestSlot : Nat)
    (desired : DesiredSettings) (stored : Bool) : StartupSnapshot × Bool :=
  if !startupSnapshotRefreshAllowed policy.mode policy.profileSlot requestSlot then (policy, false)
  else
    let requested := validateDesiredSettingsForIpc desired
    let record := startupInitializeSnapshot policy.mode policy.profileSlot policy.profileName
      policy.target requested
    if !record.valid then (policy, false)
    else if !stored then (policy, false)
    else (record, true)

/-! ## The comparison -/

/-- `desired_settings_equal`. -/
def desiredSettingsEqual (left right : DesiredSettings) : Bool :=
  ((List.finRange VF_NUM_POINTS).all fun i =>
    decide (left.hasCurvePoint i = right.hasCurvePoint i ∧
      left.curvePointMHz i = right.curvePointMHz i ∧
      left.curvePointFromGpuOffset i = right.curvePointFromGpuOffset i)) &&
  decide (left.hasLock = right.hasLock ∧ left.lockCi = right.lockCi ∧
    left.lockMHz = right.lockMHz ∧ left.lockMode = right.lockMode ∧
    left.lockTracksAnchor = right.lockTracksAnchor ∧
    left.hasGpuOffset = right.hasGpuOffset ∧ left.gpuOffsetMHz = right.gpuOffsetMHz ∧
    left.gpuOffsetExcludeLowCount = right.gpuOffsetExcludeLowCount ∧
    left.hasMemOffset = right.hasMemOffset ∧ left.memOffsetMHz = right.memOffsetMHz ∧
    left.hasPowerLimit = right.hasPowerLimit ∧ left.powerLimitPct = right.powerLimitPct ∧
    left.hasFan = right.hasFan ∧ left.fanAuto = right.fanAuto ∧
    left.fanMode = right.fanMode ∧ left.fanPercent = right.fanPercent ∧
    left.fanCurve.pollIntervalMs = right.fanCurve.pollIntervalMs ∧
    left.fanCurve.hysteresisC = right.fanCurve.hysteresisC ∧
    left.fanCurve.zeroRpmEnabled = right.fanCurve.zeroRpmEnabled ∧
    left.fanCurve.zeroRpmHysteresisC = right.fanCurve.zeroRpmHysteresisC ∧
    left.resetOcBeforeApply = right.resetOcBeforeApply ∧
    left.hasXbarOffsetKhz = right.hasXbarOffsetKhz ∧
    left.xbarOffsetKhz = right.xbarOffsetKhz ∧
    left.hasXbarMsvddOffsetUv = right.hasXbarMsvddOffsetUv ∧
    left.xbarMsvddOffsetUv = right.xbarMsvddOffsetUv ∧
    left.hasSysClkOffsetKhz = right.hasSysClkOffsetKhz ∧
    left.sysClkOffsetKhz = right.sysClkOffsetKhz ∧
    left.hasVideoClkOffsetKhz = right.hasVideoClkOffsetKhz ∧
    left.videoClkOffsetKhz = right.videoClkOffsetKhz) &&
  (List.range FAN_CURVE_MAX_POINTS).all fun i =>
    decide (left.fanCurve.points.getD i {} = right.fanCurve.points.getD i {})

inductive StartupSnapshotState where
  | notApplicable | unknown | inSync | diverged | profileMissing
  deriving DecidableEq, Repr

/-- `startup_snapshot_state_for`. -/
def startupSnapshotStateFor (policyMode : ServiceStartupPolicyMode) (policySlot : Nat)
    (snapshot profile : Option DesiredSettings) : StartupSnapshotState :=
  if policyMode ≠ .profile ∨ startupSnapshotSlotIsValid policySlot = false then .notApplicable
  else
    match snapshot, profile with
    | none, _ => .unknown
    | some _, none => .profileMissing
    | some snapshot, some profile =>
      if desiredSettingsEqual snapshot profile then .inSync else .diverged

theorem desiredSettingsEqual_refl (d : DesiredSettings) : desiredSettingsEqual d d = true := by
  simp [desiredSettingsEqual]

/-! ## The refreshed copy -/

/-- **A refreshed copy is in sync.**  Whatever the file says, a profile that loads is left
alone by the boundary of the daemon and by the editor; so a refresh of a valid policy for
its slot that reaches the disk succeeds, and comparing what it stored with the profile
loaded again says so. -/
theorem refresh_inSync {text : Ini.Text} {slot : Nat} {p : DesiredSettings}
    (hload : Profile.loadProfile text slot = .ok p) :
    validateDesiredSettingsForIpc p = p ∧ normalizeDesiredSettingsForUi p = p ∧
      ∀ policy : StartupSnapshot, policy.mode = .profile → policy.profileSlot = slot →
        policy.valid = true →
        ∃ record, daemonHandleRefreshStartupProfile policy slot p true = (record, true) ∧
          record.desired = p ∧
          startupSnapshotStateFor record.mode record.profileSlot (some record.desired)
            (Profile.loadProfile text slot).toOption = .inSync := by
  have hloaded := Profile.loaded_of_loadProfile hload
  refine ⟨hloaded.validate_eq, hloaded.normalize_eq, ?_⟩
  intro policy hmode hslot hvalid
  have hslotValid : startupSnapshotSlotIsValid slot = true ∧ policy.target.valid = true ∧
      policy.target.pciInfoValid = true := by
    simp only [StartupSnapshot.valid, hmode, hslot, Bool.and_eq_true] at hvalid
    exact ⟨hvalid.1.1, hvalid.1.2, hvalid.2⟩
  refine ⟨⟨.profile, slot, policy.profileName, policy.target, p⟩, ?_, rfl, ?_⟩
  · simp [daemonHandleRefreshStartupProfile, startupSnapshotRefreshAllowed, hmode, hslot,
      startupInitializeSnapshot, StartupSnapshot.valid, hslotValid, hloaded.validate_eq]
  · simp [startupSnapshotStateFor, hslotValid.1, hload, Except.toOption,
      desiredSettingsEqual_refl]

/-- A file of an older build, its curve stored without the offset. -/
def legacyProfileText : Ini.Text :=
  "[profile2]\ngpu_offset_mhz=90\nlock_ci=12\nmem_offset_mhz=5000\nfan=40\n\n[profile2_curve]\n".toList ++
    "curve_semantics=base_plus_gpu_offset\npoint9=1500\npoint10=1400\n".toList

theorem refresh_inSync_legacy : ∃ p, Profile.loadProfile legacyProfileText 2 = .ok p ∧
    ∃ record, daemonHandleRefreshStartupProfile
        ⟨.profile, 2, "Profile 2", ⟨true, true⟩, {}⟩ 2 p true = (record, true) ∧
      record.desired = p ∧
      startupSnapshotStateFor record.mode record.profileSlot (some record.desired)
        (Profile.loadProfile legacyProfileText 2).toOption = .inSync := by
  have hok : (Profile.loadProfile legacyProfileText 2).isOk = true := by decide +kernel
  cases hload : Profile.loadProfile legacyProfileText 2 with
  | error e =>
    rw [hload] at hok
    cases hok
  | ok p =>
    have h := (refresh_inSync hload).2.2 ⟨.profile, 2, "Profile 2", ⟨true, true⟩, {}⟩ rfl rfl
      (by decide)
    rw [hload] at h
    exact ⟨p, rfl, h⟩

end GreenCurve
