import GreenCurve.RecordMigration
import Mathlib.Data.List.TakeWhile

/-! # The startup record

Its generations are told apart and widened as those of the state record are.
Only a policy that names a profile owns a slot, a name, a GPU and settings; any
other is widened to its mode alone. -/

namespace GreenCurve.Records

inductive StartupGeneration where
  | current | schema1 | schema2 | schema3 | preTrustedRole
  deriving DecidableEq

namespace StartupGeneration

abbrev layout : StartupGeneration → Layout StartupMember
  | .current => linuxDaemonStartupRecord
  | .preTrustedRole => linuxDaemonStartupRecordSchema3
  | .schema3 => linuxDaemonStartupRecordSchema3
  | .schema2 => linuxDaemonStartupRecordSchema2
  | .schema1 => linuxDaemonStartupRecordSchema1

/-- The first and the last version of a generation. -/
abbrev versions : StartupGeneration → UInt32 × UInt32
  | .current => (LINUX_DAEMON_STARTUP_VERSION, LINUX_DAEMON_STARTUP_VERSION)
  | .preTrustedRole =>
    (LINUX_DAEMON_STARTUP_PRE_TRUSTED_ROLE_VERSION, LINUX_DAEMON_STARTUP_PRE_TRUSTED_ROLE_VERSION)
  | .schema3 => (LINUX_DAEMON_STARTUP_PRE_UUID_VERSION, LINUX_DAEMON_STARTUP_PRE_UUID_VERSION)
  | .schema2 =>
    (LINUX_DAEMON_STARTUP_PRE_LOCATION_ROLE_VERSION, LINUX_DAEMON_STARTUP_PRE_LOCATION_ROLE_VERSION)
  | .schema1 =>
    (LINUX_DAEMON_STARTUP_PRE_DISPLAY_MEM_UNITS_VERSION,
      LINUX_DAEMON_STARTUP_PRE_PROVENANCE_VERSION)

abbrev settings : StartupGeneration → Layout DesiredMember
  | .current => desiredSettings
  | .preTrustedRole => desiredSettingsSchema2
  | .schema3 => desiredSettingsSchema2
  | .schema2 => desiredSettingsSchema2
  | .schema1 => desiredSettingsSchema1

theorem frozenSettings (g : StartupGeneration) : FrozenSettings g.settings := by
  cases g with
  | schema1 => exact .inl rfl
  | current => exact .inr rfl
  | schema2 => exact .inr rfl
  | schema3 => exact .inr rfl
  | preTrustedRole => exact .inr rfl

theorem span_target (g : StartupGeneration) :
    (g.layout.span .targetGpu).size = gpuAdapterInfo.size := by
  cases g <;> decide

theorem span_desired (g : StartupGeneration) :
    (g.layout.span .desired).size = g.settings.size := by
  cases g <;> decide +kernel

theorem span_name (g : StartupGeneration) :
    (g.layout.span .profileName).size = LINUX_DAEMON_STARTUP_NAME_MAX := by
  cases g <;> decide

end StartupGeneration

/-- A stored startup record that passes the checks of its generation. -/
structure StoredStartup where
  generation : StartupGeneration
  record : Record generation.layout
  valid : startupRecordValid generation.layout generation.versions.1 generation.versions.2 record =
    true

namespace StoredStartup
variable (s : StoredStartup)

def desired : Record s.generation.settings := s.record.nested s.generation.settings .desired

/-- The memory offset is in effective MHz. -/
def storesEffective : Bool :=
  match s.generation with
  | .schema1 =>
    decide (s.record.word .version ≤ LINUX_DAEMON_STARTUP_PRE_DISPLAY_MEM_UNITS_VERSION)
  | _ => false

/-- The role the record is read under. -/
def readRole : UInt32 :=
  match s.generation with
  | .current => s.record.word .targetLocationRole
  | .schema3 => s.record.word .targetLocationRole
  | .preTrustedRole => linuxDaemonPreTrustedRoleReread (s.record.word .targetLocationRole)
  | _ => LINUX_DAEMON_LEGACY_LOCATION_ROLE

/-- The policy names a profile. -/
def NamesProfile : Prop := s.record.word .mode = SERVICE_STARTUP_POLICY_PROFILE

/-- The record a stored one of an older generation is widened to. -/
def widened : Record linuxDaemonStartupRecord :=
  widenStartup s.record (desiredSettingsWiden s.generation.settings s.desired) s.storesEffective
    s.readRole

end StoredStartup

/-! ## C strings -/

theorem cString_ne_zero {text : Bytes} {c : UInt8} (h : c ∈ cString text) : (c != 0) = true :=
  List.mem_takeWhile_imp (p := fun c : UInt8 => c != 0) h

/-- A terminated text is longer than its string. -/
theorem length_cString_lt {text : Bytes} (h : serviceWireStringIsTerminated text = true) :
    (cString text).length < text.length := by
  have hzero : (0 : UInt8) ∈ text := List.contains_iff_mem.mp h
  have hle := (List.takeWhile_prefix (fun c : UInt8 => c != 0) (l := text)).length_le
  refine lt_of_le_of_ne hle fun heq => ?_
  have hwhole : cString text = text := (List.takeWhile_prefix _).eq_of_length heq
  exact absurd (cString_ne_zero (hwhole.symm ▸ hzero)) (by decide)

/-- A string that fits its field with its terminator is read back. -/
theorem cString_fit {n : Nat} {text : Bytes} (h : (cString text).length < n) :
    cString (Bytes.fit n ((cString text).take (n - 1))) = cString text := by
  obtain ⟨pad, hpad⟩ : ∃ pad, n - (cString text).length = pad + 1 :=
    ⟨n - (cString text).length - 1, by omega⟩
  rw [List.take_of_length_le (by omega), Bytes.fit, List.take_of_length_le (by omega), hpad,
    cString, List.takeWhile_append_of_pos fun _ => cString_ne_zero, List.replicate_succ,
    List.takeWhile_cons_of_neg (by decide), List.append_nil]

/-! ## A record that was initialised -/

section Initialize
variable (mode slot : UInt32) (name target : Bytes) (desired : Record desiredSettings)
  (role : UInt32) (uuid : Option Bytes)

theorem startupWord_size {f : StartupMember} (h : f ∈ [StartupMember.magic, .version, .size,
    .mode, .profileSlot, .targetLocationRole, .checksum]) :
    (linuxDaemonStartupRecord.span f).size = 4 := by
  revert f
  decide

/-- What every policy is initialised with. -/
theorem startupInitialize_words :
    let record := linuxDaemonStartupInitialize mode slot name target desired role uuid
    record.word .magic = LINUX_DAEMON_STARTUP_MAGIC ∧
      record.word .version = LINUX_DAEMON_STARTUP_VERSION ∧
      record.word .size = UInt32.ofNat linuxDaemonStartupRecord.size ∧
      record.word .mode = mode ∧
      record.word .checksum = linuxDaemonRecordHashBytes (record.before .checksum) := by
  have hchecksum := startupWord_size (f := .checksum) (by decide)
  unfold linuxDaemonStartupInitialize fillProfile
  refine ⟨?_, ?_, ?_, ?_, Record.word_sealed hchecksum⟩ <;> split_ifs <;>
    simp [Record.word, Record.get_sealed_of_ne, Record.get_set_of_ne, Record.get_set,
      startupWord_size]

section Profile

theorem startupInitialize_profile (hprofile : mode = SERVICE_STARTUP_POLICY_PROFILE)
    (htarget : target.length = gpuAdapterInfo.size) :
    let record := linuxDaemonStartupInitialize mode slot name target desired role uuid
    record.word .profileSlot = slot ∧ record.word .targetLocationRole = role ∧
      record.get .profileName = Bytes.fit LINUX_DAEMON_STARTUP_NAME_MAX
        ((cString name).take (LINUX_DAEMON_STARTUP_NAME_MAX - 1)) ∧
      record.get .targetGpu = target ∧ record.nested desiredSettings .desired = desired := by
  have hname : (linuxDaemonStartupRecord.span .profileName).size = LINUX_DAEMON_STARTUP_NAME_MAX :=
    StartupGeneration.span_name .current
  have htargetSize : (linuxDaemonStartupRecord.span .targetGpu).size = gpuAdapterInfo.size :=
    StartupGeneration.span_target .current
  have hdesired : (linuxDaemonStartupRecord.span .desired).size = desiredSettings.size :=
    StartupGeneration.span_desired .current
  simp only [linuxDaemonStartupInitialize, fillProfile, if_pos hprofile]
  refine ⟨?_, ?_, ?_, ?_, Record.nested_of_get ?_⟩
  · simp [Record.word, Record.get_sealed_of_ne, Record.get_set_of_ne, Record.get_set,
      startupWord_size]
  · simp [Record.word, Record.get_sealed_of_ne, Record.get_set_of_ne, Record.get_set,
      startupWord_size]
  · simp [Record.get_sealed_of_ne, Record.get_set_of_ne, Record.get_set, hname]
  · simp [Record.get_sealed_of_ne, Record.get_set_of_ne, Record.get_set, htargetSize,
      Bytes.fit_of_length htarget]
  · simp [Record.get_sealed_of_ne, Record.get_set, hdesired,
      Bytes.fit_of_length desired.length_eq]

/-- A policy that names no profile is initialised with nothing but its mode. -/
theorem startupInitialize_other (hother : mode ≠ SERVICE_STARTUP_POLICY_PROFILE)
    {f : StartupMember} (hf : f ∉ [StartupMember.magic, .version, .size, .mode, .checksum]) :
    (linuxDaemonStartupInitialize mode slot name target desired role uuid).get f =
      List.replicate (linuxDaemonStartupRecord.span f).size 0 := by
  simp only [List.mem_cons, List.not_mem_nil, or_false, not_or] at hf
  obtain ⟨hmagic, hversion, hsize, hmode, hchecksum⟩ := hf
  simp only [linuxDaemonStartupInitialize, if_neg hother]
  rw [Record.get_sealed_of_ne hchecksum, Record.get_set_of_ne hmode,
    Record.get_set_of_ne hsize, Record.get_set_of_ne hversion, Record.get_set_of_ne hmagic,
    Record.get_zero]

end Profile

end Initialize

/-! ## What is kept -/

/-- The record `r` says what the stored record `s` said. -/
structure StartupKept (s : StoredStartup) (r : Record linuxDaemonStartupRecord) : Prop where
  valid : linuxDaemonStartupValid r = true
  mode : r.word .mode = s.record.word .mode
  slot : r.word .profileSlot = s.record.word .profileSlot
  role : r.word .targetLocationRole = s.readRole
  profile : s.generation = .current ∨ s.NamesProfile →
    cString (r.get .profileName) = cString (s.record.get .profileName) ∧
      r.get .targetGpu = s.record.get .targetGpu ∧
      SettingsKept s.generation.settings s.storesEffective s.desired
        (r.nested desiredSettings .desired)
  /-- A policy that names no profile is widened without what it does not own. -/
  other : s.generation ≠ .current → ¬ s.NamesProfile →
    ∀ f ∈ [StartupMember.profileName, .targetGpu, .desired],
      r.get f = List.replicate (linuxDaemonStartupRecord.span f).size 0

/-- What the checks of a stored record say of its policy. -/
structure StoredStartup.Checked (s : StoredStartup) : Prop where
  mode : s.record.word .mode < SERVICE_STARTUP_POLICY_MODE_COUNT
  role : s.record.word .targetLocationRole ≤ GPU_LOCATION_ROLE_REQUIRED
  name : serviceWireStringIsTerminated (s.record.get .profileName) = true
  coherent : startupPolicyCoherent s.record = true

theorem StoredStartup.checked (s : StoredStartup) : s.Checked := by
  have hvalid := s.valid
  simp only [startupRecordValid, startupRecordValidExceptVersion, Bool.and_eq_true,
    decide_eq_true_eq] at hvalid
  obtain ⟨⟨⟨⟨⟨⟨⟨_, hmode⟩, hrole⟩, _⟩, hname⟩, hcoherent⟩, _⟩, _⟩ := hvalid
  exact ⟨hmode, hrole, hname, hcoherent⟩

theorem StoredStartup.readRole_le (s : StoredStartup) : s.readRole ≤ GPU_LOCATION_ROLE_REQUIRED := by
  have hrole := s.checked.role
  unfold StoredStartup.readRole linuxDaemonPreTrustedRoleReread
  split
  · exact hrole
  · exact hrole
  · split_ifs <;> decide
  · decide

/-- A policy that names no profile has no slot, no target and no role. -/
theorem StoredStartup.other (s : StoredStartup) (h : ¬ s.NamesProfile) :
    s.record.word .profileSlot = 0 ∧ s.readRole = GPU_LOCATION_ROLE_UNRECORDED := by
  have hcoherent := s.checked.coherent
  have hmode : s.record.word .mode ≠ SERVICE_STARTUP_POLICY_PROFILE := h
  simp only [startupPolicyCoherent, if_neg hmode, Bool.and_eq_true, beq_iff_eq] at hcoherent
  obtain ⟨⟨hslot, -⟩, hrole⟩ := hcoherent
  refine ⟨hslot, ?_⟩
  unfold StoredStartup.readRole linuxDaemonPreTrustedRoleReread
  split
  · exact hrole
  · exact hrole
  · rw [hrole]
    rfl
  · rfl

theorem terminated_fit {n : Nat} {text : Bytes} (h : text.length < n) :
    serviceWireStringIsTerminated (Bytes.fit n text) = true := by
  refine List.contains_iff_mem.mpr (List.mem_append_right _ ?_)
  exact List.mem_replicate.mpr ⟨by omega, rfl⟩

/-- Coherence only looks at the slot and the target of a profile policy. -/
theorem coherent_of_profile {l l' : Layout StartupMember} {record : Record l} {record' : Record l'}
    (hprofile : record.word .mode = SERVICE_STARTUP_POLICY_PROFILE)
    (hmode : record'.word .mode = record.word .mode)
    (hslot : record'.word .profileSlot = record.word .profileSlot)
    (htarget : record'.get .targetGpu = record.get .targetGpu)
    (h : startupPolicyCoherent record = true) : startupPolicyCoherent record' = true := by
  have hnested : record'.nested gpuAdapterInfo .targetGpu = record.nested gpuAdapterInfo .targetGpu := by
    apply Record.ext
    show Bytes.fit _ _ = Bytes.fit _ _
    rw [htarget]
  simp only [startupPolicyCoherent, hprofile, hmode.trans hprofile, hslot, hnested] at h ⊢
  exact h

theorem linuxDaemonStartupValid_widened (s : StoredStartup)
    (hrole : s.widened.word .targetLocationRole ≤ GPU_LOCATION_ROLE_REQUIRED)
    (hname : serviceWireStringIsTerminated (s.widened.get .profileName) = true)
    (hcoherent : startupPolicyCoherent s.widened = true) :
    linuxDaemonStartupValid s.widened = true := by
  obtain ⟨hmagic, hversion, hsize, hmode, hchecksum⟩ := startupInitialize_words
    (s.record.word .mode) (s.record.word .profileSlot) (s.record.get .profileName)
    (s.record.get .targetGpu) (migrateUnits s.storesEffective
      (desiredSettingsWiden s.generation.settings s.desired)) s.readRole none
  have hmodeLt : s.widened.word .mode < SERVICE_STARTUP_POLICY_MODE_COUNT :=
    lt_of_eq_of_lt hmode s.checked.mode
  have hmagic : s.widened.word .magic = LINUX_DAEMON_STARTUP_MAGIC := hmagic
  have hversion : s.widened.word .version = LINUX_DAEMON_STARTUP_VERSION := hversion
  have hsize : s.widened.word .size = UInt32.ofNat linuxDaemonStartupRecord.size := hsize
  have hchecksum : s.widened.word .checksum =
    linuxDaemonRecordHashBytes (s.widened.before .checksum) := hchecksum
  simp [linuxDaemonStartupValid, startupRecordValid, startupRecordValidExceptVersion, hmagic,
    hversion, hsize, hmodeLt, hrole, hchecksum, hname, hcoherent]

/-- A profile policy is kept when it is widened. -/
theorem startupKept_profile (s : StoredStartup)
    (hprofile : s.record.word .mode = SERVICE_STARTUP_POLICY_PROFILE) :
    StartupKept s s.widened := by
  obtain ⟨-, -, hterminated, hcoherent⟩ := s.checked
  obtain ⟨-, -, -, hmode, -⟩ := startupInitialize_words
    (s.record.word .mode) (s.record.word .profileSlot) (s.record.get .profileName)
    (s.record.get .targetGpu) (migrateUnits s.storesEffective
      (desiredSettingsWiden s.generation.settings s.desired)) s.readRole none
  have htarget : (s.record.get .targetGpu).length = gpuAdapterInfo.size :=
    (s.record.length_get _).trans s.generation.span_target
  have hnameLength : (s.record.get .profileName).length = LINUX_DAEMON_STARTUP_NAME_MAX :=
    (s.record.length_get _).trans s.generation.span_name
  obtain ⟨hslot, hrole, hname, hgpu, hdesired⟩ := startupInitialize_profile
    (s.record.word .mode) (s.record.word .profileSlot) (s.record.get .profileName)
    (s.record.get .targetGpu) (migrateUnits s.storesEffective
      (desiredSettingsWiden s.generation.settings s.desired)) s.readRole none hprofile htarget
  have hfits : (cString (s.record.get .profileName)).length < LINUX_DAEMON_STARTUP_NAME_MAX :=
    hnameLength ▸ length_cString_lt hterminated
  refine ⟨?_, hmode, hslot, hrole, fun _ => ⟨?_, hgpu, ?_⟩, fun _ hother => absurd hprofile hother⟩
  · refine linuxDaemonStartupValid_widened s (le_of_eq_of_le hrole s.readRole_le) ?_
      (coherent_of_profile hprofile hmode hslot hgpu hcoherent)
    refine (congrArg serviceWireStringIsTerminated hname).trans (terminated_fit ?_)
    exact lt_of_le_of_lt (List.length_take_le _ _) (by decide)
  · exact (congrArg cString hname).trans (cString_fit hfits)
  · have hwidened : s.widened.nested desiredSettings .desired = migrateUnits s.storesEffective
        (desiredSettingsWiden s.generation.settings s.desired) := hdesired
    rw [hwidened]
    exact settingsKept_widen s.generation.frozenSettings _ _

/-- Any other policy keeps its mode, and that it names nothing. -/
theorem startupKept_other (s : StoredStartup) (h : s.generation ≠ .current)
    (hother : s.record.word .mode ≠ SERVICE_STARTUP_POLICY_PROFILE) : StartupKept s s.widened := by
  obtain ⟨hslot, hrole⟩ := s.other hother
  obtain ⟨-, -, -, hmode, -⟩ := startupInitialize_words
    (s.record.word .mode) (s.record.word .profileSlot) (s.record.get .profileName)
    (s.record.get .targetGpu) (migrateUnits s.storesEffective
      (desiredSettingsWiden s.generation.settings s.desired)) s.readRole none
  have hzero : ∀ f ∉ [StartupMember.magic, .version, .size, .mode, .checksum], s.widened.get f =
      List.replicate (linuxDaemonStartupRecord.span f).size 0 := fun f hf =>
    startupInitialize_other _ _ _ _ _ _ _ hother hf
  have hslotZero : s.widened.word .profileSlot = 0 := by
    rw [Record.word, hzero _ (by decide)]
    rfl
  have hroleZero : s.widened.word .targetLocationRole = 0 := by
    rw [Record.word, hzero _ (by decide)]
    rfl
  have htarget : (s.widened.nested gpuAdapterInfo .targetGpu).byte .valid = 0 := by
    have hnested : s.widened.nested gpuAdapterInfo .targetGpu = Record.zero gpuAdapterInfo :=
      Record.nested_of_get (hzero _ (by decide))
    rw [hnested, Record.byte, Record.get_zero]
    rfl
  refine ⟨?_, hmode, hslotZero.trans hslot.symm, hroleZero.trans hrole.symm, fun howned => ?_,
    fun _ _ f hf => hzero f ?_⟩
  · refine linuxDaemonStartupValid_widened s (by rw [hroleZero]; decide) ?_ ?_
    · rw [hzero _ (by decide)]
      rfl
    · have hmode : s.widened.word .mode ≠ SERVICE_STARTUP_POLICY_PROFILE :=
        fun heq => hother (hmode.symm.trans heq)
      simp [startupPolicyCoherent, hmode, hslotZero, hroleZero, htarget]
  · exact absurd (howned.resolve_left h) hother
  · revert f
    decide

/-! ## Load and store -/

/-- The record a stored one is loaded as. -/
def StoredStartup.loaded : StoredStartup → Record linuxDaemonStartupRecord
  | ⟨.current, record, _⟩ => record
  | s => s.widened

theorem startupKept_loaded (s : StoredStartup) : StartupKept s s.loaded := by
  have hwidened : s.generation ≠ .current → StartupKept s s.widened := by
    intro hold
    by_cases hprofile : s.record.word .mode = SERVICE_STARTUP_POLICY_PROFILE
    · exact startupKept_profile s hprofile
    · exact startupKept_other s hold hprofile
  obtain ⟨g, record, hvalid⟩ := s
  cases g with
  | current =>
    exact ⟨hvalid, rfl, rfl, rfl, fun _ => ⟨rfl, rfl, settingsKept_refl _⟩,
      fun hold => absurd rfl hold⟩
  | schema1 => exact hwidened (by simp)
  | schema2 => exact hwidened (by simp)
  | schema3 => exact hwidened (by simp)
  | preTrustedRole => exact hwidened (by simp)

theorem startupVersion_of_valid {l : Layout StartupMember} {version : UInt32} {record : Record l}
    (h : startupRecordValid l version version record = true) : record.word .version = version := by
  simp only [startupRecordValid, Bool.and_eq_true, decide_eq_true_eq] at h
  exact UInt32.le_antisymm h.2 h.1.2

theorem startupRecordValid_mono {l : Layout StartupMember} {low high low' high' : UInt32}
    {record : Record l} (hlow : low' ≤ low) (hhigh : high ≤ high')
    (h : startupRecordValid l low high record = true) :
    startupRecordValid l low' high' record = true := by
  simp only [startupRecordValid, Bool.and_eq_true, decide_eq_true_eq] at h ⊢
  exact ⟨⟨h.1.1, UInt32.le_trans hlow h.1.2⟩, UInt32.le_trans h.2 hhigh⟩

section Decode

theorem decodeStartup_current (record : Record linuxDaemonStartupRecord) :
    decodeStartup record.bytes = some record := by
  rw [decodeStartup, Record.ofBytes_bytes]

theorem decodeStartup_schema3 (record : Record linuxDaemonStartupRecordSchema3) :
    decodeStartup record.bytes = linuxDaemonStartupWidenSchema3 record := by
  have hsizes := startupLayout_sizes
  rw [decodeStartup, Record.ofBytes_of_size_ne (by omega), Record.ofBytes_bytes]

theorem decodeStartup_schema2 (record : Record linuxDaemonStartupRecordSchema2) :
    decodeStartup record.bytes = linuxDaemonStartupWidenSchema2 record := by
  have hsizes := startupLayout_sizes
  rw [decodeStartup, Record.ofBytes_of_size_ne (by omega), Record.ofBytes_of_size_ne (by omega),
    Record.ofBytes_bytes]

theorem decodeStartup_schema1 (record : Record linuxDaemonStartupRecordSchema1) :
    decodeStartup record.bytes = linuxDaemonStartupWidenSchema1 record := by
  have hsizes := startupLayout_sizes
  rw [decodeStartup, Record.ofBytes_of_size_ne (by omega), Record.ofBytes_of_size_ne (by omega),
    Record.ofBytes_of_size_ne (by omega), Record.ofBytes_bytes]

end Decode

/-- A stored record is recognised by its size and widened. -/
theorem decodeStartup_stored (s : StoredStartup) :
    decodeStartup s.record.bytes = some s.loaded := by
  have hkept := (startupKept_loaded s).valid
  obtain ⟨g, record, hvalid⟩ := s
  cases g with
  | current => exact decodeStartup_current record
  | schema3 =>
    have hversion := startupVersion_of_valid hvalid
    have hchecked : linuxDaemonStartupSchema3Valid record = true :=
      startupRecordValid_mono (by decide) (by decide) hvalid
    rw [decodeStartup_schema3, linuxDaemonStartupWidenSchema3, if_neg (by simp [hchecked]),
      storedRole, if_neg (by rw [hversion]; decide)]
    exact Option.filter_some_pos hkept
  | preTrustedRole =>
    have hversion := startupVersion_of_valid hvalid
    have hchecked : linuxDaemonStartupSchema3Valid record = true :=
      startupRecordValid_mono (by decide) (by decide) hvalid
    rw [decodeStartup_schema3, linuxDaemonStartupWidenSchema3, if_neg (by simp [hchecked]),
      storedRole, if_pos hversion]
    exact Option.filter_some_pos hkept
  | schema2 =>
    have hchecked : linuxDaemonStartupSchema2Valid record = true := hvalid
    rw [decodeStartup_schema2, linuxDaemonStartupWidenSchema2, if_neg (by simp [hchecked])]
    exact Option.filter_some_pos hkept
  | schema1 =>
    have hchecked : linuxDaemonStartupSchema1Valid record = true := hvalid
    rw [decodeStartup_schema1, linuxDaemonStartupWidenSchema1, if_neg (by simp [hchecked])]
    rfl

theorem linuxDaemonStartupLoad_stored (s : StoredStartup) :
    linuxDaemonStartupLoad true s.record.bytes = some s.loaded := by
  have hvalid := (startupKept_loaded s).valid
  show (decodeStartup s.record.bytes).filter _ = _
  rw [decodeStartup_stored]
  exact Option.filter_some_pos hvalid

/-- The first role generation and the one after it share a layout. -/
theorem startupVersion_of_schema3 {record : Record linuxDaemonStartupRecordSchema3}
    (h : linuxDaemonStartupSchema3Valid record = true) :
    record.word .version = LINUX_DAEMON_STARTUP_PRE_TRUSTED_ROLE_VERSION ∨
      record.word .version = LINUX_DAEMON_STARTUP_PRE_UUID_VERSION := by
  simp only [linuxDaemonStartupSchema3Valid, startupRecordValid, Bool.and_eq_true,
    decide_eq_true_eq, UInt32.le_iff_toNat_le] at h
  rcases Nat.eq_or_lt_of_le h.1.2 with heq | hlt
  · exact .inl (UInt32.toNat_inj.mp heq.symm)
  · exact .inr (UInt32.toNat_inj.mp (Nat.le_antisymm h.2 hlt))

/-- Only a stored record of one of the generations is loaded. -/
theorem stored_of_decodeStartup {content : Bytes} {r : Record linuxDaemonStartupRecord}
    (h : decodeStartup content = some r) (hvalid : linuxDaemonStartupValid r = true) :
    ∃ s : StoredStartup, s.record.bytes = content := by
  unfold decodeStartup at h
  split at h
  · rename_i record hread
    cases h
    exact ⟨⟨.current, r, hvalid⟩, (Record.ofBytes_eq_some.mp hread).symm⟩
  split at h
  · rename_i record hread
    have hchecked := of_guard h
    have hcontent := (Record.ofBytes_eq_some.mp hread).symm
    obtain ⟨hexcept, -⟩ : startupRecordValidExceptVersion _ record = true ∧ _ := by
      simpa only [linuxDaemonStartupSchema3Valid, startupRecordValid, Bool.and_assoc,
        Bool.and_eq_true] using hchecked
    -- The version tells the two generations of this layout apart.
    rcases startupVersion_of_schema3 hchecked with hversion | hversion
    · refine ⟨⟨.preTrustedRole, record, ?_⟩, hcontent⟩
      simp [startupRecordValid, hexcept, hversion]
    · refine ⟨⟨.schema3, record, ?_⟩, hcontent⟩
      simp [startupRecordValid, hexcept, hversion]
  split at h
  · rename_i record hread
    exact ⟨⟨.schema2, record, of_guard h⟩, (Record.ofBytes_eq_some.mp hread).symm⟩
  split at h
  · rename_i record hread
    exact ⟨⟨.schema1, record, of_guard h⟩, (Record.ofBytes_eq_some.mp hread).symm⟩
  · cases h

theorem stored_of_startupLoad {file : Bool} {content : Bytes} {r : Record linuxDaemonStartupRecord}
    (h : linuxDaemonStartupLoad file content = some r) :
    ∃ s : StoredStartup, s.record.bytes = content ∧ s.loaded = r := by
  unfold linuxDaemonStartupLoad at h
  cases file with
  | false => exact nomatch h
  | true =>
    obtain ⟨hdecode, hvalid⟩ := Option.filter_eq_some_iff.mp h
    obtain ⟨s, hs⟩ := stored_of_decodeStartup hdecode hvalid
    have hloaded := decodeStartup_stored s
    rw [hs, hdecode] at hloaded
    cases hloaded
    exact ⟨s, hs, rfl⟩

/-- What is stored after a load is loaded again as it is. -/
theorem linuxDaemonStartupLoad_reload (s : StoredStartup) :
    linuxDaemonStartupStore s.loaded = some s.loaded.bytes ∧
      linuxDaemonStartupLoad true s.loaded.bytes = some s.loaded := by
  have hvalid := (startupKept_loaded s).valid
  refine ⟨?_, linuxDaemonStartupLoad_stored ⟨.current, s.loaded, hvalid⟩⟩
  rw [linuxDaemonStartupStore, hvalid]
  rfl

theorem StartupGeneration.span_version (g : StartupGeneration) :
    g.layout.span .version = ⟨4, 4⟩ := by
  cases g <;> decide

/-- The versions of one generation come before those of another. -/
theorem StartupGeneration.apart (g g' : StartupGeneration) :
    g = g' ∨ g.versions.2 < g'.versions.1 ∨ g'.versions.2 < g.versions.1 := by
  cases g <;> cases g' <;> decide

/-- No version is one of two generations. -/
theorem StartupGeneration.eq_of_version {g g' : StartupGeneration} {version : UInt32}
    (h : g.versions.1 ≤ version ∧ version ≤ g.versions.2)
    (h' : g'.versions.1 ≤ version ∧ version ≤ g'.versions.2) : g = g' := by
  rcases g.apart g' with heq | hlt | hlt
  · exact heq
  · exact absurd (UInt32.le_trans h'.1 h.2) (UInt32.not_le.mpr hlt)
  · exact absurd (UInt32.le_trans h.1 h'.2) (UInt32.not_le.mpr hlt)

/-- Every layout has its version in the same place, so a file is stored as one
generation. -/
theorem StoredStartup.generation_eq {s s' : StoredStartup}
    (h : s.record.bytes = s'.record.bytes) : s.generation = s'.generation := by
  have hversion : s.record.word .version = s'.record.word .version := by
    rw [Record.word, Record.word, Record.get, Record.get, s.generation.span_version,
      s'.generation.span_version, h]
  have hrange := s.valid
  have hrange' := s'.valid
  simp only [startupRecordValid, Bool.and_eq_true, decide_eq_true_eq] at hrange hrange'
  refine StartupGeneration.eq_of_version ⟨hrange.1.2, hrange.2⟩ ?_
  rw [hversion]
  exact ⟨hrange'.1.2, hrange'.2⟩

theorem StoredState.generation_eq {s s' : StoredState} (h : s.record.bytes = s'.record.bytes) :
    s.generation = s'.generation := by
  have hloaded := decodeState_stored s
  rw [h, decodeState_stored s'] at hloaded
  exact (congrArg Prod.snd (Option.some.inj hloaded)).symm

/-! ## The migration -/

/-- **Migration keeps the meaning of a stored record.**  Every stored record of
every generation is loaded as a current one that says the same and is loaded
again as it is; nothing else is loaded, and no file is a record of two
generations. -/
theorem migration_keeps :
    (∀ s : StoredState, StateKept s s.loaded ∧
      linuxDaemonStateLoad true s.record.bytes = some (s.loaded, s.generation) ∧
      linuxDaemonStateStore s.loaded = some s.loaded.bytes ∧
      linuxDaemonStateLoad true s.loaded.bytes = some (s.loaded, .current)) ∧
    (∀ s : StoredStartup, StartupKept s s.loaded ∧
      linuxDaemonStartupLoad true s.record.bytes = some s.loaded ∧
      linuxDaemonStartupStore s.loaded = some s.loaded.bytes ∧
      linuxDaemonStartupLoad true s.loaded.bytes = some s.loaded) ∧
    (∀ file content r g, linuxDaemonStateLoad file content = some (r, g) →
      ∃ s : StoredState, s.record.bytes = content ∧ s.loaded = r ∧ s.generation = g) ∧
    (∀ file content r, linuxDaemonStartupLoad file content = some r →
      ∃ s : StoredStartup, s.record.bytes = content ∧ s.loaded = r) ∧
    (∀ s s' : StoredState, s.record.bytes = s'.record.bytes → s.generation = s'.generation) ∧
    (∀ s s' : StoredStartup, s.record.bytes = s'.record.bytes → s.generation = s'.generation) := by
  refine ⟨fun s => ⟨stateKept_loaded s, linuxDaemonStateLoad_stored s, ?_⟩,
    fun s => ⟨startupKept_loaded s, linuxDaemonStartupLoad_stored s, ?_⟩, ?_, ?_, ?_, ?_⟩
  · exact linuxDaemonStateLoad_reload s
  · exact linuxDaemonStartupLoad_reload s
  · exact fun _ _ _ _ h => stored_of_load h
  · exact fun _ _ _ h => stored_of_startupLoad h
  · exact fun _ _ h => StoredState.generation_eq h
  · exact fun _ _ h => StoredStartup.generation_eq h

/-- A state record of version 5 whose role is advisory. -/
def advisoryRecord : Record linuxDaemonStateRecordSchema3 :=
  ((Record.zero linuxDaemonStateRecordSchema3)
    |>.set .magic (le32 LINUX_DAEMON_RECORD_MAGIC)
    |>.set .version (le32 LINUX_DAEMON_RECORD_PRE_TRUSTED_ROLE_VERSION)
    |>.set .size (le32 (UInt32.ofNat linuxDaemonStateRecordSchema3.size))
    |>.set .state (le32 LINUX_DAEMON_RECORD_PREPARED)
    |>.set .targetLocationRole (le32 GPU_LOCATION_ROLE_ADVISORY)).sealed
      linuxDaemonRecordHashBytes .checksum

theorem advisoryWord_size {f : StateMember} (h : f ∈ [StateMember.magic, .version, .size, .state,
    .operationState, .targetLocationRole, .checksum]) :
    (linuxDaemonStateRecordSchema3.span f).size = 4 := by
  revert f
  decide

theorem advisoryRecord_valid :
    stateRecordValid linuxDaemonStateRecordSchema3 LINUX_DAEMON_RECORD_PRE_TRUSTED_ROLE_VERSION
      LINUX_DAEMON_RECORD_PRE_TRUSTED_ROLE_VERSION advisoryRecord = true := by
  have hchecksum : advisoryRecord.word .checksum =
      linuxDaemonRecordHashBytes (advisoryRecord.before .checksum) :=
    Record.word_sealed (advisoryWord_size (by decide))
  have hsize : advisoryRecord.word .size = UInt32.ofNat linuxDaemonStateRecordSchema3.size := by
    simp [advisoryRecord, Record.word, Record.get_sealed_of_ne, Record.get_set_of_ne,
      Record.get_set, advisoryWord_size]
  simp only [stateRecordValid, stateRecordValidExceptVersion, ← hchecksum, hsize]
  simp [advisoryRecord, Record.word, Record.get_sealed_of_ne, Record.get_set_of_ne,
    Record.get_set, Record.get_zero, advisoryWord_size]
  decide

/-- A startup record of version 3 that applies nothing and has a name and a lock. -/
def namedRecord : Record linuxDaemonStartupRecordSchema2 :=
  ((Record.zero linuxDaemonStartupRecordSchema2)
    |>.set .magic (le32 LINUX_DAEMON_STARTUP_MAGIC)
    |>.set .version (le32 LINUX_DAEMON_STARTUP_PRE_LOCATION_ROLE_VERSION)
    |>.set .size (le32 (UInt32.ofNat linuxDaemonStartupRecordSchema2.size))
    |>.set .mode (le32 1)
    |>.set .profileName [97]
    |>.set .desired ((Record.zero desiredSettingsSchema2).set .hasLock [1]).bytes).sealed
      linuxDaemonRecordHashBytes .checksum

theorem namedWord_size {f : StartupMember} (h : f ∈ [StartupMember.magic, .version, .size, .mode,
    .profileSlot, .checksum]) : (linuxDaemonStartupRecordSchema2.span f).size = 4 := by
  revert f
  decide

theorem namedRecord_name :
    namedRecord.get .profileName = Bytes.fit LINUX_DAEMON_STARTUP_NAME_MAX [97] := by
  simp [namedRecord, Record.get_sealed_of_ne, Record.get_set_of_ne, Record.get_set,
    StartupGeneration.span_name .schema2]

theorem namedRecord_target :
    namedRecord.get .targetGpu = List.replicate (linuxDaemonStartupRecordSchema2.span .targetGpu).size 0 := by
  simp [namedRecord, Record.get_sealed_of_ne, Record.get_set_of_ne, Record.get_zero]

theorem namedRecord_desired :
    namedRecord.nested desiredSettingsSchema2 .desired =
      (Record.zero desiredSettingsSchema2).set .hasLock [1] := by
  have hsize : (linuxDaemonStartupRecordSchema2.span .desired).size = desiredSettingsSchema2.size :=
    StartupGeneration.span_desired .schema2
  apply Record.nested_of_get
  simp [namedRecord, Record.get_sealed_of_ne, Record.get_set, hsize,
    Bytes.fit_of_length (Record.length_eq _)]

theorem namedRecord_mode : namedRecord.word .mode = 1 := by
  simp [namedRecord, Record.word, Record.get_sealed_of_ne, Record.get_set_of_ne,
      Record.get_set, namedWord_size]

theorem namedRecord_valid : linuxDaemonStartupSchema2Valid namedRecord = true := by
  have hchecksum : namedRecord.word .checksum =
      linuxDaemonRecordHashBytes (namedRecord.before .checksum) :=
    Record.word_sealed (namedWord_size (by decide))
  have hsize : namedRecord.word .size = UInt32.ofNat linuxDaemonStartupRecordSchema2.size := by
    simp [namedRecord, Record.word, Record.get_sealed_of_ne, Record.get_set_of_ne,
      Record.get_set, namedWord_size]
  have hversion : namedRecord.word .version = LINUX_DAEMON_STARTUP_PRE_LOCATION_ROLE_VERSION := by
    simp [namedRecord, Record.word, Record.get_sealed_of_ne, Record.get_set_of_ne,
      Record.get_set, namedWord_size]
  have hslot : namedRecord.word .profileSlot = 0 := by
    simp [namedRecord, Record.word, Record.get_sealed_of_ne, Record.get_set_of_ne,
      Record.get_zero, namedWord_size]
    rfl
  have hmagic : namedRecord.word .magic = LINUX_DAEMON_STARTUP_MAGIC := by
    simp [namedRecord, Record.word, Record.get_sealed_of_ne, Record.get_set_of_ne,
      Record.get_set, namedWord_size]
  have hrole : namedRecord.word .targetLocationRole = 0 :=
    Record.word_of_absent (by decide) _
  have hname : serviceWireStringIsTerminated (namedRecord.get .profileName) = true := by
    rw [namedRecord_name]
    decide
  have htarget : namedRecord.nested gpuAdapterInfo .targetGpu = Record.zero gpuAdapterInfo := by
    apply Record.nested_of_get
    rw [namedRecord_target, StartupGeneration.span_target .schema2]
    rfl
  have hcoherent : startupPolicyCoherent namedRecord = true := by
    unfold startupPolicyCoherent
    dsimp only
    rw [if_neg (by rw [namedRecord_mode]; decide), hslot, htarget, hrole]
    decide
  simp only [linuxDaemonStartupSchema2Valid, startupRecordValid, startupRecordValidExceptVersion,
    Bool.and_eq_true, beq_iff_eq, decide_eq_true_eq, namedRecord_mode, hversion, hrole]
  exact ⟨⟨⟨⟨⟨⟨⟨⟨hmagic, hsize⟩, by decide⟩, by decide⟩, hchecksum⟩, hname⟩, hcoherent⟩, by decide⟩,
    by decide⟩

/-- An advisory role survives in the generation whose role is not trusted, and a
policy without a profile loses its name and its settings. -/
theorem migration_exceptions :
    linuxDaemonStateSchema3Valid advisoryRecord = true ∧
      (linuxDaemonStateLoad true advisoryRecord.bytes).map
        (fun loaded => (loaded.1.word .targetLocationRole, loaded.2)) =
        some (GPU_LOCATION_ROLE_ADVISORY, .preTrustedRole) ∧
      linuxDaemonStartupSchema2Valid namedRecord = true ∧
      (linuxDaemonStartupLoad true namedRecord.bytes).map
        (fun loaded => (cString (loaded.get .profileName),
          (loaded.nested desiredSettings .desired).byte .hasLock)) = some ([], 0) ∧
      cString (namedRecord.get .profileName) = [97] ∧
      (namedRecord.nested desiredSettingsSchema2 .desired).byte .hasLock = 1 := by
  have hrole : advisoryRecord.word .targetLocationRole = GPU_LOCATION_ROLE_ADVISORY := by
    simp [advisoryRecord, Record.word, Record.get_sealed_of_ne, Record.get_set, advisoryWord_size]
  let stored : StoredState := ⟨.preTrustedRole, advisoryRecord, advisoryRecord_valid⟩
  let policy : StoredStartup := ⟨.schema2, namedRecord, namedRecord_valid⟩
  have hother := (startupKept_loaded policy).other (by decide)
    (by show namedRecord.word .mode ≠ _; rw [namedRecord_mode]; decide)
  have hname := hother .profileName (by decide)
  have hsettings : policy.loaded.nested desiredSettings .desired = Record.zero desiredSettings := by
    have hsize : (linuxDaemonStartupRecord.span .desired).size = desiredSettings.size :=
      StartupGeneration.span_desired .current
    apply Record.nested_of_get
    rw [hother .desired (by decide), hsize, Record.zero]
  refine ⟨stateRecordValid_mono (by decide) (by decide) advisoryRecord_valid, ?_, namedRecord_valid,
    ?_, ?_, ?_⟩
  · rw [show advisoryRecord.bytes = stored.record.bytes from rfl, linuxDaemonStateLoad_stored stored]
    have h := (stateKept_loaded stored).role
    rw [Option.map_some, h]
    show some (linuxDaemonPreTrustedRoleReread (advisoryRecord.word .targetLocationRole), _) = _
    rw [hrole]
    rfl
  · rw [show namedRecord.bytes = policy.record.bytes from rfl, linuxDaemonStartupLoad_stored policy]
    rw [Option.map_some, hname, hsettings]
    decide +kernel
  · rw [namedRecord_name]
    decide
  · rw [namedRecord_desired]
    decide +kernel

end GreenCurve.Records
