import GreenCurve.DaemonRecords

/-! # What loading a stored record keeps

A stored record of any generation that passes the checks of its own layout is
loaded as a record of the current one.  Its operation, its target and its
settings are those of the old record; a memory offset in effective MHz is halved
once.  A startup record that does not name a profile owns nothing but its mode. -/

namespace GreenCurve.Records

/-! ## The state record -/

/-- The layout a generation is stored in. -/
abbrev LinuxDaemonRecordGeneration.layout : LinuxDaemonRecordGeneration → Layout StateMember
  | .current => linuxDaemonStateRecord
  | .preTrustedRole => linuxDaemonStateRecordSchema3
  | .schema3 => linuxDaemonStateRecordSchema3
  | .schema2 => linuxDaemonStateRecordSchema2
  | .schema1 => linuxDaemonStateRecordSchema1
  | .schema1V1 => linuxDaemonStateRecordSchema1V1

/-- The first and the last version of a generation. -/
abbrev LinuxDaemonRecordGeneration.versions : LinuxDaemonRecordGeneration → UInt32 × UInt32
  | .current => (LINUX_DAEMON_RECORD_VERSION, LINUX_DAEMON_RECORD_VERSION)
  | .preTrustedRole =>
    (LINUX_DAEMON_RECORD_PRE_TRUSTED_ROLE_VERSION, LINUX_DAEMON_RECORD_PRE_TRUSTED_ROLE_VERSION)
  | .schema3 => (LINUX_DAEMON_RECORD_PRE_UUID_VERSION, LINUX_DAEMON_RECORD_PRE_UUID_VERSION)
  | .schema2 =>
    (LINUX_DAEMON_RECORD_PRE_LOCATION_ROLE_VERSION, LINUX_DAEMON_RECORD_PRE_LOCATION_ROLE_VERSION)
  | .schema1 =>
    (LINUX_DAEMON_RECORD_PRE_DISPLAY_MEM_UNITS_VERSION, LINUX_DAEMON_RECORD_PRE_PROVENANCE_VERSION)
  | .schema1V1 =>
    (LINUX_DAEMON_RECORD_PRE_OPERATION_ID_VERSION, LINUX_DAEMON_RECORD_PRE_OPERATION_ID_VERSION)

abbrev LinuxDaemonRecordGeneration.settings : LinuxDaemonRecordGeneration → Layout DesiredMember
  | .current => desiredSettings
  | .preTrustedRole => desiredSettingsSchema2
  | .schema3 => desiredSettingsSchema2
  | .schema2 => desiredSettingsSchema2
  | .schema1 => desiredSettingsSchema1
  | .schema1V1 => desiredSettingsSchema1

/-- A stored state record that passes the checks of its generation. -/
structure StoredState where
  generation : LinuxDaemonRecordGeneration
  record : Record generation.layout
  valid : stateRecordValid generation.layout generation.versions.1 generation.versions.2 record = true

namespace StoredState
variable (s : StoredState)

def desired : Record s.generation.settings := s.record.nested s.generation.settings .desired

/-- The memory offset is in effective MHz. -/
def storesEffective : Bool :=
  match s.generation with
  | .schema1V1 => true
  | .schema1 =>
    decide (s.record.word .version ≤ LINUX_DAEMON_RECORD_PRE_DISPLAY_MEM_UNITS_VERSION)
  | _ => false

/-- The role the record is read under. -/
def readRole : UInt32 :=
  match s.generation with
  | .current => s.record.word .targetLocationRole
  | .schema3 => s.record.word .targetLocationRole
  | .preTrustedRole => linuxDaemonPreTrustedRoleReread (s.record.word .targetLocationRole)
  | _ => LINUX_DAEMON_LEGACY_LOCATION_ROLE

end StoredState

/-! ### A record that was initialised -/

section Initialize
variable (state : UInt32) (target : Bytes) (desired : Record desiredSettings)
  (operationId : Bytes) (operationState role : UInt32) (uuid : Option Bytes)

theorem stateWord_size {f : StateMember} (h : f ∈ [StateMember.magic, .version, .size, .state,
    .operationState, .targetLocationRole, .checksum]) : (linuxDaemonStateRecord.span f).size = 4 := by
  revert f
  decide

theorem initialize_words :
    let record := linuxDaemonRecordInitialize state target desired operationId operationState role uuid
    record.word .magic = LINUX_DAEMON_RECORD_MAGIC ∧
      record.word .version = LINUX_DAEMON_RECORD_VERSION ∧
      record.word .size = UInt32.ofNat linuxDaemonStateRecord.size ∧
      record.word .state = state ∧ record.word .operationState = operationState ∧
      record.word .targetLocationRole = role := by
  simp only [linuxDaemonRecordInitialize]
  refine ⟨?_, ?_, ?_, ?_, ?_, ?_⟩ <;>
    simp [Record.word, Record.get_sealed_of_ne, Record.get_set_of_ne, Record.get_set, stateWord_size]

theorem initialize_operationId :
    (linuxDaemonRecordInitialize state target desired operationId operationState role uuid).get
      .operationId = Bytes.fit 8 operationId := by
  have hsize : (linuxDaemonStateRecord.span .operationId).size = 8 := by decide
  simp [linuxDaemonRecordInitialize, Record.get_sealed_of_ne, Record.get_set_of_ne, Record.get_set,
    hsize]

theorem initialize_target (h : target.length = gpuAdapterInfo.size) :
    (linuxDaemonRecordInitialize state target desired operationId operationState role uuid).get
      .targetGpu = target := by
  have hsize : (linuxDaemonStateRecord.span .targetGpu).size = gpuAdapterInfo.size := by
    decide
  simp [linuxDaemonRecordInitialize, Record.get_sealed_of_ne, Record.get_set_of_ne, Record.get_set,
    hsize, Bytes.fit_of_length h]

theorem initialize_desired :
    (linuxDaemonRecordInitialize state target desired operationId operationState role uuid).nested
      desiredSettings .desired = desired := by
  have hsize : (linuxDaemonStateRecord.span .desired).size = desiredSettings.size := by
    decide +kernel
  apply Record.nested_of_get
  simp [linuxDaemonRecordInitialize, Record.get_sealed_of_ne, Record.get_set_of_ne, Record.get_set,
    hsize, Bytes.fit_of_length desired.length_eq]

theorem initialize_checksum :
    let record := linuxDaemonRecordInitialize state target desired operationId operationState role uuid
    record.word .checksum = linuxDaemonRecordHashBytes (record.before .checksum) :=
  Record.word_sealed (stateWord_size (by decide))

/-- A record is initialised so that it passes its own check. -/
theorem linuxDaemonRecordValid_initialize (hlow : LINUX_DAEMON_RECORD_PREPARED ≤ state)
    (hhigh : state ≤ LINUX_DAEMON_RECORD_UNCERTAIN)
    (hoperation : operationState ≤ SERVICE_OPERATION_OUTCOME_UNKNOWN)
    (hrole : role ≤ GPU_LOCATION_ROLE_REQUIRED) :
    linuxDaemonRecordValid
      (linuxDaemonRecordInitialize state target desired operationId operationState role uuid) =
        true := by
  obtain ⟨hmagic, hversion, hsize, hstate, hop, hstored⟩ :=
    initialize_words state target desired operationId operationState role uuid
  have hchecksum := initialize_checksum state target desired operationId operationState role uuid
  simp [linuxDaemonRecordValid, stateRecordValid, stateRecordValidExceptVersion, hmagic, hversion,
    hsize, hstate, hop, hstored, hchecksum, hlow, hhigh, hoperation, hrole]

end Initialize

/-! ### Settings -/

section Settings
variable {l : Layout DesiredMember}

/-- A frozen layout of the settings. -/
def FrozenSettings (l : Layout DesiredMember) : Prop :=
  l = desiredSettingsSchema1 ∨ l = desiredSettingsSchema2

theorem FrozenSettings.size (h : FrozenSettings l) {f : DesiredMember} (hf : f ∈ l.map Prod.fst) :
    (l.span f).size = (desiredSettings.span f).size := by
  rcases h with rfl | rfl
  · revert f
    decide
  · rfl

/-- A widened setting is the stored one. -/
theorem get_desiredSettingsWiden (h : FrozenSettings l) {f : DesiredMember}
    (hf : f ∈ l.map Prod.fst) (settings : Record l) :
    (desiredSettingsWiden l settings).get f = settings.get f :=
  Record.get_copy hf (h.size hf)

/-- What the layout did not have is zero. -/
theorem get_desiredSettingsWiden_of_not_mem {f : DesiredMember} (hf : f ∉ l.map Prod.fst)
    (settings : Record l) : (desiredSettingsWiden l settings).get f =
      List.replicate (desiredSettings.span f).size 0 := by
  rw [desiredSettingsWiden, Record.get_copy_of_not_mem hf, Record.get_zero]

/-- Half an `int` is an `int`. -/
theorem memDisplayMHz_range (offset : Int32) :
    -2 ^ 31 ≤ Backend.memDisplayMHz offset.toInt ∧ Backend.memDisplayMHz offset.toInt < 2 ^ 31 := by
  have hlow := offset.le_toInt
  have hhigh := offset.toInt_lt
  unfold Backend.memDisplayMHz
  rcases Int.le_total 0 offset.toInt with hpos | hneg
  · rw [Int.tdiv_eq_ediv_of_nonneg hpos]
    omega
  · rw [show offset.toInt = - -offset.toInt by omega, Int.neg_tdiv,
      Int.tdiv_eq_ediv_of_nonneg (by omega)]
    omega

theorem int_set (desired : Record desiredSettings) {value : Int} (hlow : -2 ^ 31 ≤ value)
    (hhigh : value < 2 ^ 31) :
    int .memOffsetMHz (desired.set .memOffsetMHz (le32 (Int32.ofInt value).toUInt32)) = value := by
  have hsize : (desiredSettings.span .memOffsetMHz).size = 4 := by decide
  rw [int, Record.word_set hsize]
  exact Int32.toInt_ofInt_of_le hlow hhigh

/-- The unit conversion changes no setting but the memory offset. -/
theorem get_migrateUnits {f : DesiredMember} (hf : f ≠ .memOffsetMHz) (effective : Bool)
    (desired : Record desiredSettings) : (migrateUnits effective desired).get f = desired.get f := by
  unfold migrateUnits linuxDaemonMigrateDesiredMemUnitsToDisplay
  split_ifs
  · rfl
  · exact Record.get_set_of_ne hf _ _
  · rfl

/-- An effective offset is halved toward zero; any other is left as it is. -/
theorem int_migrateUnits (effective : Bool) (desired : Record desiredSettings) :
    int .memOffsetMHz (migrateUnits effective desired) =
      if effective ∧ desired.byte .hasMemOffset ≠ 0 then
        Backend.memDisplayMHz (int .memOffsetMHz desired)
      else int .memOffsetMHz desired := by
  have hrange := memDisplayMHz_range (desired.word .memOffsetMHz).toInt32
  unfold migrateUnits linuxDaemonMigrateDesiredMemUnitsToDisplay
  cases effective with
  | false => simp
  | true =>
    by_cases howned : desired.byte .hasMemOffset = 0
    · simp [howned]
    · simp only [if_true, howned, if_false, ne_eq, not_false_eq_true, and_self]
      exact int_set desired hrange.1 hrange.2

/-- The settings `new` are the stored ones, of the layout `l`. -/
structure SettingsKept (l : Layout DesiredMember) (effective : Bool) (old : Record l)
    (new : Record desiredSettings) : Prop where
  settings : ∀ f ∈ l.map Prod.fst, f ≠ .memOffsetMHz → new.get f = old.get f
  /-- An effective memory offset is halved, once; any other is unchanged. -/
  memory : int .memOffsetMHz new =
    if effective ∧ old.byte .hasMemOffset ≠ 0 then Backend.memDisplayMHz (int .memOffsetMHz old)
    else int .memOffsetMHz old
  /-- A layout without provenance says that no point is a projection. -/
  provenance : l = desiredSettingsSchema1 →
    new.get .curvePointFromGpuOffset = List.replicate 128 0

theorem FrozenSettings.mem (h : FrozenSettings l) {f : DesiredMember}
    (hf : f ≠ .curvePointFromGpuOffset) : f ∈ l.map Prod.fst := by
  rcases h with rfl | rfl
  · cases f with
    | curvePointFromGpuOffset => exact absurd rfl hf
    | _ => decide
  · cases f with
    | curvePointFromGpuOffset => exact absurd rfl hf
    | _ => decide

theorem settingsKept_refl (desired : Record desiredSettings) :
    SettingsKept desiredSettings false desired desired := by
  have hprovenance : desiredSettings ≠ desiredSettingsSchema1 :=
    fun h => absurd (congrArg List.length h) (by decide)
  exact ⟨fun _ _ _ => rfl, rfl, fun h => absurd h hprovenance⟩

theorem settingsKept_widen (h : FrozenSettings l) (effective : Bool) (old : Record l) :
    SettingsKept l effective old (migrateUnits effective (desiredSettingsWiden l old)) := by
  have hwiden : ∀ f ∈ l.map Prod.fst, (desiredSettingsWiden l old).get f = old.get f :=
    fun f hf => get_desiredSettingsWiden h hf old
  have hmemory := hwiden .memOffsetMHz (h.mem (by decide))
  have hhas := hwiden .hasMemOffset (h.mem (by decide))
  have hint : int .memOffsetMHz (desiredSettingsWiden l old) = int .memOffsetMHz old := by
    rw [int, int, Record.word, Record.word, hmemory]
  have hbyte : (desiredSettingsWiden l old).byte .hasMemOffset = old.byte .hasMemOffset := by
    rw [Record.byte, Record.byte, hhas]
  refine ⟨fun f hf hne => ?_, ?_, fun hold => ?_⟩
  · rw [get_migrateUnits hne, hwiden f hf]
  · rw [int_migrateUnits, hint, hbyte]
  · subst hold
    rw [get_migrateUnits (by decide), get_desiredSettingsWiden_of_not_mem (by decide)]
    rfl

end Settings

/-! ### What is kept -/

/-- The record `r` says what the stored record `s` said. -/
structure StateKept (s : StoredState) (r : Record linuxDaemonStateRecord) : Prop where
  valid : linuxDaemonRecordValid r = true
  state : r.word .state = s.record.word .state
  target : r.get .targetGpu = s.record.get .targetGpu
  operation : s.generation ≠ .schema1V1 →
    r.get .operationId = s.record.get .operationId ∧
      r.word .operationState = s.record.word .operationState
  /-- Version 1 stored no operation. -/
  noOperation : s.generation = .schema1V1 →
    r.get .operationId = List.replicate 8 0 ∧ r.word .operationState = 0
  settings : SettingsKept s.generation.settings s.storesEffective s.desired
    (r.nested desiredSettings .desired)
  role : r.word .targetLocationRole = s.readRole

theorem StoredState.checks (s : StoredState) :
    LINUX_DAEMON_RECORD_PREPARED ≤ s.record.word .state ∧
      s.record.word .state ≤ LINUX_DAEMON_RECORD_UNCERTAIN ∧
      s.record.word .operationState ≤ SERVICE_OPERATION_OUTCOME_UNKNOWN ∧
      s.record.word .targetLocationRole ≤ GPU_LOCATION_ROLE_REQUIRED := by
  have hvalid := s.valid
  simp only [stateRecordValid, stateRecordValidExceptVersion, Bool.and_eq_true,
    decide_eq_true_eq] at hvalid
  obtain ⟨⟨⟨⟨⟨⟨⟨_, hlow⟩, hhigh⟩, hoperation⟩, hrole⟩, _⟩, _⟩, _⟩ := hvalid
  exact ⟨hlow, hhigh, hoperation, hrole⟩

/-- The record a stored one of an older generation is widened to. -/
def StoredState.widened (s : StoredState) : Record linuxDaemonStateRecord :=
  widenState s.record (desiredSettingsWiden s.generation.settings s.desired) s.storesEffective
    s.readRole

theorem StoredState.readRole_le (s : StoredState) : s.readRole ≤ GPU_LOCATION_ROLE_REQUIRED := by
  have hrole := s.checks.2.2.2
  unfold StoredState.readRole linuxDaemonPreTrustedRoleReread
  split
  · exact hrole
  · exact hrole
  · split_ifs <;> decide
  · decide

namespace LinuxDaemonRecordGeneration
variable {g : LinuxDaemonRecordGeneration}

theorem span_target (g : LinuxDaemonRecordGeneration) :
    (g.layout.span .targetGpu).size = gpuAdapterInfo.size := by
  cases g <;> decide

theorem span_operationId (h : g ≠ .schema1V1) : (g.layout.span .operationId).size = 8 := by
  cases g with
  | schema1V1 => exact absurd rfl h
  | current => decide
  | schema1 => decide
  | schema2 => decide
  | schema3 => decide
  | preTrustedRole => decide

/-- Version 1 has no operation. -/
theorem span_noOperation (h : g = .schema1V1) :
    (g.layout.span .operationId).size = 0 ∧ (g.layout.span .operationState).size = 0 := by
  subst h
  decide

theorem frozenSettings (g : LinuxDaemonRecordGeneration) : FrozenSettings g.settings := by
  cases g with
  | schema1V1 => exact .inl rfl
  | schema1 => exact .inl rfl
  | current => exact .inr rfl
  | schema2 => exact .inr rfl
  | schema3 => exact .inr rfl
  | preTrustedRole => exact .inr rfl

end LinuxDaemonRecordGeneration

/-- What an older generation stored is kept when it is widened. -/
theorem stateKept_widened (s : StoredState) : StateKept s s.widened := by
  obtain ⟨hlow, hhigh, hoperation, _⟩ := s.checks
  have hrole := s.readRole_le
  obtain ⟨-, -, -, hstate, hoperationState, hreadRole⟩ := initialize_words
    (s.record.word .state) (s.record.get .targetGpu) (migrateUnits s.storesEffective
      (desiredSettingsWiden s.generation.settings s.desired)) (s.record.get .operationId)
    (s.record.word .operationState) s.readRole none
  have hid : s.widened.get .operationId = Bytes.fit 8 (s.record.get .operationId) :=
    initialize_operationId _ _ _ _ _ _ _
  have hdesired : s.widened.nested desiredSettings .desired = migrateUnits s.storesEffective
      (desiredSettingsWiden s.generation.settings s.desired) := initialize_desired _ _ _ _ _ _ _
  refine ⟨?_, hstate, ?_, fun hnew => ⟨?_, hoperationState⟩, fun hold => ⟨?_, ?_⟩, ?_, hreadRole⟩
  · exact linuxDaemonRecordValid_initialize _ _ _ _ _ _ _ hlow hhigh hoperation hrole
  · exact initialize_target _ _ _ _ _ _ _ ((s.record.length_get _).trans s.generation.span_target)
  · refine hid.trans (Bytes.fit_of_length ?_)
    exact (s.record.length_get _).trans (LinuxDaemonRecordGeneration.span_operationId hnew)
  · have hempty : s.record.get .operationId = [] := List.length_eq_zero_iff.mp
      ((s.record.length_get _).trans (LinuxDaemonRecordGeneration.span_noOperation hold).1)
    refine hid.trans ?_
    rw [hempty]
    rfl
  · refine hoperationState.trans ?_
    exact Record.word_of_absent (LinuxDaemonRecordGeneration.span_noOperation hold).2 _
  · rw [hdesired]
    exact settingsKept_widen s.generation.frozenSettings _ _

/-! ### Load and store -/

/-- The record a stored one is loaded as. -/
def StoredState.loaded : StoredState → Record linuxDaemonStateRecord
  | ⟨.current, record, _⟩ => record
  | s => s.widened

theorem stateKept_loaded (s : StoredState) : StateKept s s.loaded := by
  obtain ⟨g, record, hvalid⟩ := s
  cases g with
  | current =>
    exact ⟨hvalid, rfl, rfl, fun _ => ⟨rfl, rfl⟩, (fun h => nomatch h), settingsKept_refl _, rfl⟩
  | schema1 => exact stateKept_widened _
  | schema2 => exact stateKept_widened _
  | schema1V1 => exact stateKept_widened _
  | schema3 => exact stateKept_widened _
  | preTrustedRole => exact stateKept_widened _

theorem stateRecordValid_mono {l : Layout StateMember} {low high low' high' : UInt32}
    {record : Record l} (hlow : low' ≤ low) (hhigh : high ≤ high')
    (h : stateRecordValid l low high record = true) :
    stateRecordValid l low' high' record = true := by
  simp only [stateRecordValid, Bool.and_eq_true, decide_eq_true_eq] at h ⊢
  exact ⟨⟨h.1.1, UInt32.le_trans hlow h.1.2⟩, UInt32.le_trans h.2 hhigh⟩

/-- A generation of one version is stored under it. -/
theorem version_of_valid {l : Layout StateMember} {version : UInt32} {record : Record l}
    (h : stateRecordValid l version version record = true) : record.word .version = version := by
  simp only [stateRecordValid, Bool.and_eq_true, decide_eq_true_eq] at h
  exact UInt32.le_antisymm h.2 h.1.2

section Decode

theorem decodeState_current (record : Record linuxDaemonStateRecord) :
    decodeState record.bytes = some (record, .current) := by
  rw [decodeState, Record.ofBytes_bytes]

theorem decodeState_schema3 (record : Record linuxDaemonStateRecordSchema3) :
    decodeState record.bytes = (linuxDaemonStateRecordWidenSchema3 record).map (·,
      if record.word .version = LINUX_DAEMON_RECORD_PRE_TRUSTED_ROLE_VERSION then .preTrustedRole
      else .schema3) := by
  have hsizes := stateLayout_sizes
  rw [decodeState, Record.ofBytes_of_size_ne (by omega), Record.ofBytes_bytes]

theorem decodeState_schema2 (record : Record linuxDaemonStateRecordSchema2) :
    decodeState record.bytes = (linuxDaemonStateRecordWidenSchema2 record).map (·, .schema2) := by
  have hsizes := stateLayout_sizes
  rw [decodeState, Record.ofBytes_of_size_ne (by omega), Record.ofBytes_of_size_ne (by omega),
    Record.ofBytes_bytes]

theorem decodeState_schema1 (record : Record linuxDaemonStateRecordSchema1) :
    decodeState record.bytes = (linuxDaemonStateRecordWidenSchema1 record).map (·, .schema1) := by
  have hsizes := stateLayout_sizes
  rw [decodeState, Record.ofBytes_of_size_ne (by omega), Record.ofBytes_of_size_ne (by omega),
    Record.ofBytes_of_size_ne (by omega), Record.ofBytes_bytes]

theorem decodeState_schema1V1 (record : Record linuxDaemonStateRecordSchema1V1) :
    decodeState record.bytes =
      (linuxDaemonStateRecordWidenSchema1V1 record).map (·, .schema1V1) := by
  have hsizes := stateLayout_sizes
  rw [decodeState, Record.ofBytes_of_size_ne (by omega), Record.ofBytes_of_size_ne (by omega),
    Record.ofBytes_of_size_ne (by omega), Record.ofBytes_of_size_ne (by omega),
    Record.ofBytes_bytes]

end Decode

/-- A stored record is recognised by its size and widened. -/
theorem decodeState_stored (s : StoredState) :
    decodeState s.record.bytes = some (s.loaded, s.generation) := by
  have hkept := (stateKept_widened s).valid
  obtain ⟨g, record, hvalid⟩ := s
  cases g with
  | current => exact decodeState_current record
  | schema3 =>
    have hversion := version_of_valid hvalid
    have hchecked : linuxDaemonStateSchema3Valid record = true :=
      stateRecordValid_mono (by decide) (by decide) hvalid
    have hwiden : linuxDaemonStateRecordWidenSchema3 record =
        some (StoredState.widened ⟨.schema3, record, hvalid⟩) := by
      unfold linuxDaemonStateRecordWidenSchema3
      rw [if_neg (by simp [hchecked]), storedRole, if_neg (by rw [hversion]; decide)]
      exact Option.filter_some_pos hkept
    rw [decodeState_schema3, hwiden, hversion]
    rfl
  | preTrustedRole =>
    have hversion := version_of_valid hvalid
    have hchecked : linuxDaemonStateSchema3Valid record = true :=
      stateRecordValid_mono (by decide) (by decide) hvalid
    have hwiden : linuxDaemonStateRecordWidenSchema3 record =
        some (StoredState.widened ⟨.preTrustedRole, record, hvalid⟩) := by
      unfold linuxDaemonStateRecordWidenSchema3
      rw [if_neg (by simp [hchecked]), storedRole, if_pos hversion]
      exact Option.filter_some_pos hkept
    rw [decodeState_schema3, hwiden, hversion]
    rfl
  | schema2 =>
    have hchecked : linuxDaemonStateSchema2Valid record = true := hvalid
    have hwiden : linuxDaemonStateRecordWidenSchema2 record =
        some (StoredState.widened ⟨.schema2, record, hvalid⟩) := by
      unfold linuxDaemonStateRecordWidenSchema2
      rw [if_neg (by simp [hchecked])]
      exact Option.filter_some_pos hkept
    rw [decodeState_schema2, hwiden]
    rfl
  | schema1 =>
    have hchecked : linuxDaemonStateSchema1Valid record = true := hvalid
    have hwiden : linuxDaemonStateRecordWidenSchema1 record =
        some (StoredState.widened ⟨.schema1, record, hvalid⟩) := by
      unfold linuxDaemonStateRecordWidenSchema1
      rw [if_neg (by simp [hchecked])]
      rfl
    rw [decodeState_schema1, hwiden]
    rfl
  | schema1V1 =>
    have hchecked : linuxDaemonStateSchema1V1Valid record = true := hvalid
    have hwiden : linuxDaemonStateRecordWidenSchema1V1 record =
        some (StoredState.widened ⟨.schema1V1, record, hvalid⟩) := by
      unfold linuxDaemonStateRecordWidenSchema1V1
      rw [if_neg (by simp [hchecked])]
      rfl
    rw [decodeState_schema1V1, hwiden]
    rfl

theorem linuxDaemonStateLoad_stored (s : StoredState) :
    linuxDaemonStateLoad true s.record.bytes = some (s.loaded, s.generation) := by
  have hvalid := (stateKept_loaded s).valid
  show (decodeState s.record.bytes).filter _ = _
  rw [decodeState_stored]
  exact Option.filter_some_pos hvalid

/-- What passed a check was checked. -/
theorem of_guard {α : Type} {c : Bool} {x : Option α} {r : α}
    (h : (if !c then none else x) = some r) : c = true := by
  cases c with
  | true => rfl
  | false => exact nomatch h

/-- The first role generation and the one after it share a layout. -/
theorem version_of_schema3 {record : Record linuxDaemonStateRecordSchema3}
    (h : linuxDaemonStateSchema3Valid record = true) :
    record.word .version = LINUX_DAEMON_RECORD_PRE_TRUSTED_ROLE_VERSION ∨
      record.word .version = LINUX_DAEMON_RECORD_PRE_UUID_VERSION := by
  simp only [linuxDaemonStateSchema3Valid, stateRecordValid, Bool.and_eq_true,
    decide_eq_true_eq, UInt32.le_iff_toNat_le] at h
  rcases Nat.eq_or_lt_of_le h.1.2 with heq | hlt
  · exact .inl (UInt32.toNat_inj.mp heq.symm)
  · exact .inr (UInt32.toNat_inj.mp (Nat.le_antisymm h.2 hlt))

/-- Only a stored record of one of the generations is loaded. -/
theorem stored_of_decode {content : Bytes} {r : Record linuxDaemonStateRecord}
    {g : LinuxDaemonRecordGeneration} (h : decodeState content = some (r, g))
    (hvalid : linuxDaemonRecordValid r = true) : ∃ s : StoredState, s.record.bytes = content := by
  unfold decodeState at h
  split at h
  · rename_i record hread
    cases h
    exact ⟨⟨.current, r, hvalid⟩, (Record.ofBytes_eq_some.mp hread).symm⟩
  split at h
  · rename_i record hread
    obtain ⟨_, hwiden, -⟩ := Option.map_eq_some_iff.mp h
    have hchecked := of_guard hwiden
    have hcontent := (Record.ofBytes_eq_some.mp hread).symm
    obtain ⟨hexcept, -⟩ : stateRecordValidExceptVersion _ record = true ∧ _ := by
      simpa only [linuxDaemonStateSchema3Valid, stateRecordValid, Bool.and_assoc,
        Bool.and_eq_true] using hchecked
    -- The version tells the two generations of this layout apart.
    rcases version_of_schema3 hchecked with hversion | hversion
    · refine ⟨⟨.preTrustedRole, record, ?_⟩, hcontent⟩
      simp [stateRecordValid, hexcept, hversion]
    · refine ⟨⟨.schema3, record, ?_⟩, hcontent⟩
      simp [stateRecordValid, hexcept, hversion]
  split at h
  · rename_i record hread
    obtain ⟨_, hwiden, -⟩ := Option.map_eq_some_iff.mp h
    exact ⟨⟨.schema2, record, of_guard hwiden⟩, (Record.ofBytes_eq_some.mp hread).symm⟩
  split at h
  · rename_i record hread
    obtain ⟨_, hwiden, -⟩ := Option.map_eq_some_iff.mp h
    exact ⟨⟨.schema1, record, of_guard hwiden⟩, (Record.ofBytes_eq_some.mp hread).symm⟩
  split at h
  · rename_i record hread
    obtain ⟨_, hwiden, -⟩ := Option.map_eq_some_iff.mp h
    exact ⟨⟨.schema1V1, record, of_guard hwiden⟩, (Record.ofBytes_eq_some.mp hread).symm⟩
  · exact nomatch h

theorem stored_of_load {file : Bool} {content : Bytes} {r : Record linuxDaemonStateRecord}
    {g : LinuxDaemonRecordGeneration} (h : linuxDaemonStateLoad file content = some (r, g)) :
    ∃ s : StoredState, s.record.bytes = content ∧ s.loaded = r ∧ s.generation = g := by
  unfold linuxDaemonStateLoad at h
  cases file with
  | false => exact nomatch h
  | true =>
    obtain ⟨hdecode, hvalid⟩ := Option.filter_eq_some_iff.mp h
    obtain ⟨s, hs⟩ := stored_of_decode hdecode hvalid
    have hloaded := decodeState_stored s
    rw [hs, hdecode] at hloaded
    cases hloaded
    exact ⟨s, hs, rfl, rfl⟩

/-- What is stored after a load is loaded again as it is. -/
theorem linuxDaemonStateLoad_reload (s : StoredState) :
    linuxDaemonStateStore s.loaded = some s.loaded.bytes ∧
      linuxDaemonStateLoad true s.loaded.bytes = some (s.loaded, .current) := by
  have hvalid := (stateKept_loaded s).valid
  refine ⟨?_, linuxDaemonStateLoad_stored ⟨.current, s.loaded, hvalid⟩⟩
  rw [linuxDaemonStateStore, hvalid]
  rfl

end GreenCurve.Records
