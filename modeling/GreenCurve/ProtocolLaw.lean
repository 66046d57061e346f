import GreenCurve.ProtocolValidation

/-! # Validation is final

What is accepted is accepted again, unchanged: canonical form does not break a rule that was
checked before, but for the mode of a lock.  An accepted state that is ready has what that
takes, its texts end, and a command without settings carries none, but where the rules of the
command leave a field unread. -/

namespace GreenCurve.Protocol

/-! ## Fields -/

theorem canonicalBool8_iff {flag : UInt8} : CanonicalBool8 flag ↔ isFlag flag = true := by
  rw [isFlag, decide_eq_true_eq, CanonicalBool8]
  constructor
  · rintro (rfl | rfl) <;> decide
  · intro h
    have hle : flag.toNat ≤ 1 := UInt8.le_iff_toNat_le.mp h
    rcases Nat.le_one_iff_eq_zero_or_eq_one.mp hle with hzero | hone
    · exact Or.inl (UInt8.toNat_inj.mp hzero)
    · exact Or.inr (UInt8.toNat_inj.mp hone)

theorem canonicalizeBool8_of_isFlag {flag : UInt8} (h : isFlag flag = true) :
    canonicalizeBool8 flag = flag :=
  canonicalizeBool8_of_canonical (canonicalBool8_iff.mpr h)

theorem isFlag_canonicalizeBool8 (flag : UInt8) : isFlag (canonicalizeBool8 flag) = true :=
  canonicalBool8_iff.mp (canonicalBool8_canonicalize flag)

@[simp] theorem canonicalizeBool8_bne_zero (flag : UInt8) :
    (canonicalizeBool8 flag != 0) = (flag != 0) := by
  rw [Bool.eq_iff_iff, bne_iff_ne, bne_iff_ne]
  exact canonicalizeBool8_ne_zero flag

theorem canonicalizeBool8_eq_zero {flag : UInt8} : canonicalizeBool8 flag = 0 ↔ flag = 0 :=
  not_iff_not.mp (canonicalizeBool8_ne_zero flag)

/-- A text that ends in its buffer. -/
def Terminated {n : Nat} (value : Chars n) : Prop := ∃ i, value i = 0

theorem terminated_iff {n : Nat} {value : Chars n} :
    Terminated value ↔ serviceWireStringIsTerminated value = true := by
  rw [serviceWireStringIsTerminated, List.any_eq_true]
  simp only [List.mem_ofFn, beq_iff_eq]
  constructor
  · rintro ⟨i, hi⟩
    exact ⟨0, ⟨i, hi⟩, rfl⟩
  · rintro ⟨_, ⟨i, rfl⟩, hi⟩
    exact ⟨i, hi⟩

/-! ## Adapters and settings -/

theorem validateGpuAdapterInfo_of_flags {g : GpuAdapterInfo}
    (h : serviceGpuBoolFieldsValid g = true) : validateGpuAdapterInfoForIpc g = g := by
  simp only [serviceGpuBoolFieldsValid, List.all_cons, List.all_nil, Bool.and_eq_true] at h
  simp only [validateGpuAdapterInfoForIpc, canonicalizeBool8_of_isFlag, h]

theorem fanCurveWireFlagsValid_iff {config : RawFanCurve} :
    fanCurveWireFlagsValid config = true ↔
      CanonicalBool8 config.zeroRpmEnabled ∧ (∀ p ∈ config.points, CanonicalBool8 p.enabled) ∧
        config.zeroRpmReserved = (0, 0) := by
  simp only [fanCurveWireFlagsValid, Bool.and_eq_true, List.all_eq_true, decide_eq_true_eq,
    ← canonicalBool8_iff, and_assoc]

/-- The flags of a curve that are flags stay as they are. -/
theorem canonicalizeFlags_of_valid {config : RawFanCurve}
    (h : fanCurveWireFlagsValid config = true) : config.canonicalizeFlags = config := by
  obtain ⟨hflag, hpoints, hreserved⟩ := fanCurveWireFlagsValid_iff.mp h
  obtain ⟨points, poll, hysteresis, flag, zeroRpm, reserved⟩ := config
  have hmap : points.map (·.canonicalize) = points := by
    refine map_eq_self fun p hp => ?_
    rw [RawFanPoint.canonicalize, canonicalizeBool8_of_canonical (hpoints p hp)]
  simp only [RawFanCurve.canonicalizeFlags, hmap, canonicalizeBool8_of_canonical hflag]
  rw [show reserved = (0, 0) from hreserved]

theorem fanCurveWireFlagsValid_canonicalizeFlags (config : RawFanCurve) :
    fanCurveWireFlagsValid config.canonicalizeFlags = true := by
  refine fanCurveWireFlagsValid_iff.mpr ⟨canonicalBool8_canonicalize _, fun p hp => ?_, rfl⟩
  obtain ⟨q, -, rfl⟩ := List.mem_map.mp hp
  exact canonicalBool8_canonicalize _

/-- Canonical settings have flags. -/
theorem desiredBoolFields_validate (d : RawSettings) :
    serviceDesiredBoolFieldsValid d.validateForIpc = true := by
  have h := flagsCanonical_validate d
  have hreserved : d.validateForIpc.fanCurve.zeroRpmReserved = (0, 0) := by
    rw [validate_fanCurve]
    split_ifs <;> rfl
  have hcurve := fanCurveWireFlagsValid_iff.mpr ⟨h.zeroRpmEnabled, h.enabled, hreserved⟩
  simp only [serviceDesiredBoolFieldsValid, hcurve, Bool.and_true, Bool.and_eq_true,
    List.all_eq_true, List.mem_cons, List.not_mem_nil, or_false, forall_eq_or_imp, forall_eq,
    ← canonicalBool8_iff]
  exact ⟨fun i _ => ⟨h.hasCurvePoint i, h.curvePointFromGpuOffset i⟩, h.hasLock,
    h.lockTracksAnchor, h.hasGpuOffset, h.hasMemOffset, h.hasPowerLimit, h.hasFan, h.fanAuto,
    h.resetOcBeforeApply, h.hasXbarOffsetKhz, h.hasXbarMsvddOffsetUv, h.hasSysClkOffsetKhz,
    h.hasVideoClkOffsetKhz⟩

/-! ## Settings domains -/

theorem hasCurvePoint_validate (d : RawSettings) :
    serviceDesiredHasCurvePoint d.validateForIpc = serviceDesiredHasCurvePoint d := by
  have hpoint : ∀ i, (d.validateForIpc.hasCurvePoint i != 0) = (d.hasCurvePoint i != 0) :=
    fun i => canonicalizeBool8_bne_zero _
  simp only [serviceDesiredHasCurvePoint, hpoint]

/-- **Canonical form may claim the curve**: a lock of an unknown mode becomes a hard one. -/
theorem hasCurveWrite_validate (d : RawSettings) :
    hasCurveWrite d.validateForIpc =
      (hasCurveWrite d || (d.hasLock != 0 && decide (d.lockMode > LOCK_MODE_HARD))) := by
  have hlock : (d.validateForIpc.hasLock != 0) = (d.hasLock != 0) := canonicalizeBool8_bne_zero _
  have hoffset : (d.validateForIpc.hasGpuOffset != 0) = (d.hasGpuOffset != 0) :=
    canonicalizeBool8_bne_zero _
  have hmode : d.validateForIpc.lockMode = clampInt d.lockMode 0 2 := rfl
  have hcount : d.validateForIpc.gpuOffsetExcludeLowCount =
      clampInt d.gpuOffsetExcludeLowCount 0 128 := rfl
  have hclamp : (clampInt d.lockMode 0 2 == LOCK_MODE_FLATTEN ||
      clampInt d.lockMode 0 2 == LOCK_MODE_HARD) =
        (d.lockMode == LOCK_MODE_FLATTEN || d.lockMode == LOCK_MODE_HARD ||
          decide (d.lockMode > LOCK_MODE_HARD)) := by
    rw [Bool.eq_iff_iff]
    simp only [Bool.or_eq_true, beq_iff_eq, decide_eq_true_eq, clampInt, LOCK_MODE_FLATTEN,
      LOCK_MODE_HARD]
    omega
  have hpositive : decide (clampInt d.gpuOffsetExcludeLowCount 0 128 > 0) =
      decide (d.gpuOffsetExcludeLowCount > 0) := by
    rw [decide_eq_decide, clampInt]
    omega
  rw [hasCurveWrite, hasCurveWrite, hasCurvePoint_validate, hlock, hoffset, hmode, hcount, hclamp,
    hpositive]
  cases serviceDesiredHasCurvePoint d <;> cases d.hasLock != 0 <;>
    cases d.hasGpuOffset != 0 && decide (d.gpuOffsetExcludeLowCount > 0) <;> simp

/-- The bits of the domains. -/
theorem requireVf_bits : ∀ a b c d e f g h i j : Bool,
    serviceMutationDomainsRequireVf
      (domainIf a SERVICE_MUTATION_DOMAIN_RESET_BASELINE |||
        domainIf b SERVICE_MUTATION_DOMAIN_GPU_OFFSET |||
        domainIf c SERVICE_MUTATION_DOMAIN_MEM_OFFSET |||
        domainIf d SERVICE_MUTATION_DOMAIN_POWER |||
        domainIf e SERVICE_MUTATION_DOMAIN_VF_CURVE ||| domainIf f SERVICE_MUTATION_DOMAIN_LOCK |||
        domainIf g SERVICE_MUTATION_DOMAIN_FAN ||| domainIf h SERVICE_MUTATION_DOMAIN_XBAR |||
        domainIf i SERVICE_MUTATION_DOMAIN_SYS_CLK |||
        domainIf j SERVICE_MUTATION_DOMAIN_VIDEO_CLK) = e := by
  decide

theorem requireVf_domains (d : RawSettings) :
    serviceMutationDomainsRequireVf (serviceDesiredMutationDomains d) = hasCurveWrite d :=
  requireVf_bits ..

/-- Settings that claim nothing. -/
structure ClaimsNothing (d : RawSettings) : Prop where
  resetOcBeforeApply : d.resetOcBeforeApply = 0
  hasGpuOffset : d.hasGpuOffset = 0
  hasMemOffset : d.hasMemOffset = 0
  hasPowerLimit : d.hasPowerLimit = 0
  hasCurvePoint : ∀ i, d.hasCurvePoint i = 0
  hasLock : d.hasLock = 0
  hasFan : d.hasFan = 0
  hasXbarOffsetKhz : d.hasXbarOffsetKhz = 0
  hasXbarMsvddOffsetUv : d.hasXbarMsvddOffsetUv = 0
  hasSysClkOffsetKhz : d.hasSysClkOffsetKhz = 0
  hasVideoClkOffsetKhz : d.hasVideoClkOffsetKhz = 0

theorem domains_bits : ∀ a b c d e f g h i j : Bool,
    (domainIf a SERVICE_MUTATION_DOMAIN_RESET_BASELINE |||
      domainIf b SERVICE_MUTATION_DOMAIN_GPU_OFFSET |||
      domainIf c SERVICE_MUTATION_DOMAIN_MEM_OFFSET ||| domainIf d SERVICE_MUTATION_DOMAIN_POWER |||
      domainIf e SERVICE_MUTATION_DOMAIN_VF_CURVE ||| domainIf f SERVICE_MUTATION_DOMAIN_LOCK |||
      domainIf g SERVICE_MUTATION_DOMAIN_FAN ||| domainIf h SERVICE_MUTATION_DOMAIN_XBAR |||
      domainIf i SERVICE_MUTATION_DOMAIN_SYS_CLK |||
      domainIf j SERVICE_MUTATION_DOMAIN_VIDEO_CLK) = 0 ↔
    (a || b || c || d || e || f || g || h || i || j) = false := by
  decide

/-- No domain is claimed where nothing is set. -/
theorem domains_eq_zero_iff {d : RawSettings} :
    serviceDesiredMutationDomains d = 0 ↔ ClaimsNothing d := by
  have hpoints : serviceDesiredHasCurvePoint d = false ↔ ∀ i, d.hasCurvePoint i = 0 := by
    simp [serviceDesiredHasCurvePoint, List.any_eq_false]
  refine (domains_bits ..).trans ?_
  simp only [hasCurveWrite, Bool.or_eq_false_iff, bne_eq_false_iff_eq]
  constructor
  · rintro ⟨⟨⟨⟨⟨⟨⟨⟨⟨hreset, hoffset⟩, hmem⟩, hpower⟩, ⟨hpoint, -⟩, hcount⟩, hlock⟩, hfan⟩, hxbar,
      hmsvdd⟩, hsys⟩, hvideo⟩
    refine ⟨hreset, ?_, hmem, hpower, hpoints.mp hpoint, hlock, hfan, hxbar, hmsvdd, hsys, hvideo⟩
    -- a GPU offset claims its own domain or that of the curve
    by_contra hne
    rw [← ne_eq, ← bne_iff_ne] at hne
    rw [hne, Bool.true_and] at hcount
    simp [hne, hcount, hlock, hpoint] at hoffset
  · intro h
    simp [h.resetOcBeforeApply, h.hasGpuOffset, h.hasMemOffset, h.hasPowerLimit,
      hpoints.mpr h.hasCurvePoint, h.hasLock, h.hasFan, h.hasXbarOffsetKhz,
      h.hasXbarMsvddOffsetUv, h.hasSysClkOffsetKhz, h.hasVideoClkOffsetKhz]

theorem claimsNothing_validate {d : RawSettings} :
    ClaimsNothing d.validateForIpc ↔ ClaimsNothing d := by
  have hzero : ∀ {flag : UInt8}, canonicalizeBool8 flag = 0 ↔ flag = 0 := canonicalizeBool8_eq_zero
  constructor
  · rintro ⟨hreset, hoffset, hmem, hpower, hpoint, hlock, hfan, hxbar, hmsvdd, hsys, hvideo⟩
    exact ⟨hzero.mp hreset, hzero.mp hoffset, hzero.mp hmem, hzero.mp hpower,
      fun i => hzero.mp (hpoint i), hzero.mp hlock, hzero.mp hfan, hzero.mp hxbar,
      hzero.mp hmsvdd, hzero.mp hsys, hzero.mp hvideo⟩
  · rintro ⟨hreset, hoffset, hmem, hpower, hpoint, hlock, hfan, hxbar, hmsvdd, hsys, hvideo⟩
    exact ⟨hzero.mpr hreset, hzero.mpr hoffset, hzero.mpr hmem, hzero.mpr hpower,
      fun i => hzero.mpr (hpoint i), hzero.mpr hlock, hzero.mpr hfan, hzero.mpr hxbar,
      hzero.mpr hmsvdd, hzero.mpr hsys, hzero.mpr hvideo⟩

/-- Canonical form claims something only where something was claimed. -/
theorem domains_validate_eq_zero_iff {d : RawSettings} :
    serviceDesiredMutationDomains d.validateForIpc = 0 ↔ serviceDesiredMutationDomains d = 0 := by
  rw [domains_eq_zero_iff, domains_eq_zero_iff, claimsNothing_validate]

/-! ## Requests -/

/-- No rule is broken. -/
def Passes (rules : List (Bool × String)) : Prop := ∀ rule ∈ rules, rule.1 = false

theorem firstReason_eq_none {rules : List (Bool × String)} :
    firstReason rules = none ↔ Passes rules := by
  rw [firstReason, List.findSome?_eq_none_iff]
  refine forall₂_congr fun rule _ => ?_
  cases rule.1 <;> simp

theorem passes_append {rules more : List (Bool × String)} :
    Passes (rules ++ more) ↔ Passes rules ∧ Passes more :=
  List.forall_mem_append

theorem validateServiceRequest_eq_some {r r' : ServiceRequest} :
    validateServiceRequestForIpc r = some r' ↔
      (Passes r.commonRules ∧ Passes r.commandRules) ∧ r' = r.normalize := by
  rw [validateServiceRequestForIpc, ← passes_append, ← firstReason_eq_none,
    ← serviceRequestRejectReason.eq_1]
  split_ifs with h
  · simp [h]
  · rw [not_not.mp h]
    simp [eq_comm]

/-- What the common rules say about the texts and flags of a request. -/
theorem common_fields {r : ServiceRequest} (h : Passes r.commonRules) :
    Terminated r.source ∧ Terminated r.path ∧ Terminated r.targetGpu.name ∧
      serviceGpuBoolFieldsValid r.targetGpu = true ∧
      serviceDesiredBoolFieldsValid r.desired = true := by
  simp only [Passes, ServiceRequest.commonRules, List.forall_mem_cons, Bool.not_eq_false'] at h
  obtain ⟨-, -, -, -, -, -, -, -, -, hsource, -, hpath, -, hname, -, hgpu, hdesired, -⟩ := h
  exact ⟨terminated_iff.mpr hsource, terminated_iff.mpr hpath, terminated_iff.mpr hname, hgpu,
    hdesired⟩

/-- Canonical form changes the settings alone. -/
theorem normalize_eq {r : ServiceRequest} (h : Passes r.commonRules) :
    r.normalize = { r with desired := r.desired.validateForIpc } := by
  rw [ServiceRequest.normalize, validateGpuAdapterInfo_of_flags (common_fields h).2.2.2.1]

theorem commonRules_desired (r : ServiceRequest) {d : RawSettings}
    (h : serviceDesiredBoolFieldsValid d = serviceDesiredBoolFieldsValid r.desired) :
    ({ r with desired := d } : ServiceRequest).commonRules = r.commonRules := by
  simp only [ServiceRequest.commonRules, h]
  rfl

/-- The rules of a command see no more of the settings than that they claim something. -/
theorem commandRules_desired {r : ServiceRequest} {d : RawSettings}
    (hcommand : r.command ≠ SERVICE_CMD_APPLY)
    (h : serviceDesiredMutationDomains d = 0 ↔ serviceDesiredMutationDomains r.desired = 0) :
    ({ r with desired := d } : ServiceRequest).commandRules = r.commandRules := by
  have hne : (serviceDesiredMutationDomains d != 0) =
      (serviceDesiredMutationDomains r.desired != 0) := by
    rw [Bool.eq_iff_iff, bne_iff_ne, bne_iff_ne, ne_eq, h]
  have hresume : ({ r with desired := d } : ServiceRequest).resumeRestoreRules =
      r.resumeRestoreRules := by
    simp only [ServiceRequest.resumeRestoreRules, hne]
    rfl
  have hupdate : ({ r with desired := d } : ServiceRequest).updateRules = r.updateRules := by
    simp only [ServiceRequest.updateRules, hne]
    rfl
  rw [ServiceRequest.commandRules, ServiceRequest.commandRules, if_neg hcommand, if_neg hcommand,
    hresume, hupdate]
  rfl

/-- An apply sees whether they write the curve. -/
theorem passes_applyRules_desired {r : ServiceRequest} {d : RawSettings}
    (h : Passes r.applyRules) :
    Passes ({ r with desired := d } : ServiceRequest).applyRules ↔
      (hasCurveWrite d = true → r.expectedTopologySignature ≠ 0) := by
  have hother := h
  simp only [Passes, ServiceRequest.applyRules, List.forall_mem_cons, requireVf_domains] at hother ⊢
  obtain ⟨hid, hbase, hgpu, -, horigin, hslot, -⟩ := hother
  constructor
  · rintro ⟨-, -, -, hvf, -⟩ hwrite hzero
    simp [hwrite, hzero] at hvf
  · intro hvf
    refine ⟨hid, hbase, hgpu, ?_, horigin, hslot, nofun⟩
    cases hwrite : hasCurveWrite d
    · rfl
    · simpa using hvf hwrite

theorem normalize_normalize (r : ServiceRequest) : r.normalize.normalize = r.normalize := by
  simp only [ServiceRequest.normalize, validateGpuAdapterInfoForIpc, validate_validate,
    canonicalizeBool8_canonicalizeBool8]

/-- **When a request is accepted again**: unless its lock had an unknown mode and it named no
topology. -/
theorem accepted_again_iff {r r' : ServiceRequest} (h : validateServiceRequestForIpc r = some r') :
    validateServiceRequestForIpc r' = some r' ↔
      (r.command = SERVICE_CMD_APPLY → r.desired.hasLock ≠ 0 →
        r.desired.lockMode > LOCK_MODE_HARD → r.expectedTopologySignature ≠ 0) := by
  obtain ⟨⟨hcommon, hcommand⟩, rfl⟩ := validateServiceRequest_eq_some.mp h
  have hcommon' : Passes r.normalize.commonRules := by
    rw [normalize_eq hcommon, commonRules_desired]
    · exact hcommon
    · rw [desiredBoolFields_validate, (common_fields hcommon).2.2.2.2]
  rw [validateServiceRequest_eq_some, normalize_normalize, and_iff_left rfl, and_iff_right hcommon',
    normalize_eq hcommon]
  by_cases hcmd : r.command = SERVICE_CMD_APPLY
  · have hrules : Passes r.applyRules := by
      rwa [ServiceRequest.commandRules, if_pos hcmd] at hcommand
    have hvf := (passes_applyRules_desired (d := r.desired) hrules).mp hrules
    rw [ServiceRequest.commandRules, if_pos (show _ = SERVICE_CMD_APPLY from hcmd),
      passes_applyRules_desired hrules, hasCurveWrite_validate]
    constructor
    · intro hagain _ hlock hmode
      exact hagain (by simp [hlock, hmode])
    · intro hcondition hwrite
      rcases Bool.or_eq_true_iff.mp hwrite with hwrite | hnew
      · exact hvf hwrite
      · simp only [Bool.and_eq_true, bne_iff_ne, decide_eq_true_eq] at hnew
        exact hcondition hcmd hnew.1 hnew.2
  · rw [commandRules_desired hcmd domains_validate_eq_zero_iff]
    exact iff_of_true hcommand fun hcmd' => absurd hcmd' hcmd

/-- A reset, a resume notification or an update command. -/
def ServiceRequest.WithoutSettings (r : ServiceRequest) : Prop :=
  r.command = SERVICE_CMD_RESET ∨ r.command = SERVICE_CMD_RESUME_RESTORE ∨ r.IsUpdateCommand

/-- A request with no settings and no parameter of another command: a reset may name its
operation and its target, and an update policy its two numbers. -/
structure ServiceRequest.CarriesNothing (r : ServiceRequest) : Prop where
  domains : serviceDesiredMutationDomains r.desired = 0
  startupMode : r.startupMode = 0
  flags : r.flags = 0
  resetOcBeforeApply : r.resetOcBeforeApply = 0
  profileSource : r.profileSource = 0
  profileSlot : r.profileSlot = 0
  path : r.path 0 = 0
  policy : r.command ≠ SERVICE_CMD_SET_UPDATE_POLICY →
    r.updateAutoCheck = 0 ∧ r.updateIntervalSeconds = 0
  target : r.command ≠ SERVICE_CMD_RESET →
    r.operationId = 0 ∧ r.applyOrigin = 0 ∧ r.targetGpu.valid = 0 ∧ r.anyPrecondition = false

/-- What the rules leave unread: the settings and the startup mode of a reset, and the update
policy and the path of a reset or a resume notification. -/
structure ServiceRequest.UnreadEmpty (r : ServiceRequest) : Prop where
  reset : r.command = SERVICE_CMD_RESET →
    serviceDesiredMutationDomains r.desired = 0 ∧ r.startupMode = 0
  unread : r.command = SERVICE_CMD_RESET ∨ r.command = SERVICE_CMD_RESUME_RESTORE →
    r.updateAutoCheck = 0 ∧ r.updateIntervalSeconds = 0 ∧ r.path 0 = 0

theorem carriesMutationFields_eq_false {r : ServiceRequest} :
    r.carriesMutationFields = false ↔
      r.operationId = 0 ∧ r.flags = 0 ∧ r.resetOcBeforeApply = 0 ∧ r.applyOrigin = 0 ∧
        r.profileSource = 0 ∧ r.profileSlot = 0 ∧ r.startupMode = 0 ∧ r.targetGpu.valid = 0 ∧
        r.anyPrecondition = false := by
  simp only [ServiceRequest.carriesMutationFields, Bool.or_eq_false_iff, bne_eq_false_iff_eq,
    and_assoc]

/-- A reset carries nothing where its unread fields are empty. -/
theorem reset_carriesNothing_iff {r : ServiceRequest} (hcommand : r.command = SERVICE_CMD_RESET)
    (h : Passes r.commandRules) : r.CarriesNothing ↔ r.UnreadEmpty := by
  have hrules : Passes r.resetRules := by
    rwa [ServiceRequest.commandRules, if_neg (by rw [hcommand]; decide), if_pos hcommand] at h
  simp only [Passes, ServiceRequest.resetRules, List.forall_mem_cons, Bool.or_eq_false_iff,
    bne_eq_false_iff_eq] at hrules
  obtain ⟨-, -, -, ⟨⟨⟨hflags, hreset⟩, hsource⟩, hslot⟩, -⟩ := hrules
  constructor
  · intro hnothing
    obtain ⟨hcheck, hinterval⟩ := hnothing.policy (by rw [hcommand]; decide)
    exact ⟨fun _ => ⟨hnothing.domains, hnothing.startupMode⟩,
      fun _ => ⟨hcheck, hinterval, hnothing.path⟩⟩
  · intro hempty
    obtain ⟨hdomains, hmode⟩ := hempty.reset hcommand
    obtain ⟨hcheck, hinterval, hpath⟩ := hempty.unread (Or.inl hcommand)
    exact ⟨hdomains, hmode, hflags, hreset, hsource, hslot, hpath, fun _ => ⟨hcheck, hinterval⟩,
      fun hne => absurd hcommand hne⟩

/-- So does a resume notification. -/
theorem resume_carriesNothing_iff {r : ServiceRequest}
    (hcommand : r.command = SERVICE_CMD_RESUME_RESTORE) (h : Passes r.commandRules) :
    r.CarriesNothing ↔ r.UnreadEmpty := by
  have hreset : r.command ≠ SERVICE_CMD_RESET := by rw [hcommand]; decide
  have hpolicy : r.command ≠ SERVICE_CMD_SET_UPDATE_POLICY := by rw [hcommand]; decide
  have hrules : Passes r.resumeRestoreRules := by
    rw [ServiceRequest.commandRules, hcommand] at h
    exact h
  simp only [Passes, ServiceRequest.resumeRestoreRules, List.forall_mem_cons,
    carriesMutationFields_eq_false, bne_eq_false_iff_eq] at hrules
  obtain ⟨⟨hid, hflags, hoc, horigin, hsource, hslot, hmode, hgpu, hpre⟩, hdomains, -⟩ := hrules
  constructor
  · intro hnothing
    obtain ⟨hcheck, hinterval⟩ := hnothing.policy hpolicy
    exact ⟨fun hcmd => absurd hcmd hreset, fun _ => ⟨hcheck, hinterval, hnothing.path⟩⟩
  · intro hempty
    obtain ⟨hcheck, hinterval, hpath⟩ := hempty.unread (Or.inr hcommand)
    exact ⟨hdomains, hmode, hflags, hoc, hsource, hslot, hpath, fun _ => ⟨hcheck, hinterval⟩,
      fun _ => ⟨hid, horigin, hgpu, hpre⟩⟩

/-- An update command carries nothing. -/
theorem update_carriesNothing {r : ServiceRequest} (hcommand : r.IsUpdateCommand)
    (h : Passes r.commandRules) : r.CarriesNothing := by
  have hrules : Passes r.updateRules := by
    have hrules : r.commandRules = r.updateRules := by
      rw [ServiceRequest.commandRules, if_pos hcommand]
      rcases hcommand with hcmd | hcmd | hcmd | hcmd <;>
        · rw [hcmd]
          rfl
    rwa [hrules] at h
  rw [ServiceRequest.updateRules, passes_append] at hrules
  obtain ⟨hrules, hpolicy⟩ := hrules
  simp only [Passes, List.forall_mem_cons, carriesMutationFields_eq_false,
    bne_eq_false_iff_eq] at hrules
  obtain ⟨⟨hid, hflags, hoc, horigin, hsource, hslot, hmode, hgpu, hpre⟩, hdomains, hpath, -⟩ :=
    hrules
  refine ⟨hdomains, hmode, hflags, hoc, hsource, hslot, hpath, fun hne => ?_,
    fun _ => ⟨hid, horigin, hgpu, hpre⟩⟩
  rw [if_neg hne] at hpolicy
  simpa [Passes] using hpolicy

/-- Canonical form carries what was carried. -/
theorem carriesNothing_normalize {r : ServiceRequest} (h : Passes r.commonRules) :
    r.normalize.CarriesNothing ↔ r.CarriesNothing := by
  rw [normalize_eq h]
  constructor
  · rintro ⟨hdomains, hmode, hflags, hoc, hsource, hslot, hpath, hpolicy, htarget⟩
    exact ⟨domains_validate_eq_zero_iff.mp hdomains, hmode, hflags, hoc, hsource, hslot, hpath,
      hpolicy, htarget⟩
  · rintro ⟨hdomains, hmode, hflags, hoc, hsource, hslot, hpath, hpolicy, htarget⟩
    exact ⟨domains_validate_eq_zero_iff.mpr hdomains, hmode, hflags, hoc, hsource, hslot, hpath,
      hpolicy, htarget⟩

/-- **What a request that is accepted is**: accepted again and unchanged, its texts end, and a
command without settings carries none, before and after. -/
structure RequestCoherent (r r' : ServiceRequest) : Prop where
  again : validateServiceRequestForIpc r' = some r'
  source : Terminated r'.source
  path : Terminated r'.path
  name : Terminated r'.targetGpu.name
  nothing : r.WithoutSettings → r.CarriesNothing ∧ r'.CarriesNothing

/-- The condition on a request: no lock of an unknown mode without a topology, and the unread
fields empty. -/
structure ServiceRequest.Clean (r : ServiceRequest) : Prop where
  lock : r.command = SERVICE_CMD_APPLY → r.desired.hasLock ≠ 0 →
    r.desired.lockMode > LOCK_MODE_HARD → r.expectedTopologySignature ≠ 0
  unread : r.UnreadEmpty

theorem request_coherent_iff {r r' : ServiceRequest}
    (h : validateServiceRequestForIpc r = some r') : RequestCoherent r r' ↔ r.Clean := by
  have hagain := accepted_again_iff h
  obtain ⟨⟨hcommon, hcommand⟩, rfl⟩ := validateServiceRequest_eq_some.mp h
  obtain ⟨hsource, hpath, hname, -⟩ := common_fields hcommon
  have hnothing : (r.WithoutSettings → r.CarriesNothing ∧ r.normalize.CarriesNothing) ↔
      r.UnreadEmpty := by
    rw [carriesNothing_normalize hcommon, and_self]
    constructor
    · intro hall
      by_cases hreset : r.command = SERVICE_CMD_RESET
      · exact (reset_carriesNothing_iff hreset hcommand).mp (hall (Or.inl hreset))
      by_cases hresume : r.command = SERVICE_CMD_RESUME_RESTORE
      · exact (resume_carriesNothing_iff hresume hcommand).mp (hall (Or.inr (Or.inl hresume)))
      · exact ⟨fun hcmd => absurd hcmd hreset,
          fun hcmd => absurd hcmd (not_or.mpr ⟨hreset, hresume⟩)⟩
    · rintro hempty (hreset | hresume | hupdate)
      · exact (reset_carriesNothing_iff hreset hcommand).mpr hempty
      · exact (resume_carriesNothing_iff hresume hcommand).mpr hempty
      · exact update_carriesNothing hupdate hcommand
  constructor
  · intro hcoherent
    exact ⟨hagain.mp hcoherent.again, hnothing.mp hcoherent.nothing⟩
  · intro hclean
    rw [normalize_eq hcommon] at *
    exact ⟨hagain.mpr hclean.lock, hsource, hpath, hname, hnothing.mpr hclean.unread⟩

end GreenCurve.Protocol
