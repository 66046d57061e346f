import GreenCurve.FanCurveLaw

/-! # Desired settings as they arrive

A request comes as bytes: a flag is any byte, a mode any number.  The daemon canonicalises the
flags and clamps the numbers at one place, before anything else looks at them.  What it makes
of a request is the validated request of the settings the bytes stand for. -/

namespace GreenCurve

/-- `canonicalize_gc_bool8`. -/
def canonicalizeBool8 (flag : UInt8) : UInt8 := if flag ≠ 0 then 1 else 0

/-- A byte a flag may have. -/
def CanonicalBool8 (flag : UInt8) : Prop := flag = 0 ∨ flag = 1

instance (flag : UInt8) : Decidable (CanonicalBool8 flag) := inferInstanceAs (Decidable (_ ∨ _))

@[simp] theorem canonicalizeBool8_ne_zero (flag : UInt8) :
    (canonicalizeBool8 flag ≠ 0) ↔ flag ≠ 0 := by
  unfold canonicalizeBool8
  split <;> simp_all

theorem canonicalBool8_canonicalize (flag : UInt8) : CanonicalBool8 (canonicalizeBool8 flag) := by
  unfold canonicalizeBool8
  split
  · exact .inr rfl
  · exact .inl rfl

theorem canonicalizeBool8_of_canonical {flag : UInt8} (h : CanonicalBool8 flag) :
    canonicalizeBool8 flag = flag := by
  rcases h with rfl | rfl <;> rfl

/-- The bounds of the hysteresis of a native zero-RPM fan. -/
def clampZeroRpm (value : UInt8) : UInt8 :=
  if value < 2 then 2 else if value > 30 then 30 else value

/-! ## The fan curve -/

structure RawFanPoint where
  enabled : UInt8 := 0
  temperatureC : Int := 0
  fanPercent : Int := 0
  deriving DecidableEq

structure RawFanCurve where
  points : List RawFanPoint := List.replicate FAN_CURVE_MAX_POINTS {}
  pollIntervalMs : Int := 0
  hysteresisC : Int := 0
  zeroRpmEnabled : UInt8 := 0
  zeroRpmHysteresisC : UInt8 := 0
  zeroRpmReserved : UInt8 × UInt8 := (0, 0)
  deriving DecidableEq

namespace RawFanPoint

def isEnabled (point : RawFanPoint) : Bool := decide (point.enabled ≠ 0)

/-- The point the bytes stand for. -/
def decode (point : RawFanPoint) : FanCurvePoint :=
  ⟨point.isEnabled, point.temperatureC, point.fanPercent⟩

def canonicalize (point : RawFanPoint) : RawFanPoint :=
  { point with enabled := canonicalizeBool8 point.enabled }

/-- The bounds the boundary puts on a point. -/
def clampForIpc (point : RawFanPoint) : RawFanPoint :=
  { point with
    fanPercent := clampInt point.fanPercent 0 100
    temperatureC := clampInt point.temperatureC 0 150 }

def clamp (point : RawFanPoint) : RawFanPoint :=
  { point with
    temperatureC := clampInt point.temperatureC 0 100
    fanPercent := clampInt point.fanPercent 0 100 }

def withEnabled (flag : UInt8) (point : RawFanPoint) : RawFanPoint :=
  { point with enabled := flag }

end RawFanPoint

/-- `sort_enabled_points`. -/
def sortRawPoints (points : List RawFanPoint) : List RawFanPoint :=
  points.insertionSort fun a b => a.temperatureC ≤ b.temperatureC

namespace RawFanCurve
variable (config : RawFanCurve)

def enabledPoints : List RawFanPoint := config.points.filter (·.isEnabled)

/-- The curve the bytes stand for. -/
def decode : FanCurveConfig where
  points := config.points.map (·.decode)
  pollIntervalMs := config.pollIntervalMs
  hysteresisC := config.hysteresisC
  zeroRpmEnabled := decide (config.zeroRpmEnabled ≠ 0)
  zeroRpmHysteresisC := config.zeroRpmHysteresisC.toNat

/-- `validate_fan_curve_flags_for_ipc`. -/
def canonicalizeFlags : RawFanCurve :=
  { config with
    points := config.points.map (·.canonicalize)
    zeroRpmEnabled := canonicalizeBool8 config.zeroRpmEnabled
    zeroRpmReserved := (0, 0) }

/-- The bounds the boundary puts on a fan curve. -/
def clampForIpc : RawFanCurve :=
  { config with
    points := config.points.map (·.clampForIpc)
    hysteresisC := clampInt config.hysteresisC 0 FAN_CURVE_MAX_HYSTERESIS_C
    zeroRpmHysteresisC := clampZeroRpm config.zeroRpmHysteresisC }

/-- The scalar part of `fan_curve_normalize_impl`. -/
def normalizeScalars : RawFanCurve :=
  { config with
    pollIntervalMs := (clampInt config.pollIntervalMs 250 5000 + 125) / 250 * 250
    hysteresisC := clampInt config.hysteresisC 0 FAN_CURVE_MAX_HYSTERESIS_C
    zeroRpmEnabled := canonicalizeBool8 config.zeroRpmEnabled
    zeroRpmHysteresisC :=
      if config.zeroRpmHysteresisC = 0 then 5 else clampZeroRpm config.zeroRpmHysteresisC
    zeroRpmReserved := (0, 0) }

/-- The points of `fan_curve_normalize_for_ipc`: fewer than two enabled ones stay where they
are. -/
def normalizePoints (points : List RawFanPoint) : List RawFanPoint :=
  let points := points.map (·.clamp)
  let enabled := points.filter (·.isEnabled)
  let disabled := points.filter (!·.isEnabled)
  if enabled.length < 2 then points
  else (sortRawPoints enabled).map (·.withEnabled 1) ++ disabled.map (·.withEnabled 0)

/-- `fan_curve_normalize_for_ipc`. -/
def normalizeForIpc : RawFanCurve :=
  { config.normalizeScalars with points := normalizePoints config.points }

/-- `fan_curve_validate`. -/
def validate : Bool := decide (config.zeroRpmEnabled ≤ 1) && config.decode.validate

end RawFanCurve

/-! ## The settings -/

/-- The bytes of a `DesiredSettings`: a flag is a byte and a mode a number. -/
@[ext]
structure RawSettings where
  hasCurvePoint : VfPoint → UInt8 := fun _ => 0
  curvePointMHz : VfPoint → Nat := fun _ => 0
  hasLock : UInt8 := 0
  lockCi : Int := 0
  lockMHz : Nat := 0
  lockMode : Int := 0
  lockTracksAnchor : UInt8 := 0
  hasGpuOffset : UInt8 := 0
  gpuOffsetMHz : Int := 0
  gpuOffsetExcludeLowCount : Int := 0
  hasMemOffset : UInt8 := 0
  memOffsetMHz : Int := 0
  hasPowerLimit : UInt8 := 0
  powerLimitPct : Int := 0
  hasFan : UInt8 := 0
  fanAuto : UInt8 := 0
  fanMode : Int := 0
  fanPercent : Int := 0
  fanCurve : RawFanCurve := {}
  resetOcBeforeApply : UInt8 := 0
  hasXbarOffsetKhz : UInt8 := 0
  xbarOffsetKhz : Int := 0
  hasXbarMsvddOffsetUv : UInt8 := 0
  xbarMsvddOffsetUv : Int := 0
  hasSysClkOffsetKhz : UInt8 := 0
  sysClkOffsetKhz : Int := 0
  hasVideoClkOffsetKhz : UInt8 := 0
  videoClkOffsetKhz : Int := 0
  curvePointFromGpuOffset : VfPoint → UInt8 := fun _ => 0

/-- The lock mode of a number, one out of range read as the nearest. -/
def decodeLockMode (mode : Int) : LockMode :=
  if mode ≤ 0 then .none else if mode = 1 then .flatten else .hard

def decodeFanMode (mode : Int) : FanMode :=
  if mode ≤ 0 then .auto else if mode = 1 then .fixed else .curve

namespace RawSettings
variable (d : RawSettings)

/-- The settings the bytes stand for. -/
def decode : DesiredSettings where
  hasCurvePoint ci := decide (d.hasCurvePoint ci ≠ 0)
  curvePointMHz := d.curvePointMHz
  hasLock := decide (d.hasLock ≠ 0)
  lockCi := d.lockCi
  lockMHz := d.lockMHz
  lockMode := decodeLockMode d.lockMode
  lockTracksAnchor := decide (d.lockTracksAnchor ≠ 0)
  hasGpuOffset := decide (d.hasGpuOffset ≠ 0)
  gpuOffsetMHz := d.gpuOffsetMHz
  gpuOffsetExcludeLowCount := d.gpuOffsetExcludeLowCount.toNat
  hasMemOffset := decide (d.hasMemOffset ≠ 0)
  memOffsetMHz := d.memOffsetMHz
  hasPowerLimit := decide (d.hasPowerLimit ≠ 0)
  powerLimitPct := d.powerLimitPct
  hasFan := decide (d.hasFan ≠ 0)
  fanAuto := decide (d.fanAuto ≠ 0)
  fanMode := decodeFanMode d.fanMode
  fanPercent := d.fanPercent
  fanCurve := d.fanCurve.decode
  resetOcBeforeApply := decide (d.resetOcBeforeApply ≠ 0)
  hasXbarOffsetKhz := decide (d.hasXbarOffsetKhz ≠ 0)
  xbarOffsetKhz := d.xbarOffsetKhz
  hasXbarMsvddOffsetUv := decide (d.hasXbarMsvddOffsetUv ≠ 0)
  xbarMsvddOffsetUv := d.xbarMsvddOffsetUv
  hasSysClkOffsetKhz := decide (d.hasSysClkOffsetKhz ≠ 0)
  sysClkOffsetKhz := d.sysClkOffsetKhz
  hasVideoClkOffsetKhz := decide (d.hasVideoClkOffsetKhz ≠ 0)
  videoClkOffsetKhz := d.videoClkOffsetKhz
  curvePointFromGpuOffset ci := decide (d.curvePointFromGpuOffset ci ≠ 0)

/-- The flags of a request, canonical. -/
def canonicalizeFlags : RawSettings :=
  { d with
    hasCurvePoint := fun ci => canonicalizeBool8 (d.hasCurvePoint ci)
    hasLock := canonicalizeBool8 d.hasLock
    lockTracksAnchor := canonicalizeBool8 d.lockTracksAnchor
    hasGpuOffset := canonicalizeBool8 d.hasGpuOffset
    hasMemOffset := canonicalizeBool8 d.hasMemOffset
    hasPowerLimit := canonicalizeBool8 d.hasPowerLimit
    hasFan := canonicalizeBool8 d.hasFan
    fanAuto := canonicalizeBool8 d.fanAuto
    resetOcBeforeApply := canonicalizeBool8 d.resetOcBeforeApply
    hasXbarOffsetKhz := canonicalizeBool8 d.hasXbarOffsetKhz
    hasXbarMsvddOffsetUv := canonicalizeBool8 d.hasXbarMsvddOffsetUv
    hasSysClkOffsetKhz := canonicalizeBool8 d.hasSysClkOffsetKhz
    hasVideoClkOffsetKhz := canonicalizeBool8 d.hasVideoClkOffsetKhz
    curvePointFromGpuOffset := fun ci => canonicalizeBool8 (d.curvePointFromGpuOffset ci)
    fanCurve := d.fanCurve.canonicalizeFlags }

/-- A number that is clamped where its control is owned. -/
def clampOwned (owned : UInt8) (value lo hi : Int) : Int :=
  if owned ≠ 0 then clampInt value lo hi else value

/-- The numbers of a request, those of a control only where it is owned. -/
def clampNumbers : RawSettings :=
  { d with
    xbarOffsetKhz := clampOwned d.hasXbarOffsetKhz d.xbarOffsetKhz (-1000000) 1000000
    xbarMsvddOffsetUv := clampOwned d.hasXbarMsvddOffsetUv d.xbarMsvddOffsetUv (-100000) 100000
    sysClkOffsetKhz := clampOwned d.hasSysClkOffsetKhz d.sysClkOffsetKhz (-1000000) 1000000
    videoClkOffsetKhz :=
      clampOwned d.hasVideoClkOffsetKhz d.videoClkOffsetKhz (-1000000) 1000000
    curvePointMHz := fun ci => min (d.curvePointMHz ci) 5000
    powerLimitPct :=
      if d.hasPowerLimit ≠ 0 then clampPowerLimitPct d.powerLimitPct else d.powerLimitPct
    gpuOffsetMHz := clampOwned d.hasGpuOffset d.gpuOffsetMHz (-1000) 1000
    memOffsetMHz := clampOwned d.hasMemOffset d.memOffsetMHz (-3000) 3000
    lockCi := clampInt d.lockCi (-1) 127
    lockMode := clampInt d.lockMode 0 2
    lockMHz := min d.lockMHz 5000
    gpuOffsetExcludeLowCount := clampInt d.gpuOffsetExcludeLowCount 0 128
    fanPercent := clampOwned d.hasFan d.fanPercent 0 100
    fanMode := clampOwned d.hasFan d.fanMode 0 2
    fanCurve :=
      if d.hasFan ≠ 0 then d.fanCurve.clampForIpc.normalizeForIpc else d.fanCurve }

/-- `validate_desired_settings_for_ipc`. -/
def validateForIpc : RawSettings := d.canonicalizeFlags.clampNumbers

end RawSettings

/-! ## The request the bytes stand for -/

section Decode

theorem toNat_clampZeroRpm (value : UInt8) :
    (clampZeroRpm value).toNat = min (max value.toNat 2) 30 := by
  have hlow : (2 : UInt8).toNat = 2 := rfl
  have hhigh : (30 : UInt8).toNat = 30 := rfl
  unfold clampZeroRpm
  split
  · rename_i h
    rw [UInt8.lt_iff_toNat_lt, hlow] at h
    rw [hlow]
    omega
  · rename_i h
    rw [UInt8.lt_iff_toNat_lt, hlow] at h
    split
    · rename_i h'
      rw [gt_iff_lt, UInt8.lt_iff_toNat_lt, hhigh] at h'
      rw [hhigh]
      omega
    · rename_i h'
      rw [gt_iff_lt, UInt8.lt_iff_toNat_lt, hhigh] at h'
      omega

@[simp] theorem decode_canonicalize (point : RawFanPoint) :
    point.canonicalize.decode = point.decode := by
  simp [RawFanPoint.decode, RawFanPoint.isEnabled, RawFanPoint.canonicalize]

@[simp] theorem decode_clamp (point : RawFanPoint) :
    point.clamp.decode = FanCurveConfig.clampPoint point.decode := rfl

@[simp] theorem isEnabled_clamp (point : RawFanPoint) : point.clamp.isEnabled = point.isEnabled :=
  rfl

theorem decode_isEnabled (point : RawFanPoint) : point.decode.enabled = point.isEnabled := rfl

theorem decode_sort (points : List RawFanPoint) :
    (sortRawPoints points).map (·.decode) = sortEnabledPoints (points.map (·.decode)) :=
  List.map_insertionSort _ _ _ points fun _ _ _ _ => Iff.rfl

/-- A list of enabled points stands for the same with its flags set. -/
theorem decode_withEnabled {points : List RawFanPoint} (enabled : Bool) {flag : UInt8}
    (hflag : decide (flag ≠ 0) = enabled) (h : ∀ p ∈ points, p.isEnabled = enabled) :
    (points.map (·.withEnabled flag)).map (·.decode) = points.map (·.decode) := by
  rw [List.map_map]
  refine List.map_congr_left fun p hp => ?_
  have hsame : (p.withEnabled flag).isEnabled = p.isEnabled := hflag.trans (h p hp).symm
  show FanCurvePoint.mk (p.withEnabled flag).isEnabled _ _ = _
  rw [hsame]
  rfl

/-- The points of a normalised curve come from its points alone. -/
def normalizedPoints (points : List FanCurvePoint) : List FanCurvePoint :=
  let points := points.map FanCurveConfig.clampPoint
  let enabled := points.filter (·.enabled)
  if enabled.length < 2 then points else sortEnabledPoints enabled ++ points.filter (!·.enabled)

theorem normalizeForIpc_eq (config : FanCurveConfig) :
    config.normalizeForIpc =
      { config.normalizeScalars with points := normalizedPoints config.points } := by
  unfold FanCurveConfig.normalizeForIpc FanCurveConfig.normalizeImpl normalizedPoints
  dsimp only
  split <;> rfl

theorem decode_normalizePoints (points : List RawFanPoint) :
    (RawFanCurve.normalizePoints points).map (·.decode) =
      normalizedPoints (points.map (·.decode)) := by
  have hclamp : (points.map (·.decode)).map FanCurveConfig.clampPoint =
      (points.map (·.clamp)).map (·.decode) := by
    rw [List.map_map, List.map_map]
    rfl
  have henabled : ∀ points : List RawFanPoint, (points.map (·.decode)).filter (·.enabled) =
      (points.filter (·.isEnabled)).map (·.decode) := fun points => List.filter_map ..
  have hdisabled : ∀ points : List RawFanPoint, (points.map (·.decode)).filter (!·.enabled) =
      (points.filter (!·.isEnabled)).map (·.decode) := fun points => List.filter_map ..
  unfold RawFanCurve.normalizePoints normalizedPoints
  dsimp only
  rw [hclamp, henabled, hdisabled, List.length_map]
  split
  · rfl
  · rw [List.map_append, decode_withEnabled true rfl, decode_withEnabled false rfl, decode_sort]
    · intro p hp
      simpa using (List.mem_filter.mp hp).2
    · intro p hp
      exact (List.mem_filter.mp ((List.perm_insertionSort _ _).mem_iff.mp hp)).2

theorem decode_normalizeForIpc (config : RawFanCurve) :
    config.normalizeForIpc.decode = config.decode.normalizeForIpc := by
  have hzero : (if config.zeroRpmHysteresisC = 0 then (5 : UInt8)
      else clampZeroRpm config.zeroRpmHysteresisC).toNat =
      if config.zeroRpmHysteresisC.toNat = 0 then FAN_ZERO_RPM_DEFAULT_HYSTERESIS_C
      else min (max config.zeroRpmHysteresisC.toNat FAN_ZERO_RPM_MIN_HYSTERESIS_C)
        FAN_ZERO_RPM_MAX_HYSTERESIS_C := by
    by_cases h : config.zeroRpmHysteresisC = 0
    · rw [if_pos h, h]
      rfl
    · have hne : ¬config.zeroRpmHysteresisC.toNat = 0 := fun h' => h (UInt8.toNat_inj.mp h')
      rw [if_neg h, if_neg hne, toNat_clampZeroRpm]
  rw [normalizeForIpc_eq]
  unfold RawFanCurve.normalizeForIpc RawFanCurve.normalizeScalars FanCurveConfig.normalizeScalars
    RawFanCurve.decode
  dsimp only
  rw [decode_normalizePoints, hzero]
  simp

theorem decode_clampForIpc (config : RawFanCurve) :
    config.clampForIpc.decode = config.decode.clampForIpc := by
  unfold RawFanCurve.clampForIpc FanCurveConfig.clampForIpc RawFanCurve.decode
  dsimp only
  rw [toNat_clampZeroRpm, List.map_map, List.map_map]
  rfl

theorem decode_canonicalizeFlags (config : RawFanCurve) :
    config.canonicalizeFlags.decode = config.decode := by
  unfold RawFanCurve.canonicalizeFlags RawFanCurve.decode
  simp

theorem decodeLockMode_clamp (mode : Int) :
    decodeLockMode (clampInt mode 0 2) = decodeLockMode mode := by
  unfold decodeLockMode clampInt
  grind

theorem decodeFanMode_clamp (mode : Int) :
    decodeFanMode (clampInt mode 0 2) = decodeFanMode mode := by
  unfold decodeFanMode clampInt
  grind

theorem toNat_clamp_count (count : Int) :
    (clampInt count 0 128).toNat = min count.toNat VF_NUM_POINTS := by
  have hcount : VF_NUM_POINTS = 128 := rfl
  rw [hcount]
  unfold clampInt
  split
  · omega
  · split <;> omega

/-- **The request that is let in is the validated request** of the settings that were sent. -/
theorem decode_validateForIpc (d : RawSettings) :
    d.validateForIpc.decode = validateDesiredSettingsForIpc d.decode := by
  have hfan : (if d.hasFan ≠ 0 then d.fanCurve.canonicalizeFlags.clampForIpc.normalizeForIpc
      else d.fanCurve.canonicalizeFlags).decode =
      if d.hasFan ≠ 0 then d.fanCurve.decode.clampForIpc.normalizeForIpc
      else d.fanCurve.decode := by
    split
    · rw [decode_normalizeForIpc, decode_clampForIpc, decode_canonicalizeFlags]
    · exact decode_canonicalizeFlags _
  have hmode : ∀ owned : UInt8, decodeFanMode (RawSettings.clampOwned owned d.fanMode 0 2) =
      decodeFanMode d.fanMode := by
    intro owned
    unfold RawSettings.clampOwned
    split
    · exact decodeFanMode_clamp _
    · rfl
  unfold RawSettings.validateForIpc RawSettings.clampNumbers RawSettings.canonicalizeFlags
    RawSettings.decode validateDesiredSettingsForIpc
  simp only [canonicalizeBool8_ne_zero, hfan, hmode, decodeLockMode_clamp, toNat_clamp_count]
  simp only [RawSettings.clampOwned, canonicalizeBool8_ne_zero, decide_eq_true_eq]
  rfl

end Decode

end GreenCurve
