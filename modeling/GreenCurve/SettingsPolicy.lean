import GreenCurve.FanCurve

/-! # The two normalisers of desired settings

Settings pass one boundary on their way to the daemon and another on their way to an
editor.  Both clamp what is out of range; the editor also takes ownership of the
scalar controls and replaces a fan curve that cannot be used.  What both leave
unchanged is what a stored record can be compared with. -/

namespace GreenCurve

abbrev POWER_LIMIT_MIN_PCT : Int := 50
abbrev POWER_LIMIT_MAX_PCT : Int := 150
abbrev POWER_LIMIT_DEFAULT_PCT : Int := 100

/-- `clamp_power_limit_pct`, the unset value read as the default of the board. -/
def clampPowerLimitPct (pct : Int) : Int :=
  clampInt (if pct = 0 then POWER_LIMIT_DEFAULT_PCT else pct)
    POWER_LIMIT_MIN_PCT POWER_LIMIT_MAX_PCT

/-- `fan_curve_set_default`. -/
def FanCurveConfig.setDefault : FanCurveConfig where
  points := FanCurveConfig.defaultPoints
  pollIntervalMs := 1000
  hysteresisC := 2
  zeroRpmEnabled := false
  zeroRpmHysteresisC := FAN_ZERO_RPM_DEFAULT_HYSTERESIS_C

/-- `initialize_desired_settings_defaults`. -/
def initializeDesiredSettingsDefaults : DesiredSettings where
  lockTracksAnchor := true
  fanAuto := true
  fanMode := .auto
  powerLimitPct := POWER_LIMIT_DEFAULT_PCT
  fanCurve := .setDefault

/-! ## The boundary of the daemon -/

/-- The bounds the boundary puts on a fan curve before it normalises it. -/
def FanCurveConfig.clampForIpc (config : FanCurveConfig) : FanCurveConfig :=
  { config with
    points := config.points.map fun point =>
      { point with
        fanPercent := clampInt point.fanPercent 0 100
        temperatureC := clampInt point.temperatureC 0 150 }
    hysteresisC := clampInt config.hysteresisC 0 FAN_CURVE_MAX_HYSTERESIS_C
    zeroRpmHysteresisC :=
      min (max config.zeroRpmHysteresisC FAN_ZERO_RPM_MIN_HYSTERESIS_C)
        FAN_ZERO_RPM_MAX_HYSTERESIS_C }

/-- `validate_desired_settings_for_ipc`.  The modes are enumerations here, so that their
clamps have nothing to do. -/
def validateDesiredSettingsForIpc (d : DesiredSettings) : DesiredSettings :=
  { d with
    xbarOffsetKhz :=
      if d.hasXbarOffsetKhz then clampInt d.xbarOffsetKhz (-1000000) 1000000 else d.xbarOffsetKhz
    xbarMsvddOffsetUv :=
      if d.hasXbarMsvddOffsetUv then clampInt d.xbarMsvddOffsetUv (-100000) 100000
      else d.xbarMsvddOffsetUv
    sysClkOffsetKhz :=
      if d.hasSysClkOffsetKhz then clampInt d.sysClkOffsetKhz (-1000000) 1000000
      else d.sysClkOffsetKhz
    videoClkOffsetKhz :=
      if d.hasVideoClkOffsetKhz then clampInt d.videoClkOffsetKhz (-1000000) 1000000
      else d.videoClkOffsetKhz
    curvePointMHz := fun ci => min (d.curvePointMHz ci) 5000
    powerLimitPct := if d.hasPowerLimit then clampPowerLimitPct d.powerLimitPct else d.powerLimitPct
    gpuOffsetMHz := if d.hasGpuOffset then clampInt d.gpuOffsetMHz (-1000) 1000 else d.gpuOffsetMHz
    memOffsetMHz := if d.hasMemOffset then clampInt d.memOffsetMHz (-3000) 3000 else d.memOffsetMHz
    lockCi := clampInt d.lockCi (-1) (VF_NUM_POINTS - 1)
    lockMHz := min d.lockMHz 5000
    gpuOffsetExcludeLowCount := min d.gpuOffsetExcludeLowCount VF_NUM_POINTS
    fanPercent := if d.hasFan then clampInt d.fanPercent 0 100 else d.fanPercent
    fanCurve := if d.hasFan then d.fanCurve.clampForIpc.normalizeForIpc else d.fanCurve }

/-! ## The editor -/

/-- `normalize_desired_settings_for_ui`. -/
def normalizeDesiredSettingsForUi (d : DesiredSettings) : DesiredSettings :=
  { d with
    hasGpuOffset := true
    hasMemOffset := true
    hasPowerLimit := true
    hasFan := true
    gpuOffsetExcludeLowCount := if d.gpuOffsetMHz = 0 then 0 else d.gpuOffsetExcludeLowCount
    powerLimitPct := clampPowerLimitPct d.powerLimitPct
    fanPercent := clampInt (if d.fanPercent ≤ 0 then 50 else d.fanPercent) 0 100
    fanAuto := decide (d.fanMode = .auto)
    fanCurve :=
      if d.fanCurve.normalize.validate then d.fanCurve.normalize else .setDefault }

/-! ## Clamps -/

theorem clampInt_mem {lo hi : Int} (h : lo ≤ hi) (value : Int) :
    lo ≤ clampInt value lo hi ∧ clampInt value lo hi ≤ hi := by
  unfold clampInt
  split
  · exact ⟨le_rfl, h⟩
  · split <;> omega

theorem clampInt_of_mem {value lo hi : Int} (h : lo ≤ value ∧ value ≤ hi) :
    clampInt value lo hi = value := by
  unfold clampInt
  rw [if_neg (by omega), if_neg (by omega)]

theorem clampInt_clampInt {lo hi : Int} (h : lo ≤ hi) (value : Int) :
    clampInt (clampInt value lo hi) lo hi = clampInt value lo hi :=
  clampInt_of_mem (clampInt_mem h value)

theorem clampPowerLimitPct_mem (pct : Int) :
    POWER_LIMIT_MIN_PCT ≤ clampPowerLimitPct pct ∧ clampPowerLimitPct pct ≤ POWER_LIMIT_MAX_PCT :=
  clampInt_mem (by decide) _

theorem clampPowerLimitPct_of_mem {pct : Int}
    (h : POWER_LIMIT_MIN_PCT ≤ pct ∧ pct ≤ POWER_LIMIT_MAX_PCT) : clampPowerLimitPct pct = pct := by
  have hne : pct ≠ 0 := by
    rintro rfl
    exact absurd h.1 (by decide)
  rw [clampPowerLimitPct, if_neg hne, clampInt_of_mem h]

end GreenCurve
