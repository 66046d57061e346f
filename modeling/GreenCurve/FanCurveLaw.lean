import GreenCurve.SettingsPolicy

/-! # Normal and valid fan curves

What an accepted curve satisfies, point by point, and the curves both normalisers leave
alone. -/

namespace GreenCurve

/-- The order the enabled points are sorted by. -/
abbrev FanCurvePoint.Before (a b : FanCurvePoint) : Prop := a.temperatureC ≤ b.temperatureC

instance : Std.Total FanCurvePoint.Before := ⟨fun _ _ => le_total _ _⟩
instance : IsTrans FanCurvePoint FanCurvePoint.Before := ⟨fun _ _ _ => le_trans⟩

theorem sortEnabledPoints_perm (points : List FanCurvePoint) :
    (sortEnabledPoints points).Perm points :=
  List.perm_insertionSort _ _

theorem pairwise_sortEnabledPoints (points : List FanCurvePoint) :
    (sortEnabledPoints points).Pairwise FanCurvePoint.Before :=
  List.pairwise_insertionSort FanCurvePoint.Before points

theorem sortEnabledPoints_eq_self {points : List FanCurvePoint}
    (h : points.Pairwise FanCurvePoint.Before) : sortEnabledPoints points = points :=
  h.insertionSort_eq

namespace FanCurveConfig

/-- What `fan_curve_validate` accepts. -/
structure Valid (config : FanCurveConfig) : Prop where
  poll : 250 ≤ config.pollIntervalMs ∧ config.pollIntervalMs ≤ 5000 ∧
    config.pollIntervalMs % 250 = 0
  hysteresis : 0 ≤ config.hysteresisC ∧ config.hysteresisC ≤ FAN_CURVE_MAX_HYSTERESIS_C
  zeroRpm : FAN_ZERO_RPM_MIN_HYSTERESIS_C ≤ config.zeroRpmHysteresisC ∧
    config.zeroRpmHysteresisC ≤ FAN_ZERO_RPM_MAX_HYSTERESIS_C
  points : ∀ p ∈ config.points, 0 ≤ p.temperatureC ∧ p.temperatureC ≤ 100 ∧
    0 ≤ p.fanPercent ∧ p.fanPercent ≤ 100
  active : 2 ≤ config.activePoints.length
  chain : (sortEnabledPoints config.activePoints).IsChain fun left right =>
    left.temperatureC < right.temperatureC ∧ left.fanPercent ≤ right.fanPercent

theorem validate_iff {config : FanCurveConfig} : config.validate = true ↔ config.Valid := by
  simp only [validate, Bool.and_eq_true, decide_eq_true_eq, List.all_eq_true]
  constructor
  · rintro ⟨⟨⟨⟨⟨hpoll, hhyst⟩, hzero⟩, hpoints⟩, hactive⟩, hchain⟩
    exact ⟨hpoll, hhyst, hzero, hpoints, hactive, hchain⟩
  · rintro ⟨hpoll, hhyst, hzero, hpoints, hactive, hchain⟩
    exact ⟨⟨⟨⟨⟨hpoll, hhyst⟩, hzero⟩, hpoints⟩, hactive⟩, hchain⟩

/-- The enabled points are in front, by temperature. -/
def Ordered (config : FanCurveConfig) : Prop :=
  config.points =
    sortEnabledPoints (config.points.filter (·.enabled)) ++ config.points.filter (!·.enabled)

theorem ordered_defaultPoints : defaultPoints =
    sortEnabledPoints (defaultPoints.filter (·.enabled)) ++ defaultPoints.filter (!·.enabled) := by
  decide

theorem ordered_normalize (config : FanCurveConfig) : config.normalize.Ordered := by
  simp only [Ordered, normalize, normalizeImpl, if_true]
  split
  · exact ordered_defaultPoints
  · simp only [List.filter_append]
    have hsort := sortEnabledPoints_perm ((config.points.map clampPoint).filter (·.enabled))
    have henabled : ∀ p ∈ sortEnabledPoints ((config.points.map clampPoint).filter (·.enabled)),
        p.enabled = true := by
      intro p hp
      exact (List.mem_filter.mp (hsort.mem_iff.mp hp)).2
    have hdisabled : ∀ p ∈ (config.points.map clampPoint).filter (!·.enabled),
        p.enabled = false := by
      intro p hp
      simpa using (List.mem_filter.mp hp).2
    have h₁ := List.filter_eq_self.mpr henabled
    have h₂ : ((config.points.map clampPoint).filter (!·.enabled)).filter (·.enabled) = [] := by
      rw [List.filter_eq_nil_iff]
      intro p hp
      simp [hdisabled p hp]
    have h₃ : (sortEnabledPoints ((config.points.map clampPoint).filter (·.enabled))).filter
        (!·.enabled) = [] := by
      rw [List.filter_eq_nil_iff]
      intro p hp
      simp [henabled p hp]
    have h₄ : ((config.points.map clampPoint).filter (!·.enabled)).filter (!·.enabled) =
        (config.points.map clampPoint).filter (!·.enabled) := by
      rw [List.filter_eq_self]
      intro p hp
      simp [hdisabled p hp]
    rw [h₁, h₂, h₃, h₄, List.append_nil, List.nil_append,
      sortEnabledPoints_eq_self (pairwise_sortEnabledPoints _)]

theorem clampPoint_of_valid {config : FanCurveConfig} (h : config.Valid) :
    config.points.map clampPoint = config.points := by
  refine (List.map_congr_left fun p hp => ?_).trans (List.map_id _)
  have hp := h.points p hp
  simp only [clampPoint, clampInt_of_mem ⟨hp.1, hp.2.1⟩, clampInt_of_mem hp.2.2, id]

/-- **A valid curve in order is left alone by both normalisers.** -/
theorem normalizeImpl_of_valid {config : FanCurveConfig} (h : config.Valid)
    (hordered : config.Ordered) (substituteDefault : Bool) :
    config.normalizeImpl substituteDefault = config := by
  have hpoll := h.poll
  have hzero := h.zeroRpm
  have hpollEq : (clampInt config.pollIntervalMs 250 5000 + 125) / 250 * 250 =
      config.pollIntervalMs := by
    rw [clampInt_of_mem ⟨hpoll.1, hpoll.2.1⟩]
    omega
  have hscalars : config.normalizeScalars = config := by
    have hne : config.zeroRpmHysteresisC ≠ 0 := by
      rintro heq
      rw [heq] at hzero
      exact absurd hzero.1 (by decide)
    simp only [normalizeScalars, hpollEq, clampInt_of_mem h.hysteresis, if_neg hne,
      max_eq_left hzero.1, min_eq_left hzero.2]
  have hactive : ¬(config.points.filter (·.enabled)).length < 2 := by
    have := h.active
    simp only [activePoints] at this
    omega
  unfold Ordered at hordered
  simp only [normalizeImpl, clampPoint_of_valid h, if_neg hactive, hscalars]
  rw [← hordered]

theorem clampForIpc_of_valid {config : FanCurveConfig} (h : config.Valid) :
    config.clampForIpc = config := by
  have hpoints : (config.points.map fun point =>
      { point with
        fanPercent := clampInt point.fanPercent 0 100
        temperatureC := clampInt point.temperatureC 0 150 }) = config.points := by
    refine (List.map_congr_left fun p hp => ?_).trans (List.map_id _)
    have hp := h.points p hp
    have htemp : 0 ≤ p.temperatureC ∧ p.temperatureC ≤ 150 := ⟨hp.1, by omega⟩
    simp only [clampInt_of_mem htemp, clampInt_of_mem hp.2.2, id]
  simp only [clampForIpc, hpoints, clampInt_of_mem h.hysteresis, max_eq_left h.zeroRpm.1,
    min_eq_left h.zeroRpm.2]

/-- A curve as it is stored: valid, and its points in order. -/
structure Settled (config : FanCurveConfig) : Prop where
  valid : config.Valid
  ordered : config.Ordered

theorem settled_setDefault : setDefault.Settled :=
  ⟨validate_iff.mp (by decide), ordered_defaultPoints⟩

theorem settled_normalize {config : FanCurveConfig} (h : config.normalize.validate = true) :
    config.normalize.Settled :=
  ⟨validate_iff.mp h, ordered_normalize config⟩

theorem Settled.normalize_eq {config : FanCurveConfig} (h : config.Settled) :
    config.normalize = config :=
  normalizeImpl_of_valid h.valid h.ordered true

theorem Settled.ipc_eq {config : FanCurveConfig} (h : config.Settled) :
    config.clampForIpc.normalizeForIpc = config := by
  rw [clampForIpc_of_valid h.valid]
  exact normalizeImpl_of_valid h.valid h.ordered false

end FanCurveConfig

/-! ## Settings both normalisers leave alone -/

/-- The editor stores a settled curve whatever it is given. -/
theorem settled_normalizeDesiredSettingsForUi (d : DesiredSettings) :
    (normalizeDesiredSettingsForUi d).fanCurve.Settled := by
  change (if d.fanCurve.normalize.validate then d.fanCurve.normalize else .setDefault :
    FanCurveConfig).Settled
  split
  · exact FanCurveConfig.settled_normalize ‹_›
  · exact FanCurveConfig.settled_setDefault

theorem clampIf_clampIf {lo hi : Int} (h : lo ≤ hi) (owned : Bool) (value : Int) :
    let clamped := if owned then clampInt value lo hi else value
    (if owned then clampInt clamped lo hi else clamped) = clamped := by
  cases owned
  · rfl
  · exact clampInt_clampInt h value

/-- **The boundary of the daemon changes nothing in settings an editor normalised**, if
what they did not own before was zero. -/
theorem validate_normalize_validate {d : DesiredSettings}
    (hgpu : d.hasGpuOffset = false → d.gpuOffsetMHz = 0)
    (hmem : d.hasMemOffset = false → d.memOffsetMHz = 0) :
    let stored := normalizeDesiredSettingsForUi (validateDesiredSettingsForIpc d)
    validateDesiredSettingsForIpc stored = stored := by
  intro stored
  have hcurve := settled_normalizeDesiredSettingsForUi (validateDesiredSettingsForIpc d)
  have hgpuRange : -1000 ≤ stored.gpuOffsetMHz ∧ stored.gpuOffsetMHz ≤ 1000 := by
    change -1000 ≤ (if d.hasGpuOffset then clampInt d.gpuOffsetMHz (-1000) 1000 else d.gpuOffsetMHz)
      ∧ (if d.hasGpuOffset then clampInt d.gpuOffsetMHz (-1000) 1000 else d.gpuOffsetMHz) ≤ 1000
    split
    · exact clampInt_mem (by decide) _
    · rename_i h
      rw [hgpu (by simpa using h)]
      decide
  have hmemRange : -3000 ≤ stored.memOffsetMHz ∧ stored.memOffsetMHz ≤ 3000 := by
    change -3000 ≤ (if d.hasMemOffset then clampInt d.memOffsetMHz (-3000) 3000 else d.memOffsetMHz)
      ∧ (if d.hasMemOffset then clampInt d.memOffsetMHz (-3000) 3000 else d.memOffsetMHz) ≤ 3000
    split
    · exact clampInt_mem (by decide) _
    · rename_i h
      rw [hmem (by simpa using h)]
      decide
  have hexclude : stored.gpuOffsetExcludeLowCount ≤ VF_NUM_POINTS := by
    change (if _ then 0 else min d.gpuOffsetExcludeLowCount VF_NUM_POINTS) ≤ VF_NUM_POINTS
    split
    · exact Nat.zero_le _
    · exact min_le_right _ _
  have hpower := clampPowerLimitPct_mem (validateDesiredSettingsForIpc d).powerLimitPct
  have hfan := clampInt_mem (show (0 : Int) ≤ 100 by decide)
    (if (validateDesiredSettingsForIpc d).fanPercent ≤ 0 then 50
      else (validateDesiredSettingsForIpc d).fanPercent)
  ext
  case gpuOffsetMHz => exact clampInt_of_mem hgpuRange
  case memOffsetMHz => exact clampInt_of_mem hmemRange
  case gpuOffsetExcludeLowCount => exact min_eq_left hexclude
  case powerLimitPct => exact clampPowerLimitPct_of_mem hpower
  case fanPercent => exact clampInt_of_mem hfan
  case fanCurve => exact hcurve.ipc_eq
  case lockCi => exact clampInt_clampInt (by decide) _
  case curvePointMHz ci => exact min_eq_left (min_le_right _ _)
  case lockMHz => exact min_eq_left (min_le_right _ _)
  case xbarOffsetKhz => exact clampIf_clampIf (by decide) _ _
  case xbarMsvddOffsetUv => exact clampIf_clampIf (by decide) _ _
  case sysClkOffsetKhz => exact clampIf_clampIf (by decide) _ _
  case videoClkOffsetKhz => exact clampIf_clampIf (by decide) _ _
  all_goals rfl

/-- The editor leaves alone what it normalised. -/
theorem normalize_normalize (d : DesiredSettings) :
    normalizeDesiredSettingsForUi (normalizeDesiredSettingsForUi d) =
      normalizeDesiredSettingsForUi d := by
  have hcurve := settled_normalizeDesiredSettingsForUi d
  have hpower := clampPowerLimitPct_mem d.powerLimitPct
  ext
  case gpuOffsetExcludeLowCount =>
    change (if d.gpuOffsetMHz = 0 then 0 else if d.gpuOffsetMHz = 0 then 0 else
      d.gpuOffsetExcludeLowCount) = if d.gpuOffsetMHz = 0 then 0 else d.gpuOffsetExcludeLowCount
    split <;> rfl
  case powerLimitPct => exact clampPowerLimitPct_of_mem hpower
  case fanPercent =>
    obtain ⟨pct, hpct⟩ : ∃ pct, (if d.fanPercent ≤ 0 then 50 else d.fanPercent) = pct := ⟨_, rfl⟩
    have hpos : 0 < pct := by
      rw [← hpct]
      split <;> omega
    have hclamped : 0 < clampInt pct 0 100 := by
      unfold clampInt
      rw [if_neg (by omega)]
      split <;> omega
    change clampInt (if clampInt (if d.fanPercent ≤ 0 then 50 else d.fanPercent) 0 100 ≤ 0 then 50
      else clampInt (if d.fanPercent ≤ 0 then 50 else d.fanPercent) 0 100) 0 100 =
        clampInt (if d.fanPercent ≤ 0 then 50 else d.fanPercent) 0 100
    rw [hpct, if_neg (by omega), clampInt_clampInt (by decide)]
  case fanCurve =>
    change (if (normalizeDesiredSettingsForUi d).fanCurve.normalize.validate then
      (normalizeDesiredSettingsForUi d).fanCurve.normalize else .setDefault) = _
    rw [hcurve.normalize_eq, if_pos (FanCurveConfig.validate_iff.mpr hcurve.valid)]
  all_goals rfl

end GreenCurve
