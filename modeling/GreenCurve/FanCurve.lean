import GreenCurve.DesiredSettings
import Mathlib.Data.List.Sort

/-! # Fan curves

Normalisation, validation and interpolation of a fan curve, and the decision the
fan runtime starts with. -/

namespace GreenCurve

abbrev FAN_CURVE_MAX_POINTS : Nat := 8
abbrev FAN_CURVE_MAX_HYSTERESIS_C : Int := 10
abbrev FAN_ZERO_RPM_MIN_HYSTERESIS_C : Nat := 2
abbrev FAN_ZERO_RPM_MAX_HYSTERESIS_C : Nat := 30
abbrev FAN_ZERO_RPM_DEFAULT_HYSTERESIS_C : Nat := 5

def clampInt (value minimum maximum : Int) : Int :=
  if value < minimum then minimum else if value > maximum then maximum else value

/-- `sort_enabled_points`: insertion by temperature, equal ones in their order. -/
def sortEnabledPoints (points : List FanCurvePoint) : List FanCurvePoint :=
  points.insertionSort fun a b => a.temperatureC ≤ b.temperatureC

namespace FanCurveConfig
variable (config : FanCurveConfig)

def activePoints : List FanCurvePoint := config.points.filter (·.enabled)

def firstEnabledTemperature : Int :=
  let first := config.activePoints.foldl (fun t p => min t p.temperatureC) 101
  if first > 100 then 0 else max first 0

def zeroRpmHysteresis : Int :=
  min (max config.zeroRpmHysteresisC FAN_ZERO_RPM_MIN_HYSTERESIS_C) FAN_ZERO_RPM_MAX_HYSTERESIS_C

/-- The points of `fan_curve_set_default`. -/
def defaultPoints : List FanCurvePoint :=
  [⟨true, 30, 20⟩, ⟨true, 45, 35⟩, ⟨true, 60, 55⟩, ⟨true, 72, 72⟩, ⟨true, 84, 90⟩,
    ⟨false, 90, 95⟩, ⟨false, 95, 100⟩, ⟨false, 100, 100⟩]

def clampPoint (point : FanCurvePoint) : FanCurvePoint :=
  { point with
    temperatureC := clampInt point.temperatureC 0 100
    fanPercent := clampInt point.fanPercent 0 100 }

/-- The scalar part of `fan_curve_normalize_impl`. -/
def normalizeScalars : FanCurveConfig :=
  { config with
    pollIntervalMs := (clampInt config.pollIntervalMs 250 5000 + 125) / 250 * 250
    hysteresisC := clampInt config.hysteresisC 0 FAN_CURVE_MAX_HYSTERESIS_C
    zeroRpmHysteresisC :=
      if config.zeroRpmHysteresisC = 0 then FAN_ZERO_RPM_DEFAULT_HYSTERESIS_C
      else min (max config.zeroRpmHysteresisC FAN_ZERO_RPM_MIN_HYSTERESIS_C)
        FAN_ZERO_RPM_MAX_HYSTERESIS_C }

/-- `fan_curve_normalize_impl`: the enabled points sorted first, the others after
them.  A curve with fewer than two enabled points is replaced only on request. -/
def normalizeImpl (substituteDefault : Bool) : FanCurveConfig :=
  let points := config.points.map clampPoint
  let enabled := points.filter (·.enabled)
  let disabled := points.filter (!·.enabled)
  if enabled.length < 2 then
    { config.normalizeScalars with
      points := if substituteDefault then defaultPoints else points }
  else
    { config.normalizeScalars with points := sortEnabledPoints enabled ++ disabled }

def normalize : FanCurveConfig := config.normalizeImpl true

def normalizeForIpc : FanCurveConfig := config.normalizeImpl false

/-- `fan_curve_validate`. -/
def validate : Bool :=
  decide (250 ≤ config.pollIntervalMs ∧ config.pollIntervalMs ≤ 5000 ∧
    config.pollIntervalMs % 250 = 0) &&
  decide (0 ≤ config.hysteresisC ∧ config.hysteresisC ≤ FAN_CURVE_MAX_HYSTERESIS_C) &&
  decide (FAN_ZERO_RPM_MIN_HYSTERESIS_C ≤ config.zeroRpmHysteresisC ∧
    config.zeroRpmHysteresisC ≤ FAN_ZERO_RPM_MAX_HYSTERESIS_C) &&
  config.points.all (fun p => decide (0 ≤ p.temperatureC ∧ p.temperatureC ≤ 100 ∧
    0 ≤ p.fanPercent ∧ p.fanPercent ≤ 100)) &&
  decide (2 ≤ config.activePoints.length) &&
  decide ((sortEnabledPoints config.activePoints).IsChain fun left right =>
    left.temperatureC < right.temperatureC ∧ left.fanPercent ≤ right.fanPercent)

/-- The segment of the sorted points that holds the temperature. -/
def interpolateSegments (temperatureC : Int) : List FanCurvePoint → Int
  | left :: right :: rest =>
    if temperatureC > right.temperatureC then interpolateSegments temperatureC (right :: rest)
    else
      let span := right.temperatureC - left.temperatureC
      if span ≤ 0 then clampInt right.fanPercent 0 100
      else
        let offset := temperatureC - left.temperatureC
        clampInt (left.fanPercent +
          (offset * (right.fanPercent - left.fanPercent) + span / 2).tdiv span) 0 100
  | [last] => clampInt last.fanPercent 0 100
  | [] => 100

/-- `fan_curve_interpolate_percent`. -/
def interpolatePercent (temperatureC : Int) : Int :=
  let active := sortEnabledPoints config.activePoints
  let temperatureC := clampInt temperatureC 0 100
  match active with
  | [] => 100
  | [only] => clampInt only.fanPercent 0 100
  | first :: _ =>
    if temperatureC ≤ first.temperatureC then clampInt first.fanPercent 0 100
    else interpolateSegments temperatureC active

end FanCurveConfig

/-- What the fan runtime does first: the target, and whether the driver keeps the
fan. -/
structure FanRuntimeStart where
  useDriverAuto : Bool
  targetPercent : Int
  deriving DecidableEq

/-- `fan_runtime_next_action` from the initial runtime state. -/
def fanRuntimeFirstAction (curve : FanCurveConfig) (temperatureC : Int) : FanRuntimeStart :=
  if curve.zeroRpmEnabled && decide (temperatureC < curve.firstEnabledTemperature) then
    { useDriverAuto := true, targetPercent := 0 }
  else
    { useDriverAuto := false
      targetPercent := clampInt (curve.interpolatePercent temperatureC) 0 100 }

/-- `fan_manual_effective_percent`: the duty a manual write really sets. -/
def fanManualEffectivePercent (requestedPercent : Int) (range : Option (Int × Int)) : Int :=
  let pct := clampInt requestedPercent 0 100
  match range with
  | none => pct
  | some (hardwareMin, hardwareMax) =>
    let lo := max hardwareMin 0
    let hi := min hardwareMax 100
    if hi < lo then pct else min (max pct lo) hi

end GreenCurve
