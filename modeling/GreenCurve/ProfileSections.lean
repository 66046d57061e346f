import GreenCurve.DecimalText
import GreenCurve.FanCurveLaw

/-! # A stored profile

A profile is three sections of a configuration file: its controls, its VF curve and its
fan curve.  Here is how settings are read from the entries of the three, and what is
written into them.  A VF point is stored as its absolute frequency, with a flag at the
points that project the GPU offset; sections of older builds say something else about
their points, and are read accordingly. -/

namespace GreenCurve.Profile

open Ini (Text Entry)

/-- Why a profile cannot be loaded. -/
inductive LoadError where
  /-- `"Invalid … in …"`. -/
  | invalid (what context : String)
  /-- `"Invalid or out-of-range … in …"`. -/
  | outOfRange (key context : String)
  /-- `"Zero-RPM fan-off gap in … must be between …"`. -/
  | zeroRpmGap (curveSection : String)
  /-- What `fan_curve_validate` refuses. -/
  | fanCurve
  /-- `"Profile … is empty"`. -/
  | empty (slot : Nat)
  /-- `"Invalid profile … arguments"`. -/
  | arguments
  /-- `"… exceeds the …-byte INI limit"`. -/
  | tooLarge
  /-- `"INI has too many sections"`, `"INI section has too many entries"`. -/
  | limit (e : Ini.LimitError)
  deriving DecidableEq

/-- `get_section_value`: the empty text where there is no entry. -/
def value (entries : List Entry) (key : Text) : Text := (Ini.lookup entries key).getD []

/-- An optional integer: absent where its value is empty. -/
def readInt (entries : List Entry) (key : Text) (err : LoadError) : Except LoadError (Option Int) :=
  let text := value entries key
  if text = [] then .ok none
  else
    match parseIntStrict text with
    | some n => .ok (some n)
    | none => .error err

/-- `streqi_ascii` with a lower-case text. -/
def streqi (t : Text) (lower : String) : Bool := (Ini.cString t).map Char.toLower = lower.toList

/-! ## Controls -/

section Controls
variable (entries : List Entry) (context : String)

def loadGpuOffset (d : DesiredSettings) : Except LoadError DesiredSettings := do
  match ← readInt entries "gpu_offset_mhz".toList (.invalid "gpu_offset_mhz" context) with
  | some n => return { d with gpuOffsetMHz := n, hasGpuOffset := true }
  | none => return d

/-- The count of the low points without the offset; an older key only said whether it
was 70.  A negative count means none to every reader. -/
def loadExcludeLowCount (d : DesiredSettings) : Except LoadError DesiredSettings := do
  let err := LoadError.invalid "gpu_offset_exclude_low_count" context
  if value entries "gpu_offset_exclude_low_count".toList ≠ [] then
    match ← readInt entries "gpu_offset_exclude_low_count".toList err with
    | some n => return { d with gpuOffsetExcludeLowCount := n.toNat }
    | none => return d
  else
    match ← readInt entries "gpu_offset_exclude_low_70".toList err with
    | some n => return { d with gpuOffsetExcludeLowCount := if n ≠ 0 then 70 else 0 }
    | none => return d

def loadLockCi (d : DesiredSettings) : Except LoadError DesiredSettings := do
  match ← readInt entries "lock_ci".toList (.invalid "lock_ci" context) with
  | some n => return { d with hasLock := decide (n ≥ 0), lockCi := n }
  | none => return d

def loadLockMHz (d : DesiredSettings) : Except LoadError DesiredSettings := do
  match ← readInt entries "lock_mhz".toList (.invalid "lock_mhz" context) with
  | some n =>
    if n < 0 then throw (.invalid "lock_mhz" context)
    else if n > 0 then return { d with hasLock := true, lockMHz := n.toNat }
    else return d
  | none => return d

def loadLockTracksAnchor (d : DesiredSettings) : Except LoadError DesiredSettings := do
  match ← readInt entries "lock_tracks_anchor".toList (.invalid "lock_tracks_anchor" context) with
  | some n => return { d with lockTracksAnchor := decide (n ≠ 0) }
  | none => return d

/-- The stored number of a lock mode. -/
def lockModeNumber : LockMode → Int
  | .none => 0
  | .flatten => 1
  | .hard => 2

def lockModeOfNumber (n : Int) : Option LockMode :=
  if n = 0 then some .none else if n = 1 then some .flatten else if n = 2 then some .hard else none

def loadLockMode (d : DesiredSettings) : Except LoadError DesiredSettings := do
  match ← readInt entries "lock_mode".toList (.invalid "lock_mode" context) with
  | some n =>
    match lockModeOfNumber n with
    | some stored => return { d with lockMode := profileLockModeAfterLoad d.hasLock true stored }
    | none => throw (.invalid "lock_mode" context)
  | none => return { d with lockMode := profileLockModeAfterLoad d.hasLock false .none }

def loadMemOffset (d : DesiredSettings) : Except LoadError DesiredSettings := do
  match ← readInt entries "mem_offset_mhz".toList (.invalid "mem_offset_mhz" context) with
  | some n => return { d with memOffsetMHz := n, hasMemOffset := true }
  | none => return d

def loadPowerLimit (d : DesiredSettings) : Except LoadError DesiredSettings := do
  match ← readInt entries "power_limit_pct".toList (.invalid "power_limit_pct" context) with
  | some n => return { d with powerLimitPct := n, hasPowerLimit := true }
  | none => return d

/-- An offset of a clock domain, refused beyond its bound. -/
def loadBounded (key : String) (bound : Int) (assign : Int → DesiredSettings → DesiredSettings)
    (d : DesiredSettings) : Except LoadError DesiredSettings := do
  match ← readInt entries key.toList (.outOfRange key context) with
  | some n =>
    if n < -bound ∨ n > bound then throw (.outOfRange key context)
    else return assign n d
  | none => return d

def loadXbarOffset : DesiredSettings → Except LoadError DesiredSettings :=
  loadBounded entries context "xbar_offset_khz" 1000000
    fun n d => { d with xbarOffsetKhz := n, hasXbarOffsetKhz := true }

def loadXbarMsvddOffset : DesiredSettings → Except LoadError DesiredSettings :=
  loadBounded entries context "xbar_msvdd_offset_uv" 100000
    fun n d => { d with xbarMsvddOffsetUv := n, hasXbarMsvddOffsetUv := true }

def loadSysClkOffset : DesiredSettings → Except LoadError DesiredSettings :=
  loadBounded entries context "sys_clk_offset_khz" 1000000
    fun n d => { d with sysClkOffsetKhz := n, hasSysClkOffsetKhz := true }

def loadVideoClkOffset : DesiredSettings → Except LoadError DesiredSettings :=
  loadBounded entries context "video_clk_offset_khz" 1000000
    fun n d => { d with videoClkOffsetKhz := n, hasVideoClkOffsetKhz := true }

/-- `parse_fan_mode_config_value`. -/
def parseFanModeConfigValue (text : Text) : Option FanMode :=
  if streqi text "auto" || streqi text "default" then some .auto
  else if streqi text "fixed" || streqi text "manual" then some .fixed
  else if streqi text "curve" then some .curve
  else none

/-- Whether the section names a fan mode. -/
def hasExplicitFanMode : Bool := decide (value entries "fan_mode".toList ≠ [])

def loadFanMode (d : DesiredSettings) : Except LoadError DesiredSettings :=
  if hasExplicitFanMode entries then
    match parseFanModeConfigValue (value entries "fan_mode".toList) with
    | some mode => .ok { d with fanMode := mode, hasFan := true, fanAuto := decide (mode = .auto) }
    | none => .error (.invalid "fan_mode" context)
  else .ok d

/-- `parse_fan_value`, on a buffer of 64 bytes. -/
def parseFanValue (text : Text) : Option (Bool × Int) :=
  let text := Ini.trim ((Ini.cString text).take 63)
  if text = [] || streqi text "auto" then some (true, 0)
  else
    match parseIntStrict text with
    | some n => if n < 0 ∨ n > 100 then none else some (false, n)
    | none => none

def loadFan (d : DesiredSettings) : Except LoadError DesiredSettings :=
  let text := value entries "fan".toList
  if text = [] then .ok d
  else
    match parseFanValue text with
    | none => .error (.invalid "fan setting" context)
    | some (fanAuto, fanPercent) =>
      if !hasExplicitFanMode entries then
        .ok { d with
          hasFan := true
          fanAuto := fanAuto
          fanMode := if fanAuto then .auto else .fixed
          fanPercent := fanPercent }
      else if d.fanMode = .fixed ∧ fanAuto = false then
        .ok { d with hasFan := true, fanAuto := false, fanPercent := clampInt fanPercent 0 100 }
      else .ok d

def loadFanFixedPct (d : DesiredSettings) : Except LoadError DesiredSettings := do
  match ← readInt entries "fan_fixed_pct".toList (.invalid "fan_fixed_pct" context) with
  | some n =>
    if !hasExplicitFanMode entries || d.fanMode == .fixed then
      return { d with
        hasFan := true
        fanMode := .fixed
        fanAuto := false
        fanPercent := clampInt n 0 100 }
    else return d
  | none => return d

/-- The controls of a profile, in the order they are read in. -/
def loadControls (d : DesiredSettings) : Except LoadError DesiredSettings := do
  let d ← loadGpuOffset entries context d
  let d ← loadExcludeLowCount entries context d
  let d ← loadLockCi entries context d
  let d ← loadLockMHz entries context d
  let d ← loadLockTracksAnchor entries context d
  let d ← loadLockMode entries context d
  let d ← loadMemOffset entries context d
  let d ← loadPowerLimit entries context d
  let d ← loadXbarOffset entries context d
  let d ← loadXbarMsvddOffset entries context d
  let d ← loadSysClkOffset entries context d
  let d ← loadVideoClkOffset entries context d
  let d ← loadFanMode entries context d
  let d ← loadFan entries context d
  loadFanFixedPct entries context d

end Controls

/-! ## The fan curve -/

/-- A key with a number at its end. -/
def numbered (stem : String) (i : Nat) : Text := stem.toList ++ printInt i

/-- `fan_curve_migrate_legacy_zero_rpm_hysteresis`. -/
def migrateLegacyZeroRpmHysteresis (curve : FanCurveConfig) (explicit : Bool) : FanCurveConfig :=
  if curve.zeroRpmEnabled && !explicit then
    { curve with
      zeroRpmHysteresisC := (clampInt curve.hysteresisC FAN_ZERO_RPM_MIN_HYSTERESIS_C
        FAN_ZERO_RPM_MAX_HYSTERESIS_C).toNat }
  else curve

section FanCurve
variable (entries : List Entry) (sectionName : String)

def loadFanCurvePoint (point : FanCurvePoint) (i : Nat) : Except LoadError FanCurvePoint := do
  let enabled ← readInt entries (numbered "enabled" i)
    (.invalid "fan curve enabled flag" sectionName)
  let temp ← readInt entries (numbered "temp" i) (.invalid "fan curve temperature" sectionName)
  let pct ← readInt entries (numbered "pct" i) (.invalid "fan curve percentage" sectionName)
  return {
    enabled := (enabled.map fun n => decide (n ≠ 0)).getD point.enabled
    temperatureC := temp.getD point.temperatureC
    fanPercent := pct.getD point.fanPercent }

def loadZeroRpmHysteresis (curve : FanCurveConfig) : Except LoadError (FanCurveConfig × Bool) := do
  match ← readInt entries "zero_rpm_hysteresis_c".toList (.zeroRpmGap sectionName) with
  | some n =>
    if n < FAN_ZERO_RPM_MIN_HYSTERESIS_C ∨ n > FAN_ZERO_RPM_MAX_HYSTERESIS_C then
      throw (.zeroRpmGap sectionName)
    else return ({ curve with zeroRpmHysteresisC := n.toNat }, true)
  | none => return (curve, false)

def loadZeroRpmEnabled (curve : FanCurveConfig) : Except LoadError FanCurveConfig := do
  let err := LoadError.invalid "fan curve native zero-RPM flag" sectionName
  match ← readInt entries "zero_rpm_enabled".toList err with
  | some n =>
    if n ≠ 0 ∧ n ≠ 1 then throw err
    else return { curve with zeroRpmEnabled := decide (n ≠ 0) }
  | none => return curve

/-- `load_fan_curve_config_from_section`: what the section says over what the curve held. -/
def loadFanCurve (curve : FanCurveConfig) : Except LoadError FanCurveConfig := do
  if entries = [] then return curve
  else
    let poll ← readInt entries "poll_interval_ms".toList
      (.invalid "fan curve poll interval" sectionName)
    let curve := { curve with pollIntervalMs := poll.getD curve.pollIntervalMs }
    let hysteresis ← readInt entries "hysteresis_c".toList
      (.invalid "fan curve hysteresis" sectionName)
    let curve := { curve with hysteresisC := hysteresis.getD curve.hysteresisC }
    let (curve, explicit) ← loadZeroRpmHysteresis entries sectionName curve
    let curve ← loadZeroRpmEnabled entries sectionName curve
    let curve := migrateLegacyZeroRpmHysteresis curve explicit
    let points ← (List.range FAN_CURVE_MAX_POINTS).mapM fun i =>
      loadFanCurvePoint entries sectionName (curve.points.getD i {}) i
    let curve := FanCurveConfig.normalize { curve with points := points }
    if curve.validate then return curve else throw .fanCurve

end FanCurve

/-! ## The VF curve -/

/-- How the stored points of a section are to be read. -/
inductive CurveDecode where
  | unmarked
  | absolute
  | absoluteWithOrigin
  | basePlusGpuOffset
  deriving DecidableEq

/-- `profile_curve_decode_from_marker`. -/
def curveDecodeFromMarker (semantics : Text) : CurveDecode :=
  if Ini.cString semantics = [] then .unmarked
  else if streqi semantics "absolute_with_origin" then .absoluteWithOrigin
  else if streqi semantics "base_plus_gpu_offset" then .basePlusGpuOffset
  else .absolute

def pointKey (i : VfPoint) : Text := numbered "point" i

def pointOriginKey (i : VfPoint) : Text := pointKey i ++ "_from_gpu_offset".toList

section Curve
variable (entries : List Entry)

def curveDecode : CurveDecode := curveDecodeFromMarker (value entries "curve_semantics".toList)

/-- The frequency of a stored point. -/
def storedPoint (i : VfPoint) : Option Nat :=
  match parseIntStrict (value entries (pointKey i)) with
  | some n => if n > 0 then some n.toNat else none
  | none => none

/-- The point has a value that is no frequency. -/
def malformedPoint (i : VfPoint) : Bool :=
  decide (value entries (pointKey i) ≠ []) && (storedPoint entries i).isNone

/-- The stored points, the first that is malformed reported. -/
def loadCurvePoints (context : String) (d : DesiredSettings) :
    Except LoadError DesiredSettings :=
  match (List.finRange VF_NUM_POINTS).find? (malformedPoint entries) with
  | some i => .error (.invalid ("curve point " ++ toString i.val) context)
  | none =>
    .ok { d with
      hasCurvePoint := fun i => (storedPoint entries i).isSome || d.hasCurvePoint i
      curvePointMHz := fun i => (storedPoint entries i).getD (d.curvePointMHz i)
      curvePointFromGpuOffset := fun i =>
        if (storedPoint entries i).isSome then false else d.curvePointFromGpuOffset i }

/-- `linux_profile_read_curve_point_origins`: the owned points with a flag project the GPU
offset. -/
def readCurvePointOrigins (d : DesiredSettings) : DesiredSettings :=
  if curveDecode entries = .absoluteWithOrigin then
    { d with
      curvePointFromGpuOffset := fun i =>
        d.curvePointFromGpuOffset i || (d.hasCurvePoint i &&
          match parseIntStrict (value entries (pointOriginKey i)) with
          | some n => decide (n ≠ 0)
          | none => false) }
  else d

/-- `gpu_offset_component_mhz_for_point_linux`. -/
def gpuOffsetComponentMHz (d : DesiredSettings) (i : VfPoint) : Int :=
  if i.val < d.gpuOffsetExcludeLowCount then 0 else d.gpuOffsetMHz

/-- The absolute frequency of a point stored without its offset. -/
def absoluteMHz (d : DesiredSettings) (i : VfPoint) : Int :=
  d.curvePointMHz i + gpuOffsetComponentMHz d i

/-- What sections of older builds mean: base frequencies to which the offset is added
back, or points that were no intent at all. -/
def reconstructLegacyCurve (d : DesiredSettings) : DesiredSettings :=
  let offset := d.hasGpuOffset && decide (d.gpuOffsetMHz ≠ 0)
  if curveDecode entries = .basePlusGpuOffset ∧ offset = true then
    { d with
      hasCurvePoint := fun i => d.hasCurvePoint i && decide (absoluteMHz d i > 0)
      curvePointMHz := fun i =>
        if d.hasCurvePoint i then (absoluteMHz d i).toNat else d.curvePointMHz i
      curvePointFromGpuOffset := fun i =>
        if d.hasCurvePoint i then decide (absoluteMHz d i > 0) else d.curvePointFromGpuOffset i }
  else if curveDecode entries = .unmarked ∧ offset = true then
    { d with
      hasCurvePoint := fun _ => false
      curvePointMHz := fun _ => 0
      curvePointFromGpuOffset := fun _ => false }
  else d

end Curve

/-- The frequency of a point once every owned point is raised to its owned left
neighbour, from the left. -/
def raisedMHz (has : VfPoint → Bool) (mhz : VfPoint → Nat) : (i : Nat) → i < VF_NUM_POINTS → Nat
  | 0, h => mhz ⟨0, h⟩
  | i + 1, h =>
    let left := raisedMHz has mhz i (Nat.lt_of_succ_lt h)
    if has ⟨i + 1, h⟩ && has ⟨i, Nat.lt_of_succ_lt h⟩ && decide (mhz ⟨i + 1, h⟩ < left) then left
    else mhz ⟨i + 1, h⟩

def raiseCurvePoints (d : DesiredSettings) : DesiredSettings :=
  { d with curvePointMHz := fun i => raisedMHz d.hasCurvePoint d.curvePointMHz i i.isLt }

/-- `load_desired_settings_from_sections`. -/
def loadDesiredSettingsFromSections (controls curve fanCurve : List Entry)
    (fanCurveSection context : String) : Except LoadError DesiredSettings := do
  let d ← loadControls controls context initializeDesiredSettingsDefaults
  let fan ← loadFanCurve fanCurve fanCurveSection d.fanCurve
  let d ← loadCurvePoints curve context { d with fanCurve := fan }
  let d := reconstructLegacyCurve curve (readCurvePointOrigins curve d)
  return validateDesiredSettingsForIpc (raiseCurvePoints d)

/-! ## Writing -/

def fanModeToConfigValue : FanMode → String
  | .auto => "auto"
  | .fixed => "fixed"
  | .curve => "curve"

/-- The entry of an owned control. -/
def ownedEntry (owned : Bool) (key : String) (n : Int) : List Entry :=
  if owned then [⟨key.toList, printInt n⟩] else []

/-- The controls of a profile as they are written. -/
def controlsEntries (d : DesiredSettings) : List Entry :=
  [⟨"gpu_offset_mhz".toList, printInt d.gpuOffsetMHz⟩,
    ⟨"gpu_offset_exclude_low_count".toList, printInt d.gpuOffsetExcludeLowCount⟩,
    ⟨"lock_ci".toList, printInt (if d.hasLock then d.lockCi else -1)⟩,
    ⟨"lock_mhz".toList, printInt (if d.hasLock then d.lockMHz else 0)⟩,
    ⟨"lock_mode".toList, printInt (if d.hasLock then lockModeNumber d.lockMode else 0)⟩,
    ⟨"lock_tracks_anchor".toList, printInt (if d.lockTracksAnchor then 1 else 0)⟩,
    ⟨"mem_offset_mhz".toList, printInt d.memOffsetMHz⟩,
    ⟨"power_limit_pct".toList, printInt d.powerLimitPct⟩] ++
  ownedEntry d.hasXbarOffsetKhz "xbar_offset_khz" d.xbarOffsetKhz ++
  ownedEntry d.hasXbarMsvddOffsetUv "xbar_msvdd_offset_uv" d.xbarMsvddOffsetUv ++
  ownedEntry d.hasSysClkOffsetKhz "sys_clk_offset_khz" d.sysClkOffsetKhz ++
  ownedEntry d.hasVideoClkOffsetKhz "video_clk_offset_khz" d.videoClkOffsetKhz ++
  [⟨"fan_mode".toList, (fanModeToConfigValue d.fanMode).toList⟩,
    ⟨"fan".toList, if d.fanMode = .auto then "auto".toList
      else printInt (clampInt d.fanPercent 0 100)⟩,
    ⟨"fan_fixed_pct".toList, printInt (clampInt d.fanPercent 0 100)⟩]

/-- `linux_profile_write_curve_points` at one point: nothing without a frequency. -/
def pointEntries (d : DesiredSettings) (i : VfPoint) : List Entry :=
  if d.hasCurvePoint i && decide (d.curvePointMHz i ≠ 0) then
    ⟨pointKey i, printInt (d.curvePointMHz i)⟩ ::
      if d.curvePointFromGpuOffset i then [⟨pointOriginKey i, "1".toList⟩] else []
  else []

def curveEntries (d : DesiredSettings) : List Entry :=
  ⟨"curve_semantics".toList, "absolute_with_origin".toList⟩ ::
    (List.finRange VF_NUM_POINTS).flatMap (pointEntries d)

def fanPointEntries (curve : FanCurveConfig) (i : Nat) : List Entry :=
  let point := curve.points.getD i {}
  [⟨numbered "enabled" i, printInt (if point.enabled then 1 else 0)⟩,
    ⟨numbered "temp" i, printInt point.temperatureC⟩,
    ⟨numbered "pct" i, printInt point.fanPercent⟩]

/-- `save_fan_curve_section`. -/
def fanCurveEntries (curve : FanCurveConfig) : List Entry :=
  [⟨"poll_interval_ms".toList, printInt curve.pollIntervalMs⟩,
    ⟨"hysteresis_c".toList, printInt curve.hysteresisC⟩,
    ⟨"zero_rpm_hysteresis_c".toList, printInt curve.zeroRpmHysteresisC⟩,
    ⟨"zero_rpm_enabled".toList, if curve.zeroRpmEnabled then "1".toList else "0".toList⟩] ++
  (List.range FAN_CURVE_MAX_POINTS).flatMap (fanPointEntries curve)

end GreenCurve.Profile
