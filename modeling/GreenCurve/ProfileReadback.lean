import GreenCurve.ProfileBankLaw
import Mathlib.Data.List.GetD

/-! # Reading back what was written

What a load makes of the controls and of the fan curve a save wrote: every number that
fits an `int` comes back, a lock that names neither a point nor a clock is none to the
reader (`storedLock`), and only a fixed fan keeps its percentage. -/

namespace GreenCurve.Profile

open Ini (Text Entry Document)

/-! ## Reading what was written -/

theorem lookup_of_mem {entries : List Entry} (h : (entries.map Entry.key).Nodup) {e : Entry}
    (he : e ∈ entries) : Ini.lookup entries e.key = some e.value := by
  induction entries with
  | nil => cases he
  | cons first rest ih =>
    rw [List.map_cons, List.nodup_cons] at h
    rw [Ini.lookup_cons]
    rcases List.mem_cons.mp he with rfl | he
    · rw [if_pos rfl]
    · have hne : first.key ≠ e.key := fun heq => h.1 (heq ▸ List.mem_map_of_mem he)
      rw [if_neg hne, ih h.2 he]

theorem lookup_of_notMem {entries : List Entry} {key : Text}
    (h : key ∉ entries.map Entry.key) : Ini.lookup entries key = none := by
  induction entries with
  | nil => rfl
  | cons first rest ih =>
    rw [List.map_cons, List.mem_cons, not_or] at h
    rw [Ini.lookup_cons, if_neg (Ne.symm h.1), ih h.2]

theorem value_of_mem {entries : List Entry} (h : (entries.map Entry.key).Nodup) {key v : Text}
    (he : ⟨key, v⟩ ∈ entries) : value entries key = v := by
  rw [value, lookup_of_mem h he]
  rfl

theorem value_of_notMem {entries : List Entry} {key : Text}
    (h : key ∉ entries.map Entry.key) : value entries key = [] := by
  rw [value, lookup_of_notMem h]
  rfl

/-- A number that fits an `int`. -/
def Fits32 (n : Int) : Prop := -2147483648 ≤ n ∧ n ≤ 2147483647

theorem readInt_of_mem {entries : List Entry} (h : (entries.map Entry.key).Nodup) {key : Text}
    {n : Int} (he : ⟨key, printInt n⟩ ∈ entries) (hn : Fits32 n) (err : LoadError) :
    readInt entries key err = .ok (some n) := by
  simp only [readInt, value_of_mem h he, printInt_ne_nil, if_false, parseIntStrict_printInt hn]

theorem readInt_of_notMem {entries : List Entry} {key : Text}
    (h : key ∉ entries.map Entry.key) (err : LoadError) :
    readInt entries key err = .ok none := by
  simp only [readInt, value_of_notMem h, if_true]

theorem ok_bind {α β : Type} {x : Except LoadError α} {a : α} (h : x = .ok a)
    {f : α → Except LoadError β} : (x >>= f) = f a := by
  rw [h]
  rfl

/-- A written number is handed on. -/
theorem readInt_bind {α : Type} {entries : List Entry} (h : (entries.map Entry.key).Nodup)
    {key : Text} {n : Int} (he : ⟨key, printInt n⟩ ∈ entries) (hn : Fits32 n) (err : LoadError)
    (f : Option Int → Except LoadError α) : (readInt entries key err >>= f) = f (some n) := by
  rw [readInt_of_mem h he hn]
  rfl

/-! ## Controls -/

/-- The keys of the controls a save writes, by the clock domains it owns. -/
def controlsKeys (xbar msvdd sysClk videoClk : Bool) : List Text :=
  ["gpu_offset_mhz".toList, "gpu_offset_exclude_low_count".toList, "lock_ci".toList,
    "lock_mhz".toList, "lock_mode".toList, "lock_tracks_anchor".toList, "mem_offset_mhz".toList,
    "power_limit_pct".toList] ++
  (if xbar then ["xbar_offset_khz".toList] else []) ++
  (if msvdd then ["xbar_msvdd_offset_uv".toList] else []) ++
  (if sysClk then ["sys_clk_offset_khz".toList] else []) ++
  (if videoClk then ["video_clk_offset_khz".toList] else []) ++
  ["fan_mode".toList, "fan".toList, "fan_fixed_pct".toList]

theorem keys_ownedEntry (owned : Bool) (key : String) (n : Int) :
    (ownedEntry owned key n).map Entry.key = if owned then [key.toList] else [] := by
  cases owned <;> rfl

theorem mem_ownedEntry {owned : Bool} (h : owned = true) (key : String) (n : Int) :
    ⟨key.toList, printInt n⟩ ∈ ownedEntry owned key n := by
  subst h
  exact List.mem_singleton_self _

theorem keys_controlsEntries (d : DesiredSettings) : (controlsEntries d).map Entry.key =
    controlsKeys d.hasXbarOffsetKhz d.hasXbarMsvddOffsetUv d.hasSysClkOffsetKhz
      d.hasVideoClkOffsetKhz := by
  simp only [controlsEntries, List.map_append, keys_ownedEntry]
  rfl

theorem nodup_controlsKeys : ∀ xbar msvdd sysClk videoClk,
    (controlsKeys xbar msvdd sysClk videoClk).Nodup := by
  decide

/-- A clock domain that is not owned has no key. -/
theorem notMem_controlsKeys : ∀ a b c,
    "xbar_offset_khz".toList ∉ controlsKeys false a b c ∧
      "xbar_msvdd_offset_uv".toList ∉ controlsKeys a false b c ∧
      "sys_clk_offset_khz".toList ∉ controlsKeys a b false c ∧
      "video_clk_offset_khz".toList ∉ controlsKeys a b c false := by
  decide

/-- The entries of a clock domain are among the controls. -/
theorem mem_controlsEntries_clock {d : DesiredSettings} {e : Entry}
    (he : e ∈ ownedEntry d.hasXbarOffsetKhz "xbar_offset_khz" d.xbarOffsetKhz ∨
      e ∈ ownedEntry d.hasXbarMsvddOffsetUv "xbar_msvdd_offset_uv" d.xbarMsvddOffsetUv ∨
      e ∈ ownedEntry d.hasSysClkOffsetKhz "sys_clk_offset_khz" d.sysClkOffsetKhz ∨
      e ∈ ownedEntry d.hasVideoClkOffsetKhz "video_clk_offset_khz" d.videoClkOffsetKhz) :
    e ∈ controlsEntries d := by
  simp only [controlsEntries, List.mem_append]
  tauto

/-- The entries of the fan are the last controls. -/
theorem mem_controlsEntries_fan {d : DesiredSettings} {e : Entry}
    (he : e ∈ [⟨"fan_mode".toList, (fanModeToConfigValue d.fanMode).toList⟩,
      ⟨"fan".toList, if d.fanMode = .auto then "auto".toList
        else printInt (clampInt d.fanPercent 0 100)⟩,
      ⟨"fan_fixed_pct".toList, printInt (clampInt d.fanPercent 0 100)⟩]) :
    e ∈ controlsEntries d :=
  List.mem_append_right _ he

theorem nodup_controlsEntries (d : DesiredSettings) :
    ((controlsEntries d).map Entry.key).Nodup := by
  rw [keys_controlsEntries]
  exact nodup_controlsKeys _ _ _ _

/-- The lock a reader sees: one that names a point or a clock. -/
def storedLock (d : DesiredSettings) : Bool :=
  d.hasLock && decide (0 ≤ d.lockCi) || d.hasLock && decide (0 < d.lockMHz)

section Controls
variable (d d' : DesiredSettings) (context : String)

theorem loadGpuOffset_written (h : Fits32 d.gpuOffsetMHz) :
    loadGpuOffset (controlsEntries d) context d' =
      .ok { d' with gpuOffsetMHz := d.gpuOffsetMHz, hasGpuOffset := true } := by
  unfold loadGpuOffset
  rw [readInt_of_mem (nodup_controlsEntries d) (List.mem_of_getElem? (i := 0) rfl) h]
  rfl

theorem loadExcludeLowCount_written (h : Fits32 d.gpuOffsetExcludeLowCount) :
    loadExcludeLowCount (controlsEntries d) context d' =
      .ok { d' with gpuOffsetExcludeLowCount := d.gpuOffsetExcludeLowCount } := by
  have hmem : ⟨"gpu_offset_exclude_low_count".toList, printInt d.gpuOffsetExcludeLowCount⟩ ∈
      controlsEntries d := List.mem_of_getElem? (i := 1) rfl
  unfold loadExcludeLowCount
  rw [value_of_mem (nodup_controlsEntries d) hmem, if_pos (printInt_ne_nil _)]
  rw [readInt_of_mem (nodup_controlsEntries d) hmem h]
  rfl

theorem loadLockCi_written (h : Fits32 d.lockCi) :
    loadLockCi (controlsEntries d) context d' =
      .ok { d' with
        hasLock := d.hasLock && decide (0 ≤ d.lockCi)
        lockCi := if d.hasLock then d.lockCi else -1 } := by
  have hfits : Fits32 (if d.hasLock then d.lockCi else -1) := by
    split
    · exact h
    · exact ⟨by decide, by decide⟩
  unfold loadLockCi
  rw [readInt_of_mem (nodup_controlsEntries d) (List.mem_of_getElem? (i := 2) rfl) hfits]
  cases d.hasLock <;> rfl

theorem loadLockMHz_written (h : Fits32 d.lockMHz) :
    loadLockMHz (controlsEntries d) context d' =
      .ok { d' with
        hasLock := d'.hasLock || (d.hasLock && decide (0 < d.lockMHz))
        lockMHz := if d.hasLock && decide (0 < d.lockMHz) then d.lockMHz else d'.lockMHz } := by
  have hfits : Fits32 (if d.hasLock then d.lockMHz else 0) := by
    split
    · exact h
    · exact ⟨by decide, by decide⟩
  unfold loadLockMHz
  rw [readInt_bind (nodup_controlsEntries d) (List.mem_of_getElem? (i := 3) rfl) hfits]
  cases d.hasLock with
  | false =>
    simp only [Bool.false_and, Bool.or_false]
    rfl
  | true =>
    simp only [Bool.true_and, if_true]
    by_cases hpos : 0 < d.lockMHz
    · rw [if_neg (by omega), if_pos (by omega), Int.toNat_natCast]
      simp only [hpos, decide_true, Bool.or_true, if_true]
      rfl
    · rw [if_neg (by omega), if_neg (by omega)]
      simp only [hpos, decide_false, Bool.or_false]
      rfl

theorem loadLockTracksAnchor_written :
    loadLockTracksAnchor (controlsEntries d) context d' =
      .ok { d' with lockTracksAnchor := d.lockTracksAnchor } := by
  have hfits : Fits32 (if d.lockTracksAnchor then 1 else 0) := by
    split <;> exact ⟨by decide, by decide⟩
  unfold loadLockTracksAnchor
  rw [readInt_of_mem (nodup_controlsEntries d) (List.mem_of_getElem? (i := 5) rfl) hfits]
  cases d.lockTracksAnchor <;> rfl

theorem lockModeOfNumber_lockModeNumber (mode : LockMode) :
    lockModeOfNumber (lockModeNumber mode) = some mode := by
  cases mode <;> rfl

theorem loadLockMode_written :
    loadLockMode (controlsEntries d) context d' =
      .ok { d' with
        lockMode := profileLockModeAfterLoad d'.hasLock true
          (if d.hasLock then d.lockMode else .none) } := by
  have hnumber : (if d.hasLock then lockModeNumber d.lockMode else 0) =
      lockModeNumber (if d.hasLock then d.lockMode else .none) := by
    split <;> rfl
  have hfits : ∀ mode, Fits32 (lockModeNumber mode) := by
    intro mode
    cases mode <;> exact ⟨by decide, by decide⟩
  unfold loadLockMode
  rw [readInt_of_mem (nodup_controlsEntries d) (List.mem_of_getElem? (i := 4) rfl)
    (hnumber ▸ hfits _), hnumber]
  simp only [bind, Except.bind, lockModeOfNumber_lockModeNumber]
  rfl

theorem loadMemOffset_written (h : Fits32 d.memOffsetMHz) :
    loadMemOffset (controlsEntries d) context d' =
      .ok { d' with memOffsetMHz := d.memOffsetMHz, hasMemOffset := true } := by
  unfold loadMemOffset
  rw [readInt_of_mem (nodup_controlsEntries d) (List.mem_of_getElem? (i := 6) rfl) h]
  rfl

theorem loadPowerLimit_written (h : Fits32 d.powerLimitPct) :
    loadPowerLimit (controlsEntries d) context d' =
      .ok { d' with powerLimitPct := d.powerLimitPct, hasPowerLimit := true } := by
  unfold loadPowerLimit
  rw [readInt_of_mem (nodup_controlsEntries d) (List.mem_of_getElem? (i := 7) rfl) h]
  rfl

theorem loadBounded_written {d d' : DesiredSettings} {context key : String} {bound n : Int}
    {owned : Bool} {assign : Int → DesiredSettings → DesiredSettings}
    (hmem : owned = true → ⟨key.toList, printInt n⟩ ∈ controlsEntries d)
    (hnot : owned = false → key.toList ∉ (controlsEntries d).map Entry.key)
    (hbound : bound ≤ 2147483647) (h : owned = true → -bound ≤ n ∧ n ≤ bound) :
    loadBounded (controlsEntries d) context key bound assign d' =
      .ok (if owned then assign n d' else d') := by
  unfold loadBounded
  cases howned : owned with
  | false =>
    rw [readInt_of_notMem (hnot howned)]
    rfl
  | true =>
    have hn := h howned
    have hfits : Fits32 n := ⟨by omega, by omega⟩
    rw [readInt_bind (nodup_controlsEntries d) (hmem howned) hfits]
    have hin : ¬(n < -bound ∨ n > bound) := by omega
    simp only [hin, if_false, if_true]
    rfl

theorem loadXbarOffset_written
    (h : d.hasXbarOffsetKhz = true → -1000000 ≤ d.xbarOffsetKhz ∧ d.xbarOffsetKhz ≤ 1000000) :
    loadXbarOffset (controlsEntries d) context d' =
      .ok { d' with
        xbarOffsetKhz := if d.hasXbarOffsetKhz then d.xbarOffsetKhz else d'.xbarOffsetKhz
        hasXbarOffsetKhz := d.hasXbarOffsetKhz || d'.hasXbarOffsetKhz } := by
  refine (loadBounded_written (fun howned => ?_) (fun howned => ?_) (by decide) h).trans ?_
  rotate_right
  · cases d.hasXbarOffsetKhz <;> rfl
  · exact mem_controlsEntries_clock (.inl (mem_ownedEntry howned _ _))
  · rw [keys_controlsEntries, howned]
    exact (notMem_controlsKeys _ _ _).1

theorem loadXbarMsvddOffset_written
    (h : d.hasXbarMsvddOffsetUv = true →
      -100000 ≤ d.xbarMsvddOffsetUv ∧ d.xbarMsvddOffsetUv ≤ 100000) :
    loadXbarMsvddOffset (controlsEntries d) context d' =
      .ok { d' with
        xbarMsvddOffsetUv :=
          if d.hasXbarMsvddOffsetUv then d.xbarMsvddOffsetUv else d'.xbarMsvddOffsetUv
        hasXbarMsvddOffsetUv := d.hasXbarMsvddOffsetUv || d'.hasXbarMsvddOffsetUv } := by
  refine (loadBounded_written (fun howned => ?_) (fun howned => ?_) (by decide) h).trans ?_
  rotate_right
  · cases d.hasXbarMsvddOffsetUv <;> rfl
  · exact mem_controlsEntries_clock (.inr (.inl (mem_ownedEntry howned _ _)))
  · rw [keys_controlsEntries, howned]
    exact (notMem_controlsKeys _ _ _).2.1

theorem loadSysClkOffset_written
    (h : d.hasSysClkOffsetKhz = true →
      -1000000 ≤ d.sysClkOffsetKhz ∧ d.sysClkOffsetKhz ≤ 1000000) :
    loadSysClkOffset (controlsEntries d) context d' =
      .ok { d' with
        sysClkOffsetKhz := if d.hasSysClkOffsetKhz then d.sysClkOffsetKhz else d'.sysClkOffsetKhz
        hasSysClkOffsetKhz := d.hasSysClkOffsetKhz || d'.hasSysClkOffsetKhz } := by
  refine (loadBounded_written (fun howned => ?_) (fun howned => ?_) (by decide) h).trans ?_
  rotate_right
  · cases d.hasSysClkOffsetKhz <;> rfl
  · exact mem_controlsEntries_clock (.inr (.inr (.inl (mem_ownedEntry howned _ _))))
  · rw [keys_controlsEntries, howned]
    exact (notMem_controlsKeys _ _ _).2.2.1

theorem loadVideoClkOffset_written
    (h : d.hasVideoClkOffsetKhz = true →
      -1000000 ≤ d.videoClkOffsetKhz ∧ d.videoClkOffsetKhz ≤ 1000000) :
    loadVideoClkOffset (controlsEntries d) context d' =
      .ok { d' with
        videoClkOffsetKhz :=
          if d.hasVideoClkOffsetKhz then d.videoClkOffsetKhz else d'.videoClkOffsetKhz
        hasVideoClkOffsetKhz := d.hasVideoClkOffsetKhz || d'.hasVideoClkOffsetKhz } := by
  refine (loadBounded_written (fun howned => ?_) (fun howned => ?_) (by decide) h).trans ?_
  rotate_right
  · cases d.hasVideoClkOffsetKhz <;> rfl
  · exact mem_controlsEntries_clock (.inr (.inr (.inr (mem_ownedEntry howned _ _))))
  · rw [keys_controlsEntries, howned]
    exact (notMem_controlsKeys _ _ _).2.2.2

/-! ### The fan -/

theorem fanMode_written : value (controlsEntries d) "fan_mode".toList =
    (fanModeToConfigValue d.fanMode).toList :=
  value_of_mem (nodup_controlsEntries d)
    (mem_controlsEntries_fan (List.mem_of_getElem? (i := 0) rfl))

theorem hasExplicitFanMode_written : hasExplicitFanMode (controlsEntries d) = true := by
  rw [hasExplicitFanMode, fanMode_written]
  cases d.fanMode <;> decide

theorem loadFanMode_written :
    loadFanMode (controlsEntries d) context d' =
      .ok { d' with
        fanMode := d.fanMode
        hasFan := true
        fanAuto := decide (d.fanMode = .auto) } := by
  have hparse : ∀ mode, parseFanModeConfigValue (fanModeToConfigValue mode).toList = some mode := by
    intro mode
    cases mode <;> decide
  rw [loadFanMode, hasExplicitFanMode_written, fanMode_written, if_pos rfl, hparse]

/-- The percentages there are. -/
theorem parseFanValue_printInt {n : Int} (h : 0 ≤ n ∧ n ≤ 100) :
    parseFanValue (printInt n) = some (false, n) := by
  have hall : ∀ k ∈ List.range 101,
      parseFanValue (printInt (k : Int)) = some (false, (k : Int)) := by
    decide
  obtain ⟨k, rfl⟩ := Int.eq_ofNat_of_zero_le h.1
  exact hall k (List.mem_range.mpr (by omega))

theorem loadFan_written (hmode : d'.fanMode = d.fanMode) :
    loadFan (controlsEntries d) context d' =
      .ok (if d.fanMode = .fixed then
        { d' with hasFan := true, fanAuto := false, fanPercent := clampInt d.fanPercent 0 100 }
        else d') := by
  have hpct := clampInt_mem (show (0 : Int) ≤ 100 by decide) d.fanPercent
  have hvalue : value (controlsEntries d) "fan".toList = if d.fanMode = .auto then "auto".toList
      else printInt (clampInt d.fanPercent 0 100) :=
    value_of_mem (nodup_controlsEntries d)
      (mem_controlsEntries_fan (List.mem_of_getElem? (i := 1) rfl))
  simp only [loadFan, hvalue, hasExplicitFanMode_written, hmode]
  cases d.fanMode with
  | auto =>
    have hauto : parseFanValue "auto".toList = some (true, 0) := by decide
    have hne : "auto".toList ≠ [] := by decide
    simp only [if_true, hne, if_false, hauto, reduceCtorEq, false_and, Bool.not_true,
      Bool.false_eq_true]
  | fixed => simp [printInt_ne_nil, parseFanValue_printInt hpct, clampInt_clampInt]
  | curve => simp [printInt_ne_nil, parseFanValue_printInt hpct]

theorem loadFanFixedPct_written (hmode : d'.fanMode = d.fanMode) :
    loadFanFixedPct (controlsEntries d) context d' =
      .ok (if d.fanMode = .fixed then
        { d' with
          hasFan := true
          fanMode := .fixed
          fanAuto := false
          fanPercent := clampInt d.fanPercent 0 100 }
        else d') := by
  have hpct := clampInt_mem (show (0 : Int) ≤ 100 by decide) d.fanPercent
  have hfits : Fits32 (clampInt d.fanPercent 0 100) := ⟨by omega, by omega⟩
  unfold loadFanFixedPct
  rw [readInt_bind (nodup_controlsEntries d)
    (mem_controlsEntries_fan (List.mem_of_getElem? (i := 2) rfl)) hfits]
  simp only [hasExplicitFanMode_written, hmode]
  cases d.fanMode with
  | auto => rfl
  | fixed =>
    simp only [clampInt_clampInt (show (0 : Int) ≤ 100 by decide)]
    rfl
  | curve => rfl

/-- What the three fan controls leave: a percentage only of a fixed fan. -/
theorem loadFans_written :
    (do
      let d' ← loadFanMode (controlsEntries d) context d'
      let d' ← loadFan (controlsEntries d) context d'
      loadFanFixedPct (controlsEntries d) context d') =
      .ok { d' with
        fanMode := d.fanMode
        hasFan := true
        fanAuto := decide (d.fanMode = .auto)
        fanPercent :=
          if d.fanMode = .fixed then clampInt d.fanPercent 0 100 else d'.fanPercent } := by
  refine (ok_bind (loadFanMode_written d d' context)).trans ?_
  refine (ok_bind (loadFan_written d _ context ?_)).trans ?_
  · rfl
  refine (loadFanFixedPct_written d _ context ?_).trans ?_
  · split <;> rfl
  · cases hmode : d.fanMode <;> simp

end Controls

/-- The bounds a save keeps to. -/
structure Storable (d : DesiredSettings) : Prop where
  gpu : Fits32 d.gpuOffsetMHz
  exclude : Fits32 d.gpuOffsetExcludeLowCount
  lockCi : Fits32 d.lockCi
  lockMHz : Fits32 d.lockMHz
  mem : Fits32 d.memOffsetMHz
  power : Fits32 d.powerLimitPct
  xbar : d.hasXbarOffsetKhz = true → -1000000 ≤ d.xbarOffsetKhz ∧ d.xbarOffsetKhz ≤ 1000000
  msvdd : d.hasXbarMsvddOffsetUv = true →
    -100000 ≤ d.xbarMsvddOffsetUv ∧ d.xbarMsvddOffsetUv ≤ 100000
  sysClk : d.hasSysClkOffsetKhz = true →
    -1000000 ≤ d.sysClkOffsetKhz ∧ d.sysClkOffsetKhz ≤ 1000000
  videoClk : d.hasVideoClkOffsetKhz = true →
    -1000000 ≤ d.videoClkOffsetKhz ∧ d.videoClkOffsetKhz ≤ 1000000
  fanCurve : d.fanCurve.Settled
  fanPoints : d.fanCurve.points.length = FAN_CURVE_MAX_POINTS

/-- The controls a reader finds. -/
def readControls (d : DesiredSettings) : DesiredSettings :=
  { initializeDesiredSettingsDefaults with
    gpuOffsetMHz := d.gpuOffsetMHz
    hasGpuOffset := true
    gpuOffsetExcludeLowCount := d.gpuOffsetExcludeLowCount
    hasLock := storedLock d
    lockCi := if d.hasLock then d.lockCi else -1
    lockMHz := if d.hasLock && decide (0 < d.lockMHz) then d.lockMHz else 0
    lockTracksAnchor := d.lockTracksAnchor
    lockMode := profileLockModeAfterLoad (storedLock d) true
      (if d.hasLock then d.lockMode else .none)
    memOffsetMHz := d.memOffsetMHz
    hasMemOffset := true
    powerLimitPct := d.powerLimitPct
    hasPowerLimit := true
    xbarOffsetKhz := if d.hasXbarOffsetKhz then d.xbarOffsetKhz else 0
    hasXbarOffsetKhz := d.hasXbarOffsetKhz || false
    xbarMsvddOffsetUv := if d.hasXbarMsvddOffsetUv then d.xbarMsvddOffsetUv else 0
    hasXbarMsvddOffsetUv := d.hasXbarMsvddOffsetUv || false
    sysClkOffsetKhz := if d.hasSysClkOffsetKhz then d.sysClkOffsetKhz else 0
    hasSysClkOffsetKhz := d.hasSysClkOffsetKhz || false
    videoClkOffsetKhz := if d.hasVideoClkOffsetKhz then d.videoClkOffsetKhz else 0
    hasVideoClkOffsetKhz := d.hasVideoClkOffsetKhz || false
    fanMode := d.fanMode
    hasFan := true
    fanAuto := decide (d.fanMode = .auto)
    fanPercent := if d.fanMode = .fixed then clampInt d.fanPercent 0 100 else 0 }

theorem loadControls_written {d : DesiredSettings} (h : Storable d) (context : String) :
    loadControls (controlsEntries d) context initializeDesiredSettingsDefaults =
      .ok (readControls d) := by
  refine (ok_bind (loadGpuOffset_written d _ context h.gpu)).trans ?_
  refine (ok_bind (loadExcludeLowCount_written d _ context h.exclude)).trans ?_
  refine (ok_bind (loadLockCi_written d _ context h.lockCi)).trans ?_
  refine (ok_bind (loadLockMHz_written d _ context h.lockMHz)).trans ?_
  refine (ok_bind (loadLockTracksAnchor_written d _ context)).trans ?_
  refine (ok_bind (loadLockMode_written d _ context)).trans ?_
  refine (ok_bind (loadMemOffset_written d _ context h.mem)).trans ?_
  refine (ok_bind (loadPowerLimit_written d _ context h.power)).trans ?_
  refine (ok_bind (loadXbarOffset_written d _ context h.xbar)).trans ?_
  refine (ok_bind (loadXbarMsvddOffset_written d _ context h.msvdd)).trans ?_
  refine (ok_bind (loadSysClkOffset_written d _ context h.sysClk)).trans ?_
  refine (ok_bind (loadVideoClkOffset_written d _ context h.videoClk)).trans ?_
  exact loadFans_written d _ context

/-! ## The fan curve -/

def fanCurveKeys : List Text :=
  ["poll_interval_ms".toList, "hysteresis_c".toList, "zero_rpm_hysteresis_c".toList,
    "zero_rpm_enabled".toList] ++
  (List.range FAN_CURVE_MAX_POINTS).flatMap fun i =>
    [numbered "enabled" i, numbered "temp" i, numbered "pct" i]

theorem keys_fanCurveEntries (curve : FanCurveConfig) :
    (fanCurveEntries curve).map Entry.key = fanCurveKeys := by
  rw [fanCurveEntries, List.map_append, List.map_flatMap]
  rfl

theorem nodup_fanCurveEntries (curve : FanCurveConfig) :
    ((fanCurveEntries curve).map Entry.key).Nodup := by
  have hkeys : fanCurveKeys.Nodup := by decide
  rwa [keys_fanCurveEntries]

theorem mem_fanCurveEntries {curve : FanCurveConfig} {i : Nat} (hi : i < FAN_CURVE_MAX_POINTS)
    {e : Entry} (he : e ∈ fanPointEntries curve i) : e ∈ fanCurveEntries curve :=
  List.mem_append_right _ (List.mem_flatMap.mpr ⟨i, List.mem_range.mpr hi, he⟩)

theorem fits32_flag (b : Bool) : Fits32 (if b then 1 else 0) := by
  cases b <;> exact ⟨by decide, by decide⟩

theorem loadFanCurvePoint_written {curve : FanCurveConfig} (h : curve.Valid)
    (hlength : curve.points.length = FAN_CURVE_MAX_POINTS) (sectionName : String)
    (point : FanCurvePoint) {i : Nat} (hi : i < FAN_CURVE_MAX_POINTS) :
    loadFanCurvePoint (fanCurveEntries curve) sectionName point i =
      .ok (curve.points.getD i {}) := by
  have hnodup := nodup_fanCurveEntries curve
  have hmem : curve.points.getD i {} ∈ curve.points := by
    rw [List.getD_eq_getElem _ _ (hlength ▸ hi)]
    exact List.getElem_mem _
  have hpoint := h.points _ hmem
  have htemp : Fits32 (curve.points.getD i {}).temperatureC := ⟨by omega, by omega⟩
  have hpct : Fits32 (curve.points.getD i {}).fanPercent := ⟨by omega, by omega⟩
  unfold loadFanCurvePoint
  rw [readInt_bind hnodup (mem_fanCurveEntries hi (List.mem_of_getElem? (i := 0) rfl))
      (fits32_flag _),
    readInt_bind hnodup (mem_fanCurveEntries hi (List.mem_of_getElem? (i := 1) rfl)) htemp,
    readInt_bind hnodup (mem_fanCurveEntries hi (List.mem_of_getElem? (i := 2) rfl)) hpct]
  generalize curve.points.getD i {} = p
  obtain ⟨enabled, temperatureC, fanPercent⟩ := p
  cases enabled <;> rfl

theorem mapM_ok {α β : Type} {f : α → Except LoadError β} {g : α → β} {l : List α}
    (h : ∀ a ∈ l, f a = .ok (g a)) : l.mapM f = .ok (l.map g) := by
  induction l with
  | nil => rfl
  | cons a rest ih =>
    rw [List.mapM_cons, h a List.mem_cons_self, ih fun b hb => h b (List.mem_cons_of_mem _ hb)]
    rfl

/-- **A settled fan curve is read back as it was written.** -/
theorem loadFanCurve_written {curve curve' : FanCurveConfig} (h : curve.Settled)
    (hlength : curve.points.length = FAN_CURVE_MAX_POINTS) (sectionName : String) :
    loadFanCurve (fanCurveEntries curve) sectionName curve' = .ok curve := by
  have hnodup := nodup_fanCurveEntries curve
  have hpoll := h.valid.poll
  have hhysteresis : 0 ≤ curve.hysteresisC ∧ curve.hysteresisC ≤ 10 := h.valid.hysteresis
  have hzero : 2 ≤ curve.zeroRpmHysteresisC ∧ curve.zeroRpmHysteresisC ≤ 30 := h.valid.zeroRpm
  have hne : fanCurveEntries curve ≠ [] := List.cons_ne_nil _ _
  have hpollFits : Fits32 curve.pollIntervalMs := ⟨by omega, by omega⟩
  have hhysteresisFits : Fits32 curve.hysteresisC := ⟨by omega, by omega⟩
  have hzeroFits : Fits32 curve.zeroRpmHysteresisC := ⟨by omega, by omega⟩
  have hgap : loadZeroRpmHysteresis (fanCurveEntries curve) sectionName
      { curve' with pollIntervalMs := curve.pollIntervalMs, hysteresisC := curve.hysteresisC } =
      .ok ({ curve' with
        pollIntervalMs := curve.pollIntervalMs
        hysteresisC := curve.hysteresisC
        zeroRpmHysteresisC := curve.zeroRpmHysteresisC }, true) := by
    unfold loadZeroRpmHysteresis
    rw [readInt_bind hnodup (List.mem_of_getElem? (i := 2) rfl) hzeroFits]
    have hin : ¬((curve.zeroRpmHysteresisC : Int) < FAN_ZERO_RPM_MIN_HYSTERESIS_C ∨
        (curve.zeroRpmHysteresisC : Int) > FAN_ZERO_RPM_MAX_HYSTERESIS_C) := by
      change ¬((curve.zeroRpmHysteresisC : Int) < (2 : Nat) ∨
        (curve.zeroRpmHysteresisC : Int) > (30 : Nat))
      omega
    simp only [hin, if_false, Int.toNat_natCast]
    rfl
  have henabled : ∀ curve' : FanCurveConfig,
      loadZeroRpmEnabled (fanCurveEntries curve) sectionName curve' =
        .ok { curve' with zeroRpmEnabled := curve.zeroRpmEnabled } := by
    intro curve'
    have hmem : ⟨"zero_rpm_enabled".toList, printInt (if curve.zeroRpmEnabled then 1 else 0)⟩ ∈
        fanCurveEntries curve := by
      have htext : printInt (if curve.zeroRpmEnabled then 1 else 0) =
          if curve.zeroRpmEnabled then "1".toList else "0".toList := by
        cases curve.zeroRpmEnabled <;> decide
      rw [htext]
      exact List.mem_of_getElem? (i := 3) rfl
    unfold loadZeroRpmEnabled
    rw [readInt_bind hnodup hmem (fits32_flag _)]
    cases curve.zeroRpmEnabled <;> rfl
  have hpoints : ((List.range FAN_CURVE_MAX_POINTS).mapM fun i =>
      loadFanCurvePoint (fanCurveEntries curve) sectionName (curve'.points.getD i {}) i) =
        .ok curve.points := by
    rw [mapM_ok fun i hi => loadFanCurvePoint_written h.valid hlength sectionName _
      (List.mem_range.mp hi)]
    refine congrArg Except.ok (List.ext_getElem (by simp [hlength]) fun i hi hi' => ?_)
    rw [List.getElem_map, List.getElem_range, List.getD_eq_getElem _ _ hi']
  unfold loadFanCurve
  rw [if_neg hne, readInt_bind hnodup (List.mem_of_getElem? (i := 0) rfl) hpollFits,
    readInt_bind hnodup (List.mem_of_getElem? (i := 1) rfl) hhysteresisFits]
  refine (ok_bind hgap).trans ((ok_bind (henabled _)).trans ?_)
  have hexplicit : ∀ curve' : FanCurveConfig,
      migrateLegacyZeroRpmHysteresis curve' true = curve' := by
    intro curve'
    rw [migrateLegacyZeroRpmHysteresis, Bool.not_true, Bool.and_false]
    rfl
  rw [hexplicit]
  refine (ok_bind hpoints).trans ?_
  have hnormal : FanCurveConfig.normalize { curve with points := curve.points } = curve :=
    h.normalize_eq
  have hvalid : curve.validate = true := FanCurveConfig.validate_iff.mpr h.valid
  change (if (FanCurveConfig.normalize { curve with points := curve.points }).validate then
    Except.ok (FanCurveConfig.normalize { curve with points := curve.points }) else _) = _
  rw [hnormal, if_pos hvalid]

end GreenCurve.Profile
