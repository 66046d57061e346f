import GreenCurve.IniPrint
import GreenCurve.ProfileApi
import GreenCurve.ProfileBank

/-! # A profile as Windows stores it

`save_profile_to_config` writes every control of a profile, also those the settings do not
own: these it takes from what the program reads back from the GPU at that moment.  It builds
the whole file anew.  The sections of the slot come first, every other section is read key by
key and copied, and the first slot has its legacy sections as well. -/

namespace GreenCurve.WinProfile

open Ini (Text Entry Document sameName)
open Profile (numbered fanModeToConfigValue fanCurveEntries pointKey CONFIG_NUM_SLOTS)

/-- A point of the live curve. -/
structure LivePoint where
  freqKHz : Nat := 0
  voltUv : Nat := 0
  freqOffset : Int := 0
  visibleInGui : Bool := false

/-- The offset that is stored with a point. -/
def LivePoint.offsetKHz (point : LivePoint) : Int :=
  if 0 < point.freqKHz then point.freqOffset else 0

/-- A point without a voltage cannot say whether it is visible. -/
def LivePoint.visible (point : LivePoint) : Bool :=
  if point.voltUv = 0 then true else point.visibleInGui

/-- What the writer falls back on: the readback of the GPU and the state of the program. -/
structure LiveReadback where
  gpuOffsetMHz : Int := 0
  gpuOffsetExcludeLowCount : Int := 0
  lockedCi : Int := -1
  lockedFreq : Nat := 0
  guiLockTracksAnchor : Bool := false
  lockMode : LockMode := .none
  memOffsetMHz : Int := 0
  powerLimitPct : Int := 100
  xbarProbeValid : Bool := false
  xbarOffsetKhz : Int := 0
  xbarMsvddOffsetUv : Int := 0
  sysClkProbeValid : Bool := false
  sysClkOffsetKhz : Int := 0
  videoClkProbeValid : Bool := false
  videoClkOffsetKhz : Int := 0
  fanMode : FanMode := .auto
  fanIsAuto : Bool := true
  manualFanPercent : Nat := 0
  activeFanCurve : FanCurveConfig := {}
  curve : VfPoint → LivePoint := fun _ => {}

/-- `"%d"` of an `int`. -/
def printD (n : Int) : Text := printInt (BitVec.ofInt 32 n).toInt

/-- `"%u"` of an `unsigned int`. -/
def printU (n : Nat) : Text := printInt (Int.ofNat (n % 4294967296))

def flag (b : Bool) : Text := if b then "1".toList else "0".toList

/-! ## The sections of a slot -/

section Slot
variable (desired : DesiredSettings) (live : LiveReadback)

/-- `resolve_profile_gpu_offset_state_for_save`. -/
def savedGpuOffset : Int × Int :=
  let offset := if desired.hasGpuOffset then desired.gpuOffsetMHz else live.gpuOffsetMHz
  let exclude : Int :=
    if desired.hasGpuOffset then desired.gpuOffsetExcludeLowCount
    else live.gpuOffsetExcludeLowCount
  (offset, if offset = 0 then 0 else exclude)

def gpuOffsetEntries : List Entry :=
  [⟨"gpu_offset_mhz".toList, printD (savedGpuOffset desired live).1⟩,
    ⟨"gpu_offset_exclude_low_count".toList, printD (savedGpuOffset desired live).2⟩]

/-- The lock, or the one of the program where the settings own none. -/
def lockEntries : List Entry :=
  [⟨"lock_ci".toList,
      printD (if desired.hasLock then desired.lockCi
        else if 0 ≤ live.lockedCi then live.lockedCi else -1)⟩,
    ⟨"lock_mhz".toList, printU (if desired.hasLock then desired.lockMHz else live.lockedFreq)⟩,
    ⟨"lock_tracks_anchor".toList,
      flag (if desired.hasLock then desired.lockTracksAnchor else live.guiLockTracksAnchor)⟩,
    ⟨"lock_mode".toList,
      printD (Profile.lockModeNumber (if desired.hasLock then desired.lockMode
        else live.lockMode))⟩]

/-- An entry that is written only where the probe of its domain is valid. -/
def probedEntry (probeValid : Bool) (key : String) (owned : Bool) (own readback : Int) :
    List Entry :=
  if probeValid then [⟨key.toList, printD (if owned then own else readback)⟩] else []

def fanEntries : List Entry :=
  ⟨"fan_mode".toList,
      (fanModeToConfigValue (if desired.hasFan then desired.fanMode else live.fanMode)).toList⟩ ::
    if desired.hasFan then
      [⟨"fan".toList, if desired.fanMode = .auto then "auto".toList else printD desired.fanPercent⟩,
        ⟨"fan_fixed_pct".toList, printD (clampInt desired.fanPercent 0 100)⟩]
    else
      [⟨"fan".toList, if live.fanIsAuto then "auto".toList else printU live.manualFanPercent⟩,
        ⟨"fan_fixed_pct".toList, printU live.manualFanPercent⟩]

/-- The `[profileN]` section. -/
def controlsEntries : List Entry :=
  gpuOffsetEntries desired live ++ lockEntries desired live ++
  [⟨"mem_offset_mhz".toList,
      printD (if desired.hasMemOffset then desired.memOffsetMHz else live.memOffsetMHz)⟩,
    ⟨"power_limit_pct".toList,
      printD (if desired.hasPowerLimit then desired.powerLimitPct else live.powerLimitPct)⟩] ++
  probedEntry live.xbarProbeValid "xbar_offset_khz" desired.hasXbarOffsetKhz
    desired.xbarOffsetKhz live.xbarOffsetKhz ++
  probedEntry live.xbarProbeValid "xbar_msvdd_offset_uv" desired.hasXbarMsvddOffsetUv
    desired.xbarMsvddOffsetUv live.xbarMsvddOffsetUv ++
  probedEntry live.sysClkProbeValid "sys_clk_offset_khz" desired.hasSysClkOffsetKhz
    desired.sysClkOffsetKhz live.sysClkOffsetKhz ++
  probedEntry live.videoClkProbeValid "video_clk_offset_khz" desired.hasVideoClkOffsetKhz
    desired.videoClkOffsetKhz live.videoClkOffsetKhz ++
  fanEntries desired live

/-- A key of a point. -/
def pointField (i : VfPoint) (field : String) : Text := pointKey i ++ field.toList

/-- `profile_curve_point_record_for_save` and the lines it is written in. -/
def pointEntries (i : VfPoint) : List Entry :=
  if desired.hasCurvePoint i && decide (desired.curvePointMHz i % 4294967296 ≠ 0) then
    [⟨pointField i "_mhz", printU (desired.curvePointMHz i)⟩,
      ⟨pointField i "_mv", printU ((live.curve i).voltUv / 1000)⟩,
      ⟨pointField i "_offset_khz", printD (live.curve i).offsetKHz⟩,
      ⟨pointField i "_visible", flag (live.curve i).visible⟩] ++
    if desired.curvePointFromGpuOffset i then [⟨pointField i "_from_gpu_offset", flag true⟩] else []
  else []

/-- The `[profileN_curve]` section. -/
def curveEntries : List Entry :=
  ⟨"format".toList, "explicit_vf_points_v1".toList⟩ :: gpuOffsetEntries desired live ++
  ⟨"curve_semantics".toList, "absolute_with_origin".toList⟩ ::
    (List.finRange VF_NUM_POINTS).flatMap (pointEntries desired live)

/-- `append_fan_curve_section_text`. -/
def fanPointEntries (curve : FanCurveConfig) (i : Nat) : List Entry :=
  let point := curve.points.getD i {}
  [⟨numbered "enabled" i, flag point.enabled⟩, ⟨numbered "temp" i, printD point.temperatureC⟩,
    ⟨numbered "pct" i, printD point.fanPercent⟩]

/-- The `[profileN_fan_curve]` section. -/
def fanSectionEntries : List Entry :=
  let curve := if desired.hasFan then desired.fanCurve else live.activeFanCurve
  [⟨"poll_interval_ms".toList, printD curve.pollIntervalMs⟩,
    ⟨"hysteresis_c".toList, printD curve.hysteresisC⟩,
    ⟨"zero_rpm_hysteresis_c".toList, printU curve.zeroRpmHysteresisC⟩,
    ⟨"zero_rpm_enabled".toList, flag curve.zeroRpmEnabled⟩] ++
  (List.range FAN_CURVE_MAX_POINTS).flatMap (fanPointEntries curve)

/-- The three sections of a profile under the names of a slot. -/
def settingsSections (names : Profile.SlotSections) : Document :=
  [⟨names.controls, controlsEntries desired live⟩, ⟨names.curve, curveEntries desired live⟩,
    ⟨names.fanCurve, fanSectionEntries desired live⟩]

end Slot

/-! ## The file -/

abbrev CFG_BUFFER_SIZE : Nat := 131072

/-- The sections a save writes itself and does not copy. -/
def writtenNames (slot : Nat) : List Text :=
  (Profile.slotSections slot).names ++ ["meta".toList, "profiles".toList, "startup".toList] ++
    if slot = 1 then Profile.legacySections.names else []

def isWritten (slot : Nat) (name : Text) : Bool := (writtenNames slot).any (sameName name)

/-- A slot reference of `[profiles]`, none if it is not one of the slots. -/
def slotReference (doc : Document) (key : String) : Int :=
  let n := Ini.getConfigInt doc "profiles".toList key.toList 0
  if n < 0 ∨ (CONFIG_NUM_SLOTS : Int) < n then 0 else n

/-- `is_start_on_logon_enabled`. -/
def startOnLogon (doc : Document) : Bool :=
  decide (Ini.getConfigInt doc "startup".toList "start_program_on_logon".toList 0 ≠ 0)

def metaSection : Ini.Section := ⟨"meta".toList, [⟨"format_version".toList, "2".toList⟩]⟩

def profilesSection (doc : Document) (selected : Nat) : Ini.Section :=
  ⟨"profiles".toList,
    [⟨"selected_slot".toList, printD selected⟩,
      ⟨"applied_slot".toList, printD (slotReference doc "applied_slot")⟩,
      ⟨"app_launch_slot".toList, printD (slotReference doc "app_launch_slot")⟩,
      ⟨"logon_slot".toList, printD (slotReference doc "logon_slot")⟩,
      ⟨"logon_shared_slot".toList, printD (slotReference doc "logon_shared_slot")⟩]⟩

def startupSection (doc : Document) : Ini.Section :=
  ⟨"startup".toList,
    [⟨"apply_on_launch".toList, flag (decide (0 < slotReference doc "logon_slot"))⟩,
      ⟨"start_program_on_logon".toList, flag (startOnLogon doc)⟩]⟩

/-- The sections that are copied, as they are listed and read. -/
def copiedSections (doc : Document) (slot : Nat) : Document :=
  ((Ini.listNames CFG_BUFFER_SIZE (doc.map (·.name))).filter fun name => !isWritten slot name).map
    (Ini.copySection doc)

/-- The sections of the profile, and for the first slot their legacy copies. -/
def profileSections (slot : Nat) (desired : DesiredSettings) (live : LiveReadback) : Document :=
  settingsSections desired live (Profile.slotSections slot)

def legacyCopies (slot : Nat) (desired : DesiredSettings) (live : LiveReadback) : Document :=
  if slot = 1 then settingsSections desired live Profile.legacySections else []

/-- The new file. -/
def savedDocument (doc : Document) (slot : Nat) (desired : DesiredSettings)
    (live : LiveReadback) : Document :=
  metaSection :: profilesSection doc slot :: profileSections slot desired live ++
    copiedSections doc slot ++ legacyCopies slot desired live ++ [startupSection doc]

/-- The bytes of a section as it is written. -/
def sectionBytes (s : Ini.Section) : Nat :=
  Ini.utf8Length s.name + 6 +
    (s.entries.map fun e => Ini.utf8Length e.key + Ini.utf8Length e.value + 3).sum

/-- `save_profile_to_config` up to the replacement of the file: nothing where the list of
sections or the new file does not fit. -/
def saveProfileToConfig (doc : Document) (slot : Nat) (desired : DesiredSettings)
    (live : LiveReadback) : Option Document :=
  if CFG_BUFFER_SIZE - 2 ≤ ((doc.map (·.name)).map fun n => Ini.utf8Length n + 1).sum then none
  else
    let new := savedDocument doc slot desired live
    if CFG_BUFFER_SIZE ≤ (new.map sectionBytes).sum then none else some new

/-! ## What is written can be copied -/

/-- An entry whose key and value are short words. -/
structure Field (e : Entry) : Prop where
  named : e.key ≠ []
  key : e.key.all Ini.isWord = true
  value : e.value.all Ini.isWord = true
  short : e.value.length ≤ 32

/-- The room the keys of a section take. -/
def keyRoom (entries : List Entry) : Nat := (entries.map fun e => e.key.length + 1).sum

section Fields

theorem utf8Length_of_isWord {t : Text} (h : t.all Ini.isWord = true) :
    Ini.utf8Length t = t.length := by
  induction t with
  | nil => rfl
  | cons c rest ih =>
    rw [List.all_cons, Bool.and_eq_true] at h
    have hc : c.utf8Size = 1 := by
      have hword : Ini.isWord c = true := h.1
      delta Ini.isWord Char.isAlphanum Char.isAlpha Char.isUpper Char.isLower Char.isDigit at hword
      simp only [Bool.or_eq_true, Bool.and_eq_true, decide_eq_true_eq, beq_iff_eq, ge_iff_le,
        UInt32.le_iff_toNat_le] at hword
      unfold Char.utf8Size
      rw [if_pos]
      rw [UInt32.le_iff_toNat_le]
      rcases hword with (((hword | hword) | hword) | rfl) | rfl
      · exact hword.2.trans (by decide)
      · exact hword.2.trans (by decide)
      · exact hword.2.trans (by decide)
      · decide
      · decide
    have hrest := ih h.2
    simp only [Ini.utf8Length, List.map_cons, List.sum_cons, List.length_cons] at hrest ⊢
    omega

theorem stored_of_isWord {t : Text} (h : t.all Ini.isWord = true) : Ini.stored t = t := by
  unfold Ini.stored
  rw [Ini.trim_of_isWord h]
  cases t with
  | nil => rfl
  | cons c rest =>
    rw [List.all_cons, Bool.and_eq_true] at h
    have hquote : ¬((c = '"' ∨ c = '\'') ∧ rest.getLast? = some c) := by
      rintro ⟨rfl | rfl, -⟩
      · exact absurd h.1 (by decide)
      · exact absurd h.1 (by decide)
    simp only [Ini.unquote, if_neg hquote]

theorem copyable_of_fields {s : Ini.Section} (h : ∀ e ∈ s.entries, Field e)
    (hroom : keyRoom s.entries + 1 ≤ 16384) : Ini.Copyable s where
  named e he := (h e he).named
  keysFit := by
    have hlengths : (s.entries.map fun e => Ini.utf8Length e.key + 1) =
        s.entries.map fun e => e.key.length + 1 :=
      List.map_congr_left fun e he => by rw [utf8Length_of_isWord (h e he).key]
    rw [hlengths]
    exact hroom
  fits e he := by
    have hshort := (h e he).short
    rw [stored_of_isWord (h e he).value, utf8Length_of_isWord (h e he).value]
    omega
  stable e he := by
    rw [stored_of_isWord (h e he).value, stored_of_isWord (h e he).value]

theorem isWord_of_isDigit {c : Char} (h : c.isDigit = true) : Ini.isWord c = true := by
  simp [Ini.isWord, Char.isAlphanum, h]

theorem all_isWord_toDigits (n : Nat) : (Nat.toDigits 10 n).all Ini.isWord = true :=
  List.all_eq_true.mpr fun c hc => isWord_of_isDigit (isDigit_toDigits n c hc)

theorem all_isWord_printInt (n : Int) : (printInt n).all Ini.isWord = true := by
  cases n with
  | ofNat n => exact all_isWord_toDigits n
  | negSucc n =>
    show ('-' :: Nat.toDigits 10 (n + 1)).all Ini.isWord = true
    rw [List.all_cons, all_isWord_toDigits]
    decide

theorem length_printInt_le {n : Int} (h : n.natAbs < 10 ^ 10) : (printInt n).length ≤ 32 := by
  have hdigits : ∀ m < 10 ^ 10, (Nat.toDigits 10 m).length ≤ 10 := fun m hm =>
    (Nat.length_toDigits_le_iff (by decide) (by decide)).mpr hm
  cases n with
  | ofNat n => exact (hdigits n h).trans (by decide)
  | negSucc n =>
    have hn := hdigits (n + 1) h
    show ('-' :: Nat.toDigits 10 (n + 1)).length ≤ 32
    rw [List.length_cons]
    omega

theorem field_printD {key : Text} (hnamed : key ≠ []) (hkey : key.all Ini.isWord = true) (n : Int) :
    Field ⟨key, printD n⟩ := by
  refine ⟨hnamed, hkey, all_isWord_printInt _, length_printInt_le ?_⟩
  have hlt := (BitVec.ofInt 32 n).toInt_lt
  have hle := (BitVec.ofInt 32 n).le_toInt
  omega

theorem field_printU {key : Text} (hnamed : key ≠ []) (hkey : key.all Ini.isWord = true) (n : Nat) :
    Field ⟨key, printU n⟩ := by
  have hsmall : (Int.ofNat (n % 4294967296)).natAbs < 10 ^ 10 := by
    show n % 4294967296 < 10 ^ 10
    omega
  have hshort := length_printInt_le hsmall
  exact ⟨hnamed, hkey, all_isWord_printInt (Int.ofNat (n % 4294967296)), hshort⟩

theorem field_flag {key : Text} (hnamed : key ≠ []) (hkey : key.all Ini.isWord = true) (b : Bool) :
    Field ⟨key, flag b⟩ := by
  have hvalue : (flag b).all Ini.isWord = true ∧ (flag b).length ≤ 32 := by
    cases b <;> decide
  exact ⟨hnamed, hkey, hvalue.1, hvalue.2⟩

theorem all_isWord_numbered {stem : String} (h : stem.toList.all Ini.isWord = true) (i : Nat) :
    (numbered stem i).all Ini.isWord = true := by
  unfold numbered
  rw [List.all_append, h, all_isWord_printInt]
  rfl

theorem numbered_ne_nil (stem : String) (i : Nat) : numbered stem i ≠ [] := by
  unfold numbered
  intro h
  exact printInt_ne_nil _ (List.append_eq_nil_iff.mp h).2

end Fields

section Sections
variable (desired : DesiredSettings) (live : LiveReadback)

theorem keyRoom_append (entries entries' : List Entry) :
    keyRoom (entries ++ entries') = keyRoom entries + keyRoom entries' := by
  simp [keyRoom]

theorem fields_probedEntry {probeValid owned : Bool} {key : String} {own readback : Int}
    (hnamed : key.toList ≠ []) (hkey : key.toList.all Ini.isWord = true) :
    ∀ e ∈ probedEntry probeValid key owned own readback, Field e := by
  intro e he
  unfold probedEntry at he
  split at he
  · rw [List.mem_singleton.mp he]
    exact field_printD hnamed hkey _
  · cases he

theorem keyRoom_probedEntry (probeValid owned : Bool) (key : String) (own readback : Int) :
    keyRoom (probedEntry probeValid key owned own readback) ≤ key.toList.length + 1 := by
  unfold probedEntry
  split
  · exact Nat.le_refl _
  · exact Nat.zero_le _

theorem fields_gpuOffsetEntries : ∀ e ∈ gpuOffsetEntries desired live, Field e := by
  intro e he
  simp only [gpuOffsetEntries, List.mem_cons, List.not_mem_nil, or_false] at he
  rcases he with rfl | rfl
  · exact field_printD (by decide) (by decide) _
  · exact field_printD (by decide) (by decide) _

theorem fields_lockEntries : ∀ e ∈ lockEntries desired live, Field e := by
  intro e he
  simp only [lockEntries, List.mem_cons, List.not_mem_nil, or_false] at he
  rcases he with rfl | rfl | rfl | rfl
  · exact field_printD (by decide) (by decide) _
  · exact field_printU (by decide) (by decide) _
  · exact field_flag (by decide) (by decide) _
  · exact field_printD (by decide) (by decide) _

theorem field_fanMode {key : Text} (hnamed : key ≠ []) (hkey : key.all Ini.isWord = true)
    (mode : FanMode) : Field ⟨key, (fanModeToConfigValue mode).toList⟩ := by
  have hvalue : (fanModeToConfigValue mode).toList.all Ini.isWord = true ∧
      (fanModeToConfigValue mode).toList.length ≤ 32 := by
    cases mode <;> decide
  exact ⟨hnamed, hkey, hvalue.1, hvalue.2⟩

theorem field_fan {key : Text} (hnamed : key ≠ []) (hkey : key.all Ini.isWord = true)
    (auto : Bool) {t : Text} (h : Field ⟨key, t⟩) :
    Field ⟨key, if auto then "auto".toList else t⟩ := by
  cases auto with
  | true =>
    have hvalue : "auto".toList.all Ini.isWord = true ∧ "auto".toList.length ≤ 32 := by decide
    exact ⟨hnamed, hkey, hvalue.1, hvalue.2⟩
  | false => exact h

theorem fields_fanEntries : ∀ e ∈ fanEntries desired live, Field e := by
  intro e he
  unfold fanEntries at he
  rcases List.mem_cons.mp he with rfl | he
  · exact field_fanMode (by decide) (by decide) _
  split at he
  · simp only [List.mem_cons, List.not_mem_nil, or_false] at he
    rcases he with rfl | rfl
    · have hpercent : Field ⟨"fan".toList, printD desired.fanPercent⟩ :=
        field_printD (by decide) (by decide) _
      have hfan := field_fan (by decide) (by decide) (decide (desired.fanMode = .auto)) hpercent
      simpa using hfan
    · exact field_printD (by decide) (by decide) _
  · simp only [List.mem_cons, List.not_mem_nil, or_false] at he
    rcases he with rfl | rfl
    · exact field_fan (by decide) (by decide) _ (field_printU (by decide) (by decide) _)
    · exact field_printU (by decide) (by decide) _

theorem keyRoom_fanEntries : keyRoom (fanEntries desired live) ≤ 27 := by
  unfold fanEntries
  split
  · exact Nat.le_refl _
  · exact Nat.le_refl _

theorem copyable_controls (name : Text) :
    Ini.Copyable ⟨name, controlsEntries desired live⟩ := by
  refine copyable_of_fields (fun e he => ?_) ?_
  · simp only [controlsEntries, List.mem_append, List.mem_cons, List.not_mem_nil, or_false] at he
    rcases he with ((((((he | he) | rfl | rfl) | he) | he) | he) | he) | he
    · exact fields_gpuOffsetEntries desired live e he
    · exact fields_lockEntries desired live e he
    · exact field_printD (by decide) (by decide) _
    · exact field_printD (by decide) (by decide) _
    · exact fields_probedEntry (by decide) (by decide) e he
    · exact fields_probedEntry (by decide) (by decide) e he
    · exact fields_probedEntry (by decide) (by decide) e he
    · exact fields_probedEntry (by decide) (by decide) e he
    · exact fields_fanEntries desired live e he
  · have hgpu : keyRoom (gpuOffsetEntries desired live) = 44 := rfl
    have hlock : keyRoom (lockEntries desired live) = 46 := rfl
    have hscalars : ∀ mem power : Text,
        keyRoom [⟨"mem_offset_mhz".toList, mem⟩, ⟨"power_limit_pct".toList, power⟩] = 31 :=
      fun _ _ => rfl
    have hxbar : "xbar_offset_khz".toList.length = 15 := by decide
    have hmsvdd : "xbar_msvdd_offset_uv".toList.length = 20 := by decide
    have hsys : "sys_clk_offset_khz".toList.length = 18 := by decide
    have hvideo : "video_clk_offset_khz".toList.length = 20 := by decide
    have hprobed := keyRoom_probedEntry
    have h1 := hprobed live.xbarProbeValid desired.hasXbarOffsetKhz "xbar_offset_khz"
      desired.xbarOffsetKhz live.xbarOffsetKhz
    have h2 := hprobed live.xbarProbeValid desired.hasXbarMsvddOffsetUv "xbar_msvdd_offset_uv"
      desired.xbarMsvddOffsetUv live.xbarMsvddOffsetUv
    have h3 := hprobed live.sysClkProbeValid desired.hasSysClkOffsetKhz "sys_clk_offset_khz"
      desired.sysClkOffsetKhz live.sysClkOffsetKhz
    have h4 := hprobed live.videoClkProbeValid desired.hasVideoClkOffsetKhz "video_clk_offset_khz"
      desired.videoClkOffsetKhz live.videoClkOffsetKhz
    have hfan := keyRoom_fanEntries desired live
    simp only [controlsEntries, keyRoom_append, hgpu, hlock, hscalars]
    omega

theorem length_pointKey_le (i : VfPoint) : (pointKey i).length ≤ 8 := by
  have hdigits : (Nat.toDigits 10 i).length ≤ 3 :=
    (Nat.length_toDigits_le_iff (by decide) (by decide)).mpr (i.isLt.trans (by decide))
  show ("point".toList ++ Nat.toDigits 10 i).length ≤ 8
  rw [List.length_append]
  exact Nat.add_le_add (Nat.le_refl 5) hdigits

theorem pointField_named (i : VfPoint) (field : String) (hfield : field.toList ≠ []) :
    pointField i field ≠ [] := fun h => hfield (List.append_eq_nil_iff.mp h).2

theorem all_isWord_pointField (i : VfPoint) {field : String}
    (hfield : field.toList.all Ini.isWord = true) : (pointField i field).all Ini.isWord = true := by
  unfold pointField pointKey
  rw [List.all_append, all_isWord_numbered (by decide), hfield]
  rfl

theorem fields_pointEntries (i : VfPoint) : ∀ e ∈ pointEntries desired live i, Field e := by
  intro e he
  unfold pointEntries at he
  split at he
  · rcases List.mem_append.mp he with he | he
    · simp only [List.mem_cons, List.not_mem_nil, or_false] at he
      rcases he with rfl | rfl | rfl | rfl
      · exact field_printU (pointField_named i _ (by decide)) (all_isWord_pointField i (by decide)) _
      · exact field_printU (pointField_named i _ (by decide)) (all_isWord_pointField i (by decide)) _
      · exact field_printD (pointField_named i _ (by decide)) (all_isWord_pointField i (by decide)) _
      · exact field_flag (pointField_named i _ (by decide)) (all_isWord_pointField i (by decide)) _
    · split at he
      · rw [List.mem_singleton.mp he]
        exact field_flag (pointField_named i _ (by decide)) (all_isWord_pointField i (by decide)) _
      · cases he
  · cases he

theorem keyRoom_pointEntries (i : VfPoint) : keyRoom (pointEntries desired live i) ≤ 87 := by
  have hkey := length_pointKey_le i
  have hfield : ∀ field : String, (pointField i field).length = (pointKey i).length +
      field.toList.length := fun field => List.length_append
  have hmhz : "_mhz".toList.length = 4 := by decide
  have hmv : "_mv".toList.length = 3 := by decide
  have hoffset : "_offset_khz".toList.length = 11 := by decide
  have hvisible : "_visible".toList.length = 8 := by decide
  have horigin : "_from_gpu_offset".toList.length = 16 := by decide
  unfold pointEntries
  split
  · split
    · simp only [keyRoom, List.map_append, List.map_cons, List.map_nil, List.sum_append,
        List.sum_cons, List.sum_nil, hfield]
      omega
    · simp only [keyRoom, List.map_append, List.map_cons, List.map_nil, List.sum_append,
        List.sum_cons, List.sum_nil, hfield]
      omega
  · exact Nat.zero_le _

theorem keyRoom_flatMap_le {α : Type} (f : α → List Entry) (bound count : Nat) {l : List α}
    (hcount : l.length = count) (h : ∀ a ∈ l, keyRoom (f a) ≤ bound) :
    keyRoom (l.flatMap f) ≤ count * bound := by
  subst hcount
  induction l with
  | nil => exact Nat.zero_le _
  | cons a rest ih =>
    have ha := h a (List.mem_cons_self ..)
    have hrest := ih fun b hb => h b (List.mem_cons_of_mem _ hb)
    rw [List.flatMap_cons, keyRoom_append, List.length_cons, Nat.succ_mul]
    omega

theorem field_word {key : String} {value : String}
    (h : (key.toList.all Ini.isWord && value.toList.all Ini.isWord &&
      decide (key.toList ≠ []) && decide (value.toList.length ≤ 32)) = true) :
    Field ⟨key.toList, value.toList⟩ := by
  simp only [Bool.and_eq_true, decide_eq_true_eq] at h
  exact ⟨h.1.2, h.1.1.1, h.1.1.2, h.2⟩

theorem copyable_curve (name : Text) : Ini.Copyable ⟨name, curveEntries desired live⟩ := by
  refine copyable_of_fields (fun e he => ?_) ?_
  · simp only [curveEntries, List.cons_append, List.mem_cons, List.mem_append,
      List.mem_flatMap] at he
    rcases he with rfl | he | rfl | ⟨i, -, he⟩
    · exact field_word (by decide)
    · exact fields_gpuOffsetEntries desired live e he
    · exact field_word (by decide)
    · exact fields_pointEntries desired live i e he
  · have hgpu : keyRoom (gpuOffsetEntries desired live) = 44 := rfl
    have hpoints : keyRoom ((List.finRange VF_NUM_POINTS).flatMap (pointEntries desired live)) ≤
        128 * 87 :=
      keyRoom_flatMap_le _ 87 128 List.length_finRange fun i _ => keyRoom_pointEntries desired live i
    have hformat : ∀ (value : Text) (rest : List Entry),
        keyRoom (⟨"format".toList, value⟩ :: rest) = 7 + keyRoom rest := fun _ _ => rfl
    have hsemantics : ∀ (value : Text) (rest : List Entry),
        keyRoom (⟨"curve_semantics".toList, value⟩ :: rest) = 16 + keyRoom rest := fun _ _ => rfl
    have hroom : keyRoom (curveEntries desired live) = 7 + (44 + (16 +
        keyRoom ((List.finRange VF_NUM_POINTS).flatMap (pointEntries desired live)))) := by
      unfold curveEntries
      rw [List.cons_append, hformat, keyRoom_append, hgpu, hsemantics]
    show keyRoom (curveEntries desired live) + 1 ≤ 16384
    rw [hroom]
    generalize keyRoom ((List.finRange VF_NUM_POINTS).flatMap _) = room at hpoints ⊢
    omega

theorem fields_fanPointEntries (curve : FanCurveConfig) (i : Nat) :
    ∀ e ∈ fanPointEntries curve i, Field e := by
  intro e he
  simp only [fanPointEntries, List.mem_cons, List.not_mem_nil, or_false] at he
  rcases he with rfl | rfl | rfl
  · exact field_flag (numbered_ne_nil _ i) (all_isWord_numbered (by decide) i) _
  · exact field_printD (numbered_ne_nil _ i) (all_isWord_numbered (by decide) i) _
  · exact field_printD (numbered_ne_nil _ i) (all_isWord_numbered (by decide) i) _

theorem keyRoom_fanPointEntries (curve : FanCurveConfig) {i : Nat} (hi : i < 10) :
    keyRoom (fanPointEntries curve i) ≤ 20 := by
  have hdigit : (printInt (i : Int)).length ≤ 1 :=
    (Nat.length_toDigits_le_iff (by decide) (by decide)).mpr hi
  have hkey : ∀ stem : String, (numbered stem i).length = stem.toList.length +
      (printInt (i : Int)).length := fun stem => List.length_append
  have henabled : "enabled".toList.length = 7 := by decide
  have htemp : "temp".toList.length = 4 := by decide
  have hpct : "pct".toList.length = 3 := by decide
  simp only [keyRoom, fanPointEntries, List.map_cons, List.map_nil, List.sum_cons, List.sum_nil,
    hkey]
  omega

theorem copyable_fanCurve (name : Text) : Ini.Copyable ⟨name, fanSectionEntries desired live⟩ := by
  refine copyable_of_fields (fun e he => ?_) ?_
  · simp only [fanSectionEntries, List.mem_append, List.mem_cons, List.not_mem_nil, or_false,
      List.mem_flatMap] at he
    rcases he with (rfl | rfl | rfl | rfl) | ⟨i, -, he⟩
    · exact field_printD (by decide) (by decide) _
    · exact field_printD (by decide) (by decide) _
    · exact field_printU (by decide) (by decide) _
    · exact field_flag (by decide) (by decide) _
    · exact fields_fanPointEntries _ i e he
  · have hpoints := keyRoom_flatMap_le
      (fanPointEntries (if desired.hasFan then desired.fanCurve else live.activeFanCurve)) 20 8
      (List.length_range (n := FAN_CURVE_MAX_POINTS)) fun i hi =>
        keyRoom_fanPointEntries _ ((List.mem_range.mp hi).trans (by decide))
    have hhead : ∀ poll hysteresis zeroHysteresis zeroEnabled : Text,
        keyRoom [⟨"poll_interval_ms".toList, poll⟩, ⟨"hysteresis_c".toList, hysteresis⟩,
          ⟨"zero_rpm_hysteresis_c".toList, zeroHysteresis⟩,
          ⟨"zero_rpm_enabled".toList, zeroEnabled⟩] = 69 := fun _ _ _ _ => rfl
    unfold fanSectionEntries
    dsimp only
    rw [keyRoom_append, hhead]
    omega

/-- **The sections of a profile can be copied.** -/
theorem copyable_settings (names : Profile.SlotSections) :
    ∀ s ∈ settingsSections desired live names, Ini.Copyable s := by
  intro s hs
  simp only [settingsSections, List.mem_cons, List.not_mem_nil, or_false] at hs
  rcases hs with rfl | rfl | rfl
  · exact copyable_controls desired live _
  · exact copyable_curve desired live _
  · exact copyable_fanCurve desired live _

end Sections

end GreenCurve.WinProfile
