import GreenCurve.ProfileBank

/-! # What a profile that loads satisfies

A loaded profile has passed both normalisers (`Loaded`), and its memory offset is the one
the load saw in the controls section, within the bounds (`memOffsetMHz_of_loadSections`). -/

namespace GreenCurve.Profile

open Ini (Text Entry)

/-- An offset the settings do not own is zero. -/
structure OffsetsOwned (d : DesiredSettings) : Prop where
  gpu : d.hasGpuOffset = false → d.gpuOffsetMHz = 0
  mem : d.hasMemOffset = false → d.memOffsetMHz = 0

theorem exists_of_readInt_bind {α : Type} {entries : List Entry} {key : Text} {err : LoadError}
    {f : Option Int → Except LoadError α} {a : α} (h : (readInt entries key err >>= f) = .ok a) :
    ∃ n?, f n? = .ok a := by
  cases hread : readInt entries key err with
  | error e =>
    rw [hread] at h
    cases h
  | ok n? =>
    rw [hread] at h
    exact ⟨n?, h⟩

section Loads
variable {entries : List Entry} {context : String} {d d' : DesiredSettings}

theorem offsetsOwned_loadGpuOffset (h : OffsetsOwned d)
    (hload : loadGpuOffset entries context d = .ok d') : OffsetsOwned d' := by
  obtain ⟨n?, hn⟩ := exists_of_readInt_bind hload
  cases n? with
  | none =>
    cases hn
    exact h
  | some n =>
    cases hn
    exact ⟨fun hfalse => (nomatch hfalse), h.mem⟩

theorem offsetsOwned_loadMemOffset (h : OffsetsOwned d)
    (hload : loadMemOffset entries context d = .ok d') : OffsetsOwned d' := by
  obtain ⟨n?, hn⟩ := exists_of_readInt_bind hload
  cases n? with
  | none =>
    cases hn
    exact h
  | some n =>
    cases hn
    exact ⟨h.gpu, fun hfalse => (nomatch hfalse)⟩

/-- The offsets are the ones there were. -/
structure SameOffsets (d d' : DesiredSettings) : Prop where
  hasGpu : d'.hasGpuOffset = d.hasGpuOffset
  gpu : d'.gpuOffsetMHz = d.gpuOffsetMHz
  hasMem : d'.hasMemOffset = d.hasMemOffset
  mem : d'.memOffsetMHz = d.memOffsetMHz

theorem SameOffsets.owned (hs : SameOffsets d d') (h : OffsetsOwned d) : OffsetsOwned d' where
  gpu hfalse := hs.gpu.trans (h.gpu (hs.hasGpu.symm.trans hfalse))
  mem hfalse := hs.mem.trans (h.mem (hs.hasMem.symm.trans hfalse))

theorem sameOffsets_loadExcludeLowCount (hload : loadExcludeLowCount entries context d = .ok d') :
    SameOffsets d d' := by
  unfold loadExcludeLowCount at hload
  split at hload
  all_goals
    obtain ⟨n?, hn⟩ := exists_of_readInt_bind hload
    cases n? <;> cases hn <;> exact ⟨rfl, rfl, rfl, rfl⟩

theorem sameOffsets_loadLockCi (hload : loadLockCi entries context d = .ok d') :
    SameOffsets d d' := by
  obtain ⟨n?, hn⟩ := exists_of_readInt_bind hload
  cases n? <;> cases hn <;> exact ⟨rfl, rfl, rfl, rfl⟩

theorem sameOffsets_loadLockMHz (hload : loadLockMHz entries context d = .ok d') :
    SameOffsets d d' := by
  obtain ⟨n?, hn⟩ := exists_of_readInt_bind hload
  cases n? with
  | none =>
    cases hn
    exact ⟨rfl, rfl, rfl, rfl⟩
  | some n =>
    simp only at hn
    split at hn
    · cases hn
    · split at hn <;> cases hn <;> exact ⟨rfl, rfl, rfl, rfl⟩

theorem sameOffsets_loadLockTracksAnchor
    (hload : loadLockTracksAnchor entries context d = .ok d') : SameOffsets d d' := by
  obtain ⟨n?, hn⟩ := exists_of_readInt_bind hload
  cases n? <;> cases hn <;> exact ⟨rfl, rfl, rfl, rfl⟩

theorem sameOffsets_loadLockMode (hload : loadLockMode entries context d = .ok d') :
    SameOffsets d d' := by
  obtain ⟨n?, hn⟩ := exists_of_readInt_bind hload
  cases n? with
  | none =>
    cases hn
    exact ⟨rfl, rfl, rfl, rfl⟩
  | some n =>
    simp only at hn
    split at hn <;> cases hn
    exact ⟨rfl, rfl, rfl, rfl⟩

theorem sameOffsets_loadPowerLimit (hload : loadPowerLimit entries context d = .ok d') :
    SameOffsets d d' := by
  obtain ⟨n?, hn⟩ := exists_of_readInt_bind hload
  cases n? <;> cases hn <;> exact ⟨rfl, rfl, rfl, rfl⟩

theorem sameOffsets_loadBounded {key : String} {bound : Int}
    {assign : Int → DesiredSettings → DesiredSettings}
    (hassign : ∀ n d, SameOffsets d (assign n d))
    (hload : loadBounded entries context key bound assign d = .ok d') : SameOffsets d d' := by
  obtain ⟨n?, hn⟩ := exists_of_readInt_bind hload
  cases n? with
  | none =>
    cases hn
    exact ⟨rfl, rfl, rfl, rfl⟩
  | some n =>
    simp only at hn
    split at hn <;> cases hn
    exact hassign n d

theorem sameOffsets_loadFanMode (hload : loadFanMode entries context d = .ok d') :
    SameOffsets d d' := by
  unfold loadFanMode at hload
  split at hload
  · split at hload <;> cases hload
    exact ⟨rfl, rfl, rfl, rfl⟩
  · cases hload
    exact ⟨rfl, rfl, rfl, rfl⟩

theorem sameOffsets_loadFan (hload : loadFan entries context d = .ok d') : SameOffsets d d' := by
  simp only [loadFan] at hload
  split at hload
  · cases hload
    exact ⟨rfl, rfl, rfl, rfl⟩
  split at hload
  · cases hload
  split at hload
  · cases hload
    exact ⟨rfl, rfl, rfl, rfl⟩
  split at hload <;> cases hload <;> exact ⟨rfl, rfl, rfl, rfl⟩

theorem sameOffsets_loadFanFixedPct (hload : loadFanFixedPct entries context d = .ok d') :
    SameOffsets d d' := by
  obtain ⟨n?, hn⟩ := exists_of_readInt_bind hload
  cases n? with
  | none =>
    cases hn
    exact ⟨rfl, rfl, rfl, rfl⟩
  | some n =>
    simp only at hn
    split at hn <;> cases hn <;> exact ⟨rfl, rfl, rfl, rfl⟩

end Loads

theorem ok_of_bind {α β : Type} {x : Except LoadError α} {f : α → Except LoadError β} {b : β}
    (h : (x >>= f) = .ok b) : ∃ a, x = .ok a ∧ f a = .ok b := by
  cases x with
  | error e => cases h
  | ok a => exact ⟨a, rfl, h⟩

theorem SameOffsets.trans {d₁ d₂ d₃ : DesiredSettings} (h : SameOffsets d₁ d₂)
    (h' : SameOffsets d₂ d₃) : SameOffsets d₁ d₃ :=
  ⟨h'.hasGpu.trans h.hasGpu, h'.gpu.trans h.gpu, h'.hasMem.trans h.hasMem, h'.mem.trans h.mem⟩

/-- Of the controls only two touch the offsets. -/
theorem offsets_of_loadControls {entries : List Entry} {context : String}
    {d d' : DesiredSettings} (hload : loadControls entries context d = .ok d') :
    ∃ d₁ d₂ d₃, loadGpuOffset entries context d = .ok d₁ ∧ SameOffsets d₁ d₂ ∧
      loadMemOffset entries context d₂ = .ok d₃ ∧ SameOffsets d₃ d' := by
  obtain ⟨d₁, h₁, hload⟩ := ok_of_bind hload
  obtain ⟨d₂, h₂, hload⟩ := ok_of_bind hload
  obtain ⟨d₃, h₃, hload⟩ := ok_of_bind hload
  obtain ⟨d₄, h₄, hload⟩ := ok_of_bind hload
  obtain ⟨d₅, h₅, hload⟩ := ok_of_bind hload
  obtain ⟨d₆, h₆, hload⟩ := ok_of_bind hload
  obtain ⟨d₇, h₇, hload⟩ := ok_of_bind hload
  obtain ⟨d₈, h₈, hload⟩ := ok_of_bind hload
  obtain ⟨d₉, h₉, hload⟩ := ok_of_bind hload
  obtain ⟨d₁₀, h₁₀, hload⟩ := ok_of_bind hload
  obtain ⟨d₁₁, h₁₁, hload⟩ := ok_of_bind hload
  obtain ⟨d₁₂, h₁₂, hload⟩ := ok_of_bind hload
  obtain ⟨d₁₃, h₁₃, hload⟩ := ok_of_bind hload
  obtain ⟨d₁₄, h₁₄, h₁₅⟩ := ok_of_bind hload
  have s₉ : SameOffsets d₈ d₉ := by
    refine sameOffsets_loadBounded ?_ h₉
    exact fun _ _ => ⟨rfl, rfl, rfl, rfl⟩
  have s₁₀ : SameOffsets d₉ d₁₀ := by
    refine sameOffsets_loadBounded ?_ h₁₀
    exact fun _ _ => ⟨rfl, rfl, rfl, rfl⟩
  have s₁₁ : SameOffsets d₁₀ d₁₁ := by
    refine sameOffsets_loadBounded ?_ h₁₁
    exact fun _ _ => ⟨rfl, rfl, rfl, rfl⟩
  have s₁₂ : SameOffsets d₁₁ d₁₂ := by
    refine sameOffsets_loadBounded ?_ h₁₂
    exact fun _ _ => ⟨rfl, rfl, rfl, rfl⟩
  have hlock : SameOffsets d₁ d₆ :=
    (sameOffsets_loadExcludeLowCount h₂).trans ((sameOffsets_loadLockCi h₃).trans
      ((sameOffsets_loadLockMHz h₄).trans ((sameOffsets_loadLockTracksAnchor h₅).trans
        (sameOffsets_loadLockMode h₆))))
  have hclocks : SameOffsets d₇ d₁₂ :=
    (sameOffsets_loadPowerLimit h₈).trans (s₉.trans (s₁₀.trans (s₁₁.trans s₁₂)))
  have hfan : SameOffsets d₁₂ d' :=
    (sameOffsets_loadFanMode h₁₃).trans ((sameOffsets_loadFan h₁₄).trans
      (sameOffsets_loadFanFixedPct h₁₅))
  exact ⟨d₁, d₆, d₇, h₁, hlock, h₇, hclocks.trans hfan⟩

/-- What follows the controls leaves the offsets to the boundary. -/
theorem offsets_of_sections {controls curve fanCurve : List Entry}
    {fanCurveSection context : String} {d : DesiredSettings}
    (h : loadDesiredSettingsFromSections controls curve fanCurve fanCurveSection context = .ok d) :
    ∃ d₁ d₂, loadControls controls context initializeDesiredSettingsDefaults = .ok d₁ ∧
      SameOffsets d₁ d₂ ∧ d = validateDesiredSettingsForIpc d₂ := by
  obtain ⟨d₁, h₁, h⟩ := ok_of_bind h
  obtain ⟨fan, -, h⟩ := ok_of_bind h
  obtain ⟨d₂, h₂, h⟩ := ok_of_bind h
  have hpoints : SameOffsets d₁ d₂ := by
    unfold loadCurvePoints at h₂
    split at h₂ <;> cases h₂
    exact ⟨rfl, rfl, rfl, rfl⟩
  have horigins : SameOffsets d₂ (readCurvePointOrigins curve d₂) := by
    unfold readCurvePointOrigins
    split <;> exact ⟨rfl, rfl, rfl, rfl⟩
  have hlegacy : ∀ d, SameOffsets d (reconstructLegacyCurve curve d) := by
    intro d
    simp only [reconstructLegacyCurve]
    split
    · exact ⟨rfl, rfl, rfl, rfl⟩
    · split <;> exact ⟨rfl, rfl, rfl, rfl⟩
  have hraise : ∀ d, SameOffsets d (raiseCurvePoints d) := fun _ => ⟨rfl, rfl, rfl, rfl⟩
  cases h
  exact ⟨d₁, _, h₁, hpoints.trans (horigins.trans ((hlegacy _).trans (hraise _))), rfl⟩

/-- Settings a profile was loaded as. -/
def Loaded (p : DesiredSettings) : Prop :=
  ∃ d, OffsetsOwned d ∧ p = normalizeDesiredSettingsForUi (validateDesiredSettingsForIpc d)

theorem loaded_of_sections {controls curve fanCurve : List Entry}
    {fanCurveSection context : String} {d : DesiredSettings}
    (h : loadDesiredSettingsFromSections controls curve fanCurve fanCurveSection context = .ok d) :
    Loaded (normalizeDesiredSettingsForUi d) := by
  obtain ⟨d₁, d₂, h₁, hs, rfl⟩ := offsets_of_sections h
  obtain ⟨e₁, e₂, e₃, hgpu, hs₁, hmem, hs₃⟩ := offsets_of_loadControls h₁
  have hdefault : OffsetsOwned initializeDesiredSettingsDefaults := ⟨fun _ => rfl, fun _ => rfl⟩
  have howned := offsetsOwned_loadGpuOffset hdefault hgpu
  have howned := offsetsOwned_loadMemOffset (hs₁.owned howned) hmem
  exact ⟨d₂, hs.owned (hs₃.owned howned), rfl⟩

/-! ## The memory offset -/

/-- The memory offset the entries of a section hold. -/
def memOffsetOf (entries : List Entry) : Int :=
  (parseIntStrict (value entries "mem_offset_mhz".toList)).getD 0

theorem parseIntStrict_nil : parseIntStrict [] = none := rfl

theorem memOffset_loadMemOffset {entries : List Entry} {context : String} {d d' : DesiredSettings}
    (hd : d.memOffsetMHz = 0) (hload : loadMemOffset entries context d = .ok d') :
    d'.memOffsetMHz = memOffsetOf entries := by
  unfold loadMemOffset readInt at hload
  by_cases hnil : value entries "mem_offset_mhz".toList = []
  · simp only [if_pos hnil] at hload
    cases hload
    rw [memOffsetOf, hnil, parseIntStrict_nil]
    exact hd
  · simp only [if_neg hnil] at hload
    cases hparse : parseIntStrict (value entries "mem_offset_mhz".toList) with
    | none =>
      rw [hparse] at hload
      cases hload
    | some n =>
      rw [hparse] at hload
      cases hload
      rw [memOffsetOf, hparse]
      rfl

/-- **The memory offset of a loaded profile** is the one of its controls section, within
the bounds. -/
theorem memOffsetMHz_of_loadSections {doc : Ini.Document} {s : SlotSections} {slot : Nat}
    {p : DesiredSettings} (h : loadSections doc s slot = .ok p) :
    p.memOffsetMHz = clampInt (memOffsetOf (doc.entries s.controls)) (-3000) 3000 := by
  obtain ⟨d, hd, h⟩ := ok_of_bind h
  cases h
  obtain ⟨d₁, d₂, h₁, hs, rfl⟩ := offsets_of_sections hd
  obtain ⟨e₁, e₂, e₃, hgpu, hs₁, hmem, hs₃⟩ := offsets_of_loadControls h₁
  have hdefault : e₁.hasMemOffset = false ∧ e₁.memOffsetMHz = 0 := by
    obtain ⟨n?, hn⟩ := exists_of_readInt_bind hgpu
    cases n? <;> cases hn <;> exact ⟨rfl, rfl⟩
  have hread := memOffset_loadMemOffset (hs₁.mem.trans hdefault.2) hmem
  have howned := offsetsOwned_loadMemOffset
    (hs₁.owned (offsetsOwned_loadGpuOffset ⟨fun _ => rfl, fun _ => rfl⟩ hgpu)) hmem
  have hoffset : d₂.memOffsetMHz = memOffsetOf (doc.entries s.controls) :=
    hs.mem.trans (hs₃.mem.trans hread)
  change (if d₂.hasMemOffset then clampInt d₂.memOffsetMHz (-3000) 3000 else d₂.memOffsetMHz) = _
  rw [← hoffset]
  split
  · rfl
  · rename_i hfalse
    rw [(hs.owned (hs₃.owned howned)).mem (by simpa using hfalse)]
    rfl

/-- What a slot loads is the profile of three sections. -/
theorem loaded_of_loadProfile {text : Text} {slot : Nat} {p : DesiredSettings}
    (h : loadProfile text slot = .ok p) : Loaded p := by
  have hsections : ∀ {doc : Ini.Document} {s : SlotSections} {p : DesiredSettings},
      loadSections doc s slot = .ok p → Loaded p := by
    intro doc s p h
    obtain ⟨d, hd, h⟩ := ok_of_bind h
    cases h
    exact loaded_of_sections hd
  unfold loadProfile at h
  split at h
  · obtain ⟨doc, -, h⟩ := ok_of_bind h
    unfold loadSlot at h
    split at h
    · exact hsections h
    · split at h
      · exact hsections h
      · cases h
  · cases h

theorem Loaded.validate_eq {p : DesiredSettings} (h : Loaded p) :
    validateDesiredSettingsForIpc p = p := by
  obtain ⟨d, howned, rfl⟩ := h
  exact validate_normalize_validate howned.gpu howned.mem

theorem Loaded.normalize_eq {p : DesiredSettings} (h : Loaded p) :
    normalizeDesiredSettingsForUi p = p := by
  obtain ⟨d, -, rfl⟩ := h
  exact normalize_normalize _

end GreenCurve.Profile
