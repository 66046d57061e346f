import GreenCurve.ProfileReadback

/-! # A saved profile loads again

The curve of a profile is read back point by point: a point with a frequency keeps it and
its provenance, one without a frequency is not stored (`storedAt`).  With the controls
and the fan curve this is the whole profile, point frequencies raised to their left
neighbours (`Agrees`, `saved_profile`). -/

namespace GreenCurve.Profile

open Ini (Text Entry Document)

/-! ## The keys of the curve -/

theorem pointKey_injective : Function.Injective pointKey := by
  intro i j h
  have hnumber : ((i.val : Nat) : Int) = (j.val : Nat) :=
    printInt_injective (List.append_cancel_left h)
  exact Fin.ext (by omega)

/-- A digit ends the key of a point, a letter the key of its origin. -/
theorem pointKey_ne_pointOriginKey (i j : VfPoint) : pointKey i ≠ pointOriginKey j := by
  intro h
  have hmem : '_' ∈ pointKey i := by
    rw [h]
    exact List.mem_append_right _ (by decide)
  rcases List.mem_append.mp hmem with hstem | hnumber
  · exact absurd hstem (by decide)
  · rcases printInt_isDigit_or_minus _ _ hnumber with hc | hc <;> exact absurd hc (by decide)

theorem pointOriginKey_injective : Function.Injective pointOriginKey := fun _ _ h =>
  pointKey_injective (List.append_cancel_right h)

/-- The point is owned and has a frequency. -/
def storedAt (d : DesiredSettings) (i : VfPoint) : Bool :=
  d.hasCurvePoint i && decide (d.curvePointMHz i ≠ 0)

section CurveEntries
variable {d : DesiredSettings} {i : VfPoint}

theorem pointEntries_eq : pointEntries d i = if storedAt d i then
    ⟨pointKey i, printInt (d.curvePointMHz i)⟩ ::
      if d.curvePointFromGpuOffset i then [⟨pointOriginKey i, "1".toList⟩] else []
    else [] := rfl

theorem keys_pointEntries {key : Text} (h : key ∈ (pointEntries d i).map Entry.key) :
    storedAt d i = true ∧
      (key = pointKey i ∨ d.curvePointFromGpuOffset i = true ∧ key = pointOriginKey i) := by
  rw [pointEntries_eq] at h
  split at h
  case isTrue hstored =>
    refine ⟨hstored, ?_⟩
    rcases List.mem_cons.mp h with rfl | h
    · exact .inl rfl
    · split at h
      · exact .inr ⟨‹_›, List.mem_singleton.mp h⟩
      · cases h
  case isFalse => cases h

theorem mem_keys_curveEntries {key : Text} (h : key ∈ (curveEntries d).map Entry.key) :
    key = "curve_semantics".toList ∨ ∃ i, key ∈ (pointEntries d i).map Entry.key := by
  rw [curveEntries, List.map_cons, List.map_flatMap] at h
  rcases List.mem_cons.mp h with rfl | h
  · exact .inl rfl
  · obtain ⟨i, -, h⟩ := List.mem_flatMap.mp h
    exact .inr ⟨i, h⟩

/-- No key of a point is the marker. -/
theorem pointKey_ne_semantics (i : VfPoint) :
    pointKey i ≠ "curve_semantics".toList ∧ pointOriginKey i ≠ "curve_semantics".toList := by
  have hhead : (pointKey i).head? = some 'p' ∧ (pointOriginKey i).head? = some 'p' := ⟨rfl, rfl⟩
  constructor
  · intro h
    rw [h] at hhead
    exact absurd hhead.1 (by decide)
  · intro h
    rw [h] at hhead
    exact absurd hhead.2 (by decide)

theorem nodup_curveEntries (d : DesiredSettings) : ((curveEntries d).map Entry.key).Nodup := by
  rw [curveEntries, List.map_cons, List.map_flatMap, List.nodup_cons]
  constructor
  · intro h
    obtain ⟨i, -, h⟩ := List.mem_flatMap.mp h
    rcases (keys_pointEntries h).2 with h | ⟨-, h⟩
    · exact (pointKey_ne_semantics i).1 h.symm
    · exact (pointKey_ne_semantics i).2 h.symm
  · rw [List.nodup_flatMap]
    refine ⟨fun i _ => ?_, (List.nodup_finRange _).imp fun {i j} hne => ?_⟩
    · rw [pointEntries_eq]
      split
      · split
        · simp [pointKey_ne_pointOriginKey]
        · simp
      · exact List.nodup_nil
    · intro key hi hj
      rcases (keys_pointEntries hi).2 with rfl | ⟨-, rfl⟩ <;>
        rcases (keys_pointEntries hj).2 with h | ⟨-, h⟩
      · exact hne (pointKey_injective h)
      · exact pointKey_ne_pointOriginKey _ _ h
      · exact pointKey_ne_pointOriginKey _ _ h.symm
      · exact hne (pointOriginKey_injective h)

theorem mem_curveEntries {e : Entry} (h : e ∈ pointEntries d i) : e ∈ curveEntries d :=
  List.mem_cons_of_mem _ (List.mem_flatMap.mpr ⟨i, List.mem_finRange i, h⟩)

theorem mem_pointEntries_point (h : storedAt d i = true) :
    ⟨pointKey i, printInt (d.curvePointMHz i)⟩ ∈ pointEntries d i := by
  rw [pointEntries_eq, if_pos h]
  exact List.mem_cons_self

theorem mem_pointEntries_origin (h : storedAt d i = true)
    (horigin : d.curvePointFromGpuOffset i = true) :
    ⟨pointOriginKey i, "1".toList⟩ ∈ pointEntries d i := by
  rw [pointEntries_eq, if_pos h, if_pos horigin]
  exact List.mem_cons_of_mem _ List.mem_cons_self

theorem pointKey_notMem (h : storedAt d i = false) :
    pointKey i ∉ (curveEntries d).map Entry.key := by
  intro hmem
  rcases mem_keys_curveEntries hmem with heq | ⟨j, hj⟩
  · exact (pointKey_ne_semantics i).1 heq
  obtain ⟨hstored, heq | ⟨-, heq⟩⟩ := keys_pointEntries hj
  · rw [pointKey_injective heq, hstored] at h
    cases h
  · exact pointKey_ne_pointOriginKey _ _ heq

theorem pointOriginKey_notMem (h : d.curvePointFromGpuOffset i = false) :
    pointOriginKey i ∉ (curveEntries d).map Entry.key := by
  intro hmem
  rcases mem_keys_curveEntries hmem with heq | ⟨j, hj⟩
  · exact (pointKey_ne_semantics i).2 heq
  obtain ⟨-, heq | ⟨horigin, heq⟩⟩ := keys_pointEntries hj
  · exact pointKey_ne_pointOriginKey _ _ heq.symm
  · rw [pointOriginKey_injective heq, horigin] at h
    cases h

/-! ## Reading the curve back -/

theorem storedPoint_written (hfits : Fits32 (d.curvePointMHz i)) :
    storedPoint (curveEntries d) i = if storedAt d i then some (d.curvePointMHz i) else none := by
  cases h : storedAt d i with
  | false =>
    rw [storedPoint, value_of_notMem (pointKey_notMem h)]
    rfl
  | true =>
    have hne : d.curvePointMHz i ≠ 0 := of_decide_eq_true (Bool.and_eq_true_iff.mp h).2
    have hvalue := value_of_mem (nodup_curveEntries d) (mem_curveEntries (mem_pointEntries_point h))
    rw [storedPoint, hvalue, parseIntStrict_printInt hfits]
    simp only [if_true]
    rw [if_pos (by omega), Int.toNat_natCast]

theorem malformedPoint_written (hfits : Fits32 (d.curvePointMHz i)) :
    malformedPoint (curveEntries d) i = false := by
  rw [malformedPoint, storedPoint_written hfits]
  cases h : storedAt d i with
  | false =>
    rw [value_of_notMem (pointKey_notMem h)]
    rfl
  | true => exact Bool.and_false _

theorem curveDecode_written (d : DesiredSettings) :
    curveDecode (curveEntries d) = .absoluteWithOrigin := by
  have hmarker : value (curveEntries d) "curve_semantics".toList =
      "absolute_with_origin".toList := rfl
  have hdecode : curveDecodeFromMarker "absolute_with_origin".toList = .absoluteWithOrigin := by
    decide
  rw [curveDecode, hmarker, hdecode]

end CurveEntries

theorem loadCurvePoints_written {d : DesiredSettings} (hfits : ∀ i, Fits32 (d.curvePointMHz i))
    (context : String) (d' : DesiredSettings) :
    loadCurvePoints (curveEntries d) context d' =
      .ok { d' with
        hasCurvePoint := fun i => storedAt d i || d'.hasCurvePoint i
        curvePointMHz := fun i => if storedAt d i then d.curvePointMHz i else d'.curvePointMHz i
        curvePointFromGpuOffset := fun i =>
          if storedAt d i then false else d'.curvePointFromGpuOffset i } := by
  have hnone : (List.finRange VF_NUM_POINTS).find? (malformedPoint (curveEntries d)) = none := by
    rw [List.find?_eq_none]
    intro i _
    rw [malformedPoint_written (hfits i)]
    exact Bool.false_ne_true
  have hpoint : ∀ i, storedPoint (curveEntries d) i =
      if storedAt d i then some (d.curvePointMHz i) else none := fun i =>
    storedPoint_written (hfits i)
  unfold loadCurvePoints
  rw [hnone]
  refine congrArg Except.ok ?_
  ext i
  case hasCurvePoint =>
    simp only [hpoint]
    cases storedAt d i <;> rfl
  case curvePointMHz =>
    simp only [hpoint]
    cases storedAt d i <;> rfl
  case curvePointFromGpuOffset =>
    simp only [hpoint]
    cases storedAt d i <;> rfl
  all_goals rfl

/-- The flags of the stored points say what they said. -/
theorem readCurvePointOrigins_written {d d' : DesiredSettings}
    (howned : d'.hasCurvePoint = storedAt d) (hfalse : ∀ i, d'.curvePointFromGpuOffset i = false) :
    readCurvePointOrigins (curveEntries d) d' =
      { d' with
        curvePointFromGpuOffset := fun i => storedAt d i && d.curvePointFromGpuOffset i } := by
  rw [readCurvePointOrigins, if_pos (curveDecode_written d)]
  congr 1
  funext i
  rw [hfalse i, howned, Bool.false_or]
  cases hstored : storedAt d i with
  | false => rfl
  | true =>
    rw [Bool.true_and, Bool.true_and]
    cases h : d.curvePointFromGpuOffset i with
    | false => rw [value_of_notMem (pointOriginKey_notMem h), parseIntStrict_nil]
    | true =>
      have hone : parseIntStrict "1".toList = some 1 := by decide
      have hvalue := value_of_mem (nodup_curveEntries d)
        (mem_curveEntries (mem_pointEntries_origin hstored h))
      rw [hvalue, hone]
      rfl

theorem reconstructLegacyCurve_written (d d' : DesiredSettings) :
    reconstructLegacyCurve (curveEntries d) d' = d' := by
  simp only [reconstructLegacyCurve, curveDecode_written, reduceCtorEq, false_and, if_false]

/-! ## Raised frequencies -/

/-- The raised frequency of an owned point depends on the owned points only. -/
theorem raisedMHz_congr {has : VfPoint → Bool} {mhz mhz' : VfPoint → Nat}
    (h : ∀ i, has i = true → mhz i = mhz' i) (i : Nat) (hi : i < VF_NUM_POINTS)
    (howned : has ⟨i, hi⟩ = true) : raisedMHz has mhz i hi = raisedMHz has mhz' i hi := by
  induction i with
  | zero => exact h _ howned
  | succ i ih =>
    simp only [raisedMHz, howned, Bool.true_and]
    cases hleft : has ⟨i, Nat.lt_of_succ_lt hi⟩ with
    | false => exact h _ howned
    | true => rw [ih _ hleft, h _ howned]

theorem raisedMHz_le {has : VfPoint → Bool} {mhz : VfPoint → Nat} {bound : Nat}
    (h : ∀ i, mhz i ≤ bound) (i : Nat) (hi : i < VF_NUM_POINTS) :
    raisedMHz has mhz i hi ≤ bound := by
  induction i with
  | zero => exact h _
  | succ i ih =>
    simp only [raisedMHz]
    split
    · exact ih _
    · exact h _

/-! ## What can be saved -/

/-- Settings that both normalisers leave alone, with a mode for every lock and the points
of the fan curve's array. -/
structure Saveable (d : DesiredSettings) : Prop where
  validate_eq : validateDesiredSettingsForIpc d = d
  normalize_eq : normalizeDesiredSettingsForUi d = d
  lockMode : d.hasLock = true → d.lockMode ≠ .none
  fanPoints : d.fanCurve.points.length = FAN_CURVE_MAX_POINTS

/-- The scalar controls are owned. -/
theorem Saveable.owned {d : DesiredSettings} (h : Saveable d) : d.hasGpuOffset = true ∧
    d.hasMemOffset = true ∧ d.hasPowerLimit = true ∧ d.hasFan = true ∧
      d.fanAuto = decide (d.fanMode = .auto) := by
  rw [← h.normalize_eq]
  exact ⟨rfl, rfl, rfl, rfl, rfl⟩

theorem clampInt_mem_of_eq {value n lo hi : Int} (hle : lo ≤ hi) (h : clampInt value lo hi = n) :
    lo ≤ n ∧ n ≤ hi :=
  h ▸ clampInt_mem hle value

/-- A fixed point of a clamp of what is owned is in its bounds. -/
theorem mem_of_clampIf {owned : Bool} {value lo hi : Int} (hle : lo ≤ hi)
    (h : (if owned then clampInt value lo hi else value) = value) (howned : owned = true) :
    lo ≤ value ∧ value ≤ hi := by
  rw [if_pos howned] at h
  exact clampInt_mem_of_eq hle h

section Bounds
variable {d : DesiredSettings} (h : Saveable d)
include h

theorem Saveable.gpuOffset_mem : -1000 ≤ d.gpuOffsetMHz ∧ d.gpuOffsetMHz ≤ 1000 :=
  mem_of_clampIf (by decide) (congrArg DesiredSettings.gpuOffsetMHz h.validate_eq) h.owned.1

theorem Saveable.memOffset_mem : -3000 ≤ d.memOffsetMHz ∧ d.memOffsetMHz ≤ 3000 :=
  mem_of_clampIf (by decide) (congrArg DesiredSettings.memOffsetMHz h.validate_eq) h.owned.2.1

theorem Saveable.powerLimit_mem : 50 ≤ d.powerLimitPct ∧ d.powerLimitPct ≤ 150 :=
  clampInt_mem_of_eq (by decide) (congrArg DesiredSettings.powerLimitPct h.normalize_eq)

theorem Saveable.lockCi_mem : -1 ≤ d.lockCi ∧ d.lockCi ≤ 127 :=
  clampInt_mem_of_eq (by decide) (congrArg DesiredSettings.lockCi h.validate_eq)

theorem Saveable.lockMHz_le : d.lockMHz ≤ 5000 :=
  min_eq_left_iff.mp (congrArg DesiredSettings.lockMHz h.validate_eq)

theorem Saveable.excludeLowCount_le : d.gpuOffsetExcludeLowCount ≤ 128 :=
  min_eq_left_iff.mp (congrArg DesiredSettings.gpuOffsetExcludeLowCount h.validate_eq)

theorem Saveable.points_le (i : VfPoint) : d.curvePointMHz i ≤ 5000 :=
  min_eq_left_iff.mp (congrFun (congrArg DesiredSettings.curvePointMHz h.validate_eq) i)

/-- The editor gives a fan without a percentage one. -/
theorem Saveable.fanPercent_mem : 0 < d.fanPercent ∧ d.fanPercent ≤ 100 := by
  have hclamp : clampInt (if d.fanPercent ≤ 0 then 50 else d.fanPercent) 0 100 = d.fanPercent :=
    congrArg DesiredSettings.fanPercent h.normalize_eq
  have hrange := clampInt_mem_of_eq (by decide) hclamp
  refine ⟨?_, hrange.2⟩
  by_contra hle
  rw [if_pos (by omega), clampInt_of_mem (by decide)] at hclamp
  omega

theorem Saveable.storable : Storable d := by
  have hgpu := h.gpuOffset_mem
  have hmem := h.memOffset_mem
  have hpower := h.powerLimit_mem
  have hlockCi := h.lockCi_mem
  have hlockMHz := h.lockMHz_le
  have hexclude := h.excludeLowCount_le
  exact {
    gpu := ⟨by omega, by omega⟩
    exclude := ⟨by omega, by omega⟩
    lockCi := ⟨by omega, by omega⟩
    lockMHz := ⟨by omega, by omega⟩
    mem := ⟨by omega, by omega⟩
    power := ⟨by omega, by omega⟩
    xbar := mem_of_clampIf (by decide) (congrArg DesiredSettings.xbarOffsetKhz h.validate_eq)
    msvdd := mem_of_clampIf (by decide) (congrArg DesiredSettings.xbarMsvddOffsetUv h.validate_eq)
    sysClk := mem_of_clampIf (by decide) (congrArg DesiredSettings.sysClkOffsetKhz h.validate_eq)
    videoClk :=
      mem_of_clampIf (by decide) (congrArg DesiredSettings.videoClkOffsetKhz h.validate_eq)
    fanCurve := h.normalize_eq ▸ settled_normalizeDesiredSettingsForUi d
    fanPoints := h.fanPoints }

end Bounds

/-! ## The sections of a saved profile -/

/-- What a reader makes of the three sections. -/
def reread (d : DesiredSettings) : DesiredSettings :=
  raiseCurvePoints { readControls d with
    fanCurve := d.fanCurve
    hasCurvePoint := storedAt d
    curvePointMHz := fun i => if storedAt d i then d.curvePointMHz i else 0
    curvePointFromGpuOffset := fun i => storedAt d i && d.curvePointFromGpuOffset i }

theorem loadSections_written {d : DesiredSettings} (h : Saveable d)
    (fanCurveSection context : String) :
    loadDesiredSettingsFromSections (controlsEntries d) (curveEntries d)
      (fanCurveEntries d.fanCurve) fanCurveSection context =
        .ok (validateDesiredSettingsForIpc (reread d)) := by
  have hs := h.storable
  have hfits : ∀ i, Fits32 (d.curvePointMHz i) := by
    intro i
    have hle := h.points_le i
    exact ⟨by omega, by omega⟩
  refine (ok_bind (loadControls_written hs context)).trans ?_
  refine (ok_bind (loadFanCurve_written hs.fanCurve hs.fanPoints fanCurveSection)).trans ?_
  refine (ok_bind (loadCurvePoints_written hfits context _)).trans ?_
  have hpoints : ∀ d' : DesiredSettings, d'.hasCurvePoint = (fun _ => false) →
      d'.curvePointMHz = (fun _ => 0) → d'.curvePointFromGpuOffset = (fun _ => false) →
      { d' with
        hasCurvePoint := fun i => storedAt d i || d'.hasCurvePoint i
        curvePointMHz := fun i => if storedAt d i then d.curvePointMHz i else d'.curvePointMHz i
        curvePointFromGpuOffset := fun i =>
          if storedAt d i then false else d'.curvePointFromGpuOffset i } =
      { d' with
        hasCurvePoint := storedAt d
        curvePointMHz := fun i => if storedAt d i then d.curvePointMHz i else 0
        curvePointFromGpuOffset := fun _ => false } := by
    intro d' hhas hmhz hfrom
    simp only [hhas, hmhz, hfrom, Bool.or_false, ite_self]
  rw [hpoints _ rfl rfl rfl]
  simp only [reconstructLegacyCurve_written]
  rw [readCurvePointOrigins_written rfl fun _ => rfl]
  rfl

theorem entries_writeProfileSections (doc : Document) {s : SlotSections}
    (hcontrols : s.controls ∉ [s.curve, s.fanCurve]) (hcurve : s.curve ≠ s.fanCurve)
    (d : DesiredSettings) :
    (writeProfileSections doc s d).entries s.controls = controlsEntries d ∧
      (writeProfileSections doc s d).entries s.curve = curveEntries d ∧
      (writeProfileSections doc s d).entries s.fanCurve = fanCurveEntries d.fanCurve := by
  simp only [List.mem_cons, List.not_mem_nil, or_false, not_or] at hcontrols
  simp only [writeProfileSections, replaceSection]
  refine ⟨?_, ?_, Document.entries_upsert_self _ _ _⟩
  · rw [Document.entries_upsert_of_ne hcontrols.2, Document.entries_upsert_of_ne hcontrols.1]
    exact Document.entries_upsert_self _ _ _
  · rw [Document.entries_upsert_of_ne hcurve]
    exact Document.entries_upsert_self _ _ _

/-- The sections of a slot are three, and none is another's. -/
theorem slotSections_distinct {slot : Nat} (h : validSlot slot = true) :
    ((slotSections slot).controls ∉ [(slotSections slot).curve, (slotSections slot).fanCurve] ∧
      (slotSections slot).curve ≠ (slotSections slot).fanCurve) ∧
    ∀ name ∈ (slotSections slot).names, name ∉ legacySections.names ∧ name ∉ bookkeeping := by
  have hall : ∀ slot ∈ List.range 6,
      ((slotSections slot).controls ∉ [(slotSections slot).curve, (slotSections slot).fanCurve] ∧
        (slotSections slot).curve ≠ (slotSections slot).fanCurve) ∧
      ∀ name ∈ (slotSections slot).names, name ∉ legacySections.names ∧ name ∉ bookkeeping := by
    decide
  exact hall slot (List.mem_range.mpr (slot_lt_of_validSlot h))

/-- What a save leaves in a section of its slot. -/
theorem entries_saveDocument_slot {slot : Nat} {name : Text} (hslot : validSlot slot = true)
    (hname : name ∈ (slotSections slot).names) (doc : Document) (d : DesiredSettings) :
    ∃ doc' : Document, (saveDocument doc slot d).entries name =
      (writeProfileSections doc' (slotSections slot)
        (normalizeDesiredSettingsForUi d)).entries name := by
  obtain ⟨hlegacy, hkept⟩ := (slotSections_distinct hslot).2 name hname
  simp only [bookkeeping, List.mem_cons, List.not_mem_nil, or_false, not_or] at hkept
  obtain ⟨-, -, hstartup, hdebug⟩ := hkept
  simp only [saveDocument]
  rw [entries_setSectionInt_of_ne hdebug, entries_setSectionInt_of_ne hstartup,
    entries_setSectionInt_of_ne hstartup]
  split
  · rw [entries_writeProfileSections_of_notMem hlegacy]
    exact ⟨_, rfl⟩
  · exact ⟨_, rfl⟩

/-- **What a load finds of a saved profile.** -/
theorem loadSlot_saveDocument {slot : Nat} (hslot : validSlot slot = true) {d : DesiredSettings}
    (h : Saveable d) {doc doc' : Document}
    (hentries : ∀ name, doc'.entries name = (saveDocument doc slot d).entries name) :
    loadSlot doc' slot =
      .ok (normalizeDesiredSettingsForUi (validateDesiredSettingsForIpc (reread d))) := by
  obtain ⟨hcontrols, hcurve⟩ := (slotSections_distinct hslot).1
  have hsaved : ∀ name ∈ (slotSections slot).names, ∃ doc'' : Document, doc'.entries name =
      (writeProfileSections doc'' (slotSections slot) d).entries name := by
    intro name hname
    obtain ⟨doc'', hdoc⟩ := entries_saveDocument_slot hslot hname doc d
    rw [h.normalize_eq] at hdoc
    exact ⟨doc'', (hentries name).trans hdoc⟩
  have hcontrolsEntries : doc'.entries (slotSections slot).controls = controlsEntries d := by
    obtain ⟨doc'', hdoc⟩ := hsaved (slotSections slot).controls (by simp [SlotSections.names])
    exact hdoc.trans (entries_writeProfileSections doc'' hcontrols hcurve d).1
  have hcurveEntries : doc'.entries (slotSections slot).curve = curveEntries d := by
    obtain ⟨doc'', hdoc⟩ := hsaved (slotSections slot).curve (by simp [SlotSections.names])
    exact hdoc.trans (entries_writeProfileSections doc'' hcontrols hcurve d).2.1
  have hfanEntries : doc'.entries (slotSections slot).fanCurve = fanCurveEntries d.fanCurve := by
    obtain ⟨doc'', hdoc⟩ := hsaved (slotSections slot).fanCurve (by simp [SlotSections.names])
    exact hdoc.trans (entries_writeProfileSections doc'' hcontrols hcurve d).2.2
  have hkeys : (slotSections slot).hasKeys doc' = true := by
    refine List.any_eq_true.mpr ⟨(slotSections slot).controls, List.mem_cons_self, ?_⟩
    rw [hcontrolsEntries]
    exact decide_eq_true (List.cons_ne_nil _ _)
  rw [loadSlot, if_pos hkeys, loadSections, hcontrolsEntries, hcurveEntries, hfanEntries]
  exact ok_bind (loadSections_written h _ _)

/-! ## What comes back -/

/-- Loaded settings that agree with saved ones in every field these own: the lock if it
names a point or a clock, the points that have a frequency, the percentage of a fixed
fan. -/
structure Agrees (d p : DesiredSettings) : Prop where
  gpu : p.hasGpuOffset = d.hasGpuOffset ∧ p.gpuOffsetMHz = d.gpuOffsetMHz ∧
    p.gpuOffsetExcludeLowCount = d.gpuOffsetExcludeLowCount
  mem : p.hasMemOffset = d.hasMemOffset ∧ p.memOffsetMHz = d.memOffsetMHz
  power : p.hasPowerLimit = d.hasPowerLimit ∧ p.powerLimitPct = d.powerLimitPct
  xbar : p.hasXbarOffsetKhz = d.hasXbarOffsetKhz ∧
    (d.hasXbarOffsetKhz = true → p.xbarOffsetKhz = d.xbarOffsetKhz)
  msvdd : p.hasXbarMsvddOffsetUv = d.hasXbarMsvddOffsetUv ∧
    (d.hasXbarMsvddOffsetUv = true → p.xbarMsvddOffsetUv = d.xbarMsvddOffsetUv)
  sysClk : p.hasSysClkOffsetKhz = d.hasSysClkOffsetKhz ∧
    (d.hasSysClkOffsetKhz = true → p.sysClkOffsetKhz = d.sysClkOffsetKhz)
  videoClk : p.hasVideoClkOffsetKhz = d.hasVideoClkOffsetKhz ∧
    (d.hasVideoClkOffsetKhz = true → p.videoClkOffsetKhz = d.videoClkOffsetKhz)
  hasLock : p.hasLock = storedLock d
  lock : storedLock d = true →
    p.lockCi = d.lockCi ∧ p.lockMHz = d.lockMHz ∧ p.lockMode = d.lockMode
  tracksAnchor : p.lockTracksAnchor = d.lockTracksAnchor
  fan : p.hasFan = d.hasFan ∧ p.fanMode = d.fanMode ∧ p.fanAuto = d.fanAuto ∧
    p.fanCurve = d.fanCurve
  percent : d.fanMode = .fixed → p.fanPercent = d.fanPercent
  hasCurvePoint : p.hasCurvePoint = storedAt d
  frequency : ∀ i, storedAt d i = true →
    p.curvePointMHz i = raisedMHz (storedAt d) d.curvePointMHz i i.isLt
  provenance : ∀ i, storedAt d i = true →
    p.curvePointFromGpuOffset i = d.curvePointFromGpuOffset i

/-- An owned clock offset passes the boundary as it is. -/
theorem clampIf_owned {owned : Bool} {n lo hi : Int} (howned : owned = true)
    (hn : owned = true → lo ≤ n ∧ n ≤ hi) :
    (if (owned || false) = true then clampInt (if owned then n else 0) lo hi
      else if owned then n else 0) = n := by
  rw [Bool.or_false, if_pos howned, if_pos howned, clampInt_of_mem (hn howned)]

section Reread
variable {d : DesiredSettings} (h : Saveable d)
include h

theorem fanCurve_reread :
    (normalizeDesiredSettingsForUi (validateDesiredSettingsForIpc (reread d))).fanCurve =
      d.fanCurve := by
  have hsettled := h.storable.fanCurve
  change (if d.fanCurve.clampForIpc.normalizeForIpc.normalize.validate then
    d.fanCurve.clampForIpc.normalizeForIpc.normalize else .setDefault) = _
  rw [hsettled.ipc_eq, hsettled.normalize_eq,
    if_pos (FanCurveConfig.validate_iff.mpr hsettled.valid)]

theorem fanPercent_reread (hmode : d.fanMode = .fixed) :
    (normalizeDesiredSettingsForUi (validateDesiredSettingsForIpc (reread d))).fanPercent =
      d.fanPercent := by
  have hpercent := h.fanPercent_mem
  have hclamp : clampInt d.fanPercent 0 100 = d.fanPercent := clampInt_of_mem ⟨by omega, by omega⟩
  change clampInt (if clampInt (if d.fanMode = .fixed then clampInt d.fanPercent 0 100 else 0)
    0 100 ≤ 0 then 50 else clampInt (if d.fanMode = .fixed then clampInt d.fanPercent 0 100 else 0)
    0 100) 0 100 = _
  rw [if_pos hmode, hclamp, hclamp, if_neg (by omega), hclamp]

theorem excludeLowCount_reread :
    (normalizeDesiredSettingsForUi
      (validateDesiredSettingsForIpc (reread d))).gpuOffsetExcludeLowCount =
        d.gpuOffsetExcludeLowCount := by
  have hnormal : (if d.gpuOffsetMHz = 0 then 0 else d.gpuOffsetExcludeLowCount) =
      d.gpuOffsetExcludeLowCount :=
    congrArg DesiredSettings.gpuOffsetExcludeLowCount h.normalize_eq
  change (if clampInt d.gpuOffsetMHz (-1000) 1000 = 0 then 0
    else min d.gpuOffsetExcludeLowCount 128) = _
  rw [clampInt_of_mem h.gpuOffset_mem, min_eq_left h.excludeLowCount_le, hnormal]

theorem lock_reread (hstored : storedLock d = true) :
    let p := normalizeDesiredSettingsForUi (validateDesiredSettingsForIpc (reread d))
    p.lockCi = d.lockCi ∧ p.lockMHz = d.lockMHz ∧ p.lockMode = d.lockMode := by
  have hlock : d.hasLock = true := by
    rw [storedLock, ← Bool.and_or_distrib_left] at hstored
    exact (Bool.and_eq_true_iff.mp hstored).1
  refine ⟨?_, ?_, ?_⟩
  · change clampInt (if d.hasLock then d.lockCi else -1) (-1) 127 = _
    rw [if_pos hlock, clampInt_of_mem h.lockCi_mem]
  · have hle := h.lockMHz_le
    change min (if d.hasLock && decide (0 < d.lockMHz) then d.lockMHz else 0) 5000 = _
    rw [hlock, Bool.true_and]
    by_cases hpos : 0 < d.lockMHz
    · rw [if_pos (decide_eq_true hpos), min_eq_left hle]
    · rw [if_neg (by simpa using hpos)]
      omega
  · change profileLockModeAfterLoad (storedLock d) true
      (if d.hasLock then d.lockMode else .none) = _
    rw [if_pos hlock, hstored]
    exact if_neg (h.lockMode hlock)

/-- **A profile is read back as it was saved**, its points raised to their left
neighbours. -/
theorem agrees_reread :
    Agrees d (normalizeDesiredSettingsForUi (validateDesiredSettingsForIpc (reread d))) where
  gpu := ⟨h.owned.1.symm, clampInt_of_mem h.gpuOffset_mem, excludeLowCount_reread h⟩
  mem := ⟨h.owned.2.1.symm, clampInt_of_mem h.memOffset_mem⟩
  power := by
    have hmem := h.powerLimit_mem
    refine ⟨h.owned.2.2.1.symm, ?_⟩
    change clampPowerLimitPct (clampPowerLimitPct d.powerLimitPct) = _
    rw [clampPowerLimitPct_of_mem hmem, clampPowerLimitPct_of_mem hmem]
  xbar := ⟨Bool.or_false _, fun howned => clampIf_owned howned h.storable.xbar⟩
  msvdd := ⟨Bool.or_false _, fun howned => clampIf_owned howned h.storable.msvdd⟩
  sysClk := ⟨Bool.or_false _, fun howned => clampIf_owned howned h.storable.sysClk⟩
  videoClk := ⟨Bool.or_false _, fun howned => clampIf_owned howned h.storable.videoClk⟩
  hasLock := rfl
  lock := lock_reread h
  tracksAnchor := rfl
  fan := ⟨h.owned.2.2.2.1.symm, rfl, h.owned.2.2.2.2.symm, fanCurve_reread h⟩
  percent := fanPercent_reread h
  hasCurvePoint := rfl
  frequency := by
    intro i hstored
    have hraised : raisedMHz (storedAt d) (fun i => if storedAt d i then d.curvePointMHz i else 0)
        i i.isLt = raisedMHz (storedAt d) d.curvePointMHz i i.isLt :=
      raisedMHz_congr (fun i hi => if_pos hi) i i.isLt hstored
    change min (raisedMHz (storedAt d) _ i i.isLt) 5000 = _
    rw [hraised, min_eq_left (raisedMHz_le h.points_le i i.isLt)]
  provenance := by
    intro i hstored
    change (storedAt d i && d.curvePointFromGpuOffset i) = _
    rw [hstored, Bool.true_and]

end Reread

/-- **A saved profile loads again**: whatever file the text form can carry it is saved
into, if the file stays within the limits of the parser, the slot loads settings that
agree with the saved ones. -/
theorem saved_profile {text text' : Text} {slot : Nat} {d : DesiredSettings} {doc : Document}
    (h : Saveable d) (hdoc : loadIniDocument text = .ok doc) (hcarried : doc.Carried)
    (hsave : saveProfile text slot d = .ok text') (hfits : Fits (saveDocument doc slot d)) :
    ∃ p, loadProfile text' slot = .ok p ∧ Agrees d p := by
  have hslot : validSlot slot = true := by
    by_contra hslot
    rw [saveProfile, if_neg hslot] at hsave
    cases hsave
  rw [saveProfile, if_pos hslot, hdoc] at hsave
  cases hsave
  obtain ⟨doc', hread, hentries, hmarker⟩ := load_print (carried_saveDocument hcarried slot d) hfits
  have hmigrated : migrateMemOffsets doc' = doc' := by
    rw [migrateMemOffsets, hmarker, markerSet_saveDocument hslot, if_pos rfl]
  refine ⟨_, ?_, agrees_reread h⟩
  rw [loadProfile, if_pos hslot, hread]
  change loadSlot (migrateMemOffsets doc') slot = _
  rw [hmigrated]
  exact loadSlot_saveDocument hslot h hentries

theorem neZero_points : NeZero VF_NUM_POINTS := ⟨by decide⟩

attribute [local instance] neZero_points

/-- A lock at a point, with a falling pair of points of which the second projects the
offset. -/
def lockedPair : DesiredSettings :=
  { normalizeDesiredSettingsForUi initializeDesiredSettingsDefaults with
    hasLock := true
    lockCi := 70
    lockMHz := 1800
    lockMode := .flatten
    hasCurvePoint := fun i => decide (i = 70 ∨ i = 71)
    curvePointMHz := fun i => if i = 70 then 1800 else if i = 71 then 1700 else 0
    curvePointFromGpuOffset := fun i => decide (i = 71) }

theorem saved_profile_lockedPair :
    ∃ p, loadProfile (Ini.print (saveDocument (retained twoProfiles 2) 2 lockedPair)) 2 = .ok p ∧
      Agrees lockedPair p := by
  have hdoc : loadIniDocument (Ini.print (retained twoProfiles 2)) =
      .ok (retained twoProfiles 2) := by decide +kernel
  have hvalidate : validateDesiredSettingsForIpc lockedPair = lockedPair := by
    ext i
    case curvePointMHz =>
      revert i
      decide +kernel
    all_goals rfl
  have hsaveable : Saveable lockedPair :=
    ⟨hvalidate, by decide +kernel, by decide +kernel, by decide +kernel⟩
  refine saved_profile hsaveable hdoc carried_twoProfiles ?_ ⟨?_, ?_, ?_⟩
  · rw [saveProfile, if_pos (by decide), hdoc]
    rfl
  · decide +kernel
  · decide +kernel
  · decide +kernel

/-- A lock that names neither a point nor a clock, and an owned point without a
frequency. -/
def bareLock : DesiredSettings :=
  { normalizeDesiredSettingsForUi initializeDesiredSettingsDefaults with
    hasLock := true
    lockCi := -1
    lockMode := .flatten
    hasCurvePoint := fun i => decide (i = 3) }

/-- Neither of the two comes back.  Entries of a nameless section join the section printed
before it, where the saved profile cannot be loaded with them. -/
theorem saved_profile_exceptions : (Saveable bareLock ∧ bareLock.hasLock = true ∧
      bareLock.hasCurvePoint 3 = true) ∧
    (do
      let p ← loadProfile (← saveProfile [] 2 bareLock) 2
      return (p.hasLock, p.hasCurvePoint 3) : Except LoadError (Bool × Bool)) =
        .ok (false, false) ∧
    (do
      let text ← saveProfile "[profile2]\n[]\nxbar_offset_khz=9999999\n".toList 2 bareLock
      return (loadProfile text 2).toOption.isSome : Except LoadError Bool) = .ok false := by
  refine ⟨⟨⟨?_, ?_, ?_, ?_⟩, ?_, ?_⟩, ?_, ?_⟩
  all_goals decide +kernel

end GreenCurve.Profile
