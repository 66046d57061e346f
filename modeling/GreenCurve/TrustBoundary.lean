import GreenCurve.RawSettings

/-! # The trust boundary of a request

After `validate_desired_settings_for_ipc` nothing downstream checks again.  Whatever bytes came,
the result is left alone by a second pass, its flags are flags and its numbers are in range.

Three things escape.  The GPU offset is clamped only where it is owned, although the builder
reads it for every point the request names.  The hysteresis of a native zero-RPM fan is clamped
before its unset value is read as the default.  And a curve whose temperatures coincide or whose
duty falls is sorted, not repaired, so the editor would refuse it. -/

namespace GreenCurve

namespace RawFanCurve
variable {config : RawFanCurve}

/-- A curve as the boundary leaves it. -/
structure Settled (config : RawFanCurve) : Prop where
  poll : 250 ≤ config.pollIntervalMs ∧ config.pollIntervalMs ≤ 5000 ∧
    config.pollIntervalMs % 250 = 0
  hysteresis : 0 ≤ config.hysteresisC ∧ config.hysteresisC ≤ FAN_CURVE_MAX_HYSTERESIS_C
  zeroRpm : clampZeroRpm config.zeroRpmHysteresisC = config.zeroRpmHysteresisC
  flag : CanonicalBool8 config.zeroRpmEnabled
  reserved : config.zeroRpmReserved = (0, 0)
  flags : ∀ p ∈ config.points, CanonicalBool8 p.enabled
  points : ∀ p ∈ config.points, 0 ≤ p.temperatureC ∧ p.temperatureC ≤ 100 ∧
    0 ≤ p.fanPercent ∧ p.fanPercent ≤ 100
  ordered : 2 ≤ config.enabledPoints.length →
    config.points = sortRawPoints config.enabledPoints ++ config.points.filter (!·.isEnabled)

end RawFanCurve

/-! ## What is left alone -/

section Settled
variable {config : RawFanCurve}

theorem clampZeroRpm_clampZeroRpm (value : UInt8) :
    clampZeroRpm (clampZeroRpm value) = clampZeroRpm value := by
  apply UInt8.toNat_inj.mp
  rw [toNat_clampZeroRpm, toNat_clampZeroRpm]
  omega

theorem clampZeroRpm_ne_zero (value : UInt8) : clampZeroRpm value ≠ 0 := by
  intro h
  have hvalue := toNat_clampZeroRpm value
  rw [h] at hvalue
  have hzero : (0 : UInt8).toNat = 0 := rfl
  omega

theorem map_eq_self {α : Type} {f : α → α} {l : List α} (h : ∀ a ∈ l, f a = a) : l.map f = l :=
  (List.map_congr_left h).trans (List.map_id l)

theorem clamp_of_settled (h : config.Settled) : config.points.map (·.clamp) = config.points := by
  refine map_eq_self fun p hp => ?_
  have hp := h.points p hp
  unfold RawFanPoint.clamp
  rw [clampInt_of_mem ⟨hp.1, hp.2.1⟩, clampInt_of_mem hp.2.2]

theorem canonicalizeFlags_of_settled (h : config.Settled) : config.canonicalizeFlags = config := by
  have hpoints : config.points.map (·.canonicalize) = config.points := by
    refine map_eq_self fun p hp => ?_
    unfold RawFanPoint.canonicalize
    rw [canonicalizeBool8_of_canonical (h.flags p hp)]
  unfold RawFanCurve.canonicalizeFlags
  rw [hpoints, canonicalizeBool8_of_canonical h.flag, ← h.reserved]

theorem clampForIpc_of_settled (h : config.Settled) : config.clampForIpc = config := by
  have hpoints : config.points.map (·.clampForIpc) = config.points := by
    refine map_eq_self fun p hp => ?_
    have hp := h.points p hp
    have htemp : 0 ≤ p.temperatureC ∧ p.temperatureC ≤ 150 := ⟨hp.1, by omega⟩
    unfold RawFanPoint.clampForIpc
    rw [clampInt_of_mem htemp, clampInt_of_mem hp.2.2]
  unfold RawFanCurve.clampForIpc
  rw [hpoints, clampInt_of_mem h.hysteresis, h.zeroRpm]

/-- Points whose flag is what it is set to. -/
theorem map_withEnabled_eq_self {points : List RawFanPoint} {flag : UInt8}
    (h : ∀ p ∈ points, p.enabled = flag) : points.map (·.withEnabled flag) = points :=
  map_eq_self fun p hp => by
    unfold RawFanPoint.withEnabled
    rw [← h p hp]

theorem enabled_of_isEnabled {p : RawFanPoint} (hflag : CanonicalBool8 p.enabled)
    (h : p.isEnabled = true) : p.enabled = 1 :=
  hflag.resolve_left (of_decide_eq_true h)

theorem enabled_of_not_isEnabled {p : RawFanPoint} (h : p.isEnabled = false) : p.enabled = 0 := by
  simpa [RawFanPoint.isEnabled] using h

theorem normalizeForIpc_of_settled (h : config.Settled) : config.normalizeForIpc = config := by
  have hpoll : (clampInt config.pollIntervalMs 250 5000 + 125) / 250 * 250 =
      config.pollIntervalMs := by
    have hpoll := h.poll
    rw [clampInt_of_mem ⟨hpoll.1, hpoll.2.1⟩]
    omega
  have hzero : (if config.zeroRpmHysteresisC = 0 then (5 : UInt8)
      else clampZeroRpm config.zeroRpmHysteresisC) = config.zeroRpmHysteresisC := by
    rw [if_neg, h.zeroRpm]
    intro hzero
    exact clampZeroRpm_ne_zero _ (h.zeroRpm.trans hzero)
  have hpoints : RawFanCurve.normalizePoints config.points = config.points := by
    unfold RawFanCurve.normalizePoints
    dsimp only
    rw [clamp_of_settled h]
    split
    · rfl
    · rename_i hmany
      rw [map_withEnabled_eq_self, map_withEnabled_eq_self]
      · exact (h.ordered (Nat.le_of_not_lt hmany)).symm
      · intro p hp
        rw [List.mem_filter, Bool.not_eq_true'] at hp
        exact enabled_of_not_isEnabled hp.2
      · intro p hp
        have hp := List.mem_filter.mp ((List.perm_insertionSort _ _).mem_iff.mp hp)
        exact enabled_of_isEnabled (h.flags p hp.1) hp.2
  unfold RawFanCurve.normalizeForIpc RawFanCurve.normalizeScalars
  rw [hpoints, hpoll, hzero, clampInt_of_mem h.hysteresis, canonicalizeBool8_of_canonical h.flag,
    ← h.reserved]

/-- Where the points of a normalised curve come from. -/
theorem mem_normalizePoints {points : List RawFanPoint} {p : RawFanPoint}
    (h : p ∈ RawFanCurve.normalizePoints points) :
    ∃ q ∈ points, (p = q.clamp ∨ p = q.clamp.withEnabled 1 ∨ p = q.clamp.withEnabled 0) := by
  unfold RawFanCurve.normalizePoints at h
  dsimp only at h
  split at h
  · obtain ⟨q, hq, rfl⟩ := List.mem_map.mp h
    exact ⟨q, hq, .inl rfl⟩
  · rcases List.mem_append.mp h with h | h
    · obtain ⟨p', hp', rfl⟩ := List.mem_map.mp h
      have hp' := List.mem_filter.mp ((List.perm_insertionSort _ _).mem_iff.mp hp')
      obtain ⟨q, hq, rfl⟩ := List.mem_map.mp hp'.1
      exact ⟨q, hq, .inr (.inl rfl)⟩
    · obtain ⟨p', hp', rfl⟩ := List.mem_map.mp h
      obtain ⟨q, hq, rfl⟩ := List.mem_map.mp (List.mem_filter.mp hp').1
      exact ⟨q, hq, .inr (.inr rfl)⟩

/-- What keeps the temperatures keeps the order. -/
theorem sortRawPoints_map (f : RawFanPoint → RawFanPoint)
    (hf : ∀ p, (f p).temperatureC = p.temperatureC) (points : List RawFanPoint) :
    sortRawPoints (points.map f) = (sortRawPoints points).map f :=
  (List.map_insertionSort _ _ f points fun a _ b _ => by rw [hf a, hf b]).symm

theorem sortRawPoints_sort (points : List RawFanPoint) :
    sortRawPoints (sortRawPoints points) = sortRawPoints points := by
  have htotal : Std.Total fun a b : RawFanPoint => a.temperatureC ≤ b.temperatureC :=
    ⟨fun _ _ => le_total _ _⟩
  have htrans : IsTrans RawFanPoint fun a b => a.temperatureC ≤ b.temperatureC :=
    ⟨fun _ _ _ => le_trans⟩
  exact (List.pairwise_insertionSort _ points).insertionSort_eq

/-- The enabled points of a normalised curve are the sorted ones. -/
theorem filter_normalized (enabled disabled : List RawFanPoint) :
    (enabled.map (·.withEnabled 1) ++ disabled.map (·.withEnabled 0)).filter (·.isEnabled) =
        enabled.map (·.withEnabled 1) ∧
      (enabled.map (·.withEnabled 1) ++ disabled.map (·.withEnabled 0)).filter (!·.isEnabled) =
        disabled.map (·.withEnabled 0) := by
  have hon : ∀ p ∈ enabled.map (·.withEnabled 1), p.isEnabled = true := by
    intro p hp
    obtain ⟨q, -, rfl⟩ := List.mem_map.mp hp
    rfl
  have hoff : ∀ p ∈ disabled.map (·.withEnabled 0), p.isEnabled = false := by
    intro p hp
    obtain ⟨q, -, rfl⟩ := List.mem_map.mp hp
    rfl
  constructor
  · rw [List.filter_append, List.filter_eq_self.mpr hon, List.filter_eq_nil_iff.mpr,
      List.append_nil]
    intro p hp
    simp [hoff p hp]
  · rw [List.filter_append, List.filter_eq_nil_iff.mpr, List.nil_append, List.filter_eq_self.mpr]
    · intro p hp
      simp [hoff p hp]
    · intro p hp
      simp [hon p hp]

/-- **A normalised curve is settled** if its flags were flags. -/
theorem settled_normalizeForIpc (hflags : ∀ p ∈ config.points, CanonicalBool8 p.enabled) :
    config.normalizeForIpc.Settled := by
  have hpoints : ∀ p ∈ config.normalizeForIpc.points, CanonicalBool8 p.enabled ∧
      0 ≤ p.temperatureC ∧ p.temperatureC ≤ 100 ∧ 0 ≤ p.fanPercent ∧ p.fanPercent ≤ 100 := by
    intro p hp
    obtain ⟨q, hq, hp⟩ := mem_normalizePoints hp
    have htemp := clampInt_mem (show (0 : Int) ≤ 100 by decide) q.temperatureC
    have hduty := clampInt_mem (show (0 : Int) ≤ 100 by decide) q.fanPercent
    rcases hp with rfl | rfl | rfl
    · exact ⟨hflags q hq, htemp.1, htemp.2, hduty.1, hduty.2⟩
    · exact ⟨.inr rfl, htemp.1, htemp.2, hduty.1, hduty.2⟩
    · exact ⟨.inl rfl, htemp.1, htemp.2, hduty.1, hduty.2⟩
  constructor
  case poll =>
    have hpoll := clampInt_mem (show (250 : Int) ≤ 5000 by decide) config.pollIntervalMs
    show 250 ≤ (clampInt config.pollIntervalMs 250 5000 + 125) / 250 * 250 ∧
      (clampInt config.pollIntervalMs 250 5000 + 125) / 250 * 250 ≤ 5000 ∧
      (clampInt config.pollIntervalMs 250 5000 + 125) / 250 * 250 % 250 = 0
    omega
  case hysteresis => exact clampInt_mem (by decide) _
  case zeroRpm =>
    show clampZeroRpm (if config.zeroRpmHysteresisC = 0 then (5 : UInt8)
      else clampZeroRpm config.zeroRpmHysteresisC) = _
    split
    · rename_i h
      show clampZeroRpm 5 = if config.zeroRpmHysteresisC = 0 then (5 : UInt8)
        else clampZeroRpm config.zeroRpmHysteresisC
      rw [if_pos h]
      rfl
    · rename_i h
      show _ = if config.zeroRpmHysteresisC = 0 then (5 : UInt8)
        else clampZeroRpm config.zeroRpmHysteresisC
      rw [if_neg h, clampZeroRpm_clampZeroRpm]
  case flag => exact canonicalBool8_canonicalize _
  case reserved => rfl
  case flags => exact fun p hp => (hpoints p hp).1
  case points => exact fun p hp => (hpoints p hp).2
  case ordered =>
    intro hmany
    unfold RawFanCurve.enabledPoints at hmany ⊢
    show RawFanCurve.normalizePoints config.points =
      sortRawPoints ((RawFanCurve.normalizePoints config.points).filter (·.isEnabled)) ++
        (RawFanCurve.normalizePoints config.points).filter (!·.isEnabled)
    have hmany : 2 ≤ ((RawFanCurve.normalizePoints config.points).filter (·.isEnabled)).length :=
      hmany
    revert hmany
    unfold RawFanCurve.normalizePoints
    dsimp only
    split
    · intro hmany
      omega
    · intro _
      obtain ⟨henabled, hdisabled⟩ := filter_normalized
        (sortRawPoints ((config.points.map (·.clamp)).filter (·.isEnabled)))
        ((config.points.map (·.clamp)).filter (!·.isEnabled))
      rw [henabled, hdisabled, sortRawPoints_map (·.withEnabled 1) fun _ => rfl, sortRawPoints_sort]

end Settled

/-! ## The fan curve of a request -/

section FanCurve
variable {config : RawFanCurve}

/-- The points the boundary hands to the normaliser. -/
theorem clamp_canonicalize (points : List RawFanPoint) :
    (((points.map (·.canonicalize)).map (·.clampForIpc)).map (·.clamp)) =
      (points.map (·.clamp)).map (·.canonicalize) := by
  simp only [List.map_map]
  refine List.map_congr_left fun p _ => ?_
  simp only [Function.comp_apply, RawFanPoint.canonicalize, RawFanPoint.clampForIpc,
    RawFanPoint.clamp]
  congr 1
  · unfold clampInt
    grind
  · exact clampInt_clampInt (by decide) _

theorem filter_canonicalize (points : List RawFanPoint) :
    (points.map (·.canonicalize)).filter (·.isEnabled) =
        (points.filter (·.isEnabled)).map (·.canonicalize) ∧
      (points.map (·.canonicalize)).filter (!·.isEnabled) =
        (points.filter (!·.isEnabled)).map (·.canonicalize) := by
  have hsame : ∀ p : RawFanPoint, p.canonicalize.isEnabled = p.isEnabled := by
    intro p
    simp [RawFanPoint.isEnabled, RawFanPoint.canonicalize]
  constructor
  · rw [List.filter_map]
    congr 1
    exact List.filter_congr fun p _ => hsame p
  · rw [List.filter_map]
    congr 1
    exact List.filter_congr fun p _ => congrArg not (hsame p)

/-- How many points of a curve are enabled does not depend on the bounds. -/
theorem length_enabled_clamp (points : List RawFanPoint) :
    ((points.map (·.clamp)).filter (·.isEnabled)).length =
      (points.filter (·.isEnabled)).length := by
  rw [List.filter_map, List.length_map]
  rfl

/-- The points come out alike, unless a curve with too few enabled points has flags that are
none. -/
theorem normalizePoints_canonicalize_iff (points : List RawFanPoint) :
    RawFanCurve.normalizePoints ((points.map (·.canonicalize)).map (·.clampForIpc)) =
        RawFanCurve.normalizePoints points ↔
      ((points.filter (·.isEnabled)).length < 2 → ∀ p ∈ points, CanonicalBool8 p.enabled) := by
  unfold RawFanCurve.normalizePoints
  dsimp only
  rw [clamp_canonicalize, (filter_canonicalize _).1, (filter_canonicalize _).2, List.length_map,
    length_enabled_clamp]
  split
  · rename_i hfew
    constructor
    · intro hsame _ p hp
      have hp' : p.clamp ∈ points.map (·.clamp) := List.mem_map_of_mem hp
      have hfixed : p.clamp.canonicalize = p.clamp := by
        have hall := List.map_eq_map_iff.mp (hsame.trans (List.map_id _).symm)
        exact hall p.clamp hp'
      have hflag : canonicalizeBool8 p.enabled = p.enabled :=
        congrArg RawFanPoint.enabled hfixed
      rw [← hflag]
      exact canonicalBool8_canonicalize _
    · intro hflags
      refine map_eq_self fun p hp => ?_
      obtain ⟨q, hq, rfl⟩ := List.mem_map.mp hp
      have hflag := canonicalizeBool8_of_canonical (hflags hfew q hq)
      show RawFanPoint.mk (canonicalizeBool8 q.enabled) _ _ = _
      rw [hflag]
      rfl
  · rename_i hmany
    have habsorb : ∀ (flag : UInt8) (points : List RawFanPoint),
        (points.map (·.canonicalize)).map (·.withEnabled flag) =
          points.map (·.withEnabled flag) := by
      intro flag points
      rw [List.map_map]
      rfl
    rw [sortRawPoints_map (·.canonicalize) fun _ => rfl, habsorb, habsorb]
    exact iff_of_true rfl fun hfew => absurd hfew hmany

/-- **The curve comes out as the normaliser makes it** from the one that was sent, exactly when
its zero-RPM hysteresis is set and its flags are flags or do not matter. -/
theorem boundary_curve_iff (config : RawFanCurve) :
    config.canonicalizeFlags.clampForIpc.normalizeForIpc = config.normalizeForIpc ↔
      config.zeroRpmHysteresisC ≠ 0 ∧
        (config.enabledPoints.length < 2 → ∀ p ∈ config.points, CanonicalBool8 p.enabled) := by
  have hzero : (if clampZeroRpm config.zeroRpmHysteresisC = 0 then (5 : UInt8)
      else clampZeroRpm (clampZeroRpm config.zeroRpmHysteresisC)) =
        (if config.zeroRpmHysteresisC = 0 then (5 : UInt8)
          else clampZeroRpm config.zeroRpmHysteresisC) ↔ config.zeroRpmHysteresisC ≠ 0 := by
    rw [if_neg (clampZeroRpm_ne_zero _), clampZeroRpm_clampZeroRpm]
    by_cases h : config.zeroRpmHysteresisC = 0
    · rw [if_pos h, h]
      decide
    · rw [if_neg h]
      exact iff_of_true rfl h
  have hhyst := clampInt_clampInt (show (0 : Int) ≤ FAN_CURVE_MAX_HYSTERESIS_C by decide)
    config.hysteresisC
  have hflag := canonicalizeBool8_of_canonical
    (canonicalBool8_canonicalize config.zeroRpmEnabled)
  have hpoints := normalizePoints_canonicalize_iff config.points
  unfold RawFanCurve.enabledPoints
  rw [← hzero, ← hpoints]
  unfold RawFanCurve.normalizeForIpc RawFanCurve.normalizeScalars RawFanCurve.clampForIpc
    RawFanCurve.canonicalizeFlags
  dsimp only
  rw [hhyst, hflag, RawFanCurve.mk.injEq]
  constructor
  · rintro ⟨hpoints, -, -, -, hzero, -⟩
    exact ⟨hzero, hpoints⟩
  · rintro ⟨hzero, hpoints⟩
    exact ⟨hpoints, rfl, rfl, rfl, hzero, rfl⟩

end FanCurve

/-! ## Valid curves -/

section Valid
variable {config : RawFanCurve}

/-- Two points of a curve that rises: the warmer one does not run slower. -/
def FanCurvePoint.RisesWith (a b : FanCurvePoint) : Prop :=
  a.temperatureC ≠ b.temperatureC ∧
    (a.temperatureC < b.temperatureC → a.fanPercent ≤ b.fanPercent) ∧
    (b.temperatureC < a.temperatureC → b.fanPercent ≤ a.fanPercent)

theorem FanCurvePoint.RisesWith.symm {a b : FanCurvePoint} (h : a.RisesWith b) : b.RisesWith a :=
  ⟨h.1.symm, h.2.2, h.2.1⟩

/-- **Sorted points rise step by step** exactly when any two of them rise. -/
theorem sorted_chain_iff (points : List FanCurvePoint) :
    ((sortEnabledPoints points).IsChain fun left right =>
        left.temperatureC < right.temperatureC ∧ left.fanPercent ≤ right.fanPercent) ↔
      points.Pairwise FanCurvePoint.RisesWith := by
  have htrans : IsTrans FanCurvePoint fun left right =>
      left.temperatureC < right.temperatureC ∧ left.fanPercent ≤ right.fanPercent :=
    ⟨fun _ _ _ h h' => ⟨h.1.trans h'.1, h.2.trans h'.2⟩⟩
  rw [List.isChain_iff_pairwise,
    ← (sortEnabledPoints_perm points).pairwise_iff FanCurvePoint.RisesWith.symm]
  constructor
  · intro h
    exact h.imp fun h => ⟨h.1.ne, fun _ => h.2, fun h' => absurd h.1 (not_lt.mpr h'.le)⟩
  · intro h
    exact ((pairwise_sortEnabledPoints points).and h).imp fun {a b} h =>
      have hlt : FanCurvePoint.temperatureC a < FanCurvePoint.temperatureC b :=
        lt_of_le_of_ne h.1 h.2.1
      ⟨hlt, h.2.2.1 hlt⟩

theorem activePoints_decode (config : RawFanCurve) :
    config.decode.activePoints = config.enabledPoints.map (·.decode) :=
  List.filter_map ..

/-- A settled curve with enough points is accepted exactly when it rises. -/
theorem validate_iff_of_settled (h : config.Settled) (hmany : 2 ≤ config.enabledPoints.length) :
    config.validate = true ↔
      (config.enabledPoints.map (·.decode)).Pairwise FanCurvePoint.RisesWith := by
  have hflag : config.zeroRpmEnabled ≤ 1 := by
    rcases h.flag with hflag | hflag
    · rw [hflag]
      decide
    · rw [hflag]
      decide
  have hzero := congrArg UInt8.toNat h.zeroRpm
  rw [toNat_clampZeroRpm] at hzero
  unfold RawFanCurve.validate
  rw [decide_eq_true hflag, Bool.true_and, FanCurveConfig.validate_iff, ← sorted_chain_iff,
    ← activePoints_decode]
  constructor
  · exact fun hvalid => hvalid.chain
  · intro hchain
    refine ⟨h.poll, h.hysteresis, ?_, ?_, ?_, hchain⟩
    · show 2 ≤ config.zeroRpmHysteresisC.toNat ∧ config.zeroRpmHysteresisC.toNat ≤ 30
      omega
    · intro p hp
      obtain ⟨q, hq, rfl⟩ := List.mem_map.mp hp
      exact h.points q hq
    · rw [activePoints_decode, List.length_map]
      exact hmany

/-- The enabled points of a curve within the bounds of the normaliser. -/
def RawFanCurve.boundedPoints (config : RawFanCurve) : List FanCurvePoint :=
  config.enabledPoints.map fun p => p.clamp.decode

/-- The enabled points of a normalised list are those of the bounded one. -/
theorem enabled_normalizedPoints (points : List FanCurvePoint) :
    ((normalizedPoints points).filter (·.enabled)).Perm
      ((points.map FanCurveConfig.clampPoint).filter (·.enabled)) := by
  unfold normalizedPoints
  dsimp only
  split
  · exact List.Perm.refl _
  · have hon : ∀ p ∈ sortEnabledPoints ((points.map FanCurveConfig.clampPoint).filter (·.enabled)),
        p.enabled = true := fun p hp =>
      (List.mem_filter.mp ((sortEnabledPoints_perm _).mem_iff.mp hp)).2
    have hoff : ((points.map FanCurveConfig.clampPoint).filter (!·.enabled)).filter (·.enabled) =
        [] := by
      rw [List.filter_eq_nil_iff]
      intro p hp
      simpa using (List.mem_filter.mp hp).2
    rw [List.filter_append, List.filter_eq_self.mpr hon, hoff, List.append_nil]
    exact sortEnabledPoints_perm _

/-- What the boundary makes of the enabled points: they are bounded and sorted. -/
theorem enabledPoints_boundary (config : RawFanCurve) :
    (config.canonicalizeFlags.clampForIpc.normalizeForIpc.enabledPoints.map (·.decode)).Perm
      config.boundedPoints := by
  have hactive : config.canonicalizeFlags.clampForIpc.normalizeForIpc.enabledPoints.map (·.decode) =
      (normalizedPoints config.decode.clampForIpc.points).filter (·.enabled) := by
    rw [← activePoints_decode, decode_normalizeForIpc, decode_clampForIpc,
      decode_canonicalizeFlags, normalizeForIpc_eq]
    rfl
  have hbounded : (config.decode.clampForIpc.points.map FanCurveConfig.clampPoint).filter
      (·.enabled) = config.boundedPoints := by
    have hpoints : config.decode.clampForIpc.points.map FanCurveConfig.clampPoint =
        config.points.map fun p => p.clamp.decode := by
      unfold FanCurveConfig.clampForIpc RawFanCurve.decode
      simp only [List.map_map]
      refine List.map_congr_left fun p _ => ?_
      have htemp : ∀ t : Int, clampInt (clampInt t 0 150) 0 100 = clampInt t 0 100 := by
        intro t
        unfold clampInt
        grind
      have hduty := clampInt_clampInt (show (0 : Int) ≤ 100 by decide) p.fanPercent
      simp only [Function.comp_apply, FanCurveConfig.clampPoint, RawFanPoint.decode,
        RawFanPoint.clamp, htemp, hduty]
      rfl
    rw [hpoints, List.filter_map]
    rfl
  rw [hactive, ← hbounded]
  exact enabled_normalizedPoints _

end Valid

/-! ## The request -/

/-- Every flag of a request is 0 or 1. -/
structure FlagsCanonical (d : RawSettings) : Prop where
  hasCurvePoint : ∀ ci, CanonicalBool8 (d.hasCurvePoint ci)
  curvePointFromGpuOffset : ∀ ci, CanonicalBool8 (d.curvePointFromGpuOffset ci)
  hasLock : CanonicalBool8 d.hasLock
  lockTracksAnchor : CanonicalBool8 d.lockTracksAnchor
  hasGpuOffset : CanonicalBool8 d.hasGpuOffset
  hasMemOffset : CanonicalBool8 d.hasMemOffset
  hasPowerLimit : CanonicalBool8 d.hasPowerLimit
  hasFan : CanonicalBool8 d.hasFan
  fanAuto : CanonicalBool8 d.fanAuto
  resetOcBeforeApply : CanonicalBool8 d.resetOcBeforeApply
  hasXbarOffsetKhz : CanonicalBool8 d.hasXbarOffsetKhz
  hasXbarMsvddOffsetUv : CanonicalBool8 d.hasXbarMsvddOffsetUv
  hasSysClkOffsetKhz : CanonicalBool8 d.hasSysClkOffsetKhz
  hasVideoClkOffsetKhz : CanonicalBool8 d.hasVideoClkOffsetKhz
  zeroRpmEnabled : CanonicalBool8 d.fanCurve.zeroRpmEnabled
  enabled : ∀ p ∈ d.fanCurve.points, CanonicalBool8 p.enabled

/-- Every number that is read is in range: those of a control where it is owned, and what the
builder reads of every request. -/
structure InRange (d : RawSettings) : Prop where
  curvePointMHz : ∀ ci, d.curvePointMHz ci ≤ 5000
  lockCi : -1 ≤ d.lockCi ∧ d.lockCi ≤ 127
  lockMode : 0 ≤ d.lockMode ∧ d.lockMode ≤ 2
  lockMHz : d.lockMHz ≤ 5000
  gpuOffsetExcludeLowCount : 0 ≤ d.gpuOffsetExcludeLowCount ∧ d.gpuOffsetExcludeLowCount ≤ 128
  gpuOffsetMHz : -1000 ≤ d.gpuOffsetMHz ∧ d.gpuOffsetMHz ≤ 1000
  memOffsetMHz : d.hasMemOffset ≠ 0 → -3000 ≤ d.memOffsetMHz ∧ d.memOffsetMHz ≤ 3000
  powerLimitPct : d.hasPowerLimit ≠ 0 →
    POWER_LIMIT_MIN_PCT ≤ d.powerLimitPct ∧ d.powerLimitPct ≤ POWER_LIMIT_MAX_PCT
  xbarOffsetKhz : d.hasXbarOffsetKhz ≠ 0 →
    -1000000 ≤ d.xbarOffsetKhz ∧ d.xbarOffsetKhz ≤ 1000000
  xbarMsvddOffsetUv : d.hasXbarMsvddOffsetUv ≠ 0 →
    -100000 ≤ d.xbarMsvddOffsetUv ∧ d.xbarMsvddOffsetUv ≤ 100000
  sysClkOffsetKhz : d.hasSysClkOffsetKhz ≠ 0 →
    -1000000 ≤ d.sysClkOffsetKhz ∧ d.sysClkOffsetKhz ≤ 1000000
  videoClkOffsetKhz : d.hasVideoClkOffsetKhz ≠ 0 →
    -1000000 ≤ d.videoClkOffsetKhz ∧ d.videoClkOffsetKhz ≤ 1000000
  fanMode : d.hasFan ≠ 0 → 0 ≤ d.fanMode ∧ d.fanMode ≤ 2
  fanPercent : d.hasFan ≠ 0 → 0 ≤ d.fanPercent ∧ d.fanPercent ≤ 100
  fanCurve : d.hasFan ≠ 0 → d.fanCurve.Settled

/-- The boundary is a proper one for a request. -/
structure ProperBoundary (d : RawSettings) : Prop where
  idempotent : d.validateForIpc.validateForIpc = d.validateForIpc
  flags : FlagsCanonical d.validateForIpc
  ranges : InRange d.validateForIpc
  normalized : d.hasFan ≠ 0 → d.validateForIpc.fanCurve = d.fanCurve.normalizeForIpc
  accepted : d.hasFan ≠ 0 → 2 ≤ d.fanCurve.enabledPoints.length →
    d.validateForIpc.fanCurve.validate = true

/-- What a caller has to send for that: a GPU offset in range if it does not own it, a set
zero-RPM hysteresis, flags that are flags on a curve with too few points, and a curve that rises
if it has enough. -/
structure WellSent (d : RawSettings) : Prop where
  offset : d.hasGpuOffset = 0 → -1000 ≤ d.gpuOffsetMHz ∧ d.gpuOffsetMHz ≤ 1000
  hysteresis : d.hasFan ≠ 0 → d.fanCurve.zeroRpmHysteresisC ≠ 0
  flags : d.hasFan ≠ 0 → d.fanCurve.enabledPoints.length < 2 →
    ∀ p ∈ d.fanCurve.points, CanonicalBool8 p.enabled
  rising : d.hasFan ≠ 0 → 2 ≤ d.fanCurve.enabledPoints.length →
    d.fanCurve.boundedPoints.Pairwise FanCurvePoint.RisesWith

section Request
variable (d : RawSettings)

theorem clampOwned_mem {owned : UInt8} (howned : owned ≠ 0) {lo hi : Int} (h : lo ≤ hi)
    (value : Int) : lo ≤ RawSettings.clampOwned owned value lo hi ∧
      RawSettings.clampOwned owned value lo hi ≤ hi := by
  unfold RawSettings.clampOwned
  rw [if_pos howned]
  exact clampInt_mem h value

theorem clampOwned_clampOwned {lo hi : Int} (h : lo ≤ hi) (owned : UInt8) (value : Int) :
    RawSettings.clampOwned owned (RawSettings.clampOwned owned value lo hi) lo hi =
      RawSettings.clampOwned owned value lo hi := by
  unfold RawSettings.clampOwned
  split
  · exact clampInt_clampInt h value
  · rfl

/-- The fan curve the boundary leaves behind. -/
theorem validate_fanCurve : d.validateForIpc.fanCurve =
    if d.hasFan ≠ 0 then d.fanCurve.canonicalizeFlags.clampForIpc.normalizeForIpc
    else d.fanCurve.canonicalizeFlags := by
  show (if canonicalizeBool8 d.hasFan ≠ 0 then _ else _) = _
  simp only [canonicalizeBool8_ne_zero]
  rfl

theorem settled_boundary (config : RawFanCurve) :
    config.canonicalizeFlags.clampForIpc.normalizeForIpc.Settled := by
  refine settled_normalizeForIpc fun p hp => ?_
  obtain ⟨q, hq, rfl⟩ := List.mem_map.mp hp
  obtain ⟨r, -, rfl⟩ := List.mem_map.mp hq
  exact canonicalBool8_canonicalize _

theorem canonicalizeBool8_canonicalizeBool8 (flag : UInt8) :
    canonicalizeBool8 (canonicalizeBool8 flag) = canonicalizeBool8 flag :=
  canonicalizeBool8_of_canonical (canonicalBool8_canonicalize flag)

theorem canonicalizeFlags_canonicalizeFlags (config : RawFanCurve) :
    config.canonicalizeFlags.canonicalizeFlags = config.canonicalizeFlags := by
  unfold RawFanCurve.canonicalizeFlags
  dsimp only
  rw [List.map_map, canonicalizeBool8_canonicalizeBool8]
  congr 1
  refine List.map_congr_left fun p _ => ?_
  simp only [Function.comp_apply, RawFanPoint.canonicalize, canonicalizeBool8_canonicalizeBool8]

/-- **A second pass changes nothing.** -/
theorem validate_validate : d.validateForIpc.validateForIpc = d.validateForIpc := by
  have howned : ∀ {lo hi : Int} (_ : lo ≤ hi) (flag : UInt8) (value : Int),
      RawSettings.clampOwned (canonicalizeBool8 (canonicalizeBool8 flag))
        (RawSettings.clampOwned (canonicalizeBool8 flag) value lo hi) lo hi =
      RawSettings.clampOwned (canonicalizeBool8 flag) value lo hi := by
    intro lo hi h flag value
    rw [canonicalizeBool8_canonicalizeBool8, clampOwned_clampOwned h]
  have hcanonical := canonicalizeBool8_canonicalizeBool8
  apply RawSettings.ext
  case fanCurve =>
    have hfan : d.validateForIpc.hasFan ≠ 0 ↔ d.hasFan ≠ 0 := canonicalizeBool8_ne_zero _
    rw [validate_fanCurve d.validateForIpc, validate_fanCurve]
    by_cases h : d.hasFan ≠ 0
    · have hsettled := settled_boundary d.fanCurve
      rw [if_pos (hfan.mpr h), if_pos h, canonicalizeFlags_of_settled hsettled,
        clampForIpc_of_settled hsettled, normalizeForIpc_of_settled hsettled]
    · rw [if_neg (hfan.not.mpr h), if_neg h, canonicalizeFlags_canonicalizeFlags]
  case powerLimitPct =>
    show (if canonicalizeBool8 (canonicalizeBool8 d.hasPowerLimit) ≠ 0 then
        clampPowerLimitPct (if canonicalizeBool8 d.hasPowerLimit ≠ 0 then
          clampPowerLimitPct d.powerLimitPct else d.powerLimitPct)
      else if canonicalizeBool8 d.hasPowerLimit ≠ 0 then clampPowerLimitPct d.powerLimitPct
        else d.powerLimitPct) = if canonicalizeBool8 d.hasPowerLimit ≠ 0 then
          clampPowerLimitPct d.powerLimitPct else d.powerLimitPct
    rw [hcanonical]
    split
    · exact clampPowerLimitPct_of_mem (clampPowerLimitPct_mem _)
    · rfl
  case xbarOffsetKhz => exact howned (by decide) _ _
  case xbarMsvddOffsetUv => exact howned (by decide) _ _
  case sysClkOffsetKhz => exact howned (by decide) _ _
  case videoClkOffsetKhz => exact howned (by decide) _ _
  case gpuOffsetMHz => exact howned (by decide) _ _
  case memOffsetMHz => exact howned (by decide) _ _
  case fanPercent => exact howned (by decide) _ _
  case fanMode => exact howned (by decide) _ _
  case lockCi => exact clampInt_clampInt (by decide) _
  case lockMode => exact clampInt_clampInt (by decide) _
  case gpuOffsetExcludeLowCount => exact clampInt_clampInt (by decide) _
  case lockMHz => exact min_eq_left (min_le_right _ _)
  case curvePointMHz => exact funext fun ci => min_eq_left (min_le_right _ _)
  case hasCurvePoint => exact funext fun ci => hcanonical _
  case curvePointFromGpuOffset => exact funext fun ci => hcanonical _
  all_goals exact hcanonical _

/-- **Every flag is a flag.** -/
theorem flagsCanonical_validate : FlagsCanonical d.validateForIpc := by
  constructor
  case hasCurvePoint => exact fun ci => canonicalBool8_canonicalize _
  case curvePointFromGpuOffset => exact fun ci => canonicalBool8_canonicalize _
  case zeroRpmEnabled =>
    rw [validate_fanCurve]
    split
    · exact (settled_boundary d.fanCurve).flag
    · exact canonicalBool8_canonicalize _
  case enabled =>
    rw [validate_fanCurve]
    split
    · exact (settled_boundary d.fanCurve).flags
    · intro p hp
      obtain ⟨q, -, rfl⟩ := List.mem_map.mp hp
      exact canonicalBool8_canonicalize _
  all_goals exact canonicalBool8_canonicalize _

/-- Every number is in range, if the offset nobody owns is. -/
theorem inRange_validate_iff : InRange d.validateForIpc ↔
    (d.hasGpuOffset = 0 → -1000 ≤ d.gpuOffsetMHz ∧ d.gpuOffsetMHz ≤ 1000) := by
  have hoffset : d.validateForIpc.gpuOffsetMHz =
      if d.hasGpuOffset ≠ 0 then clampInt d.gpuOffsetMHz (-1000) 1000 else d.gpuOffsetMHz := by
    show RawSettings.clampOwned (canonicalizeBool8 d.hasGpuOffset) d.gpuOffsetMHz (-1000) 1000 = _
    unfold RawSettings.clampOwned
    simp only [canonicalizeBool8_ne_zero]
  constructor
  · intro h hfree
    have hrange := h.gpuOffsetMHz
    rwa [hoffset, if_neg (not_not.mpr hfree)] at hrange
  · intro h
    constructor
    case gpuOffsetMHz =>
      rw [hoffset]
      split
      · exact clampInt_mem (by decide) _
      · rename_i hfree
        exact h (not_not.mp hfree)
    case fanCurve =>
      intro hfan
      have hfan : d.hasFan ≠ 0 := (canonicalizeBool8_ne_zero _).mp hfan
      rw [validate_fanCurve, if_pos hfan]
      exact settled_boundary d.fanCurve
    case curvePointMHz => exact fun ci => min_le_right _ _
    case lockCi => exact clampInt_mem (by decide) _
    case lockMode => exact clampInt_mem (by decide) _
    case lockMHz => exact min_le_right _ _
    case gpuOffsetExcludeLowCount => exact clampInt_mem (by decide) _
    case powerLimitPct =>
      intro howned
      have hvalue : d.validateForIpc.powerLimitPct = clampPowerLimitPct d.powerLimitPct :=
        if_pos howned
      rw [hvalue]
      exact clampPowerLimitPct_mem _
    all_goals exact fun howned => clampOwned_mem howned (by decide) _

/-- **The boundary is proper** for exactly the requests that are well sent. -/
theorem properBoundary_iff : ProperBoundary d ↔ WellSent d := by
  have hfan : d.hasFan ≠ 0 → d.validateForIpc.fanCurve =
      d.fanCurve.canonicalizeFlags.clampForIpc.normalizeForIpc := fun h => by
    rw [validate_fanCurve, if_pos h]
  have hboundary := boundary_curve_iff d.fanCurve
  have haccepted : 2 ≤ d.fanCurve.enabledPoints.length →
      (d.fanCurve.canonicalizeFlags.clampForIpc.normalizeForIpc.validate = true ↔
        d.fanCurve.boundedPoints.Pairwise FanCurvePoint.RisesWith) := by
    intro hmany
    have hperm := enabledPoints_boundary d.fanCurve
    have hlength := hperm.length_eq
    rw [List.length_map, RawFanCurve.boundedPoints, List.length_map] at hlength
    rw [validate_iff_of_settled (settled_boundary d.fanCurve) (hlength ▸ hmany)]
    exact hperm.pairwise_iff FanCurvePoint.RisesWith.symm
  constructor
  · intro h
    constructor
    case offset => exact (inRange_validate_iff d).mp h.ranges
    case hysteresis =>
      intro howned
      exact (hboundary.mp ((hfan howned).symm.trans (h.normalized howned))).1
    case flags =>
      intro howned
      exact (hboundary.mp ((hfan howned).symm.trans (h.normalized howned))).2
    case rising =>
      intro howned hmany
      have hvalid := h.accepted howned hmany
      rw [hfan howned] at hvalid
      exact (haccepted hmany).mp hvalid
  · intro h
    refine ⟨validate_validate d, flagsCanonical_validate d, (inRange_validate_iff d).mpr h.offset,
      fun howned => ?_, fun howned hmany => ?_⟩
    · rw [hfan howned]
      exact hboundary.mpr ⟨h.hysteresis howned, h.flags howned⟩
    · rw [hfan howned]
      exact (haccepted hmany).mpr (h.rising howned hmany)

end Request

/-- A curve with an unset zero-RPM hysteresis gets the least one instead of the default. -/
theorem unset_hysteresis_clamped :
    let d : RawSettings := { hasFan := 1 }
    d.validateForIpc.fanCurve.zeroRpmHysteresisC = 2 ∧
      d.fanCurve.normalizeForIpc.zeroRpmHysteresisC = 5 := by
  decide

end GreenCurve
