import GreenCurve.ProtocolLaw

/-! # The published state and the response

What the boundary accepts of the service is well formed before it is brought into canonical
form, and coherent after.  Canonical form changes little of what is well formed, and a second
pass changes nothing. -/

namespace GreenCurve.Protocol

/-! ## The snapshot -/

section Snapshot
variable {s : ServiceSnapshot}

theorem canonicalizeFlags_of_flags (h : serviceSnapshotBoolFieldsValid s = true) :
    s.canonicalizeFlags = s := by
  simp only [serviceSnapshotBoolFieldsValid, List.all_cons, List.all_nil, Bool.and_eq_true] at h
  simp only [ServiceSnapshot.canonicalizeFlags, canonicalizeBool8_of_isFlag, h]

theorem boundProfile_of_inRange (h : s.InRange) : s.boundProfile = s := by
  rw [ServiceSnapshot.boundProfile, if_neg (UInt32.not_lt.mpr h.activeProfileSource)]
  exact if_neg (UInt32.not_lt.mpr h.activeProfileSlot)

theorem boundLifecycle_of_inRange (h : s.InRange) : s.boundLifecycle = s := by
  rw [ServiceSnapshot.boundLifecycle, if_neg (UInt32.not_lt.mpr h.lastLifecycleTrigger),
    if_neg (UInt32.not_lt.mpr h.lastLifecycleResult), if_neg (UInt32.not_lt.mpr h.lockoutReason)]

theorem failure_of_inRange (hflag : isFlag s.autoApplyFailure.coreRecovered = true)
    (h : s.InRange) :
    s.autoApplyFailure.bound =
      { s.autoApplyFailure with
        detail := Function.update s.autoApplyFailure.detail lastDetail 0 } := by
  have hreserved : s.autoApplyFailure.reserved = fun _ => 0 := funext h.failureReserved
  rw [ServiceAutoApplyFailure.bound, canonicalizeBool8_of_isFlag hflag]
  dsimp only
  rw [if_neg (UInt32.not_lt.mpr h.failureTrigger), hreserved]

theorem boundAdapters_of_inRange (hflags : serviceSnapshotBoolFieldsValid s = true)
    (h : s.InRange) :
    s.boundAdapters =
      { s with
        selectedAdapterIndex :=
          if s.selectedAdapterIndex ≥ 8 then 0 else s.selectedAdapterIndex } := by
  have hadapters : (fun i : Fin MAX_GPU_ADAPTERS => if i.val < s.adapterCount.toNat then
      validateGpuAdapterInfoForIpc (s.adapters i) else s.adapters i) = s.adapters := by
    funext i
    split_ifs with hused
    · simp only [serviceSnapshotBoolFieldsValid, Bool.and_eq_true, List.all_eq_true,
        decide_eq_true_eq] at hflags
      exact validateGpuAdapterInfo_of_flags (hflags.1.2 i (List.mem_finRange i) hused)
    · rfl
  rw [ServiceSnapshot.boundAdapters, if_neg (UInt32.not_lt.mpr h.adapterCount), hadapters]

/-- **What canonical form changes of a snapshot in range**: the index of an adapter that is not
there, and the last byte of the failure detail. -/
theorem validateServiceSnapshot_eq (hflags : serviceSnapshotBoolFieldsValid s = true)
    (h : s.InRange) :
    validateServiceSnapshotForIpc s =
      { s with
        selectedAdapterIndex := if s.selectedAdapterIndex ≥ 8 then 0 else s.selectedAdapterIndex
        autoApplyFailure :=
          { s.autoApplyFailure with
            detail := Function.update s.autoApplyFailure.detail lastDetail 0 } } := by
  have hfields := hflags
  simp only [serviceSnapshotBoolFieldsValid, List.all_cons, List.all_nil, Bool.and_eq_true]
    at hfields
  have hcurve := canonicalizeFlags_of_valid hfields.2
  have hrecovered : isFlag s.autoApplyFailure.coreRecovered = true := by simp only [hfields]
  have hframe (f : ServiceAutoApplyFailure) :
      ({ s with autoApplyFailure := f } : ServiceSnapshot).boundAdapters =
        { s.boundAdapters with autoApplyFailure := f } := rfl
  rw [validateServiceSnapshotForIpc, canonicalizeFlags_of_flags hflags, boundProfile_of_inRange h,
    boundLifecycle_of_inRange h]
  dsimp only
  rw [failure_of_inRange hrecovered h, hframe, boundAdapters_of_inRange hflags h]
  dsimp only
  rw [hcurve]

/-- What is in range stays in range. -/
theorem inRange_validateServiceSnapshot (hflags : serviceSnapshotBoolFieldsValid s = true)
    (h : s.InRange) :
    serviceSnapshotBoolFieldsValid (validateServiceSnapshotForIpc s) = true ∧
      (validateServiceSnapshotForIpc s).InRange := by
  have hend : Terminated (Function.update s.autoApplyFailure.detail lastDetail 0) :=
    ⟨lastDetail, Function.update_self ..⟩
  rw [validateServiceSnapshot_eq hflags h]
  refine ⟨hflags, { h with selected := ?_, failureDetail := ?_ }⟩
  · intro hcount
    have hselected := h.selected hcount
    -- an adapter that is there has an index in range
    have hlt : ¬s.selectedAdapterIndex ≥ 8 :=
      UInt32.not_le.mpr (UInt32.lt_of_lt_of_le hselected h.adapterCount)
    dsimp only
    rw [if_neg hlt]
    exact hselected
  · exact terminated_iff.mp hend

theorem validateServiceSnapshot_validate (hflags : serviceSnapshotBoolFieldsValid s = true)
    (h : s.InRange) :
    validateServiceSnapshotForIpc (validateServiceSnapshotForIpc s) =
      validateServiceSnapshotForIpc s := by
  obtain ⟨hflags', h'⟩ := inRange_validateServiceSnapshot hflags h
  rw [validateServiceSnapshot_eq hflags' h', validateServiceSnapshot_eq hflags h]
  dsimp only
  rw [Function.update_idem]
  congr 1
  split_ifs <;> rfl

end Snapshot

/-! ## The controls -/

theorem validateControlState_validate (c : ControlState) :
    validateControlStateForIpc (validateControlStateForIpc c) = validateControlStateForIpc c := by
  simp only [validateControlStateForIpc, canonicalizeBool8_canonicalizeBool8,
    canonicalizeFlags_canonicalizeFlags]

theorem controlBoolFields_validate (c : ControlState) :
    serviceControlBoolFieldsValid (validateControlStateForIpc c) = true := by
  simp only [serviceControlBoolFieldsValid, validateControlStateForIpc, List.all_cons,
    List.all_nil, isFlag_canonicalizeBool8, fanCurveWireFlagsValid_canonicalizeFlags, Bool.and_self]

/-! ## The state -/

namespace PublishedState
variable {p p' : PublishedState}

/-- **A state that is well formed stays so, and a second pass changes nothing.** -/
theorem WellFormed.normalize (h : p.WellFormed) :
    p.normalize.WellFormed ∧ p.normalize.normalize = p.normalize := by
  obtain ⟨hflags, hrange⟩ := inRange_validateServiceSnapshot h.snapshotFlags h.snapshot
  constructor
  · refine
      { activeDesiredValid := isFlag_canonicalizeBool8 _, startupPolicyMode := h.startupPolicyMode,
        startupPolicySlot := h.startupPolicySlot, startupPolicy := h.startupPolicy,
        snapshotFlags := hflags, desiredFlags := desiredBoolFields_validate _,
        controlFlags := controlBoolFields_validate _, reservedBool := h.reservedBool,
        snapshot := hrange, controls := fun hfan => h.controls ?_ }
    exact (canonicalizeBool8_ne_zero _).mp hfan
  · simp only [PublishedState.normalize, canonicalizeBool8_canonicalizeBool8, validate_validate,
      validateControlState_validate, validateServiceSnapshot_validate h.snapshotFlags h.snapshot]

theorem validate_eq_some :
    validateServiceStateEnvelopeForIpc p = some p' ↔
      p.WellFormed ∧ p.normalize.Coherent ∧ p' = p.normalize := by
  rw [validateServiceStateEnvelopeForIpc]
  by_cases hformed : p.WellFormed
  · rw [if_neg (not_not.mpr hformed), and_iff_right hformed]
    dsimp only
    split_ifs with hcoherent
    · rw [Option.some.injEq, and_iff_right hcoherent, eq_comm]
    · exact iff_of_false nofun fun h => hcoherent h.1
  · rw [if_pos hformed]
    exact iff_of_false nofun fun h => hformed h.1

/-- **A state that is accepted is accepted again, unchanged.** -/
theorem validate_again (h : validateServiceStateEnvelopeForIpc p = some p') :
    validateServiceStateEnvelopeForIpc p' = some p' := by
  obtain ⟨hformed, hcoherent, rfl⟩ := validate_eq_some.mp h
  obtain ⟨hformed', hagain⟩ := hformed.normalize
  exact validate_eq_some.mpr ⟨hformed', by rwa [hagain], hagain.symm⟩

/-- What a state that is ready has: its sections, the identities of the service, of its adapter
and of the topology, its controls and its points. -/
structure Ready (p : PublishedState) : Prop where
  sections : p.state.validSections &&& SERVICE_STATE_SECTION_READY_REQUIRED =
    SERVICE_STATE_SECTION_READY_REQUIRED
  serviceInstanceId : p.state.serviceInstanceId ≠ 0
  stateRevision : p.state.stateRevision ≠ 0
  gpuGeneration : p.state.gpuGeneration ≠ 0
  loaded : p.snapshot.initialized ≠ 0 ∧ p.snapshot.loaded ≠ 0
  adapter : p.snapshot.selectedAdapterIndex < p.snapshot.adapterCount ∧
    ∃ gpu, p.snapshot.adapterAt p.snapshot.selectedAdapterIndex = some gpu ∧ gpu.valid ≠ 0
  controls : p.controlState.valid ≠ 0
  points : 0 < p.populated ∧ p.populated = p.snapshot.numPopulated
  topology : p.state.topologySignature ≠ 0 ∧
    p.state.topologySignature = serviceSnapshotTopologySignature p.snapshot

theorem has_of_ready
    (h : p.state.validSections &&& SERVICE_STATE_SECTION_READY_REQUIRED =
      SERVICE_STATE_SECTION_READY_REQUIRED) {part : UInt32}
    (hpart : SERVICE_STATE_SECTION_READY_REQUIRED &&& part = part) (hne : part ≠ 0) :
    p.Has part := by
  rw [Has, ← hpart, ← UInt32.and_assoc, h, hpart]
  exact hne

theorem ready_of_coherent (hformed : p.WellFormed) (h : p.Coherent)
    (hphase : p.state.gpuPhase = SERVICE_GPU_PHASE_READY) : p.Ready := by
  have hsections := h.readySections hphase
  obtain ⟨hinitialized, hloaded, -⟩ := h.readySnapshot hphase
  have hhas := @has_of_ready p hsections
  have htopology : p.Has SERVICE_STATE_SECTION_CURVE_TOPOLOGY := hhas (by decide) (by decide)
  obtain ⟨hpopulated, hne, hsignature⟩ := h.topology htopology
  obtain ⟨hcount, hvalid⟩ := h.adapter (hhas (by decide) (by decide))
  obtain ⟨gpu, hgpu, hvalid⟩ := (Option.any_eq_true _ _).mp hvalid
  exact
    { sections := hsections, serviceInstanceId := h.serviceInstanceId,
      stateRevision := h.stateRevision, gpuGeneration := h.gpuGeneration,
      loaded := ⟨hinitialized, hloaded⟩,
      adapter := ⟨hformed.snapshot.selected (UInt32.pos_iff_ne_zero.mpr hcount), gpu, hgpu,
        bne_iff_ne.mp hvalid⟩,
      controls := h.controls (hhas (by decide) (by decide)),
      points := ⟨Nat.pos_of_ne_zero hne, hpopulated⟩,
      topology := ⟨h.signature htopology, hsignature⟩ }

end PublishedState

/-- Every text of a snapshot ends. -/
structure ServiceSnapshot.TextsEnd (s : ServiceSnapshot) : Prop where
  healthDetail : Terminated s.health.detail
  gpuName : Terminated s.gpuName
  ownerUser : Terminated s.ownerUser
  failureDetail : Terminated s.autoApplyFailure.detail
  adapters : ∀ i, Terminated (s.adapters i).name

/-- The names of the adapters that are not there end. -/
def ServiceSnapshot.UnusedNamesEnd (s : ServiceSnapshot) : Prop :=
  ∀ i : Fin MAX_GPU_ADAPTERS, s.adapterCount.toNat ≤ i.val → Terminated (s.adapters i).name

/-- The texts of a snapshot in range end, where those of the unused adapters do. -/
theorem textsEnd_iff {s : ServiceSnapshot} (h : s.InRange) : s.TextsEnd ↔ s.UnusedNamesEnd := by
  constructor
  · exact fun hends i _ => hends.adapters i
  · intro hunused
    refine ⟨terminated_iff.mpr h.healthDetail, terminated_iff.mpr h.gpuName,
      terminated_iff.mpr h.ownerUser, terminated_iff.mpr h.failureDetail, fun i => ?_⟩
    rcases Nat.lt_or_ge i.val s.adapterCount.toNat with hused | hnot
    · exact terminated_iff.mpr (h.adapters i hused).1
    · exact hunused i hnot

/-- **What a state that is accepted is**: accepted again and unchanged, complete if it is ready,
and its texts end. -/
structure StateCoherent (p' : PublishedState) : Prop where
  again : validateServiceStateEnvelopeForIpc p' = some p'
  ready : p'.state.gpuPhase = SERVICE_GPU_PHASE_READY → p'.Ready
  texts : p'.snapshot.TextsEnd

theorem state_coherent_iff {p p' : PublishedState}
    (h : validateServiceStateEnvelopeForIpc p = some p') :
    StateCoherent p' ↔ p.snapshot.UnusedNamesEnd := by
  have hagain := PublishedState.validate_again h
  obtain ⟨hformed, hcoherent, rfl⟩ := PublishedState.validate_eq_some.mp h
  have hformed' := hformed.normalize.1
  have hready := PublishedState.ready_of_coherent hformed' hcoherent
  have htexts : p.normalize.snapshot.TextsEnd ↔ p.snapshot.UnusedNamesEnd := by
    refine (textsEnd_iff hformed'.snapshot).trans ?_
    rw [PublishedState.normalize, validateServiceSnapshot_eq hformed.snapshotFlags hformed.snapshot]
    exact Iff.rfl
  exact ⟨fun hstate => htexts.mp hstate.texts, fun hunused => ⟨hagain, hready, htexts.mpr hunused⟩⟩

/-! ## The response -/

theorem allZero_iff {α : Type} [OfNat α 0] [DecidableEq α] {values : List α} :
    allZero values = true ↔ ∀ value ∈ values, value = 0 := by
  simp only [allZero, List.all_eq_true, decide_eq_true_eq]

theorem scalarArrayIsZero_iff {α : Type} [OfNat α 0] [DecidableEq α] {n : Nat}
    {values : Fin n → α} : serviceScalarArrayIsZero values = true ↔ ∀ i, values i = 0 := by
  rw [serviceScalarArrayIsZero, allZero_iff]
  constructor
  · exact fun h i => h _ (List.mem_ofFn.mpr ⟨i, rfl⟩)
  · rintro h _ hvalue
    obtain ⟨i, rfl⟩ := List.mem_ofFn.mp hvalue
    exact h i

/-- A text of zeros ends. -/
theorem terminated_of_zero {n : Nat} {value : Chars (n + 1)}
    (h : serviceScalarArrayIsZero value = true) : Terminated value :=
  ⟨0, scalarArrayIsZero_iff.mp h 0⟩

theorem textsEnd_of_zero {s : ServiceSnapshot} (h : serviceSnapshotIsZero s = true) :
    s.TextsEnd := by
  simp only [serviceSnapshotIsZero, Bool.and_eq_true, and_assoc, List.all_eq_true] at h
  obtain ⟨-, -, -, -, hadapters, -, -, -, -, hgpuName, howner, -, hdetail, hhealth⟩ := h
  simp only [serviceGpuHealthIsZero, Bool.and_eq_true] at hhealth
  refine ⟨terminated_of_zero hhealth.2, terminated_of_zero hgpuName, terminated_of_zero howner,
    terminated_of_zero hdetail, fun i => ?_⟩
  have hadapter := hadapters _ (List.mem_ofFn.mpr ⟨i, rfl⟩)
  simp only [serviceGpuAdapterInfoIsZero, Bool.and_eq_true] at hadapter
  exact terminated_of_zero hadapter.2

/-- A state that is accepted is not absent. -/
theorem not_absent_of_coherent {r : ServiceResponse} (h : r.published.Coherent) :
    serviceResponsePayloadIsAbsent r = false := by
  by_contra habsent
  rw [Bool.not_eq_false] at habsent
  simp only [serviceResponsePayloadIsAbsent, serviceStateEnvelopeIsZero, Bool.and_eq_true,
    allZero_iff, and_assoc] at habsent
  exact h.serviceInstanceId (habsent.1 _ (List.mem_cons_self ..))

theorem canonicalizeFlags_update (u : ServiceUpdateState) :
    u.canonicalizeFlags.canonicalizeFlags = u.canonicalizeFlags := by
  simp only [ServiceUpdateState.canonicalizeFlags, canonicalizeBool8_canonicalizeBool8]

theorem validateServiceUpdateState_eq_some {u u' : ServiceUpdateState} :
    validateServiceUpdateStateForIpc u = some u' ↔
      u.canonicalizeFlags.InRange ∧ u' = u.canonicalizeFlags := by
  rw [validateServiceUpdateStateForIpc]
  split_ifs with h
  · rw [Option.some.injEq, and_iff_right h, eq_comm]
  · exact iff_of_false nofun fun h' => h h'.1

theorem validateServiceUpdateState_again {u u' : ServiceUpdateState}
    (h : validateServiceUpdateStateForIpc u = some u') :
    validateServiceUpdateStateForIpc u' = some u' := by
  obtain ⟨hrange, rfl⟩ := validateServiceUpdateState_eq_some.mp h
  exact validateServiceUpdateState_eq_some.mpr
    ⟨by rwa [canonicalizeFlags_update], (canonicalizeFlags_update u).symm⟩

namespace ServiceResponse
variable {r r' : ServiceResponse}

/-- The startup profile in canonical form, if there is one. -/
def withProfile (r : ServiceResponse) : ServiceResponse :=
  if r.startupProfileValid ≠ 0 then { r with startupProfile := r.startupProfile.validateForIpc }
  else r

theorem withProfile_frame (r : ServiceResponse) :
    ∃ profile, r.withProfile = { r with startupProfile := profile } := by
  rw [withProfile]
  split_ifs
  · exact ⟨_, rfl⟩
  · exact ⟨r.startupProfile, rfl⟩

/-- A profile that is coherent stays so, and a second pass changes nothing. -/
theorem profile_again (h : serviceResponseStartupProfileIsCoherent r = true) :
    serviceResponseStartupProfileIsCoherent r.withProfile = true ∧
      r.withProfile.withProfile = r.withProfile := by
  by_cases hvalid : r.startupProfileValid ≠ 0
  · have hprofile : r.withProfile =
        { r with startupProfile := r.startupProfile.validateForIpc } := if_pos hvalid
    rw [hprofile]
    constructor
    · rw [serviceResponseStartupProfileIsCoherent] at h ⊢
      dsimp only
      rw [desiredBoolFields_validate]
      split_ifs at h ⊢
      simp only [Bool.and_eq_true] at h ⊢
      exact ⟨h.1, trivial⟩
    · rw [withProfile]
      dsimp only
      rw [if_pos hvalid, validate_validate]
  · have hprofile : r.withProfile = r := if_neg hvalid
    rw [hprofile]
    exact ⟨h, hprofile⟩

/-- **When a response is accepted**: with no state at all, or with one that is accepted. -/
theorem validate_eq_some :
    validateServiceResponseForIpc r = some r' ↔
      r.HeaderValid ∧ ∃ update, validateServiceUpdateStateForIpc r.update = some update ∧
        (if r.status ≠ SERVICE_STATUS_OK ∧ serviceResponsePayloadIsAbsent r = true then
          r' = { r with update := update }
        else ∃ published, validateServiceStateEnvelopeForIpc r.published = some published ∧
          serviceResponseStartupProfileIsCoherent
            { r with update := update, published := published } = true ∧
          r' = withProfile { r with update := update, published := published }) := by
  rw [validateServiceResponseForIpc]
  by_cases hheader : r.HeaderValid
  swap
  · rw [if_pos hheader]
    exact iff_of_false nofun fun h => hheader h.1
  rw [if_neg (not_not.mpr hheader), and_iff_right hheader]
  cases validateServiceUpdateStateForIpc r.update with
  | none => simp only [reduceCtorEq, false_and, exists_false]
  | some update =>
    have habsent : serviceResponsePayloadIsAbsent { r with update := update } =
        serviceResponsePayloadIsAbsent r := rfl
    simp only [habsent, Option.some.injEq, exists_eq_left', Bool.and_eq_true, decide_eq_true_eq]
    by_cases hnone : r.status ≠ SERVICE_STATUS_OK ∧ serviceResponsePayloadIsAbsent r = true
    · rw [if_pos hnone, if_pos hnone, Option.some.injEq, eq_comm]
    rw [if_neg hnone, if_neg hnone]
    cases validateServiceStateEnvelopeForIpc r.published with
    | none => simp only [reduceCtorEq, false_and, exists_false]
    | some published =>
      simp only [Option.some.injEq, exists_eq_left', withProfile]
      cases serviceResponseStartupProfileIsCoherent
          { r with update := update, published := published }
      · simp only [Bool.not_false, if_true, reduceCtorEq, Bool.false_eq_true, false_and]
      · simp only [Bool.not_true, Bool.false_eq_true, if_false, true_and]
        split_ifs <;> rw [Option.some.injEq, eq_comm]

theorem HeaderValid.frame (h : r.HeaderValid) (update : ServiceUpdateState)
    (published : PublishedState) (profile : RawSettings) :
    HeaderValid
      { r with update := update, published := published, startupProfile := profile } :=
  ⟨h.magic, h.version, h.status, h.operationState, h.outcomeSeverity, h.outcomeSeverityReserved,
    h.serviceVersion, h.message⟩

/-- **A response that is accepted is accepted again, unchanged.** -/
theorem validate_again (h : validateServiceResponseForIpc r = some r') :
    validateServiceResponseForIpc r' = some r' := by
  obtain ⟨hheader, update, hupdate, hstate⟩ := validate_eq_some.mp h
  have hupdate' := validateServiceUpdateState_again hupdate
  split_ifs at hstate with habsent
  · subst hstate
    refine validate_eq_some.mpr ⟨hheader.frame update r.published r.startupProfile, update,
      hupdate', ?_⟩
    rw [if_pos]
    exact habsent
  · obtain ⟨published, hpublished, hprofile, rfl⟩ := hstate
    obtain ⟨hprofile', hsame⟩ := profile_again hprofile
    obtain ⟨-, hcoherent, hnormal⟩ := PublishedState.validate_eq_some.mp hpublished
    obtain ⟨profile, hframe⟩ :=
      withProfile_frame { r with update := update, published := published }
    rw [hframe] at hprofile' hsame ⊢
    refine validate_eq_some.mpr ⟨hheader.frame update published profile, update, hupdate', ?_⟩
    rw [if_neg]
    · exact ⟨published, PublishedState.validate_again hpublished, hprofile', hsame.symm⟩
    · rintro ⟨-, hnone⟩
      rw [not_absent_of_coherent (hnormal ▸ hcoherent)] at hnone
      exact Bool.false_ne_true hnone

end ServiceResponse

/-- **What a response that is accepted is**: accepted again and unchanged, complete if its state
is ready, and its texts end. -/
structure ResponseCoherent (r' : ServiceResponse) : Prop where
  again : validateServiceResponseForIpc r' = some r'
  ready : r'.published.state.gpuPhase = SERVICE_GPU_PHASE_READY → r'.published.Ready
  serviceVersion : Terminated r'.serviceVersion
  message : Terminated r'.message
  availableVersion : Terminated r'.update.availableVersion
  installedVersion : Terminated r'.update.installedVersion
  updateDetail : Terminated r'.update.detail
  snapshot : r'.published.snapshot.TextsEnd

theorem response_coherent_iff {r r' : ServiceResponse}
    (h : validateServiceResponseForIpc r = some r') :
    ResponseCoherent r' ↔ r.published.snapshot.UnusedNamesEnd := by
  have hagain := ServiceResponse.validate_again h
  obtain ⟨hheader, update, hupdate, hstate⟩ := ServiceResponse.validate_eq_some.mp h
  obtain ⟨hrange, hcanonical⟩ := validateServiceUpdateState_eq_some.mp hupdate
  rw [← hcanonical] at hrange
  have hversion := terminated_iff.mpr hheader.serviceVersion
  have hmessage := terminated_iff.mpr hheader.message
  have havailable := terminated_iff.mpr hrange.availableVersion
  have hinstalled := terminated_iff.mpr hrange.installedVersion
  have hdetail := terminated_iff.mpr hrange.detail
  split_ifs at hstate with habsent
  · -- no state at all: everything is zero
    subst hstate
    have hzero := habsent.2
    simp only [serviceResponsePayloadIsAbsent, serviceStateEnvelopeIsZero, Bool.and_eq_true,
      allZero_iff, and_assoc] at hzero
    obtain ⟨-, hphase, -, -, hsnapshot, -⟩ := hzero
    have hends := textsEnd_of_zero hsnapshot
    have hnotReady : r.published.state.gpuPhase ≠ SERVICE_GPU_PHASE_READY := by
      rw [hphase _ (List.mem_cons_self ..)]
      decide
    exact iff_of_true
      ⟨hagain, fun hready => absurd hready hnotReady, hversion, hmessage, havailable, hinstalled,
        hdetail, hends⟩
      fun i _ => hends.adapters i
  · obtain ⟨published, hpublished, -, rfl⟩ := hstate
    obtain ⟨profile, hframe⟩ :=
      ServiceResponse.withProfile_frame { r with update := update, published := published }
    rw [hframe] at hagain ⊢
    rw [← state_coherent_iff hpublished]
    constructor
    · intro hresponse
      exact ⟨PublishedState.validate_again hpublished, hresponse.ready, hresponse.snapshot⟩
    · intro hcoherent
      exact ⟨hagain, hcoherent.ready, hversion, hmessage, havailable, hinstalled, hdetail,
        hcoherent.texts⟩

/-- **Validation is coherent exactly where it looks.**  A request that is accepted is what it
should be if it has no lock of an unknown mode without a topology and its unread fields are
empty; a state or a response, if the names of the adapters that are not there end. -/
theorem validation_coherent_iff (request : ServiceRequest) (state : PublishedState)
    (response : ServiceResponse) :
    (∀ request', validateServiceRequestForIpc request = some request' →
      (RequestCoherent request request' ↔ request.Clean)) ∧
    (∀ state', validateServiceStateEnvelopeForIpc state = some state' →
      (StateCoherent state' ↔ state.snapshot.UnusedNamesEnd)) ∧
    (∀ response', validateServiceResponseForIpc response = some response' →
      (ResponseCoherent response' ↔ response.published.snapshot.UnusedNamesEnd)) :=
  ⟨fun _ => request_coherent_iff, fun _ => state_coherent_iff, fun _ => response_coherent_iff⟩

/-! ## Where validation does not look -/

/-- A request to one GPU. -/
def checkedRequest (command : UInt32) : ServiceRequest :=
  { magic := SERVICE_PROTOCOL_MAGIC, version := SERVICE_PROTOCOL_VERSION, command := command,
    callerPid := 1, operationId := 1, expectedServiceInstanceId := 1, expectedGpuGeneration := 1,
    expectedTopologySignature := 1, targetGpu := { valid := 1 } }

/-- An apply that names no topology, with a lock whose mode is none of the three. -/
def unknownLock : ServiceRequest :=
  { checkedRequest SERVICE_CMD_APPLY with
    expectedTopologySignature := 0
    applyOrigin := SERVICE_APPLY_ORIGIN_GUI
    desired := { hasLock := 1, lockMode := 3 } }

/-- A reset with settings and a startup mode. -/
def resetWithSettings : ServiceRequest :=
  { checkedRequest SERVICE_CMD_RESET with
    startupMode := SERVICE_STARTUP_POLICY_PROFILE
    desired := { hasFan := 1 } }

/-- A resume notification with the parameters of an update policy. -/
def resumeWithPolicy : ServiceRequest :=
  { magic := SERVICE_PROTOCOL_MAGIC, version := SERVICE_PROTOCOL_VERSION,
    command := SERVICE_CMD_RESUME_RESTORE, callerPid := 1, updateAutoCheck := 1,
    updateIntervalSeconds := 7200 }

/-- A state with no adapter, and a name that does not end where one could be. -/
def unendedName : PublishedState :=
  { state := { serviceInstanceId := 1, stateRevision := 1, gpuGeneration := 1 },
    snapshot := { adapters := fun _ => { name := fun _ => 65 } } }

/-- One adapter and two points. -/
def readySnapshot : ServiceSnapshot :=
  { initialized := 1, loaded := 1, adapterCount := 1,
    adapters := fun i => if i = 0 then { valid := 1 } else {}, numPopulated := 2,
    curve := fun i => if i.val < 2 then { freq_kHz := 2000000, volt_uV := 900000 } else {} }

/-- A state that is ready. -/
def readyState : PublishedState :=
  { state :=
      { serviceInstanceId := 1, stateRevision := 1, gpuGeneration := 1,
        topologySignature := 8051808325665165248, gpuPhase := SERVICE_GPU_PHASE_READY,
        validSections := SERVICE_STATE_SECTION_READY_REQUIRED },
    snapshot := readySnapshot, controlState := { valid := 1 } }

/-- All of them are accepted. -/
theorem accepted_all :
    serviceRequestRejectReason (checkedRequest SERVICE_CMD_RESET) = none ∧
      serviceRequestRejectReason unknownLock = none ∧
      serviceRequestRejectReason resetWithSettings = none ∧
      serviceRequestRejectReason resumeWithPolicy = none ∧
      unendedName.WellFormed ∧ unendedName.normalize.Coherent ∧
      readyState.WellFormed ∧ readyState.normalize.Coherent := by
  decide +kernel

theorem validateServiceRequest_of_accepted {r : ServiceRequest}
    (h : serviceRequestRejectReason r = none) :
    validateServiceRequestForIpc r = some r.normalize :=
  if_neg (not_not.mpr h)

theorem validation_coherent_iff_ready :
    RequestCoherent (checkedRequest SERVICE_CMD_RESET)
        (checkedRequest SERVICE_CMD_RESET).normalize ∧
      StateCoherent readyState.normalize := by
  obtain ⟨hreset, -, -, -, -, -, hformed, hcoherent⟩ := accepted_all
  obtain ⟨hrequest, hstate, -⟩ :=
    validation_coherent_iff (checkedRequest SERVICE_CMD_RESET) readyState {}
  constructor
  · refine (hrequest _ (validateServiceRequest_of_accepted hreset)).mpr
      ⟨fun hcommand => absurd hcommand (by decide), fun _ => ⟨?_, rfl⟩, fun _ => ⟨rfl, rfl, rfl⟩⟩
    exact domains_eq_zero_iff.mpr ⟨rfl, rfl, rfl, rfl, fun _ => rfl, rfl, rfl, rfl, rfl, rfl, rfl⟩
  · have haccepted := PublishedState.validate_eq_some.mpr ⟨hformed, hcoherent, rfl⟩
    refine (hstate _ haccepted).mpr fun i hunused => ?_
    have hne : i ≠ 0 := by
      rintro rfl
      exact absurd hunused (by decide)
    have hadapter : readyState.snapshot.adapters i = {} := if_neg hne
    rw [hadapter]
    exact ⟨0, rfl⟩

/-- A request that is not accepted again, two that carry what they should not, and a text that
does not end. -/
theorem validation_not_coherent :
    (∃ r', validateServiceRequestForIpc unknownLock = some r' ∧
      ¬RequestCoherent unknownLock r') ∧
    (∃ r', validateServiceRequestForIpc resetWithSettings = some r' ∧
      ¬RequestCoherent resetWithSettings r') ∧
    (∃ r', validateServiceRequestForIpc resumeWithPolicy = some r' ∧
      ¬RequestCoherent resumeWithPolicy r') ∧
    (∃ p', validateServiceStateEnvelopeForIpc unendedName = some p' ∧ ¬StateCoherent p') := by
  obtain ⟨-, hlock, hreset, hresume, hformed, hcoherent, -⟩ := accepted_all
  refine ⟨⟨_, validateServiceRequest_of_accepted hlock, fun h => ?_⟩,
    ⟨_, validateServiceRequest_of_accepted hreset, fun h => ?_⟩,
    ⟨_, validateServiceRequest_of_accepted hresume, fun h => ?_⟩,
    ⟨_, PublishedState.validate_eq_some.mpr ⟨hformed, hcoherent, rfl⟩, fun h => ?_⟩⟩
  · have hclean := (request_coherent_iff (validateServiceRequest_of_accepted hlock)).mp h
    exact hclean.lock rfl (by decide) (by decide) rfl
  · have hmode := (h.nothing (Or.inl rfl)).1.startupMode
    exact absurd hmode (by decide)
  · have hpolicy := (h.nothing (Or.inr (Or.inl rfl))).1.policy (by decide)
    exact absurd hpolicy.1 (by decide)
  · obtain ⟨i, hi⟩ := h.texts.adapters 0
    have hname : (65 : UInt8) = 0 := hi
    exact absurd hname (by decide)

end GreenCurve.Protocol
