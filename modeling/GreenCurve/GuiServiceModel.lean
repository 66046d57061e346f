import GreenCurve.EventMachine
import GreenCurve.ProtocolRecords

/-! # The client's model of the service

The window keeps one model of the service process and of the GPU generation it shows, and every
envelope of state the service sends goes through one acceptance test.  An envelope is rejected
when it comes over a connection older than the one the model has seen, from the service instance
that was replaced last, of an older GPU generation, or of a revision that is not newer than the
accepted one.  When Windows reports that the selected adapter was removed or started, the model
arms a fence: the generation on show must be followed by a newer one. -/

namespace GreenCurve.Gui

open Protocol

abbrev SERVICE_GPU_PHASE_STARTING : UInt32 := 0
abbrev SERVICE_GPU_PHASE_DEVICE_MISSING : UInt32 := 1
abbrev SERVICE_GPU_PHASE_RECOVERING : UInt32 := 2
abbrev SERVICE_GPU_PHASE_REAPPLYING : UInt32 := 3

inductive GuiServicePhase where
  | disconnected | syncing | deviceMissing | recovering | degraded | ready
deriving DecidableEq, Repr

inductive GuiServiceEnvelopeDecision where
  | accepted
  | rejectedConnection | rejectedInstance | rejectedGeneration | rejectedRevision
  | rejectedInvalid
deriving DecidableEq, Repr

/-- `GuiServiceModel`, with the values of `gui_service_model_initialize`. -/
structure GuiServiceModel where
  phase : GuiServicePhase := .disconnected
  connectionEpoch : UInt64 := 1
  serviceInstanceId : UInt64 := 0
  stateRevision : UInt64 := 0
  gpuGeneration : UInt64 := 0
  minimumGpuGeneration : UInt64 := 0
  topologySignature : UInt64 := 0
  retiredServiceInstanceId : UInt64 := 0
  validSections : UInt32 := 0
  hasAcceptedEnvelope : Bool := false
deriving DecidableEq, Repr

/-- `gui_service_phase_from_envelope`. -/
def guiServicePhaseFromEnvelope (state : ServiceStateEnvelope) : GuiServicePhase :=
  if state.gpuPhase = SERVICE_GPU_PHASE_DEVICE_MISSING then .deviceMissing
  else if state.gpuPhase = SERVICE_GPU_PHASE_RECOVERING ∨
      state.gpuPhase = SERVICE_GPU_PHASE_REAPPLYING ∨
      state.gpuPhase = SERVICE_GPU_PHASE_STARTING then .recovering
  else if state.gpuPhase = SERVICE_GPU_PHASE_READY then
    if state.validSections &&& SERVICE_STATE_SECTION_READY_REQUIRED =
        SERVICE_STATE_SECTION_READY_REQUIRED then .ready else .degraded
  else .degraded

/-- What an envelope must say about itself before it is compared with the model. -/
def envelopeInvalid (state : ServiceStateEnvelope) : Bool :=
  decide (state.serviceInstanceId = 0) || decide (state.stateRevision = 0) ||
    decide (state.gpuGeneration = 0) || decide (state.gpuPhase > SERVICE_GPU_PHASE_DEGRADED) ||
    decide (state.validSections &&& ~~~SERVICE_STATE_SECTION_ALL ≠ 0) ||
    (decide (state.validSections &&& SERVICE_STATE_SECTION_CURVE_TOPOLOGY ≠ 0) &&
      decide (state.topologySignature = 0)) ||
    decide (state.activeDesiredValid > 1)

namespace GuiServiceModel

variable (model : GuiServiceModel) (epoch : UInt64) (state : ServiceStateEnvelope)

/-- What the model forgets with the connection it was filled over. -/
def forget : GuiServiceModel :=
  { model with
    hasAcceptedEnvelope := false
    stateRevision := 0
    gpuGeneration := 0
    topologySignature := 0
    validSections := 0 }

/-- `gui_service_model_begin_sync`. -/
def beginSync : GuiServiceModel :=
  if epoch > model.connectionEpoch then
    { model.forget with connectionEpoch := epoch, phase := .syncing }
  else { model with phase := .syncing }

/-- `gui_service_model_disconnect`. -/
def disconnect : GuiServiceModel :=
  { model.forget with
    connectionEpoch := if epoch ≥ model.connectionEpoch then epoch else model.connectionEpoch
    phase := .disconnected }

/-- `gui_service_model_require_new_gpu_generation`. -/
def requireNewGpuGeneration : GuiServiceModel × Bool :=
  if model.hasAcceptedEnvelope ∧ model.phase = .ready ∧ model.serviceInstanceId ≠ 0 ∧
      model.gpuGeneration ≠ 0 ∧ model.gpuGeneration < ~~~0 then
    ({ model with minimumGpuGeneration := model.gpuGeneration + 1 }, true)
  else (model, false)

/-- The envelope is the first of a service instance that takes the place of another. -/
def replaces : Bool :=
  !model.hasAcceptedEnvelope && decide (model.serviceInstanceId ≠ 0) &&
    decide (state.serviceInstanceId ≠ model.serviceInstanceId)

/-- The model with the instance it showed retired. -/
def retire : GuiServiceModel :=
  if model.replaces state then
    { model with retiredServiceInstanceId := model.serviceInstanceId, minimumGpuGeneration := 0 }
  else model

/-- The acceptance test past the connection: why the envelope is rejected, if it is. -/
def rejection : Option GuiServiceEnvelopeDecision :=
  if state.serviceInstanceId = model.serviceInstanceId ∧ model.minimumGpuGeneration ≠ 0 ∧
      state.gpuGeneration < model.minimumGpuGeneration then some .rejectedGeneration
  else if model.hasAcceptedEnvelope then
    if state.serviceInstanceId ≠ model.serviceInstanceId then some .rejectedInstance
    else if state.gpuGeneration < model.gpuGeneration then some .rejectedGeneration
    else if state.stateRevision ≤ model.stateRevision then some .rejectedRevision
    else none
  else none

/-- The model filled from an accepted envelope. -/
def adopt : GuiServiceModel :=
  { model with
    hasAcceptedEnvelope := true
    serviceInstanceId := state.serviceInstanceId
    stateRevision := state.stateRevision
    gpuGeneration := state.gpuGeneration
    topologySignature := state.topologySignature
    validSections := state.validSections
    phase := guiServicePhaseFromEnvelope state
    minimumGpuGeneration :=
      if state.gpuGeneration ≥ model.minimumGpuGeneration then 0 else model.minimumGpuGeneration }

/-- `gui_service_model_accept`. -/
def accept : GuiServiceModel × GuiServiceEnvelopeDecision :=
  if envelopeInvalid state then (model, .rejectedInvalid)
  else if epoch < model.connectionEpoch then (model, .rejectedConnection)
  else
    let synced := if epoch > model.connectionEpoch then model.beginSync epoch else model
    if state.serviceInstanceId = synced.retiredServiceInstanceId then (synced, .rejectedInstance)
    else
      let current := synced.retire state
      match current.rejection state with
      | some decision => (current, decision)
      | none => (current.adopt state, .accepted)

/-- `gui_service_model_ready`. -/
def isReady : Bool := decide (model.phase = .ready) && model.hasAcceptedEnvelope

/-- What a PnP notification about the selected adapter does to the model. -/
def adapterChanged (removed : Bool) : GuiServiceModel :=
  { model.requireNewGpuGeneration.1 with
    phase := if removed then .deviceMissing else .recovering
    validSections := 0 }

end GuiServiceModel

/-! ## What each operation does -/

namespace GuiServiceModel

variable {m : GuiServiceModel} {epoch : UInt64} {e : ServiceStateEnvelope}

/-- The connection an envelope is compared over: a newer one empties the model first. -/
def syncedTo (m : GuiServiceModel) (epoch : UInt64) : GuiServiceModel :=
  if epoch > m.connectionEpoch then m.beginSync epoch else m

@[simp] theorem syncedTo_serviceInstanceId :
    (m.syncedTo epoch).serviceInstanceId = m.serviceInstanceId := by
  unfold syncedTo beginSync
  split_ifs <;> rfl

@[simp] theorem syncedTo_retired :
    (m.syncedTo epoch).retiredServiceInstanceId = m.retiredServiceInstanceId := by
  unfold syncedTo beginSync
  split_ifs <;> rfl

@[simp] theorem syncedTo_minimum :
    (m.syncedTo epoch).minimumGpuGeneration = m.minimumGpuGeneration := by
  unfold syncedTo beginSync
  split_ifs <;> rfl

theorem syncedTo_of_le (h : epoch ≤ m.connectionEpoch) : m.syncedTo epoch = m :=
  if_neg (UInt64.not_lt.mpr h)

theorem syncedTo_of_lt (h : m.connectionEpoch < epoch) :
    m.syncedTo epoch = { m.forget with connectionEpoch := epoch, phase := .syncing } := by
  rw [syncedTo, if_pos h, beginSync, if_pos h]

theorem connectionEpoch_syncedTo (h : m.connectionEpoch ≤ epoch) :
    (m.syncedTo epoch).connectionEpoch = epoch := by
  rcases UInt64.lt_or_eq_of_le h with hlt | heq
  · rw [syncedTo_of_lt hlt]
  · rw [syncedTo_of_le (UInt64.le_of_eq heq.symm), heq]

/-- The test against the model passes when the envelope clears the fence and, with another one
already accepted, continues it. -/
theorem rejection_eq_none : m.rejection e = none ↔
    (e.serviceInstanceId = m.serviceInstanceId → m.minimumGpuGeneration ≤ e.gpuGeneration) ∧
      (m.hasAcceptedEnvelope = true → e.serviceInstanceId = m.serviceInstanceId ∧
        m.gpuGeneration ≤ e.gpuGeneration ∧ m.stateRevision < e.stateRevision) := by
  unfold rejection
  grind

/-- An envelope of an instance that takes another's place is not rejected any more. -/
theorem retire_of_rejected {d : GuiServiceEnvelopeDecision}
    (h : (m.retire e).rejection e = some d) : m.retire e = m := by
  unfold retire at h ⊢
  split_ifs with hreplaces
  · rw [if_pos hreplaces] at h
    simp only [replaces, Bool.and_eq_true, Bool.not_eq_true', decide_eq_true_eq] at hreplaces
    obtain ⟨⟨hfresh, -⟩, hother⟩ := hreplaces
    have hnone := (rejection_eq_none (e := e)
      (m := { m with retiredServiceInstanceId := m.serviceInstanceId, minimumGpuGeneration := 0 })
      ).mpr ⟨fun hsame => absurd hsame hother, fun haccepted => by simp [hfresh] at haccepted⟩
    rw [hnone] at h
    cases h
  · rfl

/-- Everything that has to hold for an envelope to be accepted. -/
structure Accepts (m : GuiServiceModel) (epoch : UInt64) (e : ServiceStateEnvelope) : Prop where
  valid : envelopeInvalid e = false
  current : m.connectionEpoch ≤ epoch
  notRetired : e.serviceInstanceId ≠ m.retiredServiceInstanceId
  fence : e.serviceInstanceId = m.serviceInstanceId → m.minimumGpuGeneration ≤ e.gpuGeneration
  held : m.hasAcceptedEnvelope = true → epoch = m.connectionEpoch →
    e.serviceInstanceId = m.serviceInstanceId ∧ m.gpuGeneration ≤ e.gpuGeneration ∧
      m.stateRevision < e.stateRevision

/-- The model after an accepted envelope. -/
def accepted (m : GuiServiceModel) (epoch : UInt64) (e : ServiceStateEnvelope) : GuiServiceModel :=
  ((m.syncedTo epoch).retire e).adopt e

/-- The test behind the validity of the envelope and the age of its connection. -/
theorem accept_of_current (hvalid : envelopeInvalid e = false)
    (hcurrent : m.connectionEpoch ≤ epoch)
    (hretired : e.serviceInstanceId ≠ m.retiredServiceInstanceId) :
    m.accept epoch e = match ((m.syncedTo epoch).retire e).rejection e with
      | some decision => ((m.syncedTo epoch).retire e, decision)
      | none => (m.accepted epoch e, .accepted) := by
  unfold accept
  rw [hvalid, if_neg Bool.false_ne_true, if_neg (UInt64.not_lt.mpr hcurrent)]
  simp only
  rw [← syncedTo, if_neg (by simpa using hretired)]
  rfl

theorem rejection_ne_accepted {d : GuiServiceEnvelopeDecision} (h : m.rejection e = some d) :
    d ≠ .accepted := by
  unfold rejection at h
  split_ifs at h <;> cases h <;> nofun

/-- Retiring the instance on show changes nothing about whether the envelope passes. -/
theorem rejection_retire : (m.retire e).rejection e = none ↔ m.rejection e = none := by
  unfold retire
  split_ifs with hreplaces
  · simp only [replaces, Bool.and_eq_true, Bool.not_eq_true', decide_eq_true_eq] at hreplaces
    obtain ⟨⟨hfresh, -⟩, hother⟩ := hreplaces
    rw [rejection_eq_none, rejection_eq_none]
    simp [hfresh, hother]
  · rfl

theorem rejection_syncedTo (hcurrent : m.connectionEpoch ≤ epoch) :
    (m.syncedTo epoch).rejection e = none ↔
      (e.serviceInstanceId = m.serviceInstanceId → m.minimumGpuGeneration ≤ e.gpuGeneration) ∧
        (m.hasAcceptedEnvelope = true → epoch = m.connectionEpoch →
          e.serviceInstanceId = m.serviceInstanceId ∧ m.gpuGeneration ≤ e.gpuGeneration ∧
            m.stateRevision < e.stateRevision) := by
  rw [rejection_eq_none, syncedTo_serviceInstanceId, syncedTo_minimum]
  refine and_congr_right fun _ => ?_
  rcases UInt64.lt_or_eq_of_le hcurrent with hlt | rfl
  · simp [syncedTo_of_lt hlt, forget, (UInt64.ne_of_lt hlt).symm]
  · simp [syncedTo_of_le UInt64.le_rfl]

/-- **What an envelope does to the model**: it is accepted exactly when the model accepts it, and
a rejected one at most moves the model on to its connection. -/
theorem accept_cases (m : GuiServiceModel) (epoch : UInt64) (e : ServiceStateEnvelope) :
    m.Accepts epoch e ∧ m.accept epoch e = (m.accepted epoch e, .accepted) ∨
      ¬m.Accepts epoch e ∧ (m.accept epoch e).2 ≠ .accepted ∧
        ((m.accept epoch e).1 = m ∨ (m.accept epoch e).1 = m.syncedTo epoch) := by
  cases hvalid : envelopeInvalid e with
  | true =>
    refine .inr ⟨fun h => by simp [h.valid] at hvalid, ?_⟩
    rw [accept, if_pos hvalid]
    exact ⟨nofun, .inl rfl⟩
  | false =>
    by_cases hcurrent : m.connectionEpoch ≤ epoch
    · by_cases hretired : e.serviceInstanceId = m.retiredServiceInstanceId
      · refine .inr ⟨fun h => h.notRetired hretired, ?_⟩
        rw [accept, hvalid, if_neg Bool.false_ne_true, if_neg (UInt64.not_lt.mpr hcurrent)]
        simp only
        rw [← syncedTo, if_pos (by simpa using hretired)]
        exact ⟨nofun, .inr rfl⟩
      · rw [accept_of_current hvalid hcurrent hretired]
        cases hrejection : ((m.syncedTo epoch).retire e).rejection e with
        | none =>
          obtain ⟨hfence, hheld⟩ :=
            (rejection_syncedTo hcurrent).mp (rejection_retire.mp hrejection)
          exact .inl ⟨⟨hvalid, hcurrent, hretired, hfence, hheld⟩, rfl⟩
        | some d =>
          refine .inr ⟨fun h => ?_, rejection_ne_accepted hrejection,
            .inr (retire_of_rejected hrejection)⟩
          have hnone := rejection_retire.mpr ((rejection_syncedTo hcurrent).mpr ⟨h.fence, h.held⟩)
          rw [hnone] at hrejection
          cases hrejection
    · refine .inr ⟨fun h => hcurrent h.current, ?_⟩
      rw [accept, hvalid, if_neg Bool.false_ne_true, if_pos (UInt64.not_le.mp hcurrent)]
      exact ⟨nofun, .inl rfl⟩

/-! ## What an accepted envelope leaves -/

@[simp] theorem accepted_serviceInstanceId :
    (m.accepted epoch e).serviceInstanceId = e.serviceInstanceId := rfl

@[simp] theorem accepted_gpuGeneration : (m.accepted epoch e).gpuGeneration = e.gpuGeneration := rfl

@[simp] theorem accepted_stateRevision : (m.accepted epoch e).stateRevision = e.stateRevision := rfl

@[simp] theorem accepted_hasAcceptedEnvelope :
    (m.accepted epoch e).hasAcceptedEnvelope = true := rfl

theorem retire_connectionEpoch : (m.retire e).connectionEpoch = m.connectionEpoch := by
  unfold retire
  split_ifs <;> rfl

theorem accepted_connectionEpoch (h : m.connectionEpoch ≤ epoch) :
    (m.accepted epoch e).connectionEpoch = epoch :=
  retire_connectionEpoch.trans (connectionEpoch_syncedTo h)

/-- An accepted envelope of another instance finds no envelope accepted over its connection. -/
theorem replaces_of_ne (haccepts : m.Accepts epoch e) (hshown : m.serviceInstanceId ≠ 0)
    (h : e.serviceInstanceId ≠ m.serviceInstanceId) : (m.syncedTo epoch).replaces e = true := by
  have hfresh : (m.syncedTo epoch).hasAcceptedEnvelope = false := by
    have hnone := (rejection_syncedTo haccepts.current).mpr ⟨haccepts.fence, haccepts.held⟩
    by_contra htrue
    have hsame := ((rejection_eq_none.mp hnone).2 (by simpa using htrue)).1
    exact h (hsame.trans syncedTo_serviceInstanceId)
  simp [replaces, hfresh, h, hshown]

/-- An envelope of the instance on show retires nothing. -/
theorem accepted_retired_of_same (h : e.serviceInstanceId = m.serviceInstanceId) :
    (m.accepted epoch e).retiredServiceInstanceId = m.retiredServiceInstanceId := by
  have hreplaces : (m.syncedTo epoch).replaces e = false := by simp [replaces, h]
  rw [accepted, retire, hreplaces, if_neg Bool.false_ne_true, adopt, syncedTo_retired]

/-- An accepted envelope of another instance retires the one on show. -/
theorem accepted_retired_of_ne (haccepts : m.Accepts epoch e) (hshown : m.serviceInstanceId ≠ 0)
    (h : e.serviceInstanceId ≠ m.serviceInstanceId) :
    (m.accepted epoch e).retiredServiceInstanceId = m.serviceInstanceId := by
  rw [accepted, retire, if_pos (replaces_of_ne haccepts hshown h), adopt,
    syncedTo_serviceInstanceId]

end GuiServiceModel

/-! ## Runs of the model -/

/-- What happens to the model. -/
inductive ModelEvent where
  | beginSync (epoch : UInt64)
  | disconnect (epoch : UInt64)
  | adapterChanged (removed : Bool)
  | envelope (epoch : UInt64) (state : ServiceStateEnvelope)

namespace GuiServiceModel

/-- One event, and the envelope the model adopts with it, under the epoch it came with. -/
def step (m : GuiServiceModel) :
    ModelEvent → GuiServiceModel × Option (UInt64 × ServiceStateEnvelope)
  | .beginSync epoch => (m.beginSync epoch, none)
  | .disconnect epoch => (m.disconnect epoch, none)
  | .adapterChanged removed => (m.adapterChanged removed, none)
  | .envelope epoch e =>
    ((m.accept epoch e).1, if (m.accept epoch e).2 = .accepted then some (epoch, e) else none)

/-- The model of a window, from its creation. -/
def machine : EventMachine GuiServiceModel ModelEvent (Option (UInt64 × ServiceStateEnvelope)) :=
  ⟨{}, step⟩

/-- What an event that adopts no envelope can do to the model. -/
structure Kept (m m' : GuiServiceModel) (event : ModelEvent) : Prop where
  instanceId : m'.serviceInstanceId = m.serviceInstanceId
  retired : m'.retiredServiceInstanceId = m.retiredServiceInstanceId
  connection : m.connectionEpoch ≤ m'.connectionEpoch
  minimum : m'.minimumGpuGeneration = m.minimumGpuGeneration ∨
    m.isReady = true ∧ m.serviceInstanceId ≠ 0 ∧ m'.minimumGpuGeneration = m.gpuGeneration + 1
  phase : m'.phase = .ready → m.phase = .ready
  held : m'.hasAcceptedEnvelope = true → m.hasAcceptedEnvelope = true ∧
    m'.gpuGeneration = m.gpuGeneration ∧ m'.stateRevision = m.stateRevision
  lost : m.hasAcceptedEnvelope = true → m'.hasAcceptedEnvelope = false →
    (∃ epoch, event = .disconnect epoch) ∨ m.connectionEpoch < m'.connectionEpoch

variable {m : GuiServiceModel} {event : ModelEvent}

theorem kept_self : m.Kept m event :=
  ⟨rfl, rfl, UInt64.le_rfl, .inl rfl, id, fun h => ⟨h, rfl, rfl⟩, fun h h' => by simp [h] at h'⟩

theorem kept_beginSync (epoch : UInt64) : m.Kept (m.beginSync epoch) event := by
  unfold beginSync
  split_ifs with hnewer
  · exact ⟨rfl, rfl, UInt64.le_of_lt hnewer, .inl rfl, nofun, nofun, fun _ _ => .inr hnewer⟩
  · exact ⟨rfl, rfl, UInt64.le_rfl, .inl rfl, nofun, fun h => ⟨h, rfl, rfl⟩,
      fun h h' => by simp [h] at h'⟩

theorem kept_syncedTo (epoch : UInt64) : m.Kept (m.syncedTo epoch) event := by
  unfold syncedTo
  split_ifs
  · exact kept_beginSync epoch
  · exact kept_self

theorem kept_disconnect (epoch : UInt64) : m.Kept (m.disconnect epoch) (.disconnect epoch) := by
  refine ⟨rfl, rfl, ?_, .inl rfl, nofun, nofun, fun _ _ => .inl ⟨epoch, rfl⟩⟩
  unfold disconnect
  split_ifs with hle
  · exact hle
  · exact UInt64.le_rfl

/-- The fence goes up one generation past the one on show, or stays where it is. -/
theorem requireNewGpuGeneration_cases (m : GuiServiceModel) :
    m.requireNewGpuGeneration = (m, false) ∨
      m.isReady = true ∧ m.serviceInstanceId ≠ 0 ∧ m.gpuGeneration < ~~~0 ∧
        m.requireNewGpuGeneration =
          ({ m with minimumGpuGeneration := m.gpuGeneration + 1 }, true) := by
  unfold requireNewGpuGeneration
  split_ifs with hready
  · exact .inr ⟨by simp [isReady, hready.1, hready.2.1], hready.2.2.1, hready.2.2.2.2, rfl⟩
  · exact .inl rfl

theorem kept_adapterChanged (removed : Bool) : m.Kept (m.adapterChanged removed) event := by
  have hphase : (m.adapterChanged removed).phase ≠ .ready := by cases removed <;> nofun
  rcases m.requireNewGpuGeneration_cases with h | ⟨hready, hshown, -, h⟩
  · unfold adapterChanged at hphase ⊢
    rw [h] at hphase ⊢
    exact ⟨rfl, rfl, UInt64.le_rfl, .inl rfl, fun h => absurd h hphase, fun h => ⟨h, rfl, rfl⟩,
      fun h h' => by simp [h] at h'⟩
  · unfold adapterChanged at hphase ⊢
    rw [h] at hphase ⊢
    exact ⟨rfl, rfl, UInt64.le_rfl, .inr ⟨hready, hshown, rfl⟩, fun h => absurd h hphase,
      fun h => ⟨h, rfl, rfl⟩, fun h h' => by simp [h] at h'⟩

/-- **Everything an event can do to the model.** -/
theorem step_cases (m : GuiServiceModel) (event : ModelEvent) :
    (∃ epoch e, event = .envelope epoch e ∧ m.Accepts epoch e ∧
      m.step event = (m.accepted epoch e, some (epoch, e))) ∨
    (m.step event).2 = none ∧ m.Kept (m.step event).1 event := by
  cases event with
  | beginSync epoch => exact .inr ⟨rfl, kept_beginSync epoch⟩
  | disconnect epoch => exact .inr ⟨rfl, kept_disconnect epoch⟩
  | adapterChanged removed => exact .inr ⟨rfl, kept_adapterChanged removed⟩
  | envelope epoch e =>
    rcases accept_cases m epoch e with ⟨haccepts, heq⟩ | ⟨-, hrejected, hmodel⟩
    · exact .inl ⟨epoch, e, rfl, haccepts, by simp [step, heq]⟩
    · refine .inr ⟨if_neg hrejected, ?_⟩
      rcases hmodel with h | h
      · rw [step, h]
        exact kept_self
      · rw [step, h]
        exact kept_syncedTo epoch

section Runs

variable (ev : Nat → ModelEvent)

/-- The envelope the model adopts at a position of a run. -/
def adoptedAt (n : Nat) : Option (UInt64 × ServiceStateEnvelope) :=
  ((machine.stateAt ev n).step (ev n)).2

variable {ev} {i j k : Nat} {c : UInt64}

/-- A position of a run either adopts an envelope the model accepts, or keeps the model. -/
theorem position_cases (ev : Nat → ModelEvent) (n : Nat) :
    (∃ epoch e, adoptedAt ev n = some (epoch, e) ∧ (machine.stateAt ev n).Accepts epoch e ∧
      machine.stateAt ev (n + 1) = (machine.stateAt ev n).accepted epoch e) ∨
    adoptedAt ev n = none ∧ (machine.stateAt ev n).Kept (machine.stateAt ev (n + 1)) (ev n) := by
  rcases step_cases (machine.stateAt ev n) (ev n) with ⟨epoch, e, -, haccepts, h⟩ | h
  · exact .inl ⟨epoch, e, congrArg Prod.snd h, haccepts, congrArg Prod.fst h⟩
  · exact .inr h

theorem connectionEpoch_step (ev : Nat → ModelEvent) (n : Nat) :
    (machine.stateAt ev n).connectionEpoch ≤ (machine.stateAt ev (n + 1)).connectionEpoch := by
  rcases position_cases ev n with ⟨epoch, e, -, haccepts, h⟩ | ⟨-, hkept⟩
  · rw [h, accepted_connectionEpoch haccepts.current]
    exact haccepts.current
  · exact hkept.connection

theorem connectionEpoch_mono (hij : i ≤ j) :
    (machine.stateAt ev i).connectionEpoch ≤ (machine.stateAt ev j).connectionEpoch := by
  induction j, hij using Nat.le_induction with
  | base => exact UInt64.le_rfl
  | succ n _ ih => exact UInt64.le_trans ih (connectionEpoch_step ev n)

/-! ### The fence -/

theorem lt_add_one_of_lt {g : UInt64} (h : g < ~~~0) : g < g + 1 := by
  have hmax : (~~~0 : UInt64).toNat = 2 ^ 64 - 1 := rfl
  rw [UInt64.lt_iff_toNat_lt, hmax] at h
  rw [UInt64.lt_iff_toNat_lt, UInt64.toNat_add, UInt64.toNat_one, Nat.mod_eq_of_lt (by omega)]
  exact Nat.lt_succ_self _

/-- The adapter changed at a position while the model showed a generation it could fence off. -/
def Armed (ev : Nat → ModelEvent) (i : Nat) : Prop :=
  (∃ removed, ev i = .adapterChanged removed) ∧
    (machine.stateAt ev i).requireNewGpuGeneration.2 = true

/-- The model waits for an envelope of another instance, or of a newer generation. -/
structure Fenced (instanceId generation : UInt64) (m : GuiServiceModel) : Prop where
  instanceId : m.serviceInstanceId = instanceId
  minimum : generation < m.minimumGpuGeneration
  phase : m.phase ≠ .ready

theorem fenced_of_armed (h : Armed ev i) :
    Fenced (machine.stateAt ev i).serviceInstanceId (machine.stateAt ev i).gpuGeneration
      (machine.stateAt ev (i + 1)) := by
  obtain ⟨⟨removed, hev⟩, harmed⟩ := h
  have hstate : machine.stateAt ev (i + 1) = (machine.stateAt ev i).adapterChanged removed := by
    rw [EventMachine.stateAt, hev]
    rfl
  rcases (machine.stateAt ev i).requireNewGpuGeneration_cases with h | ⟨-, -, hroom, h⟩
  · simp [h] at harmed
  · rw [hstate, adapterChanged, h]
    refine ⟨rfl, lt_add_one_of_lt hroom, ?_⟩
    cases removed <;> nofun

/-- Nothing but an adopted envelope takes the fence down. -/
theorem Fenced.kept {instanceId generation : UInt64} {m m' : GuiServiceModel} {event : ModelEvent}
    (h : Fenced instanceId generation m) (hkept : m.Kept m' event) :
    Fenced instanceId generation m' := by
  refine ⟨hkept.instanceId.trans h.instanceId, ?_, fun hready => h.phase (hkept.phase hready)⟩
  rcases hkept.minimum with hmin | ⟨hready, -⟩
  · rw [hmin]
    exact h.minimum
  · simp [isReady, h.phase] at hready

theorem Fenced.fresh {instanceId generation epoch : UInt64} {m : GuiServiceModel}
    {e : ServiceStateEnvelope} (h : Fenced instanceId generation m) (haccepts : m.Accepts epoch e) :
    e.serviceInstanceId ≠ instanceId ∨ generation < e.gpuGeneration := by
  by_cases hsame : e.serviceInstanceId = instanceId
  · exact .inr (UInt64.lt_of_lt_of_le h.minimum (haccepts.fence (hsame.trans h.instanceId.symm)))
  · exact .inl hsame

/-- **The fence of the GPU generation.**  After the selected adapter changed, nothing makes the
window's model ready again but an envelope of a newer generation or of another service instance:
whatever connections, synchronizations, further changes and envelopes come between, the first
envelope adopted since then is such a one. -/
theorem ready_past_fence (ev : Nat → ModelEvent) {i k : Nat} (harmed : Armed ev i) (hik : i < k)
    (hready : (machine.stateAt ev k).isReady = true) :
    ∃ j epoch e, i < j ∧ j < k ∧ adoptedAt ev j = some (epoch, e) ∧
      (e.serviceInstanceId ≠ (machine.stateAt ev i).serviceInstanceId ∨
        (machine.stateAt ev i).gpuGeneration < e.gpuGeneration) ∧
      ∀ j', i < j' → j' < j → adoptedAt ev j' = none := by
  have hfence : ∀ n, i < n →
      (Fenced (machine.stateAt ev i).serviceInstanceId (machine.stateAt ev i).gpuGeneration
          (machine.stateAt ev n) ∧ ∀ j', i < j' → j' < n → adoptedAt ev j' = none) ∨
        ∃ j epoch e, i < j ∧ j < n ∧ adoptedAt ev j = some (epoch, e) ∧
          (e.serviceInstanceId ≠ (machine.stateAt ev i).serviceInstanceId ∨
            (machine.stateAt ev i).gpuGeneration < e.gpuGeneration) ∧
          ∀ j', i < j' → j' < j → adoptedAt ev j' = none := by
    intro n hin
    induction n, hin using Nat.le_induction with
    | base => exact .inl ⟨fenced_of_armed harmed, fun j' hj' hlt => by omega⟩
    | succ n hin ih =>
      rcases ih with ⟨hfenced, hnone⟩ | ⟨j, epoch, e, hij, hjn, h⟩
      · rcases position_cases ev n with ⟨epoch, e, hadopted, haccepts, -⟩ | ⟨hkeeps, hkept⟩
        · exact .inr ⟨n, epoch, e, hin, Nat.lt_succ_self n, hadopted, hfenced.fresh haccepts, hnone⟩
        · refine .inl ⟨hfenced.kept hkept, fun j' hj' hlt => ?_⟩
          rcases Nat.lt_succ_iff_lt_or_eq.mp hlt with hlt | rfl
          · exact hnone j' hj' hlt
          · exact hkeeps
      · exact .inr ⟨j, epoch, e, hij, Nat.lt_succ_of_lt hjn, h⟩
  rcases hfence k hik with ⟨hfenced, -⟩ | h
  · simp [isReady, hfenced.phase] at hready
  · exact h

/-- An envelope of a ready service. -/
def readyEnvelope (instanceId revision generation : UInt64) : ServiceStateEnvelope :=
  { serviceInstanceId := instanceId
    stateRevision := revision
    gpuGeneration := generation
    topologySignature := 5
    gpuPhase := SERVICE_GPU_PHASE_READY
    validSections := SERVICE_STATE_SECTION_ALL }

/-- The adapter goes, an envelope from before is still under way, and a new generation comes. -/
def removalRun : Nat → ModelEvent
  | 0 => .envelope 1 (readyEnvelope 7 1 3)
  | 1 => .adapterChanged true
  | 2 => .envelope 1 (readyEnvelope 7 2 3)
  | 3 => .envelope 1 (readyEnvelope 7 3 4)
  | _ => .beginSync 1

theorem ready_past_fence_removalRun : Armed removalRun 1 ∧
    (machine.stateAt removalRun 4).isReady = true ∧
    ∃ j epoch e, 1 < j ∧ j < 4 ∧ adoptedAt removalRun j = some (epoch, e) ∧
      (e.serviceInstanceId ≠ (machine.stateAt removalRun 1).serviceInstanceId ∨
        (machine.stateAt removalRun 1).gpuGeneration < e.gpuGeneration) ∧
      ∀ j', 1 < j' → j' < j → adoptedAt removalRun j' = none := by
  have harmed : Armed removalRun 1 := ⟨⟨true, rfl⟩, by decide⟩
  have hready : (machine.stateAt removalRun 4).isReady = true := by decide
  exact ⟨harmed, hready, ready_past_fence removalRun harmed (by decide) hready⟩

/-! ### Connections and instances -/

/-- What every later state of a connection keeps of the envelope `e` adopted over it. -/
structure Continues (c : UInt64) (e : ServiceStateEnvelope) (m : GuiServiceModel) : Prop where
  connection : m.connectionEpoch = c
  accepted : m.hasAcceptedEnvelope = true
  instanceId : m.serviceInstanceId = e.serviceInstanceId
  generation : e.gpuGeneration ≤ m.gpuGeneration
  revision : e.stateRevision ≤ m.stateRevision

/-- The instance `new` took the place of `old` and is still on show. -/
structure Replaced (old new : UInt64) (m : GuiServiceModel) : Prop where
  instanceId : m.serviceInstanceId = new
  retired : m.retiredServiceInstanceId = old

theorem Continues.adopted {e e' : ServiceStateEnvelope} {m : GuiServiceModel}
    (h : Continues c e m) (haccepts : m.Accepts c e') :
    e'.serviceInstanceId = e.serviceInstanceId ∧ e.gpuGeneration ≤ e'.gpuGeneration ∧
      e.stateRevision < e'.stateRevision := by
  obtain ⟨hinstance, hgeneration, hrevision⟩ := haccepts.held h.accepted h.connection.symm
  exact ⟨hinstance.trans h.instanceId, UInt64.le_trans h.generation hgeneration,
    UInt64.lt_of_le_of_lt h.revision hrevision⟩

/-- The events between two envelopes of one connection keep what the first one left. -/
theorem continues_upTo {e : ServiceStateEnvelope} (hadopted : adoptedAt ev i = some (c, e))
    (hopen : ∀ j, i < j → j < k → ∀ epoch, ev j ≠ .disconnect epoch)
    (hconnection : (machine.stateAt ev k).connectionEpoch ≤ c) (hik : i < k) :
    Continues c e (machine.stateAt ev k) := by
  induction k, hik using Nat.le_induction with
  | base =>
    rcases position_cases ev i with ⟨epoch, e', h, haccepts, hstate⟩ | ⟨hnone, -⟩
    · obtain ⟨rfl, rfl⟩ := Prod.mk.inj (Option.some.inj (h.symm.trans hadopted))
      rw [hstate]
      exact ⟨accepted_connectionEpoch haccepts.current, rfl, rfl, UInt64.le_rfl, UInt64.le_rfl⟩
    · simp [hnone] at hadopted
  | succ n hin ih =>
    have hcontinues := ih (fun j hij hjn => hopen j hij (Nat.lt_succ_of_lt hjn))
      (UInt64.le_trans (connectionEpoch_step ev n) hconnection)
    rcases position_cases ev n with ⟨epoch, e', -, haccepts, hstate⟩ | ⟨-, hkept⟩
    · rw [hstate, accepted_connectionEpoch haccepts.current] at hconnection
      have hsame : epoch = c := UInt64.le_antisymm hconnection
        (hcontinues.connection ▸ haccepts.current)
      subst hsame
      obtain ⟨hinstance, hgeneration, hrevision⟩ := hcontinues.adopted haccepts
      rw [hstate]
      exact ⟨accepted_connectionEpoch haccepts.current, rfl, hinstance, hgeneration,
        UInt64.le_of_lt hrevision⟩
    · have hsame : (machine.stateAt ev (n + 1)).connectionEpoch = c :=
        UInt64.le_antisymm hconnection (hcontinues.connection ▸ hkept.connection)
      have haccepted : (machine.stateAt ev (n + 1)).hasAcceptedEnvelope = true := by
        by_contra hlost
        rcases hkept.lost hcontinues.accepted (by simpa using hlost) with ⟨epoch, hev⟩ | hnewer
        · exact hopen n hin (Nat.lt_succ_self n) epoch hev
        · rw [hsame, hcontinues.connection] at hnewer
          exact UInt64.lt_irrefl c hnewer
      obtain ⟨-, hgeneration, hrevision⟩ := hkept.held haccepted
      exact ⟨hsame, haccepted, hkept.instanceId.trans hcontinues.instanceId,
        hgeneration ▸ hcontinues.generation, hrevision ▸ hcontinues.revision⟩

/-- **Envelopes of one connection come in order.**  As long as the window does not disconnect,
two envelopes adopted over one connection are of one service instance, the later one of no older
GPU generation and of a newer revision. -/
theorem adopted_in_order (ev : Nat → ModelEvent) {i k : Nat} {c : UInt64}
    {e e' : ServiceStateEnvelope} (hik : i < k) (hfirst : adoptedAt ev i = some (c, e))
    (hsecond : adoptedAt ev k = some (c, e'))
    (hopen : ∀ j, i < j → j < k → ∀ epoch, ev j ≠ .disconnect epoch) :
    e'.serviceInstanceId = e.serviceInstanceId ∧ e.gpuGeneration ≤ e'.gpuGeneration ∧
      e.stateRevision < e'.stateRevision := by
  rcases position_cases ev k with ⟨epoch, e'', hadopted, haccepts, -⟩ | ⟨hnone, -⟩
  · obtain ⟨rfl, rfl⟩ := Prod.mk.inj (Option.some.inj (hadopted.symm.trans hsecond))
    exact (continues_upTo hfirst hopen haccepts.current hik).adopted haccepts
  · simp [hnone] at hsecond

theorem adopted_in_order_removalRun :
    adoptedAt removalRun 3 = some (1, readyEnvelope 7 3 4) ∧
      (readyEnvelope 7 1 3).stateRevision < (readyEnvelope 7 3 4).stateRevision := by
  have hopen : ∀ j, 0 < j → j < 3 → ∀ epoch, removalRun j ≠ .disconnect epoch := by
    intro j hpos hj epoch
    obtain rfl | rfl : j = 1 ∨ j = 2 := by omega
    · nofun
    · nofun
  have horder := adopted_in_order removalRun (e := readyEnvelope 7 1 3) (by decide) rfl rfl hopen
  exact ⟨rfl, horder.2.2⟩

theorem Replaced.kept {old new : UInt64} {m m' : GuiServiceModel} {event : ModelEvent}
    (h : Replaced old new m) (hkept : m.Kept m' event) : Replaced old new m' :=
  ⟨hkept.instanceId.trans h.instanceId, hkept.retired.trans h.retired⟩

/-- **A replaced service instance stays replaced.**  Once an envelope of another instance has
taken the place of the one on show, an envelope of the old instance is adopted again only after
one of a third. -/
theorem replaced_instance_rejected (ev : Nat → ModelEvent) {i k : Nat} {c c' : UInt64}
    {e e' : ServiceStateEnvelope} (hik : i < k) (hfirst : adoptedAt ev i = some (c, e))
    (hshown : (machine.stateAt ev i).serviceInstanceId ≠ 0)
    (hnew : e.serviceInstanceId ≠ (machine.stateAt ev i).serviceInstanceId)
    (hsecond : adoptedAt ev k = some (c', e'))
    (hold : e'.serviceInstanceId = (machine.stateAt ev i).serviceInstanceId) :
    ∃ j c'' e'', i < j ∧ j < k ∧ adoptedAt ev j = some (c'', e'') ∧
      e''.serviceInstanceId ≠ e.serviceInstanceId ∧
      e''.serviceInstanceId ≠ e'.serviceInstanceId := by
  have hentry : Replaced (machine.stateAt ev i).serviceInstanceId e.serviceInstanceId
      (machine.stateAt ev (i + 1)) := by
    rcases position_cases ev i with ⟨epoch, e'', h, haccepts, hstate⟩ | ⟨hnone, -⟩
    · obtain ⟨rfl, rfl⟩ := Prod.mk.inj (Option.some.inj (h.symm.trans hfirst))
      rw [hstate]
      exact ⟨rfl, accepted_retired_of_ne haccepts hshown hnew⟩
    · simp [hnone] at hfirst
  have hexit : ¬Replaced (machine.stateAt ev i).serviceInstanceId e.serviceInstanceId
      (machine.stateAt ev k) := by
    intro h
    rcases position_cases ev k with ⟨epoch, e'', hadopted, haccepts, -⟩ | ⟨hnone, -⟩
    · obtain ⟨rfl, rfl⟩ := Prod.mk.inj (Option.some.inj (hadopted.symm.trans hsecond))
      exact haccepts.notRetired (hold.trans h.retired.symm)
    · simp [hnone] at hsecond
  obtain ⟨j, hij, hjk, hreplaced, hover⟩ := Crossing.exists_exit
    (Q := fun n => Replaced (machine.stateAt ev i).serviceInstanceId e.serviceInstanceId
      (machine.stateAt ev n)) hik hentry hexit
  rcases position_cases ev j with ⟨epoch, e'', hadopted, haccepts, hstate⟩ | ⟨-, hkept⟩
  · refine ⟨j, epoch, e'', hij, hjk, hadopted, fun hsame => hover ?_, fun hsame => ?_⟩
    · rw [hstate]
      exact ⟨hsame, (accepted_retired_of_same (hsame.trans hreplaced.instanceId.symm)).trans
        hreplaced.retired⟩
    · exact haccepts.notRetired (hsame.trans (hold.trans hreplaced.retired.symm))
  · exact absurd (hreplaced.kept hkept) hover

/-- The service is replaced twice, and its first instance answers again. -/
def replacedRun : Nat → ModelEvent
  | 0 => .envelope 1 (readyEnvelope 7 1 3)
  | 2 => .envelope 1 (readyEnvelope 8 1 1)
  | 4 => .envelope 1 (readyEnvelope 9 1 1)
  | 6 => .envelope 1 (readyEnvelope 7 2 3)
  | _ => .disconnect 1

theorem replaced_instance_rejected_replacedRun :
    ∃ j c e, 2 < j ∧ j < 6 ∧ adoptedAt replacedRun j = some (c, e) ∧
      e.serviceInstanceId ≠ 8 ∧ e.serviceInstanceId ≠ 7 :=
  have hfirst : adoptedAt replacedRun 2 = some (1, readyEnvelope 8 1 1) := rfl
  have hsecond : adoptedAt replacedRun 6 = some (1, readyEnvelope 7 2 3) := rfl
  replaced_instance_rejected replacedRun (by decide) hfirst (by decide) (by decide) hsecond
    (by decide)

end Runs

end GuiServiceModel

end GreenCurve.Gui
