import GreenCurve.DriverRecoveryFlow

/-! # Safety of the driver-recovery flow

Whatever the callbacks answer, each of the three flows returns with the runtime
lock released, writes only behind its five gates, keeps the evidence of a recovery
until the write succeeded, and hands a failed write to the reducer once. -/

namespace GreenCurve.DriverRecovery

/-! ## What is asked of a trace -/

/-- How often the runtime lock was taken and not released.  An update install that
takes the runtime releases it. -/
def lockDepth : List Call → Int
  | [] => 0
  | .lockRuntime :: past => lockDepth past + 1
  | .unlockRuntime :: past => lockDepth past - 1
  | .updateInstallTakesRuntime true :: past => lockDepth past - 1
  | _ :: past => lockDepth past

/-- The hardware write. -/
def isApply : Call → Bool
  | .applyFullIntent _ _ => true
  | _ => false

/-- Commits or retires the evidence a recovery is restarted from. -/
def SettlesEvidence : Call → Prop
  | .commitProof _ _ | .publishRecoveredProfile | .writeRestartSnapshot
  | .retireControlledRecovery => True
  | _ => False

/-- The reducer authorises the write. -/
def Authorizes (call : Call) : Prop :=
  ∃ decision, call = .reduce writeStartedEvent decision ∧ decision.authorizeDriverWrite = true

/-- The hardware write reports success. -/
def Succeeds (call : Call) : Prop := ∃ attempted, call = .applyFullIntent true attempted

/-- The reducer is told of a write that was attempted and failed. -/
def ReportsFailure (call : Call) : Prop :=
  ∃ result, call = .finishWrite (writeFinishedEvent false true) result

/-- A safe trace, newest call first. -/
structure FlowSafe (trace : List Call) : Prop where
  lock_released : lockDepth trace = 0
  apply_validated : Guarded (isApply · = true) (· = .controlledRecoveryValidated true) trace
  apply_proven : Guarded (isApply · = true) (· = .proofAllows true) trace
  apply_owned : Guarded (isApply · = true) (· = .hasOwnedIntent true) trace
  apply_ready : Guarded (isApply · = true) (· = .gpuReady true) trace
  apply_authorized : Guarded (isApply · = true) Authorizes trace
  evidence_kept : Guarded SettlesEvidence Succeeds trace
  apply_once : trace.countP isApply ≤ 1
  /-- Read from the oldest call on: the report comes after the write. -/
  failure_reported : Guarded (· = .applyFullIntent false true) ReportsFailure trace.reverse

/-! ## Traces without a write -/

/-- The call neither writes nor settles evidence. -/
def Harmless (call : Call) : Prop := isApply call = false ∧ ¬ SettlesEvidence call

/-- The calls that neither write nor settle evidence. -/
def harmless : Call → Bool
  | .applyFullIntent _ _ | .commitProof _ _ | .publishRecoveredProfile | .writeRestartSnapshot
  | .retireControlledRecovery => false
  | _ => true

theorem harmless_of_all {trace : List Call} (h : trace.all harmless = true) :
    ∀ call ∈ trace, Harmless call := by
  intro call hcall
  have hharmless := List.all_eq_true.mp h call hcall
  cases call <;> first
    | exact ⟨rfl, id⟩
    | cases hharmless

theorem FlowSafe.of_harmless {trace : List Call} (h : ∀ call ∈ trace, Harmless call)
    (hlock : lockDepth trace = 0) : FlowSafe trace where
  lock_released := hlock
  apply_validated := guarded_of_forall_not fun call hcall => Bool.eq_false_iff.mp (h call hcall).1
  apply_proven := guarded_of_forall_not fun call hcall => Bool.eq_false_iff.mp (h call hcall).1
  apply_owned := guarded_of_forall_not fun call hcall => Bool.eq_false_iff.mp (h call hcall).1
  apply_ready := guarded_of_forall_not fun call hcall => Bool.eq_false_iff.mp (h call hcall).1
  apply_authorized := guarded_of_forall_not fun call hcall => Bool.eq_false_iff.mp (h call hcall).1
  evidence_kept := guarded_of_forall_not fun call hcall => (h call hcall).2
  apply_once := by
    have hcount : trace.countP isApply = 0 :=
      List.countP_eq_zero.mpr fun call hcall => by simpa using (h call hcall).1
    omega
  failure_reported := by
    refine guarded_of_forall_not fun call hcall => ?_
    rintro rfl
    exact Bool.false_ne_true (h _ (List.mem_reverse.mp hcall)).1.symm

/-- Calls made since `past` that leave the lock as it is, and do no harm. -/
def QuietSince (past trace : List Call) : Prop :=
  ∃ new, trace = new ++ past ∧ (∀ call ∈ new, Harmless call) ∧ lockDepth trace = lockDepth past

section Queue
open Flow
variable {σ : Type} (ops : Ops σ)

theorem driverRecoveryQueue_quiet (spamThreshold : Nat) (past : List Call) :
    Ensures (driverRecoveryQueue ops spamThreshold) (fun _ trace => QuietSince past trace)
      past := by
  refine ensures_call_bind fun answer => ?_
  obtain ⟨allowed, lockoutReason, proofAgeMs⟩ := answer
  cases allowed with
  | false =>
    refine ensures_tell_bind (ensures_bind (ensures_call_bind fun decision => ?_))
    exact ensures_pure (ensures_pure ⟨[_, _, _], rfl, harmless_of_all rfl, rfl⟩)
  | true =>
    refine ensures_call_bind fun recentRecoveries => ?_
    by_cases hspam : recentRecoveries ≥ spamThreshold
    · rw [if_pos hspam]
      refine ensures_tell_bind (ensures_bind (ensures_call_bind fun decision => ?_))
      exact ensures_pure (ensures_pure ⟨[_, _, _, _], rfl, harmless_of_all rfl, rfl⟩)
    · rw [if_neg hspam]
      refine ensures_call_bind fun decision => ensures_tell_bind ?_
      cases hwake : decision.wakeWorker with
      | true =>
        exact ensures_tell_bind (ensures_pure ⟨[_, _, _, _, _], rfl, harmless_of_all rfl, rfl⟩)
      | false =>
        exact ensures_pure ⟨[_, _, _, _], rfl, harmless_of_all rfl, rfl⟩

theorem QuietSince.cons {past trace : List Call} (h : QuietSince past trace) {call : Call}
    (hcall : Harmless call) (hdepth : lockDepth (call :: trace) = lockDepth trace) :
    QuietSince past (call :: trace) := by
  obtain ⟨new, rfl, hnew, hlock⟩ := h
  exact ⟨call :: new, rfl, List.forall_mem_cons.mpr ⟨hcall, hnew⟩, hdepth.trans hlock⟩

theorem QuietSince.flowSafe {past trace : List Call} (h : QuietSince past trace)
    (hpast : ∀ call ∈ past, Harmless call) (hlock : lockDepth past = 0) : FlowSafe trace := by
  obtain ⟨new, rfl, hnew, hdepth⟩ := h
  refine .of_harmless (fun call hcall => ?_) (hdepth.trans hlock)
  rcases List.mem_append.mp hcall with hcall | hcall
  · exact hnew call hcall
  · exact hpast call hcall

theorem driverRecoveryQueue_safe (spamThreshold : Nat) (s : σ) :
    FlowSafe ((driverRecoveryQueue ops spamThreshold).calls s) := by
  refine Ensures.calls ((driverRecoveryQueue_quiet ops spamThreshold []).mono ?_) s
  intro report trace hquiet
  exact hquiet.flowSafe (fun _ h => absurd h List.not_mem_nil) rfl

theorem driverRecoveryArm_safe (spamThreshold : Nat) (s : σ) :
    FlowSafe ((driverRecoveryArm ops spamThreshold).calls s) := by
  refine Ensures.calls ?_ s
  refine ensures_call_bind fun validated => ?_
  cases validated with
  | false =>
    exact ensures_pure (.of_harmless (harmless_of_all rfl) rfl)
  | true =>
    refine ensures_tell_bind (ensures_tell_bind (ensures_tell_bind (ensures_bind ?_)))
    refine (driverRecoveryQueue_quiet ops spamThreshold _).mono fun queue trace hquiet => ?_
    have hpast : ∀ call ∈ [Call.unlockRuntime, .publishProvisionalIntent, .lockRuntime,
        .controlledRecoveryValidated true], Harmless call := harmless_of_all rfl
    cases hwake : queue.wake with
    | true => exact ensures_pure (hquiet.flowSafe hpast rfl)
    | false =>
      refine ensures_call_bind fun lockedOut => ?_
      have hasked : QuietSince _ (Call.autoRestoreLockedOut lockedOut :: trace) :=
        hquiet.cons ⟨rfl, id⟩ rfl
      cases lockedOut with
      | false =>
        refine ensures_tell_bind (ensures_tell_bind (ensures_pure ?_))
        exact ((hasked.cons ⟨rfl, id⟩ rfl).cons ⟨rfl, id⟩ rfl).flowSafe hpast rfl
      | true =>
        refine ensures_tell_bind (ensures_tell_bind (ensures_pure ?_))
        exact ((hasked.cons ⟨rfl, id⟩ rfl).cons ⟨rfl, id⟩ rfl).flowSafe hpast rfl

/-! ## The write -/

/-- The calls before an authorised write. -/
def gates (decision : ServiceLifecycleDecision) : List Call :=
  [.reduce writeStartedEvent decision, .gpuReady true, .hasOwnedIntent true, .proofAllows true,
    .controlledRecoveryValidated true, .updateInstallTakesRuntime false, .lockRuntime,
    .driverRestorePending true]

/-- The calls up to an authorised write to a target that is current. -/
def beforeWrite (decision : ServiceLifecycleDecision) (preserve : Bool) : List Call :=
  .writeTargetCurrent true :: .captureMatureProof preserve :: .prepareWrite :: gates decision

/-- A trace whose only write came behind the gates, and what was called after it. -/
theorem FlowSafe.of_write {decision : ServiceLifecycleDecision} {preserve success attempted : Bool}
    (later : List Call) (hauth : decision.authorizeDriverWrite = true)
    (honce : later.any isApply = false)
    (hlock : lockDepth (later ++ .applyFullIntent success attempted ::
      beforeWrite decision preserve) = 0)
    (hevidence : success = true ∨ ∀ call ∈ later, ¬ SettlesEvidence call)
    (hreported : success = false → attempted = true → ∃ call ∈ later, ReportsFailure call) :
    FlowSafe (later ++ .applyFullIntent success attempted :: beforeWrite decision preserve) := by
  have hbefore : ∀ call ∈ beforeWrite decision preserve, Harmless call := harmless_of_all rfl
  have hlater := List.any_eq_false.mp honce
  have hsole : ∀ {guard : Call → Prop}, (∃ call ∈ beforeWrite decision preserve, guard call) →
      Guarded (isApply · = true) guard
        (later ++ .applyFullIntent success attempted :: beforeWrite decision preserve) :=
    fun hguard => guarded_sole hlater hguard fun call hcall =>
      Bool.eq_false_iff.mp (hbefore call hcall).1
  refine ⟨hlock, hsole ⟨_, ?_, rfl⟩, hsole ⟨_, ?_, rfl⟩, hsole ⟨_, ?_, rfl⟩, hsole ⟨_, ?_, rfl⟩,
    hsole ⟨_, ?_, decision, rfl, hauth⟩, ?_, ?_, ?_⟩
  · simp [beforeWrite, gates]
  · simp [beforeWrite, gates]
  · simp [beforeWrite, gates]
  · simp [beforeWrite, gates]
  · simp [beforeWrite, gates]
  · refine Guarded.append ⟨fun hsettles => hsettles.elim, ?_⟩ ?_
    · exact guarded_of_forall_not fun call hcall => (hbefore call hcall).2
    · exact hevidence.imp_left fun hsuccess =>
        ⟨_, List.mem_cons_self, attempted, by rw [hsuccess]⟩
  · have hpast : (beforeWrite decision preserve).countP isApply = 0 :=
      List.countP_eq_zero.mpr fun call hcall => Bool.eq_false_iff.mp (hbefore call hcall).1
    rw [List.countP_append, List.countP_cons, List.countP_eq_zero.mpr hlater, hpast]
    exact Nat.le_refl 1
  · rw [List.reverse_append, List.reverse_cons, List.append_assoc]
    refine Guarded.append ⟨fun hfailed => ?_, ?_⟩ (.inr fun call hcall => ?_)
    · obtain ⟨rfl, rfl⟩ := Call.applyFullIntent.inj hfailed
      obtain ⟨call, hcall, hreport⟩ := hreported rfl rfl
      exact ⟨call, List.mem_reverse.mpr hcall, hreport⟩
    · refine guarded_of_forall_not fun call hcall => ?_
      rintro rfl
      exact hlater _ (List.mem_reverse.mp hcall) rfl
    · rintro rfl
      exact Bool.false_ne_true (hbefore _ (List.mem_reverse.mp hcall)).1.symm

theorem driverRestoreWrite_safe {decision : ServiceLifecycleDecision}
    (h : decision.authorizeDriverWrite = true) :
    Ensures (driverRestoreWrite ops) (fun _ trace => FlowSafe trace) (gates decision) := by
  refine ensures_tell_bind (ensures_call_bind fun proof => ?_)
  refine ensures_bind (ensures_call_bind fun current => ?_)
  cases current with
  | false =>
    refine ensures_pure (ensures_bind (ensures_pure ?_))
    refine ensures_tell_bind (ensures_call_bind fun result => ensures_tell_bind (ensures_pure ?_))
    exact .of_harmless (harmless_of_all rfl) rfl
  | true =>
    rw [if_pos rfl]
    refine ensures_call fun answer => ?_
    obtain ⟨success, detail, writeAttempted⟩ := answer
    refine ensures_bind ?_
    cases success with
    | true =>
      refine ensures_tell_bind (ensures_call_bind fun committed => ?_)
      refine ensures_tell_bind (ensures_tell_bind (ensures_tell_bind (ensures_pure ?_)))
      refine ensures_tell_bind (ensures_call_bind fun result => ensures_tell_bind ?_)
      refine ensures_tell_bind (ensures_pure ?_)
      exact .of_write [_, _, _, _, _, _, _, _, _] h rfl rfl (.inl rfl) nofun
    | false =>
      cases writeAttempted with
      | true =>
        refine ensures_tell_bind (ensures_pure ?_)
        refine ensures_tell_bind (ensures_call_bind fun result => ensures_tell_bind (ensures_pure ?_))
        refine .of_write [_, _, _, _] h rfl rfl (.inr fun call hcall => ?_) fun _ _ => ?_
        · exact (harmless_of_all rfl call hcall).2
        · exact ⟨.finishWrite (writeFinishedEvent false true) result, by simp, result, rfl⟩
      | false =>
        refine ensures_pure ?_
        refine ensures_tell_bind (ensures_call_bind fun result => ensures_tell_bind (ensures_pure ?_))
        exact .of_write [_, _, _] h rfl rfl (.inr fun call hcall => (harmless_of_all rfl call hcall).2)
          nofun

theorem driverRestoreAttempt_safe (s : σ) : FlowSafe ((driverRestoreAttempt ops).calls s) := by
  refine Ensures.calls ?_ s
  refine ensures_call_bind fun pending => ?_
  cases pending with
  | false => exact ensures_pure (.of_harmless (harmless_of_all rfl) rfl)
  | true =>
  refine ensures_tell_bind (ensures_call_bind fun released => ?_)
  cases released with
  | true => exact ensures_pure (.of_harmless (harmless_of_all rfl) rfl)
  | false =>
  refine ensures_call_bind fun validated => ?_
  cases validated with
  | false =>
    exact ensures_tell_bind (ensures_pure (.of_harmless (harmless_of_all rfl) rfl))
  | true =>
  refine ensures_call_bind fun proof => ?_
  obtain ⟨allowed, lockoutReason, proofAgeMs⟩ := proof
  cases allowed with
  | false =>
    refine ensures_tell_bind (ensures_bind (ensures_call_bind fun decision => ?_))
    exact ensures_pure (ensures_tell_bind (ensures_pure (.of_harmless (harmless_of_all rfl) rfl)))
  | true =>
  refine ensures_call_bind fun owned => ?_
  cases owned with
  | false =>
    exact ensures_tell_bind (ensures_tell_bind (ensures_pure (.of_harmless (harmless_of_all rfl) rfl)))
  | true =>
  refine ensures_call_bind fun readiness => ?_
  obtain ⟨ready, detail⟩ := readiness
  cases ready with
  | false =>
    exact ensures_tell_bind (ensures_pure (.of_harmless (harmless_of_all rfl) rfl))
  | true =>
  refine ensures_call_bind fun decision => ?_
  cases hauth : decision.authorizeDriverWrite with
  | false =>
    exact ensures_tell_bind (ensures_pure (.of_harmless (harmless_of_all rfl) rfl))
  | true =>
    exact driverRestoreWrite_safe ops hauth

/-- To the reducer a write that was attempted and failed is over: the recovery is
no longer pending, so it authorises no further write for it. -/
theorem reduce_failure_terminal {lifecycle : ServiceLifecycleState}
    (hrun : lifecycle.stopped = false) (hpending : lifecycle.driverPending = true)
    (hissued : lifecycle.driverWriteIssued = true) :
    (serviceLifecycleReduce lifecycle (writeFinishedEvent false true)).1.driverPending = false ∧
      (serviceLifecycleReduce lifecycle (writeFinishedEvent false true)).2.result = .failed := by
  simp [serviceLifecycleReduce, reduceRunning, reduceDriverWriteFinished, writeFinishedEvent,
    hrun, hpending, hissued]

/-- **Safety of the driver-recovery flow**, for every implementation of its
callbacks from every state: the three flows release the runtime lock as often as
they take it; the hardware write comes after the validation, the proof, the owned
intent, the ready GPU and the authorisation of the same call, and at most once;
evidence is settled only after a write that succeeded; and a write that was
attempted and failed is reported to the reducer, which ends the recovery. -/
theorem driver_recovery_flow_safe (spamThreshold : Nat) (s : σ) :
    FlowSafe ((driverRecoveryQueue ops spamThreshold).calls s) ∧
      FlowSafe ((driverRecoveryArm ops spamThreshold).calls s) ∧
      FlowSafe ((driverRestoreAttempt ops).calls s) ∧
      ∀ lifecycle : ServiceLifecycleState, lifecycle.stopped = false →
        lifecycle.driverPending = true → lifecycle.driverWriteIssued = true →
        let reduced := serviceLifecycleReduce lifecycle (writeFinishedEvent false true)
        reduced.1.driverPending = false ∧ reduced.2.result = .failed :=
  ⟨driverRecoveryQueue_safe ops spamThreshold s, driverRecoveryArm_safe ops spamThreshold s,
    driverRestoreAttempt_safe ops s, fun _ hrun hpending hissued =>
      reduce_failure_terminal hrun hpending hissued⟩

end Queue

end GreenCurve.DriverRecovery
