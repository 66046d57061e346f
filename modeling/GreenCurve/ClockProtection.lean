import GreenCurve.BackendFrame

/-! # Clock protection over a transaction

A transition that must not be run uncapped writes nothing until the driver has
accepted its clamp, or has none for a request whose final state needs no pin.  Once
accepted, the clamp stays at or below what both profiles are entitled to until the
lock phase hands over, through every phase and through the rollback.

The bound a rollback restores under is never above the clamp of the plan: the plan
takes the lower of the incoming lock and the outgoing ceiling, and the rollback the
lower of that and the outgoing ceiling again. -/

namespace GreenCurve.Backend

open CrashM

/-! ## What is asked of a trace -/

/-- A clamp at `maxMHz` that the driver accepted. -/
def AcceptsClamp (maxMHz : Nat) (event : DriverEvent) : Prop :=
  ∃ minMHz, event = .clamp minMHz maxMHz true

/-- Every planned transition that requires a clamp has one, or the driver supports
none and the final state needs no pin. -/
def Covered (past : List DriverEvent) : Prop :=
  ∀ plan outgoingMHz, .planned plan outgoingMHz ∈ past → plan.required = true →
    (∃ maxMHz, ∃ call ∈ past, AcceptsClamp maxMHz call) ∨
      (.armSettled .unsupported ∈ past ∧
        (plan.reason = .resetDropsCap ∨ plan.reason = .requestedFlatten))

/-- The lock phase, which hands over, has not begun. -/
def BeforeLock (past : List DriverEvent) : Prop := .began .lock ∉ past

/-- What may be called after the calls `past`. -/
def Permitted (d : DesiredSettings) (past : List DriverEvent) : DriverEvent → Prop
  | .wrote _ _ => Covered past
  | .released _ =>
    Covered past ∧ (BeforeLock past → ∀ maxMHz, ∀ call ∈ past, ¬ AcceptsClamp maxMHz call)
  | .clamp _ maxMHz true =>
    BeforeLock past →
      (incomingLock d = true → maxMHz ≤ d.lockMHz) ∧
      (∃ plan outgoingMHz, .planned plan outgoingMHz ∈ past ∧ maxMHz ≤ outgoingMHz) ∧
      ∀ earlierMHz, ∀ call ∈ past, AcceptsClamp earlierMHz call → maxMHz ≤ earlierMHz
  | _ => True

/-- Every call of a trace, newest first, was permitted by the calls before it. -/
def ClockProtected (d : DesiredSettings) : List DriverEvent → Prop
  | [] => True
  | newest :: past => Permitted d past newest ∧ ClockProtected d past

/-! ## What the plan says -/

/-- The bound of a rollback under a plan. -/
def planBound (plan : ApplyClockCeilingPlan) (outgoingMHz : Nat) : Nat :=
  lowerBound outgoingMHz plan.ceilingMHz

/-- A plan within both profiles. -/
structure PlanWithin (d : DesiredSettings) (plan : ApplyClockCeilingPlan) (outgoingMHz : Nat) :
    Prop where
  of_lock : incomingLock d = true → 0 < plan.ceilingMHz ∧ plan.ceilingMHz ≤ d.lockMHz
  le_outgoing : plan.ceilingMHz ≤ outgoingMHz
  arm_pos : plan.arm = true → 0 < plan.ceilingMHz
  of_unrequired : plan.required = false → plan = {}

namespace PlanWithin

variable {d : DesiredSettings} {plan : ApplyClockCeilingPlan} {outgoingMHz : Nat}

theorem bound_le_outgoing (h : PlanWithin d plan outgoingMHz) :
    planBound plan outgoingMHz ≤ outgoingMHz := by
  unfold planBound lowerBound
  have := h.le_outgoing
  split <;> omega

theorem bound_le_lock (h : PlanWithin d plan outgoingMHz) (hlock : incomingLock d = true) :
    planBound plan outgoingMHz ≤ d.lockMHz := by
  obtain ⟨hpos, hle⟩ := h.of_lock hlock
  exact (lowerBound_le_right hpos).trans hle

theorem bound_le_ceiling (harm : 0 < plan.ceilingMHz) :
    planBound plan outgoingMHz ≤ plan.ceilingMHz := lowerBound_le_right harm

end PlanWithin

/-- The plan of a request, where an incoming lock finds a curve to bound it with. -/
theorem planWithin {gpu : LinuxGpuState} {d : DesiredSettings}
    {committed : Option DesiredSettings}
    (houtgoing : incomingLock d = true → 0 < linuxOutgoingCeilingMHz gpu committed) :
    PlanWithin d (linuxApplyClockCeilingPlan gpu d committed)
      (linuxOutgoingCeilingMHz gpu committed) := by
  unfold linuxApplyClockCeilingPlan applyClockCeilingPlan
  generalize linuxOutgoingCeilingMHz gpu committed = outgoing at houtgoing ⊢
  by_cases howns : serviceRequestReplacesLockDomain d = true
  · cases hlock : incomingLock d with
    | true =>
      have hpos := houtgoing hlock
      obtain ⟨⟨hhas, hmode⟩, hmhz⟩ : (d.hasLock = true ∧ d.lockMode ≠ .none) ∧ d.lockMHz > 0 := by
        simpa [incomingLock] using hlock
      have hbound : lowerBound d.lockMHz outgoing ≠ 0 := by
        unfold lowerBound
        split <;> omega
      have hle : lowerBound d.lockMHz outgoing ≤ d.lockMHz := lowerBound_le_left hmhz
      have hle' : lowerBound d.lockMHz outgoing ≤ outgoing := lowerBound_le_right hpos
      simp only [howns, hhas, hmode, hmhz, Bool.not_true, Bool.false_eq_true, if_false, ne_eq,
        not_false_eq_true, decide_true, Bool.and_self, Bool.false_and, if_true, hbound]
      exact ⟨fun _ => ⟨Nat.pos_of_ne_zero hbound, hle⟩, hle', fun _ => Nat.pos_of_ne_zero hbound,
        by simp⟩
    | false =>
      have hincoming : (d.hasLock && decide (d.lockMode ≠ .none) && decide (d.lockMHz > 0)) =
          false := hlock
      simp only [howns, hincoming, Bool.not_true, Bool.false_eq_true, if_false]
      split
      · exact ⟨by simp [hlock], Nat.zero_le _, by simp, fun _ => rfl⟩
      · by_cases hzero : lowerBound 0 outgoing = 0
        · simp only [hzero, if_true]
          exact ⟨by simp [hlock], Nat.zero_le _, by simp, by simp⟩
        · simp only [hzero, if_false]
          have hle : lowerBound 0 outgoing ≤ outgoing := by
            unfold lowerBound
            split <;> omega
          exact ⟨by simp [hlock], hle, fun _ => Nat.pos_of_ne_zero hzero, by simp⟩
  · have hlock : incomingLock d = false := by
      have : d.hasLock = false := by
        simp only [serviceRequestReplacesLockDomain, Bool.or_eq_true, not_or,
          Bool.not_eq_true] at howns
        exact howns.1.2
      simp [incomingLock, this]
    simp only [howns, Bool.not_eq_true] at *
    exact ⟨by simp [hlock], Nat.zero_le _, by simp, fun _ => rfl⟩

/-! ## The invariant of a transaction -/

section Invariant
variable {d : DesiredSettings} {plan : ApplyClockCeilingPlan} {outgoingMHz : Nat}

/-- The transition is planned; its clamps, if any, are at least the bound a rollback
restores under. -/
structure Planned (d : DesiredSettings) (plan : ApplyClockCeilingPlan) (outgoingMHz : Nat)
    (s : BackendState) : Prop where
  within : PlanWithin d plan outgoingMHz
  permitted : ClockProtected d s.trace
  mem : .planned plan outgoingMHz ∈ s.trace
  only : ∀ plan' outgoing', .planned plan' outgoing' ∈ s.trace → plan' = plan
  bounded : BeforeLock s.trace → ∀ maxMHz, ∀ call ∈ s.trace, AcceptsClamp maxMHz call →
    planBound plan outgoingMHz ≤ maxMHz
  plan_eq : s.ceiling.plan = plan
  outgoing_eq : s.ceiling.outgoingCeilingMHz = outgoingMHz

/-- The transition may write. -/
structure Writable (d : DesiredSettings) (plan : ApplyClockCeilingPlan) (outgoingMHz : Nat)
    (s : BackendState) : Prop extends Planned d plan outgoingMHz s where
  covered : Covered s.trace

/-- The transition may write, and a clamp it holds is known. -/
structure Shielded (d : DesiredSettings) (plan : ApplyClockCeilingPlan) (outgoingMHz : Nat)
    (s : BackendState) : Prop extends Writable d plan outgoingMHz s where
  noted : BeforeLock s.trace → ∀ maxMHz, ∀ call ∈ s.trace, AcceptsClamp maxMHz call →
    s.ceiling.armed = true

theorem Covered.cons {past : List DriverEvent} {event : DriverEvent} (h : Covered past)
    (hevent : ∀ plan' outgoing', event ≠ .planned plan' outgoing') : Covered (event :: past) := by
  intro plan' outgoing' hmem hrequired
  rcases List.mem_cons.mp hmem with hnew | hold
  · exact absurd hnew.symm (hevent _ _)
  · rcases h plan' outgoing' hold hrequired with ⟨maxMHz, call, hcall, hclamp⟩ | ⟨harm, hreason⟩
    · exact .inl ⟨maxMHz, call, List.mem_cons_of_mem _ hcall, hclamp⟩
    · exact .inr ⟨List.mem_cons_of_mem _ harm, hreason⟩

theorem BeforeLock.tail {past : List DriverEvent} {event : DriverEvent}
    (h : BeforeLock (event :: past)) : BeforeLock past :=
  fun hmem => h (List.mem_cons_of_mem _ hmem)

/-- A call that is permitted and clamps no lower than a rollback. -/
theorem Planned.log {s : BackendState} {event : DriverEvent}
    (h : Planned d plan outgoingMHz s) (hperm : Permitted d s.trace event)
    (hplan : ∀ plan' outgoing', event ≠ .planned plan' outgoing')
    (hclamp : BeforeLock s.trace → ∀ maxMHz, AcceptsClamp maxMHz event →
      planBound plan outgoingMHz ≤ maxMHz) :
    Planned d plan outgoingMHz (s.log event) where
  within := h.within
  permitted := ⟨hperm, h.permitted⟩
  mem := List.mem_cons_of_mem _ h.mem
  only := by
    intro plan' outgoing' hmem
    rcases List.mem_cons.mp hmem with hnew | hold
    · exact absurd hnew.symm (hplan _ _)
    · exact h.only plan' outgoing' hold
  bounded := by
    intro hlock maxMHz call hmem hcall
    rcases List.mem_cons.mp hmem with rfl | hold
    · exact hclamp hlock.tail maxMHz hcall
    · exact h.bounded hlock.tail maxMHz call hold hcall
  plan_eq := h.plan_eq
  outgoing_eq := h.outgoing_eq

/-- Calls other than plans and clamps. -/
def Plain : DriverEvent → Prop
  | .planned _ _ | .clamp _ _ true => False
  | _ => True

theorem Plain.not_planned {event : DriverEvent} (h : Plain event) (plan' : ApplyClockCeilingPlan)
    (outgoing' : Nat) : event ≠ .planned plan' outgoing' := by
  rintro rfl
  exact h

theorem Plain.not_clamp {event : DriverEvent} (h : Plain event) (maxMHz : Nat) :
    ¬ AcceptsClamp maxMHz event := by
  rintro ⟨minMHz, rfl⟩
  exact h

theorem Planned.log_plain {s : BackendState} {event : DriverEvent}
    (h : Planned d plan outgoingMHz s) (hperm : Permitted d s.trace event) (hplain : Plain event) :
    Planned d plan outgoingMHz (s.log event) :=
  h.log hperm hplain.not_planned fun _ maxMHz hclamp => absurd hclamp (hplain.not_clamp maxMHz)

theorem Writable.log_plain {s : BackendState} {event : DriverEvent}
    (h : Writable d plan outgoingMHz s) (hperm : Permitted d s.trace event)
    (hplain : Plain event) : Writable d plan outgoingMHz (s.log event) where
  toPlanned := h.toPlanned.log_plain hperm hplain
  covered := h.covered.cons hplain.not_planned

theorem Shielded.log_plain {s : BackendState} {event : DriverEvent}
    (h : Shielded d plan outgoingMHz s) (hperm : Permitted d s.trace event)
    (hplain : Plain event) : Shielded d plan outgoingMHz (s.log event) where
  toWritable := h.toWritable.log_plain hperm hplain
  noted := by
    intro hlock maxMHz call hmem hcall
    rcases List.mem_cons.mp hmem with rfl | hold
    · exact absurd hcall (hplain.not_clamp maxMHz)
    · exact h.noted hlock.tail maxMHz call hold hcall

/-- What the invariants read of a state. -/
theorem Planned.of_eq {s s' : BackendState} (h : Planned d plan outgoingMHz s)
    (htrace : s'.trace = s.trace) (hplan : s'.ceiling.plan = s.ceiling.plan)
    (houtgoing : s'.ceiling.outgoingCeilingMHz = s.ceiling.outgoingCeilingMHz) :
    Planned d plan outgoingMHz s' where
  within := h.within
  permitted := htrace ▸ h.permitted
  mem := htrace ▸ h.mem
  only := htrace ▸ h.only
  bounded := htrace ▸ h.bounded
  plan_eq := hplan.trans h.plan_eq
  outgoing_eq := houtgoing.trans h.outgoing_eq

theorem Writable.of_eq {s s' : BackendState} (h : Writable d plan outgoingMHz s)
    (htrace : s'.trace = s.trace) (hplan : s'.ceiling.plan = s.ceiling.plan)
    (houtgoing : s'.ceiling.outgoingCeilingMHz = s.ceiling.outgoingCeilingMHz) :
    Writable d plan outgoingMHz s' where
  toPlanned := h.toPlanned.of_eq htrace hplan houtgoing
  covered := htrace ▸ h.covered

theorem Shielded.of_eq {s s' : BackendState} (h : Shielded d plan outgoingMHz s)
    (htrace : s'.trace = s.trace) (hceiling : s'.ceiling = s.ceiling) :
    Shielded d plan outgoingMHz s' where
  toWritable := h.toWritable.of_eq htrace (by rw [hceiling]) (by rw [hceiling])
  noted := by
    rw [htrace, hceiling]
    exact h.noted

/-- Setters are called only while the transition is covered. -/
theorem Writable.quiet {s s' : BackendState} (h : Writable d plan outgoingMHz s)
    (hframe : Quiet s s') :
    Writable d plan outgoingMHz s' := by
  obtain ⟨news, htrace, hnews⟩ := hframe.trace
  have hwrites : ∀ news : List DriverEvent, (∀ event ∈ news, IsWrite event) →
      Writable d plan outgoingMHz { s with trace := news ++ s.trace } := by
    intro news
    induction news with
    | nil => exact fun _ => h
    | cons event news ih =>
      intro hnews
      obtain ⟨⟨domain, accepted, rfl⟩, hrest⟩ := List.forall_mem_cons.mp hnews
      show Writable d plan outgoingMHz
        (BackendState.log { s with trace := news ++ s.trace } (.wrote domain accepted))
      exact (ih hrest).log_plain (ih hrest).covered trivial
  exact (hwrites news hnews).of_eq htrace (by rw [hframe.ceiling]) (by rw [hframe.ceiling])

theorem Shielded.quiet {s s' : BackendState} (h : Shielded d plan outgoingMHz s)
    (hframe : Quiet s s') : Shielded d plan outgoingMHz s' where
  toWritable := h.toWritable.quiet hframe
  noted := by
    obtain ⟨news, htrace, hnews⟩ := hframe.trace
    rw [htrace, hframe.ceiling]
    intro hlock maxMHz call hmem hcall
    rcases List.mem_append.mp hmem with hnew | hold
    · obtain ⟨domain, accepted, rfl⟩ := hnews call hnew
      obtain ⟨minMHz, hclamp⟩ := hcall
      cases hclamp
    · exact h.noted (fun hmem => hlock (List.mem_append_right _ hmem)) maxMHz call hold hcall

/-! ## Arming -/

/-- Where a crash may leave the trace, and where a transaction ends. -/
def ProtectedState (d : DesiredSettings) (s : BackendState) : Prop := ClockProtected d s.trace

/-- Nothing has been clamped yet. -/
def Unclamped (s : BackendState) : Prop :=
  ∀ maxMHz, ∀ call ∈ s.trace, ¬ AcceptsClamp maxMHz call

theorem Unclamped.log_plain {s : BackendState} {event : DriverEvent} (h : Unclamped s)
    (hplain : Plain event) : Unclamped (s.log event) := by
  intro maxMHz call hmem
  rcases List.mem_cons.mp hmem with rfl | hold
  · exact hplain.not_clamp maxMHz
  · exact h maxMHz call hold

/-- A refused clamp is a plain call. -/
theorem plain_refused {minMHz maxMHz : Nat} {code : NvmlReturn} (h : code ≠ .success) :
    Plain (.clamp minMHz maxMHz (decide (code = .success))) := by
  simp [h, Plain]

theorem permitted_refused {minMHz maxMHz : Nat} {past : List DriverEvent} {code : NvmlReturn}
    (h : code ≠ .success) : Permitted d past (.clamp minMHz maxMHz (decide (code = .success))) := by
  simp [h, Permitted]

/-- A clamp within both profiles and no higher than the ones before it. -/
theorem Planned.log_clamp {s : BackendState} {minMHz maxMHz : Nat}
    (h : Planned d plan outgoingMHz s)
    (hlock : incomingLock d = true → maxMHz ≤ d.lockMHz) (hout : maxMHz ≤ outgoingMHz)
    (hbound : planBound plan outgoingMHz ≤ maxMHz)
    (hlow : BeforeLock s.trace → ∀ earlierMHz, ∀ call ∈ s.trace, AcceptsClamp earlierMHz call →
      maxMHz ≤ earlierMHz) :
    Planned d plan outgoingMHz (s.log (.clamp minMHz maxMHz true)) := by
  refine h.log (fun hbefore => ⟨hlock, ⟨plan, outgoingMHz, h.mem, hout⟩, hlow hbefore⟩) ?_ ?_
  · rintro plan' outgoing' ⟨⟩
  · rintro - earlierMHz ⟨minMHz', heq⟩
    cases heq
    exact hbound

theorem ensures_settleUnarmed {s : BackendState} {result : ApplyClockCeilingArmResult}
    (h : Planned d plan outgoingMHz s) (hnone : Unclamped s)
    (hresult : result ≠ .installed) :
    Ensures (settleUnarmed plan result)
      (fun ok s' => Planned d plan outgoingMHz s' ∧ (ok = true → Shielded d plan outgoingMHz s'))
      (ProtectedState d) s := by
  have hlogged : Planned d plan outgoingMHz
      ((s.setCeiling { s.ceiling with armResult := result }).log (.armSettled result)) :=
    Planned.log_plain (h.of_eq rfl rfl rfl) trivial trivial
  have hclamps : Unclamped
      ((s.setCeiling { s.ceiling with armResult := result }).log (.armSettled result)) :=
    Unclamped.log_plain hnone trivial
  refine ensures_bind (ensures_modify (ensures_pure ⟨hlogged, fun hok => ?_⟩))
  refine { toPlanned := hlogged, covered := ?_, noted := ?_ }
  · intro plan' outgoing' hmem hrequired
    obtain rfl := hlogged.only plan' outgoing' hmem
    have hallowed : applyClockCeilingTransitionMustRefuse plan'.required result plan'.reason =
        false := by simpa using hok
    simp only [applyClockCeilingTransitionMustRefuse, hrequired, Bool.not_true, Bool.false_eq_true,
      if_false, hresult] at hallowed
    split at hallowed
    · rename_i hunsupported
      obtain ⟨rfl, hreason⟩ := hunsupported
      exact .inr ⟨List.mem_cons_self, hreason⟩
    · exact absurd hallowed (by simp)
  · exact fun _ maxMHz call hmem hcall => absurd hcall (hclamps maxMHz call hmem)

theorem ensures_settleArmed {s : BackendState} {maxMHz : Nat}
    (h : Planned d plan outgoingMHz s)
    (hclamp : ∃ call ∈ s.trace, AcceptsClamp maxMHz call) :
    Ensures (settleArmed plan)
      (fun ok s' => Planned d plan outgoingMHz s' ∧ (ok = true → Shielded d plan outgoingMHz s'))
      (ProtectedState d) s := by
  refine ensures_bind (ensures_modify (ensures_bind (ensures_modify (ensures_pure ?_))))
  have hlogged : Planned d plan outgoingMHz
      ((((s.setCeiling { s.ceiling with armed := true }).setGpu
        { s.gpu with retainedTransitionCeilingMHz := plan.ceilingMHz }).setCeiling
          { s.ceiling with armed := true, armResult := .installed }).log
            (.armSettled .installed)) :=
    Planned.log_plain (h.of_eq rfl rfl rfl) trivial trivial
  refine ⟨hlogged, fun _ => { toPlanned := hlogged, covered := ?_, noted := fun _ _ _ _ _ => rfl }⟩
  intro plan' outgoing' _ _
  obtain ⟨call, hmem, hcall⟩ := hclamp
  exact .inl ⟨maxMHz, call, List.mem_cons_of_mem _ hmem, hcall⟩

/-- One clamp form of the arming, and what follows an accepted and a refused one. -/
theorem ensures_armForm {s : BackendState} {minMHz : Nat} {refused : NvmlReturn → BackendM Bool}
    (h : Planned d plan outgoingMHz s) (hnone : Unclamped s) (hpos : 0 < plan.ceilingMHz)
    (hrefused : ∀ code s', code ≠ .success → Planned d plan outgoingMHz s' → Unclamped s' →
      Ensures (refused code)
        (fun ok s' => Planned d plan outgoingMHz s' ∧
          (ok = true → Shielded d plan outgoingMHz s'))
        (ProtectedState d) s') :
    Ensures (do
        let code ← nvmlSetGpuLockedClocks minMHz plan.ceilingMHz
        if code = .success then settleArmed plan else refused code)
      (fun ok s' => Planned d plan outgoingMHz s' ∧ (ok = true → Shielded d plan outgoingMHz s'))
      (ProtectedState d) s := by
  refine ensures_bind (ensures_bind (ensures_ask h.permitted fun answer => ?_))
  refine ensures_bind (ensures_modify (ensures_pure ?_))
  by_cases hcode : answer.code = .success
  · simp only [hcode, if_true, decide_true]
    have hlow : BeforeLock s.trace → ∀ earlierMHz, ∀ call ∈ s.trace,
        AcceptsClamp earlierMHz call → plan.ceilingMHz ≤ earlierMHz :=
      fun _ earlierMHz call hmem hcall => absurd hcall (hnone earlierMHz call hmem)
    exact ensures_settleArmed (h.log_clamp (fun hlock => (h.within.of_lock hlock).2)
      h.within.le_outgoing (PlanWithin.bound_le_ceiling hpos) hlow)
      ⟨_, List.mem_cons_self, minMHz, rfl⟩
  · rw [if_neg hcode]
    exact hrefused answer.code _ hcode
      (h.log_plain (permitted_refused hcode) (plain_refused hcode))
      (hnone.log_plain (plain_refused hcode))

/-- **Arming** leaves the transition shielded, or refuses it with no write made. -/
theorem ensures_arm {committed : Option DesiredSettings} {s : BackendState}
    (hplan : linuxApplyClockCeilingPlan s.gpu d committed = plan)
    (h : Planned d plan outgoingMHz (s.setCeiling { s.ceiling with plan := plan }))
    (hnone : Unclamped s) :
    Ensures (linuxApplyArmTransitionCeiling d committed)
      (fun ok s' => Planned d plan outgoingMHz s' ∧ (ok = true → Shielded d plan outgoingMHz s'))
      (ProtectedState d) s := by
  refine ensures_bind (ensures_get ?_)
  dsimp only
  rw [hplan]
  refine ensures_bind (ensures_modify ?_)
  split
  · split
    · rename_i hrequired
      refine ensures_pure ⟨h, fun _ => { toPlanned := h, covered := ?_, noted := ?_ }⟩
      · intro plan' outgoing' hmem hplan'
        rw [h.only plan' outgoing' hmem] at hplan'
        simp [hplan'] at hrequired
      · exact fun _ maxMHz call hmem hcall => absurd hcall (hnone maxMHz call hmem)
    · exact ensures_settleUnarmed h hnone (by split <;> simp)
  · rename_i harm
    have hpos := h.within.arm_pos (by simpa using harm)
    refine ensures_bind (ensures_modify ?_)
    refine ensures_armForm (h.of_eq rfl rfl rfl) hnone hpos fun openCode s' hopen h' hnone' => ?_
    split
    · exact ensures_settleUnarmed h' hnone' (by unfold refusedResult; split <;> simp)
    · refine ensures_armForm h' hnone' hpos fun symmetricCode s'' hsymmetric h'' hnone'' => ?_
      exact ensures_settleUnarmed h'' hnone'' (by unfold refusedResult; split <;> simp)

/-! ## The other phases -/

/-- A step of setters. -/
theorem Shielded.ensures_writes {owned : Register → Prop}
    {target : BackendState → Register → Option Int} {step : BackendM Bool} {s : BackendState}
    (h : Shielded d plan outgoingMHz s) (hstep : Writes owned target step) :
    Ensures step (fun _ => Shielded d plan outgoingMHz) (ProtectedState d) s :=
  (hstep s).mono (fun _ _ hs => h.quiet hs.1.toQuiet) fun _ hs => (h.quiet hs.toQuiet).permitted

/-- The locked clocks are released: unclamped, or by the lock phase. -/
theorem Shielded.ensures_release {s : BackendState} (h : Shielded d plan outgoingMHz s)
    (hfree : BeforeLock s.trace → s.ceiling.armed = false) :
    Ensures nvmlResetGpuLockedClocks (fun _ => Shielded d plan outgoingMHz)
      (ProtectedState d) s := by
  refine ensures_bind (ensures_ask h.permitted fun answer => ?_)
  refine ensures_bind (ensures_modify (ensures_pure (h.log_plain ⟨h.covered, ?_⟩ trivial)))
  intro hbefore maxMHz call hmem hcall
  rw [h.noted hbefore maxMHz call hmem hcall] at hfree
  exact absurd (hfree hbefore) (by simp)

theorem ensures_allOf {I C : BackendState → Prop} {steps : List (BackendM Bool)}
    (h : ∀ step ∈ steps, Keeps I C step) : Keeps I C (allOf steps) := by
  induction steps with
  | nil => exact keeps_pure true
  | cons step rest ih =>
    obtain ⟨hstep, hrest⟩ := List.forall_mem_cons.mp h
    exact hstep.bind fun ok => Keeps.ite (fun _ => ih hrest) fun _ => keeps_pure false

theorem Shielded.keeps_writes {owned : Register → Prop}
    {target : BackendState → Register → Option Int} {step : BackendM Bool}
    (hstep : Writes owned target step) :
    Keeps (Shielded d plan outgoingMHz) (ProtectedState d) step :=
  fun _ h => h.ensures_writes hstep

theorem keeps_optional {I C : BackendState → Prop} {c : Bool} {step : BackendM Bool}
    (h : Keeps I C step) : Keeps I C (optional c step) :=
  Keeps.ite (fun _ => h) fun _ => keeps_pure true

/-- The baseline keeps a clamp that is armed. -/
theorem keeps_resetBaseline (request : DesiredSettings) :
    Keeps (Shielded d plan outgoingMHz) (ProtectedState d) (resetBaseline request) := by
  refine ensures_allOf fun step hstep => ?_
  simp only [List.mem_cons, List.not_mem_nil, or_false] at hstep
  rcases hstep with rfl | rfl | rfl | rfl | rfl | rfl | rfl
  · exact Shielded.keeps_writes (writes_graphicsOffset 0)
  · exact Shielded.keeps_writes (writes_memoryOffset 0)
  · exact keeps_get_bind fun s h => ensures_pure h
  · refine keeps_get_bind fun s h => ?_
    split
    · exact ensures_pure h
    · rename_i harmed
      split
      · exact ensures_pure h
      · split
        · exact ensures_pure h
        · exact h.ensures_release fun _ => by simpa using harmed
  · exact keeps_optional (Shielded.keeps_writes (writes_xbarOwned _ _ _ _))
  · exact keeps_optional (Shielded.keeps_writes (writes_sysClk 0))
  · exact keeps_optional (Shielded.keeps_writes (writes_videoClk 0))

theorem keeps_handOver (ok : Bool) :
    Keeps (Shielded d plan outgoingMHz) (ProtectedState d) (handOver ok) := by
  intro s h
  refine ensures_bind (ensures_modify (ensures_pure ?_))
  cases ok with
  | true => exact h.of_eq rfl rfl
  | false => exact h

/-- The final lock is written after its phase has begun. -/
theorem ensures_finalLock {request : DesiredSettings} {s : BackendState}
    (h : Shielded d plan outgoingMHz s) (hbegan : ¬ BeforeLock s.trace) :
    Ensures (linuxApplyWriteFinalLock request) (fun _ => Shielded d plan outgoingMHz)
      (ProtectedState d) s := by
  refine ensures_bind (ensures_get ?_)
  split
  · split
    · exact keeps_handOver false s h
    · refine ensures_bind (ensures_bind (ensures_ask h.permitted fun answer => ?_))
      refine ensures_bind (ensures_modify (ensures_pure (keeps_handOver _ _ ?_)))
      refine { toPlanned := h.toPlanned.log ?_ ?_ ?_, covered := h.covered.cons ?_, noted := ?_ }
      · cases decide (answer.code = .success) with
        | true => exact fun hbefore => absurd hbefore hbegan
        | false => trivial
      · rintro plan' outgoing' ⟨⟩
      · exact fun hbefore => absurd hbefore hbegan
      · rintro plan' outgoing' ⟨⟩
      · exact fun hbefore => absurd hbefore.tail hbegan
  · split
    · exact keeps_handOver true s h
    · split
      · exact keeps_handOver false s h
      · refine ensures_bind ((h.ensures_release fun hbefore => absurd hbefore hbegan).mono
          (fun ok s' hs => keeps_handOver ok s' hs) fun _ hs => hs)

/-- **A phase** of a shielded transition keeps it shielded. -/
theorem ensures_phase {context : LinuxApplyTransactionContext} {phase : LinuxMutationPhase}
    {s : BackendState} (h : Shielded d plan outgoingMHz s) (harmed : phase ≠ .lockCeiling) :
    Ensures (linuxApplyTransactionStep context phase) (fun _ => Shielded d plan outgoingMHz)
      (ProtectedState d) (s.log (.began phase)) := by
  have hbegan : Shielded d plan outgoingMHz (s.log (.began phase)) := h.log_plain trivial trivial
  cases phase with
  | lockCeiling => exact absurd rfl harmed
  | resetBaseline => exact keeps_resetBaseline context.desired _ hbegan
  | gpuOffset => exact hbegan.ensures_writes (writes_graphicsOffset _)
  | memOffset => exact hbegan.ensures_writes (writes_memoryOffset _)
  | power => exact hbegan.ensures_writes (writes_powerLimitPct _)
  | xbar => exact hbegan.ensures_writes (writes_xbarOwned _ _ _ _)
  | sysClk => exact hbegan.ensures_writes (writes_sysClk _)
  | videoClk => exact hbegan.ensures_writes (writes_videoClk _)
  | curve =>
    exact quiet_writeCurve.mono (fun _ _ hs => hbegan.quiet hs) fun _ hs =>
      (hbegan.quiet hs).permitted
  | lock => exact ensures_finalLock hbegan fun hbefore => hbefore List.mem_cons_self
  | fan => exact hbegan.ensures_writes (writes_writeFan _ _)

/-! ## The rollback -/

/-- A restricting call of the rollback. -/
theorem ensures_tryClamp {s : BackendState} {permitted : Bool} {minMHz : Nat}
    (h : Planned d plan outgoingMHz s) :
    Ensures (tryClamp permitted minMHz (planBound plan outgoingMHz))
      (fun _ s' => Planned d plan outgoingMHz s' ∧ (Covered s.trace → Covered s'.trace))
      (ProtectedState d) s := by
  unfold tryClamp
  split
  · refine ensures_bind (ensures_bind (ensures_ask h.permitted fun answer => ?_))
    refine ensures_bind (ensures_modify (ensures_pure (ensures_pure ⟨?_, fun hcovered => ?_⟩)))
    · by_cases hcode : answer.code = .success
      · simp only [hcode, decide_true]
        exact h.log_clamp h.within.bound_le_lock h.within.bound_le_outgoing le_rfl
          fun hbefore earlierMHz call hmem hcall => h.bounded hbefore earlierMHz call hmem hcall
      · exact h.log_plain (permitted_refused hcode) (plain_refused hcode)
    · refine hcovered.cons ?_
      rintro plan' outgoing' ⟨⟩
  · exact ensures_pure ⟨h, id⟩

theorem ensures_protectRestore {s : BackendState} (h : Planned d plan outgoingMHz s) :
    Ensures protectRestore
      (fun _ s' => Planned d plan outgoingMHz s' ∧ (Covered s.trace → Covered s'.trace))
      (ProtectedState d) s := by
  have hbound : rollbackBound s.ceiling = planBound plan outgoingMHz := by
    rw [rollbackBound, planBound, h.plan_eq, h.outgoing_eq]
  refine ensures_bind (ensures_get ?_)
  dsimp only
  rw [hbound]
  refine ensures_bind ((ensures_tryClamp h).mono (fun openOk s' h' => ?_) fun _ h' => h')
  refine ensures_bind ((ensures_tryClamp h'.1).mono (fun symmetricOk s'' h'' => ?_) fun _ h'' => h'')
  split
  · refine ensures_bind (ensures_modify (ensures_pure ⟨?_, fun hcovered => ?_⟩))
    · exact h''.1.of_eq rfl rfl rfl
    · exact h''.2 (h'.2 hcovered)
  · exact ensures_pure ⟨h''.1, fun hcovered => h''.2 (h'.2 hcovered)⟩

/-- Steps that do nothing. -/
theorem ensures_everyOf_idle {steps : List (BackendM Bool)} {s : BackendState}
    (h : ∀ step ∈ steps, step = pure true) :
    Ensures (everyOf steps) (fun _ s' => s' = s) (fun _ => False) s := by
  induction steps with
  | nil => exact ensures_pure rfl
  | cons step rest ih =>
    obtain ⟨rfl, hrest⟩ := List.forall_mem_cons.mp h
    refine ensures_bind (ensures_pure (ensures_bind ((ih hrest).mono (fun _ _ hs => ?_)
      fun _ hs => hs)))
    exact ensures_pure hs

theorem restoring_untouched {α : Type} {captured : Option α} {step : α → BackendM Bool} :
    restoring false captured step = pure true := by
  cases captured <;> rfl

/-- Only the arming was attempted: there is nothing to restore. -/
theorem restoreSteps_lockCeiling {snapshot : LinuxHardwareSnapshot} {step : BackendM Bool}
    (hstep : step ∈ restoreSteps snapshot [.lockCeiling]) : step = pure true := by
  simp only [restoreSteps, List.mem_cons, List.not_mem_nil, or_false, List.contains_cons,
    List.contains_nil, Bool.or_false] at hstep
  rcases hstep with rfl | rfl | rfl | rfl | rfl | rfl | rfl | rfl
  all_goals exact restoring_untouched

/-- The rollback of a transition that may write, or of the arming alone. -/
theorem ensures_rollback {snapshot : LinuxHardwareSnapshot} {phases : List LinuxMutationPhase}
    {s : BackendState} (h : Planned d plan outgoingMHz s)
    (hcovered : phases = [.lockCeiling] ∨ Covered s.trace) :
    Ensures (linuxBackendRestoreSnapshot snapshot phases) (fun _ => ProtectedState d)
      (ProtectedState d) s := by
  have hprotect : Ensures (optional (touchesClocks phases) protectRestore)
      (fun _ s' => Planned d plan outgoingMHz s' ∧ (Covered s.trace → Covered s'.trace))
      (ProtectedState d) s := by
    unfold optional
    split
    · exact ensures_protectRestore h
    · exact ensures_pure ⟨h, id⟩
  have hrefresh : ∀ {s' : BackendState} {ok : Bool}, ProtectedState d s' →
      Ensures (do linuxBackendRefresh; return ok) (fun _ => ProtectedState d)
        (ProtectedState d) s' := by
    intro s' ok hs'
    refine ensures_bind (ensures_refresh.mono (fun _ s'' hs'' => ?_) fun s'' hs'' => hs'' ▸ hs')
    exact ensures_pure (by rw [ProtectedState, hs''.trace_eq]; exact hs')
  refine ensures_bind (ensures_get (ensures_bind (hprotect.mono (fun permitted s' h' => ?_)
    fun _ h' => h')))
  split
  · exact ensures_pure h'.1.permitted
  · rcases hcovered with rfl | hcovered
    · refine ensures_bind ((ensures_everyOf_idle fun step hstep =>
        restoreSteps_lockCeiling hstep).mono (fun ok s'' hs => ?_) fun _ hs => hs.elim)
      subst hs
      exact hrefresh h'.1.permitted
    · have hwritable : Writable d plan outgoingMHz s' :=
        { toPlanned := h'.1, covered := h'.2 hcovered }
      refine ensures_bind ((writes_everyOf (fun step hstep => writes_restoreSteps hstep) s').mono
        (fun ok s'' hs => ?_) fun _ hs => (hwritable.quiet hs.toQuiet).permitted)
      exact hrefresh (hwritable.quiet hs.1.toQuiet).permitted

/-! ## The transaction -/

/-- The transaction after its plan is known and before any call. -/
structure Entered (d : DesiredSettings) (plan : ApplyClockCeilingPlan) (outgoingMHz : Nat)
    (s : BackendState) : Prop where
  within : PlanWithin d plan outgoingMHz
  trace_eq : s.trace = [.planned plan outgoingMHz]
  plan_eq : s.ceiling.plan = {}
  outgoing_eq : s.ceiling.outgoingCeilingMHz = outgoingMHz

namespace Entered

variable {s : BackendState}

theorem unclamped (h : Entered d plan outgoingMHz s) : Unclamped s := by
  intro maxMHz call hmem hcall
  rw [h.trace_eq, List.mem_singleton] at hmem
  obtain ⟨minMHz, hclamp⟩ := hcall
  rw [hmem] at hclamp
  cases hclamp

/-- The plan will be the one the arming remembers. -/
theorem planned {s' : BackendState} (h : Entered d plan outgoingMHz s)
    (htrace : s'.trace = s.trace) (hplan : s'.ceiling.plan = plan)
    (houtgoing : s'.ceiling.outgoingCeilingMHz = outgoingMHz) :
    Planned d plan outgoingMHz s' where
  within := h.within
  permitted := by
    rw [htrace, h.trace_eq]
    exact ⟨trivial, trivial⟩
  mem := by
    rw [htrace, h.trace_eq]
    exact List.mem_singleton_self _
  only := by
    intro plan' outgoing' hmem
    rw [htrace, h.trace_eq, List.mem_singleton] at hmem
    cases hmem
    rfl
  bounded := by
    intro _ maxMHz call hmem hcall
    rw [htrace] at hmem
    exact absurd hcall (h.unclamped maxMHz call hmem)
  plan_eq := hplan
  outgoing_eq := houtgoing

/-- A transition that requires no clamp may write at once. -/
theorem shielded (h : Entered d plan outgoingMHz s) (hfree : plan.required = false) :
    Shielded d plan outgoingMHz s where
  toPlanned := h.planned rfl (h.plan_eq.trans (h.within.of_unrequired hfree).symm) h.outgoing_eq
  covered := by
    intro plan' outgoing' hmem hrequired
    rw [h.trace_eq, List.mem_singleton] at hmem
    cases hmem
    simp [hfree] at hrequired
  noted := fun _ maxMHz call hmem hcall => absurd hcall (h.unclamped maxMHz call hmem)

end Entered

/-- The phases after the arming. -/
theorem ensures_laterPhases {context : LinuxApplyTransactionContext}
    {snapshot : LinuxHardwareSnapshot} {phases : List LinuxMutationPhase}
    (hlater : ∀ phase ∈ phases, phase ≠ .lockCeiling) (result : LinuxTransactionResult)
    {s : BackendState} (h : Shielded d plan outgoingMHz s) :
    Ensures (runPhases (linuxApplyTransactionStep context) (linuxBackendRestoreSnapshot snapshot)
        phases result)
      (fun _ => ProtectedState d) (ProtectedState d) s := by
  refine ensures_runPhases (fun phase hphase s hs => ensures_phase hs (hlater phase hphase))
    (fun attempted s hs => ?_) (fun s hs => hs.permitted) result h
  have hrolling : Shielded d plan outgoingMHz (s.log .rollingBack) := hs.log_plain trivial trivial
  exact ensures_rollback hrolling.toPlanned (.inr hrolling.covered)

theorem ensures_transaction {context : LinuxApplyTransactionContext}
    {snapshot : LinuxHardwareSnapshot} {requested : LinuxMutationPhase → Bool} {s : BackendState}
    (h : Entered context.desired plan outgoingMHz s)
    (hplan : linuxApplyClockCeilingPlan s.gpu context.desired context.previousIntent = plan)
    (hrequested : requested .lockCeiling = (plan.arm || plan.required)) :
    Ensures (linuxExecuteTransaction requested (linuxApplyTransactionStep context)
        (linuxBackendRestoreSnapshot snapshot))
      (fun _ => ProtectedState context.desired) (ProtectedState context.desired) s := by
  have hlater : ∀ phase ∈ List.filter requested phaseOrder.tail, phase ≠ .lockCeiling := by
    rintro phase hphase rfl
    exact absurd (List.mem_filter.mp hphase).1 (by decide)
  unfold linuxExecuteTransaction
  cases hceiling : requested .lockCeiling with
  | true =>
    rw [show phaseOrder.filter requested = .lockCeiling :: phaseOrder.tail.filter requested from
      List.filter_cons_of_pos hceiling]
    refine ensures_bind (ensures_modify (ensures_bind ?_))
    have hready : Planned context.desired plan outgoingMHz
        ((s.log (.began .lockCeiling)).setCeiling { s.ceiling with plan := plan }) :=
      Planned.log_plain (s := s.setCeiling { s.ceiling with plan := plan })
        (h.planned rfl rfl h.outgoing_eq) trivial trivial
    refine (ensures_arm (s := s.log (.began .lockCeiling)) hplan hready
      (h.unclamped.log_plain trivial)).mono (fun ok s' hs => ?_) fun _ hs => hs
    split
    · refine ensures_bind (ensures_modify (ensures_bind ?_))
      have hrolling : Planned context.desired plan outgoingMHz (s'.log .rollingBack) :=
        hs.1.log_plain trivial trivial
      refine (ensures_rollback hrolling (.inl rfl)).mono (fun _ s'' hs' => ?_) fun _ hs' => hs'
      exact ensures_pure hs'
    · rename_i hok
      exact ensures_laterPhases hlater _ (hs.2 (by simpa using hok))
  | false =>
    rw [show phaseOrder.filter requested = phaseOrder.tail.filter requested from
      List.filter_cons_of_neg (by simp [hceiling])]
    have hfree : plan.required = false := by
      rw [hceiling] at hrequested
      exact (Bool.or_eq_false_iff.mp hrequested.symm).2
    exact ensures_laterPhases hlater _ (h.shielded hfree)

end Invariant

/-! ## The whole apply -/

theorem le_foldl_max (curve : VFCurve) (points : List VfPoint) (init : Nat) :
    init ≤ points.foldl (fun peak ci => max peak ((curve ci).freqKHz / 1000)) init ∧
      ∀ ci ∈ points, (curve ci).freqKHz / 1000 ≤
        points.foldl (fun peak ci => max peak ((curve ci).freqKHz / 1000)) init := by
  induction points generalizing init with
  | nil => exact ⟨le_rfl, by simp⟩
  | cons first rest ih =>
    obtain ⟨hinit, hrest⟩ := ih (max init ((curve first).freqKHz / 1000))
    refine ⟨(le_max_left _ _).trans hinit, fun ci hci => ?_⟩
    rcases List.mem_cons.mp hci with rfl | hmem
    · exact (le_max_right _ _).trans hinit
    · exact hrest ci hmem

/-- A plausible curve has a peak. -/
theorem peakMHz_pos {gpu : LinuxGpuState} (h : linuxBackendCurvePlausible gpu = true) :
    0 < peakMHz gpu.curve := by
  simp only [linuxBackendCurvePlausible, structurallyValid, Bool.and_eq_true,
    decide_eq_true_eq] at h
  obtain ⟨-, ⟨⟨⟨-, hrange⟩, -⟩, ci, hpop, -⟩⟩ := h
  have hfreq := (hrange ci hpop).1
  have hpeak := (le_foldl_max gpu.curve (List.finRange VF_NUM_POINTS) 0).2 ci
    (List.mem_finRange ci)
  unfold peakMHz
  omega

/-- An incoming lock is only taken over a plausible curve. -/
theorem outgoing_pos_of_preflight {s : BackendState} {d : DesiredSettings}
    {snapshot : LinuxHardwareSnapshot} (h : linuxBackendPreflight s d snapshot = true)
    (committed : Option DesiredSettings) (hlock : incomingLock d = true) :
    0 < linuxOutgoingCeilingMHz s.gpu committed := by
  have hwrite : serviceDesiredMutationDomains d .vfCurve = true := by
    simp only [incomingLock, Bool.and_eq_true, decide_eq_true_eq] at hlock
    obtain ⟨⟨hhas, hmode⟩, -⟩ := hlock
    cases hm : d.lockMode <;> simp_all [serviceDesiredMutationDomains]
  have hpeak := peakMHz_pos (curvePlausible_of_preflight h hwrite)
  unfold linuxOutgoingCeilingMHz
  split
  · assumption
  · split
    · assumption
    · exact hpeak

/-- **Clock protection over a transaction**: whatever the driver answers and
wherever the run is cut short, every write of an apply that requires a clamp comes
after one the driver accepted, or after it proved to have none for a final state
that needs no pin; an accepted clamp is within both profiles, and until the lock
phase nothing releases or raises it, the rollback included. -/
theorem clock_protection (d : DesiredSettings)
    (previousIntent committedIntent : Option DesiredSettings) (gpu : LinuxGpuState)
    (hw : Registers) (ceiling : CeilingState) (curvesRead : List (VFCurve × Registers))
    (answers : List DriverAnswer) :
    ClockProtected d (exec (linuxBackendApply d previousIntent committedIntent) answers
      { gpu := gpu, hw := hw, ceiling := ceiling, curvesRead := curvesRead,
        trace := [] }).2.trace := by
  have hempty : ∀ {s : BackendState}, s.trace = [] → ProtectedState d s := by
    intro s hs
    rw [ProtectedState, hs]
    trivial
  suffices h : Ensures (linuxBackendApply d previousIntent committedIntent)
      (fun _ => ProtectedState d) (ProtectedState d) _ from h.exec_snd answers
  refine ensures_linuxBackendApply (fun s hs => hempty hs.2) (fun s hs => hempty hs.2)
    fun start s hstarted => ?_
  obtain ⟨fanStart, hstart⟩ := hstarted.context
  have hentered : Entered d (linuxApplyClockCeilingPlan s.gpu d previousIntent)
      (linuxOutgoingCeilingMHz s.gpu previousIntent) s :=
    { within := planWithin (outgoing_pos_of_preflight hstarted.preflight previousIntent)
      trace_eq := hstarted.trace
      plan_eq := by rw [hstarted.ceiling]; rfl
      outgoing_eq := by rw [hstarted.ceiling] }
  have hdesired : start.context.desired = d := by rw [hstart]; rfl
  have hprevious : start.context.previousIntent = previousIntent := by rw [hstart]; rfl
  have hrun : Ensures (applyTransaction start) (fun _ => ProtectedState start.context.desired)
      (ProtectedState start.context.desired) s :=
    ensures_transaction (hdesired ▸ hentered) (by rw [hdesired, hprevious]) (by rw [hstart]; rfl)
  rw [hdesired] at hrun
  refine hrun.mono (fun result s' hs' => ⟨hs', fun s'' hs'' => ?_⟩) fun _ hs' => hs'
  rw [ProtectedState, hs''.trace_eq]
  exact hs'

end GreenCurve.Backend
