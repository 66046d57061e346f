import GreenCurve.EventMachine
import Mathlib.Data.UInt
import Mathlib.Tactic.Common

/-! # The service lifecycle reducer

The platform-neutral reducer behind the unattended applies: logon, standby and
driver-recovery work is pending or not, a write is issued or not, and each event
moves the state and answers with a decision. -/

namespace GreenCurve

/-- A logon identity.  `sid` is the text before the terminating NUL. -/
structure ServiceLifecycleIdentity where
  valid : Bool := false
  sessionId : UInt32 := 0
  authenticationId : UInt64 := 0
  sid : List Char := []
  deriving DecidableEq, Repr

inductive ServiceLifecycleTrigger where
  | none | wtsLogon | taskHandoff | standbyResume | driverRecovery | daemonStart
  deriving DecidableEq, Repr

inductive ServiceLifecycleResult where
  | none | pending | applied | noProfile | lockedOut | transientNotReady | superseded
  | cancelledLogoff | failed
  deriving DecidableEq, Repr

inductive ServiceLifecycleEventType where
  | none | wtsLogon | taskHandoff | logoff | prerequisiteSignal
  | logonWriteStarted | logonWriteFinished | suspend | resume
  | standbyWriteStarted | standbyWriteFinished
  | driverRecovery | driverWriteStarted | driverWriteFinished
  | devnodesChanged | explicitSupersede | lockout | stop
  deriving DecidableEq, Repr

structure ServiceLifecycleEvent where
  type : ServiceLifecycleEventType
  identity : ServiceLifecycleIdentity := {}
  success : Bool := false
  writeAttempted : Bool := false
  driverProofReady : Bool := false
  controlledRecoveryValidated : Bool := false
  deriving DecidableEq, Repr

structure ServiceLifecycleState where
  stopped : Bool := false
  lockedOut : Bool := false
  logonPending : Bool := false
  logonWriteIssued : Bool := false
  standbyPending : Bool := false
  standbyWriteIssued : Bool := false
  driverPending : Bool := false
  driverWriteIssued : Bool := false
  suspendArmed : Bool := false
  logonGeneration : UInt64 := 0
  suspendGeneration : UInt64 := 0
  resumedSuspendGeneration : UInt64 := 0
  pendingLogonTrigger : ServiceLifecycleTrigger := .none
  pendingLogonIdentity : ServiceLifecycleIdentity := {}
  lastAppliedLogonIdentity : ServiceLifecycleIdentity := {}
  deriving DecidableEq, Repr

structure ServiceLifecycleDecision where
  wakeWorker : Bool := false
  attemptLogonPrerequisites : Bool := false
  authorizeLogonWrite : Bool := false
  authorizeStandbyWrite : Bool := false
  authorizeDriverWrite : Bool := false
  readOnlyReenumerate : Bool := false
  coalesced : Bool := false
  cancelled : Bool := false
  trigger : ServiceLifecycleTrigger := .none
  result : ServiceLifecycleResult := .none
  deriving DecidableEq, Repr

def serviceLifecycleIdentityEqual (a b : ServiceLifecycleIdentity) : Bool :=
  if !a.valid || !b.valid then false
  else a.sessionId == b.sessionId && a.authenticationId == b.authenticationId &&
    !a.sid.isEmpty && !b.sid.isEmpty && a.sid == b.sid

/-- Two identities are equal to the reducer when they are the same valid
identity of a named user. -/
theorem identityEqual_iff {a b : ServiceLifecycleIdentity} :
    serviceLifecycleIdentityEqual a b = true ↔ a = b ∧ a.valid = true ∧ a.sid ≠ [] := by
  obtain ⟨av, as, aa, ai⟩ := a
  obtain ⟨bv, bs, ba, bi⟩ := b
  cases av <;> cases bv <;> simp [serviceLifecycleIdentityEqual]
  constructor
  · rintro ⟨⟨⟨⟨hs, ha⟩, hi⟩, _⟩, he⟩
    exact ⟨⟨hs, ha, he⟩, hi⟩
  · rintro ⟨⟨rfl, rfl, rfl⟩, hi⟩
    exact ⟨⟨⟨⟨rfl, rfl⟩, hi⟩, hi⟩, rfl⟩

/-! ## The reducer, one definition for each case of its switch -/

section Handlers
variable (state : ServiceLifecycleState) (event : ServiceLifecycleEvent)

/-- What STOP, LOCKOUT and EXPLICIT_SUPERSEDE have in common. -/
def clearPending : ServiceLifecycleState :=
  { state with
    logonPending := false
    standbyPending := false
    driverPending := false
    pendingLogonTrigger := .none
    pendingLogonIdentity := {} }

def reduceStop : ServiceLifecycleState × ServiceLifecycleDecision :=
  (clearPending { state with stopped := true }, { cancelled := true })

def reduceLockout : ServiceLifecycleState × ServiceLifecycleDecision :=
  (clearPending { state with lockedOut := true }, { cancelled := true, result := .lockedOut })

def reduceExplicitSupersede : ServiceLifecycleState × ServiceLifecycleDecision :=
  (clearPending
    { state with
      logonWriteIssued := false
      standbyWriteIssued := false
      driverWriteIssued := false },
    { cancelled := true, result := .superseded })

/-- A generation counter skips zero when it wraps. -/
def nextGeneration (generation : UInt64) : UInt64 :=
  if generation + 1 = 0 then 1 else generation + 1

/-- WTS_LOGON and TASK_HANDOFF differ only in the trigger they record. -/
def reduceLogonNotification (trigger : ServiceLifecycleTrigger) :
    ServiceLifecycleState × ServiceLifecycleDecision :=
  if state.lockedOut then
    (state, { trigger := trigger, result := .lockedOut })
  else if !event.identity.valid then
    (state, { trigger := trigger, result := .transientNotReady })
  else if serviceLifecycleIdentityEqual state.lastAppliedLogonIdentity event.identity then
    (state, { trigger := trigger, coalesced := true, result := .applied })
  else if state.logonPending &&
      serviceLifecycleIdentityEqual state.pendingLogonIdentity event.identity then
    (state,
      { trigger := trigger
        coalesced := true
        wakeWorker := true
        attemptLogonPrerequisites := !state.logonWriteIssued
        result := .pending })
  else
    ({ state with
        logonPending := true
        logonWriteIssued := false
        pendingLogonIdentity := event.identity
        pendingLogonTrigger := trigger
        logonGeneration := nextGeneration state.logonGeneration },
      { trigger := trigger
        wakeWorker := true
        attemptLogonPrerequisites := true
        result := .pending })

/-- LOGOFF forgets the pending and the completed identity independently. -/
def reduceLogoff : ServiceLifecycleState × ServiceLifecycleDecision :=
  let pendingMatches := serviceLifecycleIdentityEqual state.pendingLogonIdentity event.identity
  let cancelled : ServiceLifecycleState :=
    if pendingMatches then
      { state with
        logonPending := false
        logonWriteIssued := false
        pendingLogonIdentity := {}
        pendingLogonTrigger := .none }
    else state
  let forgotten : ServiceLifecycleState :=
    if serviceLifecycleIdentityEqual cancelled.lastAppliedLogonIdentity event.identity then
      { cancelled with lastAppliedLogonIdentity := {} }
    else cancelled
  (forgotten,
    { cancelled := pendingMatches
      result := if pendingMatches then .cancelledLogoff else .none })

def reducePrerequisiteSignal : ServiceLifecycleState × ServiceLifecycleDecision :=
  if state.logonPending && !state.logonWriteIssued && !state.lockedOut then
    (state, { wakeWorker := true, attemptLogonPrerequisites := true, result := .pending })
  else (state, {})

def reduceLogonWriteStarted : ServiceLifecycleState × ServiceLifecycleDecision :=
  if state.logonPending && !state.logonWriteIssued &&
      serviceLifecycleIdentityEqual state.pendingLogonIdentity event.identity &&
      !state.lockedOut then
    ({ state with logonWriteIssued := true },
      { authorizeLogonWrite := true, trigger := state.pendingLogonTrigger })
  else (state, {})

/-- An attempted write ends the pending logon whether it succeeded or not; only a
successful one is remembered. -/
def reduceLogonWriteFinished : ServiceLifecycleState × ServiceLifecycleDecision :=
  if state.logonPending && state.logonWriteIssued &&
      serviceLifecycleIdentityEqual state.pendingLogonIdentity event.identity then
    if !event.writeAttempted then
      ({ state with logonWriteIssued := false }, { result := .transientNotReady })
    else
      ({ state with
          logonWriteIssued := false
          lastAppliedLogonIdentity :=
            if event.success then state.pendingLogonIdentity else state.lastAppliedLogonIdentity
          logonPending := false
          pendingLogonIdentity := {}
          pendingLogonTrigger := .none },
        { result := if event.success then .applied else .failed })
  else (state, {})

def reduceSuspend : ServiceLifecycleState × ServiceLifecycleDecision :=
  ({ state with
      suspendGeneration := nextGeneration state.suspendGeneration
      suspendArmed := true }, {})

/-- The first RESUME after a SUSPEND consumes it; later ones only repeat the cue
while the standby write has not been issued. -/
def reduceResume : ServiceLifecycleState × ServiceLifecycleDecision :=
  if !state.lockedOut && state.suspendArmed &&
      state.resumedSuspendGeneration != state.suspendGeneration then
    if state.driverPending then
      ({ state with
          resumedSuspendGeneration := state.suspendGeneration
          suspendArmed := false }, { coalesced := true })
    else
      ({ state with
          resumedSuspendGeneration := state.suspendGeneration
          suspendArmed := false
          standbyPending := true
          standbyWriteIssued := false },
        { wakeWorker := true, trigger := .standbyResume, result := .pending })
  else if !state.lockedOut && state.standbyPending && !state.standbyWriteIssued then
    if !state.driverPending then
      (state,
        { coalesced := true, wakeWorker := true, trigger := .standbyResume, result := .pending })
    else (state, { coalesced := true })
  else (state, {})

def reduceStandbyWriteStarted : ServiceLifecycleState × ServiceLifecycleDecision :=
  if state.standbyPending && !state.standbyWriteIssued && !state.driverPending &&
      !state.lockedOut then
    ({ state with standbyWriteIssued := true },
      { authorizeStandbyWrite := true, trigger := .standbyResume })
  else (state, {})

def reduceStandbyWriteFinished : ServiceLifecycleState × ServiceLifecycleDecision :=
  if state.standbyPending && state.standbyWriteIssued then
    if !event.writeAttempted then
      ({ state with standbyWriteIssued := false }, { result := .transientNotReady })
    else
      ({ state with standbyWriteIssued := false, standbyPending := false },
        { result := if event.success then .applied else .failed })
  else (state, {})

def reduceDriverRecovery : ServiceLifecycleState × ServiceLifecycleDecision :=
  if !state.lockedOut then
    let armed : ServiceLifecycleState :=
      if state.driverPending then state
      else { state with driverPending := true, driverWriteIssued := false }
    ({ armed with standbyPending := false, standbyWriteIssued := false },
      { coalesced := state.driverPending
        wakeWorker := event.driverProofReady && !armed.driverWriteIssued
        trigger := .driverRecovery
        result := .pending })
  else (state, { result := .lockedOut })

def reduceDriverWriteStarted : ServiceLifecycleState × ServiceLifecycleDecision :=
  if state.driverPending && !state.driverWriteIssued && event.driverProofReady &&
      event.controlledRecoveryValidated && !state.lockedOut then
    ({ state with driverWriteIssued := true },
      { authorizeDriverWrite := true, trigger := .driverRecovery })
  else (state, {})

def reduceDriverWriteFinished : ServiceLifecycleState × ServiceLifecycleDecision :=
  if state.driverPending && state.driverWriteIssued then
    if !event.writeAttempted then
      ({ state with driverWriteIssued := false }, { result := .transientNotReady })
    else
      ({ state with driverWriteIssued := false, driverPending := false },
        { result := if event.success then .applied else .failed })
  else (state, {})

/-- The switch of the reducer, past its three early returns. -/
def reduceRunning : ServiceLifecycleState × ServiceLifecycleDecision :=
  match event.type with
  | .wtsLogon => reduceLogonNotification state event .wtsLogon
  | .taskHandoff => reduceLogonNotification state event .taskHandoff
  | .logoff => reduceLogoff state event
  | .prerequisiteSignal => reducePrerequisiteSignal state
  | .logonWriteStarted => reduceLogonWriteStarted state event
  | .logonWriteFinished => reduceLogonWriteFinished state event
  | .suspend => reduceSuspend state
  | .resume => reduceResume state
  | .standbyWriteStarted => reduceStandbyWriteStarted state
  | .standbyWriteFinished => reduceStandbyWriteFinished state event
  | .driverRecovery => reduceDriverRecovery state event
  | .driverWriteStarted => reduceDriverWriteStarted state event
  | .driverWriteFinished => reduceDriverWriteFinished state event
  | .devnodesChanged => (state, { readOnlyReenumerate := true })
  | _ => (state, {})

/-- `service_lifecycle_reduce`: the new state and the decision. -/
def serviceLifecycleReduce : ServiceLifecycleState × ServiceLifecycleDecision :=
  if event.type = .stop then reduceStop state
  else if state.stopped then (state, {})
  else if event.type = .lockout then reduceLockout state
  else if event.type = .explicitSupersede then reduceExplicitSupersede state
  else reduceRunning state event

end Handlers

example : serviceLifecycleReduce {} { type := .suspend } =
    ({ suspendArmed := true, suspendGeneration := 1 }, {}) := by
  simp [serviceLifecycleReduce, reduceRunning, reduceSuspend, nextGeneration]

/-! ## What a step can do

The latches of the reducer are a pending bit with its issued bit.  `Transition`
lists what one event can do to them, each with the guard it needs, and every
later fact about a step is read off this list. -/

section Steps
variable {s : ServiceLifecycleState} {e : ServiceLifecycleEvent}

/-- The notification is taken as a new pending logon: it is neither refused, nor
the login already applied, nor the one already pending. -/
def AcceptsLogon (s : ServiceLifecycleState) (e : ServiceLifecycleEvent) : Prop :=
  (e.type = .wtsLogon ∨ e.type = .taskHandoff) ∧
    s.stopped = false ∧ s.lockedOut = false ∧ e.identity.valid = true ∧
    serviceLifecycleIdentityEqual s.lastAppliedLogonIdentity e.identity = false ∧
    ¬ (s.logonPending = true ∧
      serviceLifecycleIdentityEqual s.pendingLogonIdentity e.identity = true)

/-- The RESUME answers a SUSPEND that no earlier RESUME has answered. -/
def ConsumesSuspend (s : ServiceLifecycleState) (e : ServiceLifecycleEvent) : Prop :=
  e.type = .resume ∧ s.stopped = false ∧ s.lockedOut = false ∧ s.suspendArmed = true ∧
    s.resumedSuspendGeneration ≠ s.suspendGeneration

instance : Decidable (AcceptsLogon s e) := inferInstanceAs (Decidable (_ ∧ _))

instance : Decidable (ConsumesSuspend s e) := inferInstanceAs (Decidable (_ ∧ _))

/-- The guard of LOGON_WRITE_STARTED. -/
def StartsLogonWrite (s : ServiceLifecycleState) (e : ServiceLifecycleEvent) : Prop :=
  e.type = .logonWriteStarted ∧ s.stopped = false ∧ s.lockedOut = false ∧
    s.logonPending = true ∧ s.logonWriteIssued = false ∧
    serviceLifecycleIdentityEqual s.pendingLogonIdentity e.identity = true

/-- The guard of STANDBY_WRITE_STARTED. -/
def StartsStandbyWrite (s : ServiceLifecycleState) (e : ServiceLifecycleEvent) : Prop :=
  e.type = .standbyWriteStarted ∧ s.stopped = false ∧ s.lockedOut = false ∧
    s.standbyPending = true ∧ s.standbyWriteIssued = false ∧ s.driverPending = false

/-- The guard of DRIVER_WRITE_STARTED. -/
def StartsDriverWrite (s : ServiceLifecycleState) (e : ServiceLifecycleEvent) : Prop :=
  e.type = .driverWriteStarted ∧ s.stopped = false ∧ s.lockedOut = false ∧
    s.driverPending = true ∧ s.driverWriteIssued = false ∧
    e.driverProofReady = true ∧ e.controlledRecoveryValidated = true

/-- The decision authorises no write. -/
structure Quiet (d : ServiceLifecycleDecision) : Prop where
  logon : d.authorizeLogonWrite = false
  standby : d.authorizeStandbyWrite = false
  driver : d.authorizeDriverWrite = false

/-- Everything one event can do to the state, and the writes it authorises. -/
inductive Transition (s : ServiceLifecycleState) (e : ServiceLifecycleEvent) :
    ServiceLifecycleState → ServiceLifecycleDecision → Prop where
  | ignored (d) (quiet : Quiet d) : Transition s e s d
  | stopped (d) (quiet : Quiet d) (type : e.type = .stop) :
      Transition s e (clearPending { s with stopped := true }) d
  | lockedOut (d) (quiet : Quiet d) (type : e.type = .lockout) :
      Transition s e (clearPending { s with lockedOut := true }) d
  | superseded (d) (quiet : Quiet d) (type : e.type = .explicitSupersede) :
      Transition s e
        (clearPending
          { s with
            logonWriteIssued := false
            standbyWriteIssued := false
            driverWriteIssued := false }) d
  | logonAccepted (d) (quiet : Quiet d) (accepts : AcceptsLogon s e)
      (trigger : ServiceLifecycleTrigger) (generation : UInt64) :
      Transition s e
        { s with
          logonPending := true
          logonWriteIssued := false
          pendingLogonIdentity := e.identity
          pendingLogonTrigger := trigger
          logonGeneration := generation } d
  | loggedOff (d) (quiet : Quiet d) (type : e.type = .logoff)
      (same : serviceLifecycleIdentityEqual s.pendingLogonIdentity e.identity = true)
      (last : ServiceLifecycleIdentity) :
      Transition s e
        { s with
          logonPending := false
          logonWriteIssued := false
          pendingLogonIdentity := {}
          pendingLogonTrigger := .none
          lastAppliedLogonIdentity := last } d
  | forgotten (d) (quiet : Quiet d) (type : e.type = .logoff) :
      Transition s e { s with lastAppliedLogonIdentity := {} } d
  | logonStarted (starts : StartsLogonWrite s e) (trigger : ServiceLifecycleTrigger) :
      Transition s e { s with logonWriteIssued := true }
        { authorizeLogonWrite := true, trigger := trigger }
  | logonReturned (d) (quiet : Quiet d) (type : e.type = .logonWriteFinished)
      (same : serviceLifecycleIdentityEqual s.pendingLogonIdentity e.identity = true) :
      Transition s e { s with logonWriteIssued := false } d
  | logonFinished (d) (quiet : Quiet d) (type : e.type = .logonWriteFinished)
      (same : serviceLifecycleIdentityEqual s.pendingLogonIdentity e.identity = true)
      (last : ServiceLifecycleIdentity) :
      Transition s e
        { s with
          logonWriteIssued := false
          lastAppliedLogonIdentity := last
          logonPending := false
          pendingLogonIdentity := {}
          pendingLogonTrigger := .none } d
  | suspended (d) (quiet : Quiet d) (type : e.type = .suspend) (generation : UInt64) :
      Transition s e { s with suspendGeneration := generation, suspendArmed := true } d
  | resumedUnderDriver (d) (quiet : Quiet d) (consumes : ConsumesSuspend s e) :
      Transition s e
        { s with
          resumedSuspendGeneration := s.suspendGeneration
          suspendArmed := false } d
  | resumed (d) (quiet : Quiet d) (consumes : ConsumesSuspend s e)
      (idle : s.driverPending = false) :
      Transition s e
        { s with
          resumedSuspendGeneration := s.suspendGeneration
          suspendArmed := false
          standbyPending := true
          standbyWriteIssued := false } d
  | standbyStarted (starts : StartsStandbyWrite s e) :
      Transition s e { s with standbyWriteIssued := true }
        { authorizeStandbyWrite := true, trigger := .standbyResume }
  | standbyReturned (d) (quiet : Quiet d) (type : e.type = .standbyWriteFinished) :
      Transition s e { s with standbyWriteIssued := false } d
  | standbyFinished (d) (quiet : Quiet d) (type : e.type = .standbyWriteFinished) :
      Transition s e { s with standbyWriteIssued := false, standbyPending := false } d
  | recovering (d) (quiet : Quiet d) (type : e.type = .driverRecovery)
      (running : s.stopped = false ∧ s.lockedOut = false) (issued : Bool)
      (kept : s.driverPending = true → issued = s.driverWriteIssued) :
      Transition s e
        { s with
          driverPending := true
          driverWriteIssued := issued
          standbyPending := false
          standbyWriteIssued := false } d
  | driverStarted (starts : StartsDriverWrite s e) :
      Transition s e { s with driverWriteIssued := true }
        { authorizeDriverWrite := true, trigger := .driverRecovery }
  | driverReturned (d) (quiet : Quiet d) (type : e.type = .driverWriteFinished) :
      Transition s e { s with driverWriteIssued := false } d
  | driverFinished (d) (quiet : Quiet d) (type : e.type = .driverWriteFinished) :
      Transition s e { s with driverWriteIssued := false, driverPending := false } d

/-! Each handler is one of the transitions.  Its guard is read off the branches of
the source. -/

theorem logonNotification_transition {trigger : ServiceLifecycleTrigger}
    (hrun : s.stopped = false) (htype : e.type = .wtsLogon ∨ e.type = .taskHandoff) :
    Transition s e (reduceLogonNotification s e trigger).1
      (reduceLogonNotification s e trigger).2 := by
  unfold reduceLogonNotification
  split_ifs with hlock hvalid hlast hpending
  · exact .ignored _ ⟨rfl, rfl, rfl⟩
  · exact .ignored _ ⟨rfl, rfl, rfl⟩
  · exact .ignored _ ⟨rfl, rfl, rfl⟩
  · exact .ignored _ ⟨rfl, rfl, rfl⟩
  · have haccepts : AcceptsLogon s e := by
      refine ⟨htype, hrun, by simpa using hlock, by simpa using hvalid, by simpa using hlast, ?_⟩
      simpa only [Bool.and_eq_true] using hpending
    exact .logonAccepted _ ⟨rfl, rfl, rfl⟩ haccepts _ _

theorem logoff_transition (htype : e.type = .logoff) :
    Transition s e (reduceLogoff s e).1 (reduceLogoff s e).2 := by
  simp only [reduceLogoff]
  by_cases hsame : serviceLifecycleIdentityEqual s.pendingLogonIdentity e.identity = true
  · rw [if_pos hsame]
    split_ifs with hlast
    · exact .loggedOff _ ⟨rfl, rfl, rfl⟩ htype hsame {}
    · exact .loggedOff _ ⟨rfl, rfl, rfl⟩ htype hsame s.lastAppliedLogonIdentity
  · rw [if_neg hsame]
    split_ifs with hlast
    · exact .forgotten _ ⟨rfl, rfl, rfl⟩ htype
    · exact .ignored _ ⟨rfl, rfl, rfl⟩

theorem logonWriteStarted_transition (hrun : s.stopped = false)
    (htype : e.type = .logonWriteStarted) :
    Transition s e (reduceLogonWriteStarted s e).1 (reduceLogonWriteStarted s e).2 := by
  unfold reduceLogonWriteStarted
  split_ifs with hguard
  · simp only [Bool.and_eq_true, Bool.not_eq_true'] at hguard
    obtain ⟨⟨⟨hpending, hissued⟩, hsame⟩, hlock⟩ := hguard
    exact .logonStarted ⟨htype, hrun, hlock, hpending, hissued, hsame⟩ _
  · exact .ignored _ ⟨rfl, rfl, rfl⟩

theorem logonWriteFinished_transition (htype : e.type = .logonWriteFinished) :
    Transition s e (reduceLogonWriteFinished s e).1 (reduceLogonWriteFinished s e).2 := by
  unfold reduceLogonWriteFinished
  by_cases hguard : (s.logonPending && s.logonWriteIssued &&
      serviceLifecycleIdentityEqual s.pendingLogonIdentity e.identity) = true
  · have hsame : serviceLifecycleIdentityEqual s.pendingLogonIdentity e.identity = true :=
      (Bool.and_eq_true _ _ ▸ hguard).2
    rw [if_pos hguard]
    by_cases hattempted : (!e.writeAttempted) = true
    · rw [if_pos hattempted]
      exact .logonReturned _ ⟨rfl, rfl, rfl⟩ htype hsame
    · rw [if_neg hattempted]
      exact .logonFinished _ ⟨rfl, rfl, rfl⟩ htype hsame _
  · rw [if_neg hguard]
    exact .ignored _ ⟨rfl, rfl, rfl⟩

theorem resume_transition (hrun : s.stopped = false) (htype : e.type = .resume) :
    Transition s e (reduceResume s).1 (reduceResume s).2 := by
  unfold reduceResume
  split_ifs with hguard hdriver
  · simp only [Bool.and_eq_true, Bool.not_eq_true', bne_iff_ne] at hguard
    obtain ⟨⟨hlock, harmed⟩, hfresh⟩ := hguard
    exact .resumedUnderDriver _ ⟨rfl, rfl, rfl⟩ ⟨htype, hrun, hlock, harmed, hfresh⟩
  · simp only [Bool.and_eq_true, Bool.not_eq_true', bne_iff_ne] at hguard
    obtain ⟨⟨hlock, harmed⟩, hfresh⟩ := hguard
    exact .resumed _ ⟨rfl, rfl, rfl⟩ ⟨htype, hrun, hlock, harmed, hfresh⟩ (by simpa using hdriver)
  · exact .ignored _ ⟨rfl, rfl, rfl⟩
  · exact .ignored _ ⟨rfl, rfl, rfl⟩
  · exact .ignored _ ⟨rfl, rfl, rfl⟩

theorem standbyWriteStarted_transition (hrun : s.stopped = false)
    (htype : e.type = .standbyWriteStarted) :
    Transition s e (reduceStandbyWriteStarted s).1 (reduceStandbyWriteStarted s).2 := by
  unfold reduceStandbyWriteStarted
  split_ifs with hguard
  · simp only [Bool.and_eq_true, Bool.not_eq_true'] at hguard
    obtain ⟨⟨⟨hpending, hissued⟩, hdriver⟩, hlock⟩ := hguard
    exact .standbyStarted ⟨htype, hrun, hlock, hpending, hissued, hdriver⟩
  · exact .ignored _ ⟨rfl, rfl, rfl⟩

theorem standbyWriteFinished_transition (htype : e.type = .standbyWriteFinished) :
    Transition s e (reduceStandbyWriteFinished s e).1 (reduceStandbyWriteFinished s e).2 := by
  unfold reduceStandbyWriteFinished
  by_cases hguard : (s.standbyPending && s.standbyWriteIssued) = true
  · rw [if_pos hguard]
    by_cases hattempted : (!e.writeAttempted) = true
    · rw [if_pos hattempted]
      exact .standbyReturned _ ⟨rfl, rfl, rfl⟩ htype
    · rw [if_neg hattempted]
      exact .standbyFinished _ ⟨rfl, rfl, rfl⟩ htype
  · rw [if_neg hguard]
    exact .ignored _ ⟨rfl, rfl, rfl⟩

theorem driverRecovery_transition (hrun : s.stopped = false) (htype : e.type = .driverRecovery) :
    Transition s e (reduceDriverRecovery s e).1 (reduceDriverRecovery s e).2 := by
  simp only [reduceDriverRecovery]
  split_ifs with hlock hdriver
  · -- Already armed: the recovery only dominates the standby work.
    have harmed : ({ s with standbyPending := false, standbyWriteIssued := false } :
        ServiceLifecycleState) =
        { s with
          driverPending := true
          driverWriteIssued := s.driverWriteIssued
          standbyPending := false
          standbyWriteIssued := false } := by
      simp [hdriver]
    rw [harmed]
    exact .recovering _ ⟨rfl, rfl, rfl⟩ htype ⟨hrun, by simpa using hlock⟩ _ fun _ => rfl
  · exact .recovering _ ⟨rfl, rfl, rfl⟩ htype ⟨hrun, by simpa using hlock⟩ _
      fun h => absurd h hdriver
  · exact .ignored _ ⟨rfl, rfl, rfl⟩

theorem driverWriteStarted_transition (hrun : s.stopped = false)
    (htype : e.type = .driverWriteStarted) :
    Transition s e (reduceDriverWriteStarted s e).1 (reduceDriverWriteStarted s e).2 := by
  unfold reduceDriverWriteStarted
  split_ifs with hguard
  · simp only [Bool.and_eq_true, Bool.not_eq_true'] at hguard
    obtain ⟨⟨⟨⟨hpending, hissued⟩, hproof⟩, hvalidated⟩, hlock⟩ := hguard
    exact .driverStarted ⟨htype, hrun, hlock, hpending, hissued, hproof, hvalidated⟩
  · exact .ignored _ ⟨rfl, rfl, rfl⟩

theorem driverWriteFinished_transition (htype : e.type = .driverWriteFinished) :
    Transition s e (reduceDriverWriteFinished s e).1 (reduceDriverWriteFinished s e).2 := by
  unfold reduceDriverWriteFinished
  by_cases hguard : (s.driverPending && s.driverWriteIssued) = true
  · rw [if_pos hguard]
    by_cases hattempted : (!e.writeAttempted) = true
    · rw [if_pos hattempted]
      exact .driverReturned _ ⟨rfl, rfl, rfl⟩ htype
    · rw [if_neg hattempted]
      exact .driverFinished _ ⟨rfl, rfl, rfl⟩ htype
  · rw [if_neg hguard]
    exact .ignored _ ⟨rfl, rfl, rfl⟩

/-- The reducer past its early returns, for the event types they catch. -/
theorem reduceRunning_transition (hrun : s.stopped = false) :
    Transition s e (reduceRunning s e).1 (reduceRunning s e).2 := by
  unfold reduceRunning
  split
  case h_1 htype => exact logonNotification_transition hrun (.inl htype)
  case h_2 htype => exact logonNotification_transition hrun (.inr htype)
  case h_3 htype => exact logoff_transition htype
  case h_4 =>
    unfold reducePrerequisiteSignal
    split_ifs
    · exact .ignored _ ⟨rfl, rfl, rfl⟩
    · exact .ignored _ ⟨rfl, rfl, rfl⟩
  case h_5 htype => exact logonWriteStarted_transition hrun htype
  case h_6 htype => exact logonWriteFinished_transition htype
  case h_7 htype => exact .suspended _ ⟨rfl, rfl, rfl⟩ htype _
  case h_8 htype => exact resume_transition hrun htype
  case h_9 htype => exact standbyWriteStarted_transition hrun htype
  case h_10 htype => exact standbyWriteFinished_transition htype
  case h_11 htype => exact driverRecovery_transition hrun htype
  case h_12 htype => exact driverWriteStarted_transition hrun htype
  case h_13 htype => exact driverWriteFinished_transition htype
  case h_14 => exact .ignored _ ⟨rfl, rfl, rfl⟩
  case h_15 => exact .ignored _ ⟨rfl, rfl, rfl⟩

/-- **The step lemma of the reducer.** -/
theorem reduce_transition :
    Transition s e (serviceLifecycleReduce s e).1 (serviceLifecycleReduce s e).2 := by
  unfold serviceLifecycleReduce
  split_ifs with hstop hstopped hlockout hsupersede
  · exact .stopped _ ⟨rfl, rfl, rfl⟩ hstop
  · exact .ignored _ ⟨rfl, rfl, rfl⟩
  · exact .lockedOut _ ⟨rfl, rfl, rfl⟩ hlockout
  · exact .superseded _ ⟨rfl, rfl, rfl⟩ hsupersede
  · exact reduceRunning_transition (by simpa using hstopped)

/-- An event that none of the early returns catches reaches its own handler. -/
theorem reduce_running (hrun : s.stopped = false) (hstop : e.type ≠ .stop)
    (hlockout : e.type ≠ .lockout) (hsupersede : e.type ≠ .explicitSupersede) :
    serviceLifecycleReduce s e = reduceRunning s e := by
  rw [serviceLifecycleReduce, if_neg hstop, if_neg (by simp [hrun]), if_neg hlockout,
    if_neg hsupersede]

/-! ## When a write is authorised -/

variable {s' : ServiceLifecycleState} {d : ServiceLifecycleDecision}

theorem Transition.logon_authorized (h : Transition s e s' d)
    (hd : d.authorizeLogonWrite = true) :
    StartsLogonWrite s e ∧ s' = { s with logonWriteIssued := true } := by
  cases h with
  | logonStarted starts => exact ⟨starts, rfl⟩
  | standbyStarted => cases hd
  | driverStarted => cases hd
  | _ =>
    rename Quiet d => quiet
    exact absurd hd (by simp [quiet.logon])

theorem authorizeLogonWrite_iff :
    (serviceLifecycleReduce s e).2.authorizeLogonWrite = true ↔
      e.type = .logonWriteStarted ∧ s.stopped = false ∧ s.lockedOut = false ∧
        s.logonPending = true ∧ s.logonWriteIssued = false ∧
        serviceLifecycleIdentityEqual s.pendingLogonIdentity e.identity = true := by
  refine ⟨fun h => (reduce_transition.logon_authorized h).1, ?_⟩
  rintro ⟨htype, hrun, hlock, hpending, hissued, hsame⟩
  rw [reduce_running hrun (by simp [htype]) (by simp [htype]) (by simp [htype])]
  simp [reduceRunning, reduceLogonWriteStarted, *]

theorem issued_of_authorizeLogonWrite
    (h : (serviceLifecycleReduce s e).2.authorizeLogonWrite = true) :
    (serviceLifecycleReduce s e).1 = { s with logonWriteIssued := true } :=
  (reduce_transition.logon_authorized h).2

/-- The events that end an issued logon write: its FINISHED event, a notification
that replaces the pending login, its LOGOFF, or a cancellation of all work. -/
def LogonReleases (s : ServiceLifecycleState) (e : ServiceLifecycleEvent) : Prop :=
  (e.type = .logonWriteFinished ∧
      serviceLifecycleIdentityEqual s.pendingLogonIdentity e.identity = true) ∨
    AcceptsLogon s e ∨
    (e.type = .logoff ∧
      serviceLifecycleIdentityEqual s.pendingLogonIdentity e.identity = true) ∨
    e.type = .explicitSupersede ∨ e.type = .lockout ∨ e.type = .stop

theorem Transition.stopped_kept (h : Transition s e s' d) (hs : s.stopped = true) :
    s'.stopped = true := by
  cases h <;> first | exact hs | rfl

theorem Transition.lockedOut_kept (h : Transition s e s' d) (hs : s.lockedOut = true) :
    s'.lockedOut = true := by
  cases h <;> first | exact hs | rfl

theorem Transition.logon_released (h : Transition s e s' d)
    (hs : s.logonPending = true ∧ s.logonWriteIssued = true)
    (hs' : ¬ (s'.logonPending = true ∧ s'.logonWriteIssued = true)) : LogonReleases s e := by
  cases h with
  | stopped _ _ type => exact .inr (.inr (.inr (.inr (.inr type))))
  | lockedOut _ _ type => exact .inr (.inr (.inr (.inr (.inl type))))
  | superseded _ _ type => exact .inr (.inr (.inr (.inl type)))
  | logonAccepted _ _ accepts => exact .inr (.inl accepts)
  | loggedOff _ _ type same => exact .inr (.inr (.inl ⟨type, same⟩))
  | logonStarted starts => exact absurd ⟨hs.1, rfl⟩ hs'
  | logonReturned _ _ type same => exact .inl ⟨type, same⟩
  | logonFinished _ _ type same => exact .inl ⟨type, same⟩
  | _ => exact absurd hs hs'

/-- A notification reaches its handler unless the service is stopped. -/
theorem reduce_notification (ht : e.type = .wtsLogon ∨ e.type = .taskHandoff)
    (hrun : s.stopped = false) :
    ∃ trigger, serviceLifecycleReduce s e = reduceLogonNotification s e trigger := by
  rcases ht with ht | ht
  · refine ⟨.wtsLogon, ?_⟩
    rw [reduce_running hrun (by simp [ht]) (by simp [ht]) (by simp [ht]), reduceRunning, ht]
  · refine ⟨.taskHandoff, ?_⟩
    rw [reduce_running hrun (by simp [ht]) (by simp [ht]) (by simp [ht]), reduceRunning, ht]

/-- A notification that is not accepted leaves the state as it was. -/
theorem notification_refused (ht : e.type = .wtsLogon ∨ e.type = .taskHandoff)
    (h : ¬ AcceptsLogon s e) : (serviceLifecycleReduce s e).1 = s := by
  by_cases hstopped : s.stopped = true
  · rcases ht with ht | ht
    · simp [serviceLifecycleReduce, ht, hstopped]
    · simp [serviceLifecycleReduce, ht, hstopped]
  · have hrun : s.stopped = false := by simpa using hstopped
    obtain ⟨trigger, hreduce⟩ := reduce_notification ht hrun
    rw [hreduce, reduceLogonNotification]
    split_ifs with hlock hvalid hlast hpending
    · rfl
    · rfl
    · rfl
    · rfl
    · exact absurd ⟨ht, hrun, by simpa using hlock, by simpa using hvalid, by simpa using hlast,
        by simpa using hpending⟩ h

/-- An accepted notification leaves its own identity pending, with no write
issued for it. -/
theorem notification_accepted (h : AcceptsLogon s e) :
    (serviceLifecycleReduce s e).1.logonPending = true ∧
      (serviceLifecycleReduce s e).1.logonWriteIssued = false ∧
      (serviceLifecycleReduce s e).1.pendingLogonIdentity = e.identity := by
  obtain ⟨ht, hrun, hlock, hvalid, hlast, hpending⟩ := h
  obtain ⟨trigger, hreduce⟩ := reduce_notification ht hrun
  rw [hreduce, reduceLogonNotification, if_neg (by simp [hlock]), if_neg (by simp [hvalid]),
    if_neg (by simp [hlast]), if_neg (by simpa using hpending)]
  exact ⟨rfl, rfl, rfl⟩

/-- Only an accepted notification changes which login is pending. -/
theorem Transition.pendingLogon_kept (h : Transition s e s' d) (hacc : ¬ AcceptsLogon s e)
    (hs' : s'.logonPending = true) :
    s.logonPending = true ∧ s'.pendingLogonIdentity = s.pendingLogonIdentity := by
  cases h with
  | stopped => cases hs'
  | lockedOut => cases hs'
  | superseded => cases hs'
  | logonAccepted _ _ accepts => exact absurd accepts hacc
  | loggedOff => cases hs'
  | logonFinished => cases hs'
  | _ => exact ⟨hs', rfl⟩

/-- A FINISHED event that reports an attempted write of the pending login leaves
no login pending. -/
theorem logonFinished_step (hrun : s.stopped = false) (hp : s.logonPending = true)
    (hi : s.logonWriteIssued = true) (hf : e.type = .logonWriteFinished)
    (hid : serviceLifecycleIdentityEqual s.pendingLogonIdentity e.identity = true)
    (ha : e.writeAttempted = true) : (serviceLifecycleReduce s e).1.logonPending = false := by
  simp [serviceLifecycleReduce, reduceRunning, reduceLogonWriteFinished, *]

/-! ## How standby work comes and goes -/

/-- The invariant of the reducer: the pending login is the one identity kept for
it, driver recovery excludes standby work, and a stopped or locked-out service
has nothing pending. -/
structure Coherent (s : ServiceLifecycleState) : Prop where
  identity : s.pendingLogonIdentity.valid = s.logonPending
  exclusive : s.driverPending = true → s.standbyPending = false
  halted : s.stopped = true ∨ s.lockedOut = true →
    s.logonPending = false ∧ s.standbyPending = false ∧ s.driverPending = false

theorem coherent_initial : Coherent {} :=
  ⟨rfl, fun _ => rfl, fun _ => ⟨rfl, rfl, rfl⟩⟩

/-- A service that is neither stopped nor locked out meets the last clause. -/
theorem not_halted (hrun : s.stopped = false) (hlock : s.lockedOut = false) :
    ¬ (s.stopped = true ∨ s.lockedOut = true) := by
  simp [hrun, hlock]

theorem coherent_step (h : Coherent s) (hstep : Transition s e s' d) : Coherent s' := by
  obtain ⟨hid, hexcl, hhalt⟩ := h
  cases hstep with
  | ignored => exact ⟨hid, hexcl, hhalt⟩
  | stopped => exact ⟨rfl, fun _ => rfl, fun _ => ⟨rfl, rfl, rfl⟩⟩
  | lockedOut => exact ⟨rfl, fun _ => rfl, fun _ => ⟨rfl, rfl, rfl⟩⟩
  | superseded => exact ⟨rfl, fun _ => rfl, fun _ => ⟨rfl, rfl, rfl⟩⟩
  | logonAccepted _ _ accepts =>
    obtain ⟨_, hrun, hlock, hvalid, _, _⟩ := accepts
    exact ⟨hvalid, hexcl, fun h => absurd h (not_halted hrun hlock)⟩
  | loggedOff => exact ⟨rfl, hexcl, fun h => ⟨rfl, (hhalt h).2⟩⟩
  | logonFinished => exact ⟨rfl, hexcl, fun h => ⟨rfl, (hhalt h).2⟩⟩
  | resumed _ _ consumes idle =>
    obtain ⟨_, hrun, hlock, _, _⟩ := consumes
    exact ⟨hid, fun h => absurd h (by simp [idle]), fun h => absurd h (not_halted hrun hlock)⟩
  | standbyFinished =>
    exact ⟨hid, fun _ => rfl, fun h => ⟨(hhalt h).1, rfl, (hhalt h).2.2⟩⟩
  | recovering _ _ _ running =>
    exact ⟨hid, fun _ => rfl, fun h => absurd h (not_halted running.1 running.2)⟩
  | driverFinished =>
    exact ⟨hid, nofun, fun h => ⟨(hhalt h).1, (hhalt h).2.1, rfl⟩⟩
  | _ => exact ⟨hid, hexcl, hhalt⟩

end Steps
end GreenCurve
