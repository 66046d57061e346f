import GreenCurve.Lifecycle

/-! # Safety of the lifecycle reducer over whole event sequences

Every statement is about the run of the reducer from the zero state on an
arbitrary event sequence.  The authorisations of one kind are separated by the
events that release its latch; the work that is pending, and for whom, is fixed
by the invariant `Coherent`. -/

namespace GreenCurve

/-- The reducer as a machine, started in the zero state. -/
def serviceLifecycle :
    EventMachine ServiceLifecycleState ServiceLifecycleEvent ServiceLifecycleDecision :=
  ⟨{}, serviceLifecycleReduce⟩

namespace ServiceLifecycle

variable (ev : Nat → ServiceLifecycleEvent)

/-- The state before the `n`-th event. -/
def state (n : Nat) : ServiceLifecycleState := serviceLifecycle.stateAt ev n

/-- The decision on the `n`-th event. -/
def decision (n : Nat) : ServiceLifecycleDecision := (serviceLifecycleReduce (state ev n) (ev n)).2

theorem state_succ (n : Nat) : state ev (n + 1) = (serviceLifecycleReduce (state ev n) (ev n)).1 :=
  rfl

theorem coherent (n : Nat) : Coherent (state ev n) :=
  serviceLifecycle.invariant ev coherent_initial (fun _ _ h => coherent_step h reduce_transition) n

theorem stopped_stable {i k : Nat} (hik : i ≤ k) (h : (state ev i).stopped = true) :
    (state ev k).stopped = true :=
  serviceLifecycle.stable ev (I := fun s => s.stopped = true)
    (fun _ _ h => reduce_transition.stopped_kept h) hik h

theorem lockedOut_stable {i k : Nat} (hik : i ≤ k) (h : (state ev i).lockedOut = true) :
    (state ev k).lockedOut = true :=
  serviceLifecycle.stable ev (I := fun s => s.lockedOut = true)
    (fun _ _ h => reduce_transition.lockedOut_kept h) hik h

/-- Nothing is pending. -/
def Idle (s : ServiceLifecycleState) : Prop :=
  s.logonPending = false ∧ s.standbyPending = false ∧ s.driverPending = false

/-- Once the service is stopped or locked out it stays idle. -/
theorem idle_of_halted {i k : Nat} (hik : i ≤ k)
    (h : (state ev i).stopped = true ∨ (state ev i).lockedOut = true) : Idle (state ev k) := by
  refine (coherent ev k).halted ?_
  rcases h with h | h
  · exact .inl (stopped_stable ev hik h)
  · exact .inr (lockedOut_stable ev hik h)

/-- STOP and LOCKOUT halt the service, whatever came before. -/
theorem halted_of_event {i : Nat} (h : (ev i).type = .stop ∨ (ev i).type = .lockout) :
    (state ev (i + 1)).stopped = true ∨ (state ev (i + 1)).lockedOut = true := by
  rw [state_succ]
  rcases h with h | h
  · left
    simp [serviceLifecycleReduce, h, reduceStop, clearPending]
  · by_cases hs : (state ev i).stopped = true
    · exact .inl (reduce_transition.stopped_kept hs)
    · right
      simp [serviceLifecycleReduce, h, hs, reduceLockout, clearPending]

/-! ## Between two authorisations

An authorised write is issued under its pending bit, and the bit that authorises
the next one is not issued: in between, the latch was released. -/

variable {ev}

theorem logon_released {i k : Nat} (hik : i < k)
    (hi : (decision ev i).authorizeLogonWrite = true)
    (hk : (decision ev k).authorizeLogonWrite = true) :
    ∃ j, i < j ∧ j < k ∧ LogonReleases (state ev j) (ev j) := by
  obtain ⟨_, _, _, hpi, _⟩ := authorizeLogonWrite_iff.mp hi
  obtain ⟨_, _, _, _, hnk, _⟩ := authorizeLogonWrite_iff.mp hk
  have hissued : (state ev (i + 1)).logonPending = true ∧
      (state ev (i + 1)).logonWriteIssued = true := by
    rw [state_succ, issued_of_authorizeLogonWrite hi]
    exact ⟨hpi, rfl⟩
  obtain ⟨j, hij, hjk, hj, hj'⟩ := Crossing.exists_exit
    (Q := fun n => (state ev n).logonPending = true ∧ (state ev n).logonWriteIssued = true)
    hik hissued (fun h => absurd h.2 (by simp [hnk]))
  exact ⟨j, hij, hjk, reduce_transition.logon_released hj hj'⟩

section LogonWrites
variable (ev) (A : ServiceLifecycleIdentity)

/-- The event carries the login `A`. -/
def Names (e : ServiceLifecycleEvent) : Prop :=
  serviceLifecycleIdentityEqual e.identity A = true

instance (e : ServiceLifecycleEvent) : Decidable (Names A e) :=
  inferInstanceAs (Decidable (_ = true))

/-- A write for `A` is authorised at `n`. -/
def LogonStart (n : Nat) : Prop :=
  (decision ev n).authorizeLogonWrite = true ∧ Names A (ev n)

/-- A `LOGON_WRITE_FINISHED` event for `A`. -/
def LogonFinish (n : Nat) : Prop := (ev n).type = .logonWriteFinished ∧ Names A (ev n)

/-- `f` is the FINISHED event of the write for `A` authorised at `i`. -/
def FirstLogonFinish (i f : Nat) : Prop :=
  i < f ∧ LogonFinish ev A f ∧ ∀ m, i < m → m < f → ¬ LogonFinish ev A m

/-- The login `A` ended, or an explicit apply took over. -/
def LoginEnds (n : Nat) : Prop :=
  ((ev n).type = .logoff ∧ Names A (ev n)) ∨ (ev n).type = .explicitSupersede

/-- At most one write is authorised and attempted for each login: between two of
them the login ended or was superseded. -/
def OneAttemptPerLogon : Prop :=
  ∀ A i f k g, LogonStart ev A i → FirstLogonFinish ev A i f → (ev f).writeAttempted = true →
    LogonStart ev A k → FirstLogonFinish ev A k g → (ev g).writeAttempted = true → i < k →
    ∃ j, i < j ∧ j < k ∧ LoginEnds ev A j

/-- A START for `A` finds `A` pending, not issued and not halted. -/
def StartAdmitted (n : Nat) : Prop :=
  (ev n).type = .logonWriteStarted ∧ (state ev n).stopped = false ∧
    (state ev n).lockedOut = false ∧ (state ev n).logonPending = true ∧
    (state ev n).logonWriteIssued = false ∧
    serviceLifecycleIdentityEqual (state ev n).pendingLogonIdentity (ev n).identity = true ∧
    Names A (ev n)

/-- A write for `A` has started and its FINISHED event has not arrived. -/
def InFlight (n : Nat) : Prop :=
  Since (StartAdmitted ev A) (fun j => LoginEnds ev A j ∨ LogonFinish ev A j) n

/-- A write for `A` has been attempted during this login. -/
def Attempted (n : Nat) : Prop :=
  Since (fun j => InFlight ev A j ∧ LogonFinish ev A j ∧ (ev j).writeAttempted = true)
    (LoginEnds ev A) n

/-- No notification is taken as a new login while a write for it is in flight or
has been attempted. -/
def NoRepeatedLogin : Prop :=
  ∀ A n, AcceptsLogon (state ev n) (ev n) → Names A (ev n) →
    ¬ InFlight ev A n ∧ ¬ Attempted ev A n

/-- `A` is the pending login. -/
def PendingIs (s : ServiceLifecycleState) : Prop :=
  s.logonPending = true ∧ serviceLifecycleIdentityEqual s.pendingLogonIdentity A = true

variable {ev A}

theorem logonStart_iff {n : Nat} : LogonStart ev A n ↔ StartAdmitted ev A n := by
  rw [LogonStart, StartAdmitted, decision, authorizeLogonWrite_iff]
  simp only [and_assoc]

/-- A login other than the one just accepted was pending before. -/
theorem pendingIs_step {n : Nat} (hrep : NoRepeatedLogin ev)
    (hout : InFlight ev A n ∨ Attempted ev A n) (h : PendingIs A (state ev (n + 1))) :
    ¬ AcceptsLogon (state ev n) (ev n) ∧ PendingIs A (state ev n) := by
  have hacc : ¬ AcceptsLogon (state ev n) (ev n) := by
    intro hacc
    have hid := (notification_accepted hacc).2.2
    rw [← state_succ] at hid
    obtain ⟨hfly, hatt⟩ := hrep A n hacc (by rw [Names, ← hid]; exact h.2)
    exact hout.elim hfly hatt
  obtain ⟨hp, hid⟩ := reduce_transition.pendingLogon_kept hacc h.1
  rw [← state_succ] at hid
  exact ⟨hacc, hp, by rw [← hid]; exact h.2⟩

/-- While a write for `A` is in flight, `A` is pending only with its write issued. -/
theorem inFlight_step {n : Nat} (hrep : NoRepeatedLogin ev)
    (ih : InFlight ev A n → PendingIs A (state ev n) → (state ev n).logonWriteIssued = true)
    (hfly : InFlight ev A (n + 1)) (hp : PendingIs A (state ev (n + 1))) :
    (state ev (n + 1)).logonWriteIssued = true := by
  rcases Since.succ_iff.mp hfly with hstart | ⟨hfly, hopen⟩
  · rw [state_succ, issued_of_authorizeLogonWrite (logonStart_iff.mpr hstart).1]
  · obtain ⟨hacc, hpn⟩ := pendingIs_step hrep (.inl hfly) hp
    by_contra hlost
    have hrel : LogonReleases (state ev n) (ev n) :=
      reduce_transition.logon_released ⟨hpn.1, ih hfly hpn⟩ fun h => hlost h.2
    have hsame : ∀ {B : ServiceLifecycleIdentity},
        serviceLifecycleIdentityEqual (state ev n).pendingLogonIdentity B = true →
        serviceLifecycleIdentityEqual B A = true := by
      intro B hB
      obtain ⟨rfl, _⟩ := identityEqual_iff.mp hB
      exact hpn.2
    have hidle : ∀ h : (ev n).type = .stop ∨ (ev n).type = .lockout, False := by
      intro h
      have hnone := (idle_of_halted ev (Nat.le_refl (n + 1)) (halted_of_event ev h)).1
      exact absurd hp.1 (by simp [hnone])
    rcases hrel with ⟨hf, hid⟩ | hacc' | ⟨hl, hid⟩ | hs | hl | hs
    · exact hopen (.inr ⟨hf, hsame hid⟩)
    · exact hacc hacc'
    · exact hopen (.inl (.inl ⟨hl, hsame hid⟩))
    · exact hopen (.inl (.inr hs))
    · exact hidle (.inr hl)
    · exact hidle (.inl hs)

/-- Once a write for `A` has been attempted, `A` is not pending. -/
theorem attempted_step {n : Nat} (hrep : NoRepeatedLogin ev)
    (ihf : InFlight ev A n → PendingIs A (state ev n) → (state ev n).logonWriteIssued = true)
    (iha : Attempted ev A n → ¬ PendingIs A (state ev n)) (hatt : Attempted ev A (n + 1)) :
    ¬ PendingIs A (state ev (n + 1)) := by
  intro hp
  rcases Since.succ_iff.mp hatt with ⟨hfly, hfin, ha⟩ | ⟨hatt, _⟩
  · obtain ⟨_, hpn⟩ := pendingIs_step hrep (.inl hfly) hp
    have hrun : (state ev n).stopped = false := by
      by_contra hstop
      have hnone := ((coherent ev n).halted (.inl (by simpa using hstop))).1
      exact absurd hpn.1 (by simp [hnone])
    have hid : serviceLifecycleIdentityEqual (state ev n).pendingLogonIdentity
        (ev n).identity = true := by
      obtain ⟨hA, hvalid, hsid⟩ := identityEqual_iff.mp hpn.2
      obtain ⟨hB, _⟩ := identityEqual_iff.mp hfin.2
      exact identityEqual_iff.mpr ⟨hA.trans hB.symm, hvalid, hsid⟩
    have hnone := logonFinished_step hrun hpn.1 (ihf hfly hpn) hfin.1 hid ha
    exact absurd hp.1 (by rw [state_succ, hnone]; exact Bool.false_ne_true)
  · exact iha hatt (pendingIs_step hrep (.inr hatt) hp).2

/-- What the reducer knows about a login with an outstanding write. -/
theorem outstanding_run (hrep : NoRepeatedLogin ev) (n : Nat) :
    (InFlight ev A n → PendingIs A (state ev n) → (state ev n).logonWriteIssued = true) ∧
      (Attempted ev A n → ¬ PendingIs A (state ev n)) := by
  induction n with
  | zero => exact ⟨fun h => absurd h Since.not_zero, fun h => absurd h Since.not_zero⟩
  | succ n ih =>
    exact ⟨inFlight_step hrep ih.1, attempted_step hrep ih.1 ih.2⟩

/-- **One attempt for each login, as long as no outstanding login is taken as
new.**  In every run in which no notification is accepted for a login whose write
is in flight or has been attempted, two attempted writes for one login are
separated by its LOGOFF or by an explicit supersede. -/
theorem one_attempt_per_logon (hrep : NoRepeatedLogin ev) : OneAttemptPerLogon ev := by
  intro A i f k _ hi hf ha hk _ _ hik
  by_contra hnone
  have hopen : ∀ j, i < j → j < k → ¬ LoginEnds ev A j :=
    fun j hij hjk hj => hnone ⟨j, hij, hjk, hj⟩
  obtain ⟨_, _, _, hp, hni, hid, hname⟩ := logonStart_iff.mp hk
  have hpk : PendingIs A (state ev k) := by
    obtain ⟨heq, _⟩ := identityEqual_iff.mp hid
    exact ⟨hp, by rw [heq]; exact hname⟩
  have hstart := logonStart_iff.mp hi
  obtain ⟨hfly, hatt⟩ := outstanding_run (A := A) hrep k
  rcases Nat.lt_or_ge f k with hfk | hkf
  · refine hatt ⟨f, hfk, ⟨⟨i, hf.1, hstart, ?_⟩, hf.2.1, ha⟩, ?_⟩ hpk
    · rintro j hij hjf (hend | hfin)
      · exact hopen j hij (hjf.trans hfk) hend
      · exact hf.2.2 j hij hjf hfin
    · intro j hfj hjk
      exact hopen j (hf.1.trans hfj) hjk
  · have hissued := hfly ⟨i, hik, hstart, ?_⟩ hpk
    · exact absurd hissued (by simp [hni])
    · rintro j hij hjk (hend | hfin)
      · exact hopen j hij hjk hend
      · exact hf.2.2 j hij (by omega) hfin

/-- The user of the concrete runs. -/
def user : ServiceLifecycleIdentity := { valid := true, sessionId := 1, sid := ['S'] }

/-- A finite run, padded with events of no type. -/
def runOf (es : List ServiceLifecycleEvent) (n : Nat) : ServiceLifecycleEvent :=
  es.getD n { type := .none }

/-- A WTS logon, its write, and the task handoff of the same login. -/
def coalescedLogin : Nat → ServiceLifecycleEvent :=
  runOf
    [{ type := .wtsLogon, identity := user },
      { type := .logonWriteStarted, identity := user },
      { type := .logonWriteFinished, identity := user, success := true, writeAttempted := true },
      { type := .taskHandoff, identity := user }]

/-- The same login when its write fails: the handoff starts it over. -/
def repeatedLogin : Nat → ServiceLifecycleEvent :=
  runOf
    [{ type := .wtsLogon, identity := user },
      { type := .logonWriteStarted, identity := user },
      { type := .logonWriteFinished, identity := user, writeAttempted := true },
      { type := .taskHandoff, identity := user },
      { type := .logonWriteStarted, identity := user },
      { type := .logonWriteFinished, identity := user, writeAttempted := true }]

/-- A successful write is remembered, so the handoff is not taken as a new login. -/
theorem coalescedLogin_noRepeat : NoRepeatedLogin coalescedLogin := by
  intro A n hacc _
  have hn : n < 4 := by
    by_contra hn
    have hnone : (coalescedLogin n).type = .none := by
      rw [coalescedLogin, runOf, List.getD_eq_getElem?_getD,
        List.getElem?_eq_none (by simpa using hn)]
      rfl
    rcases hacc.1 with h | h <;> simp [hnone] at h
  match n, hn with
  | 0, _ => exact ⟨Since.not_zero, Since.not_zero⟩
  | 1, _ => exact absurd hacc (by decide)
  | 2, _ => exact absurd hacc (by decide)
  | 3, _ => exact absurd hacc (by decide)

theorem one_attempt_coalescedLogin : OneAttemptPerLogon coalescedLogin :=
  one_attempt_per_logon coalescedLogin_noRepeat

/-- The repeated login is written twice, with neither a LOGOFF nor a supersede in
between. -/
theorem repeatedLogin_two_attempts : ¬ OneAttemptPerLogon repeatedLogin := by
  intro hone
  have hfirst : FirstLogonFinish repeatedLogin user 1 2 :=
    ⟨by decide, ⟨by decide, by decide⟩, fun m h h' => by omega⟩
  have hsecond : FirstLogonFinish repeatedLogin user 4 5 :=
    ⟨by decide, ⟨by decide, by decide⟩, fun m h h' => by omega⟩
  obtain ⟨j, hj, hj', hend⟩ := hone user 1 2 4 5 ⟨by decide, by decide⟩ hfirst (by decide)
    ⟨by decide, by decide⟩ hsecond (by decide) (by decide)
  have hquiet : (repeatedLogin j).type ≠ .logoff ∧ (repeatedLogin j).type ≠ .explicitSupersede := by
    obtain rfl | rfl : j = 2 ∨ j = 3 := by omega
    · decide
    · decide
  rcases hend with ⟨h, _⟩ | h
  · exact hquiet.1 h
  · exact hquiet.2 h

end LogonWrites

end ServiceLifecycle

end GreenCurve
