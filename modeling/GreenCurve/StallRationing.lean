import GreenCurve.AdmissionRefinement
import GreenCurve.RationedTime

/-! # Stall rationing in the Linux serve loop

The single-threaded serve loop answers one connection at a time.  An admitted
exchange is settled by its transport time: if it made the loop wait long enough to
count as a stall, its account is refused for `GC_DAEMON_PEER_STALL_HOLD_FACTOR`
times as long.  The admission table honours that hold, so one account's stalls take
at most one part in `1 + GC_DAEMON_PEER_STALL_HOLD_FACTOR` of the loop. -/

namespace GreenCurve

/-! ## The policy -/

abbrev GC_DAEMON_PEER_STALL_BUDGET_MS : Nat := 2000
abbrev GC_DAEMON_PEER_STALL_HOLD_FACTOR : Nat := 2
abbrev GC_DAEMON_PEER_STALL_HOLD_MIN_MS : Nat := 100
abbrev GC_DAEMON_PEER_STALL_MAX_MS : Nat := 2 * GC_DAEMON_PEER_STALL_BUDGET_MS
abbrev GC_DAEMON_PEER_STALL_HOLD_MAX_MS : Nat :=
  GC_DAEMON_PEER_STALL_HOLD_FACTOR * GC_DAEMON_PEER_STALL_MAX_MS

def gcDaemonPeerStallHoldMs (stalledMs : Nat) : Nat :=
  if stalledMs < GC_DAEMON_PEER_STALL_HOLD_MIN_MS then 0
  else
    let stalledMs :=
      if stalledMs > GC_DAEMON_PEER_STALL_MAX_MS then GC_DAEMON_PEER_STALL_MAX_MS else stalledMs
    stalledMs * GC_DAEMON_PEER_STALL_HOLD_FACTOR

/-- How an admitted exchange ended. -/
inductive GcDaemonExchangeOutcome where
  | completed | readFailed | writeFailed
  deriving DecidableEq, Repr

structure GcDaemonExchangeSettlement where
  costTokens : UInt32
  transportMs : Nat
  holdMs : Nat
  deriving DecidableEq, Repr

/-- The outcome prices the charge; the transport time alone decides the hold. -/
def gcDaemonExchangeSettle (outcome : GcDaemonExchangeOutcome) (readMs writeMs : Nat) :
    GcDaemonExchangeSettlement :=
  let writeMs := if outcome = .readFailed then 0 else writeMs
  let transportMs := if readMs > 2 ^ 64 - 1 - writeMs then 2 ^ 64 - 1 else readMs + writeMs
  { costTokens :=
      if outcome = .completed then SERVICE_IPC_COST_SUCCESS else SERVICE_IPC_COST_TRANSPORT_FAULT
    transportMs := transportMs
    holdMs := gcDaemonPeerStallHoldMs transportMs }

def gcDaemonExchangeAccount (table : ServiceIpcAdmissionTable) (key : ServiceIpcThrottleKey)
    (outcome : GcDaemonExchangeOutcome) (readMs writeMs nowMs : Nat) :
    ServiceIpcAdmissionTable × GcDaemonExchangeSettlement :=
  let settled := gcDaemonExchangeSettle outcome readMs writeMs
  if !key.valid then (table, settled)
  else
    let table := serviceIpcCharge table key .normal settled.costTokens nowMs
    if settled.holdMs ≠ 0 then
      (serviceIpcHold table key (addTicks nowMs settled.holdMs) nowMs, settled)
    else (table, settled)

/-! ## The serve loop -/

/-- One accepted connection: the peer's key and what the loop measures on the
monotonic clock.  For a refused peer only the key and the first time are read. -/
structure DaemonConnection where
  key : ServiceIpcThrottleKey
  admitMs : Nat
  readStartMs : Nat
  readMs : Nat
  outcome : GcDaemonExchangeOutcome
  writeStartMs : Nat
  writeMs : Nat
  settleMs : Nat
  deriving DecidableEq, Repr

def daemonAdmissionAdmit (table : ServiceIpcAdmissionTable) (key : ServiceIpcThrottleKey)
    (nowMs : Nat) : ServiceIpcAdmissionTable × Bool :=
  if !key.valid then (table, false)
  else
    let answer := serviceIpcDecideAdmission table key .normal nowMs
    (answer.1, answer.2 == .admitted)

/-- One pass of `daemon_serve_until_stopped` over an accepted connection: the
settlement of an admitted exchange, or nothing for a refused peer, whose charge of
zero tokens changes nothing. -/
def daemonServeConnection (table : ServiceIpcAdmissionTable) (conn : DaemonConnection) :
    ServiceIpcAdmissionTable × Option GcDaemonExchangeSettlement :=
  let admission := daemonAdmissionAdmit table conn.key conn.admitMs
  if !admission.2 then
    (if conn.key.valid then serviceIpcCharge admission.1 conn.key .normal 0 conn.admitMs
      else admission.1, none)
  else
    let account := gcDaemonExchangeAccount admission.1 conn.key conn.outcome conn.readMs
      conn.writeMs conn.settleMs
    (account.1, some account.2)

/-- The loop as a machine on the zero-initialised table. -/
def daemonServe :
    EventMachine ServiceIpcAdmissionTable DaemonConnection
      (Option GcDaemonExchangeSettlement) where
  initial := .zeroed {}
  step := daemonServeConnection

namespace DaemonServe

/-- The table after a run of connections. -/
def tableOf (conns : List DaemonConnection) : ServiceIpcAdmissionTable :=
  daemonServe.run daemonServe.initial conns

/-- The connection is admitted after the run `done`. -/
def Served (done : List DaemonConnection) (conn : DaemonConnection) : Bool :=
  (daemonServeConnection (tableOf done) conn).2.isSome

/-- The admitted connections of a run that continues `done`. -/
def servedFrom (done : List DaemonConnection) : List DaemonConnection → List DaemonConnection
  | [] => []
  | conn :: rest =>
    if Served done conn then conn :: servedFrom (done ++ [conn]) rest
    else servedFrom (done ++ [conn]) rest

/-- The admitted connections of a run. -/
def served (conns : List DaemonConnection) : List DaemonConnection := servedFrom [] conns

end DaemonServe

namespace DaemonConnection

variable (conn : DaemonConnection)

/-- The response write time the loop waited; a failed read never reaches it. -/
def writtenMs : Nat := if conn.outcome = .readFailed then 0 else conn.writeMs

/-- The transport time of the exchange: request read and response write. -/
def transportMs : Nat := conn.readMs + conn.writtenMs

/-- The transport time of the exchange inside the window `[u, v]`. -/
def transportWithin (u v : Nat) : Nat :=
  overlap u v conn.readStartMs (conn.readStartMs + conn.readMs) +
    overlap u v conn.writeStartMs (conn.writeStartMs + conn.writtenMs)

/-- The exchange earns a hold. -/
def stalls : Bool := decide (GC_DAEMON_PEER_STALL_HOLD_MIN_MS ≤ conn.transportMs)

/-- What a hold is measured by: the transport time up to the two phases' budgets. -/
def stallMs : Nat := min GC_DAEMON_PEER_STALL_MAX_MS conn.transportMs

/-- Its part of the window, counted up to the same budgets. -/
def stallWithin (u v : Nat) : Nat := min GC_DAEMON_PEER_STALL_MAX_MS (conn.transportWithin u v)

end DaemonConnection

/-- The loop takes one connection after the other on a monotonic clock that does not
wrap, and waits for the request before it waits for the response. -/
structure Clocked (conns : List DaemonConnection) : Prop where
  phases : ∀ conn ∈ conns, conn.admitMs ≤ conn.readStartMs ∧
    conn.readStartMs + conn.readMs ≤ conn.writeStartMs ∧
    conn.writeStartMs + conn.writtenMs ≤ conn.settleMs
  order : conns.Pairwise fun conn conn' => conn.settleMs ≤ conn'.admitMs
  bounded : ∀ conn ∈ conns, conn.settleMs + SERVICE_IPC_IDLE_EXPIRY_MS < 2 ^ 63

open DaemonServe

/-- The accounts settled in the idle window that starts at `t`. -/
def settledAccounts (conns : List DaemonConnection) (t : Nat) : Finset ServiceIpcThrottleKey :=
  (((served conns).filter fun conn => decide (t ≤ conn.settleMs) &&
    decide (conn.settleMs < t + SERVICE_IPC_IDLE_EXPIRY_MS)).map DaemonConnection.key).toFinset

/-! ## The loop as a history of table operations -/

section History
variable {done conns rest : List DaemonConnection} {conn : DaemonConnection}
  {table : ServiceIpcAdmissionTable}

/-- The operations one connection makes on the table. -/
def operations (table : ServiceIpcAdmissionTable) (conn : DaemonConnection) : List AdmissionOp :=
  if !conn.key.valid then []
  else
    .decide conn.key .normal conn.admitMs ::
      match (daemonServeConnection table conn).2 with
      | none => []
      | some settled =>
        .charge conn.key .normal settled.costTokens conn.settleMs ::
          if settled.holdMs ≠ 0 then
            [.hold conn.key (addTicks conn.settleMs settled.holdMs) conn.settleMs]
          else []

/-- The operations of a run that continues `done`. -/
def historyFrom (done : List DaemonConnection) : List DaemonConnection → List AdmissionOp
  | [] => []
  | conn :: rest => operations (tableOf done) conn ++ historyFrom (done ++ [conn]) rest

theorem tableOf_append : tableOf (done ++ conns) = daemonServe.run (tableOf done) conns :=
  daemonServe.run_append _ _ _

/-- One connection does to the table what its operations do. -/
theorem operations_run (table : ServiceIpcAdmissionTable) (conn : DaemonConnection) :
    (admissionTable {}).run table (operations table conn) =
      (daemonServeConnection table conn).1 := by
  by_cases hkey : conn.key.valid = true
  · by_cases hadmit : (serviceIpcDecideAdmission table conn.key .normal conn.admitMs).2 = .admitted
    · by_cases hhold : (gcDaemonExchangeSettle conn.outcome conn.readMs conn.writeMs).holdMs = 0
      · simp [operations, daemonServeConnection, daemonAdmissionAdmit, gcDaemonExchangeAccount,
          hkey, hadmit, hhold, EventMachine.run, admissionTable]
      · simp [operations, daemonServeConnection, daemonAdmissionAdmit, gcDaemonExchangeAccount,
          hkey, hadmit, hhold, EventMachine.run, admissionTable]
    · simp [operations, daemonServeConnection, daemonAdmissionAdmit, hkey, hadmit,
        EventMachine.run, admissionTable, serviceIpcCharge]
  · simp [operations, daemonServeConnection, daemonAdmissionAdmit, hkey, EventMachine.run]

theorem historyFrom_append :
    historyFrom done (conns ++ rest) = historyFrom done conns ++ historyFrom (done ++ conns) rest := by
  induction conns generalizing done with
  | nil => simp [historyFrom]
  | cons conn conns ih =>
    simp only [List.cons_append, historyFrom, ih, List.append_assoc, List.nil_append]

theorem run_historyFrom (done conns : List DaemonConnection) :
    (admissionTable {}).run (tableOf done) (historyFrom done conns) = tableOf (done ++ conns) := by
  induction conns generalizing done with
  | nil => simp [historyFrom, EventMachine.run]
  | cons conn conns ih =>
    have hstep : tableOf (done ++ [conn]) = (daemonServeConnection (tableOf done) conn).1 :=
      tableOf_append
    rw [historyFrom, EventMachine.run_append, operations_run, ← hstep, ih, List.append_assoc,
      List.singleton_append]

/-- The loop's table is the admission table after the run's history. -/
theorem tableAfter_history : tableAfter {} (historyFrom [] conns) = tableOf conns := by
  have h := run_historyFrom [] conns
  exact h

theorem mem_servedFrom :
    conn ∈ servedFrom done conns ↔
      ∃ before after, conns = before ++ conn :: after ∧ Served (done ++ before) conn = true := by
  induction conns generalizing done with
  | nil => simp [servedFrom]
  | cons c conns ih =>
    have hrest : conn ∈ servedFrom (done ++ [c]) conns ↔ ∃ before after,
        conns = before ++ conn :: after ∧ Served (done ++ c :: before) conn = true := by
      rw [ih]
      simp only [List.append_assoc, List.singleton_append]
    rw [servedFrom]
    constructor
    · intro h
      split at h
      · rename_i hc
        rcases List.mem_cons.mp h with rfl | h
        · exact ⟨[], conns, rfl, by simpa using hc⟩
        · obtain ⟨before, after, rfl, hs⟩ := hrest.mp h
          exact ⟨c :: before, after, rfl, hs⟩
      · obtain ⟨before, after, rfl, hs⟩ := hrest.mp h
        exact ⟨c :: before, after, rfl, hs⟩
    · rintro ⟨before, after, heq, hs⟩
      cases before with
      | nil =>
        obtain ⟨rfl, rfl⟩ := List.cons.inj heq
        rw [List.append_nil] at hs
        rw [if_pos hs]
        exact List.mem_cons_self
      | cons b before =>
        obtain ⟨rfl, rfl⟩ := List.cons.inj heq
        have hmem := hrest.mpr ⟨before, after, rfl, hs⟩
        split
        · exact List.mem_cons_of_mem _ hmem
        · exact hmem

theorem mem_historyFrom {op : AdmissionOp} :
    op ∈ historyFrom done conns ↔ ∃ before conn after, conns = before ++ conn :: after ∧
      op ∈ operations (tableOf (done ++ before)) conn := by
  induction conns generalizing done with
  | nil => simp [historyFrom]
  | cons c conns ih =>
    rw [historyFrom, List.mem_append, ih]
    constructor
    · rintro (h | ⟨before, conn, after, rfl, h⟩)
      · exact ⟨[], c, conns, rfl, by simpa using h⟩
      · exact ⟨c :: before, conn, after, rfl, by simpa using h⟩
    · rintro ⟨before, conn, after, heq, h⟩
      cases before with
      | nil =>
        obtain ⟨rfl, rfl⟩ := List.cons.inj heq
        exact .inl (by simpa using h)
      | cons b before =>
        obtain ⟨rfl, rfl⟩ := List.cons.inj heq
        exact .inr ⟨before, conn, after, rfl, by simpa using h⟩

/-- If every connection of a run is admitted, the exchanges of an account are its
connections. -/
theorem served_eq_self (h : ∀ before conn after, conns = before ++ conn :: after →
    Served (done ++ before) conn = true) : servedFrom done conns = conns := by
  induction conns generalizing done with
  | nil => rfl
  | cons c conns ih =>
    have hc : Served done c = true := by simpa using h [] c conns rfl
    rw [servedFrom, if_pos hc, ih]
    intro before conn after heq
    simpa using h (c :: before) conn after (by simp [heq])

/-! ## One admitted exchange -/

theorem served_iff : Served done conn = true ↔ conn.key.valid = true ∧
    (serviceIpcDecideAdmission (tableOf done) conn.key .normal conn.admitMs).2 = .admitted := by
  simp only [Served, daemonServeConnection, daemonAdmissionAdmit]
  by_cases hkey : conn.key.valid = true
  · by_cases hadmit : (serviceIpcDecideAdmission (tableOf done) conn.key .normal
        conn.admitMs).2 = .admitted
    · simp [hkey, hadmit]
    · simp [hkey, hadmit]
  · simp [hkey]

theorem settle_of_served (h : Served done conn = true) :
    (daemonServeConnection (tableOf done) conn).2 =
      some (gcDaemonExchangeSettle conn.outcome conn.readMs conn.writeMs) := by
  obtain ⟨hkey, hadmit⟩ := served_iff.mp h
  simp [daemonServeConnection, daemonAdmissionAdmit, gcDaemonExchangeAccount, hkey, hadmit,
    apply_ite Prod.snd]

theorem cost_ne_zero (outcome : GcDaemonExchangeOutcome) (readMs writeMs : Nat) :
    (gcDaemonExchangeSettle outcome readMs writeMs).costTokens ≠ 0 := by
  simp only [gcDaemonExchangeSettle]
  split <;> decide

theorem holdMs_le (stalledMs : Nat) :
    gcDaemonPeerStallHoldMs stalledMs ≤ GC_DAEMON_PEER_STALL_HOLD_MAX_MS := by
  unfold gcDaemonPeerStallHoldMs GC_DAEMON_PEER_STALL_HOLD_MAX_MS
  split
  · exact Nat.zero_le _
  · rw [Nat.mul_comm]
    refine Nat.mul_le_mul_left _ ?_
    split <;> omega

/-- The longest hold ends before its account can idle out of the table. -/
theorem stallHold_lt_expiry : GC_DAEMON_PEER_STALL_HOLD_MAX_MS < SERVICE_IPC_IDLE_EXPIRY_MS := by
  decide

/-- Below the saturation, the settled transport time is the time the loop waited. -/
theorem settle_transportMs (h : conn.transportMs < 2 ^ 63) :
    (gcDaemonExchangeSettle conn.outcome conn.readMs conn.writeMs).transportMs =
      conn.transportMs := by
  unfold DaemonConnection.transportMs DaemonConnection.writtenMs at h
  simp only [gcDaemonExchangeSettle, DaemonConnection.transportMs, DaemonConnection.writtenMs]
  rw [if_neg (by omega)]

/-- A stall is repaid in time, by the factor. -/
theorem settle_holdMs (h : conn.transportMs < 2 ^ 63) (hstall : conn.stalls = true) :
    (gcDaemonExchangeSettle conn.outcome conn.readMs conn.writeMs).holdMs =
      GC_DAEMON_PEER_STALL_HOLD_FACTOR * conn.stallMs := by
  have htransport := settle_transportMs h
  simp only [gcDaemonExchangeSettle] at htransport
  simp only [gcDaemonExchangeSettle, htransport, gcDaemonPeerStallHoldMs,
    DaemonConnection.stallMs]
  simp only [DaemonConnection.stalls, decide_eq_true_eq] at hstall
  rw [if_neg (by omega), Nat.mul_comm]
  congr 1
  split <;> omega

/-- Every operation of a connection happens while the loop serves it. -/
theorem operations_times {op : AdmissionOp} (hphase : conn.admitMs ≤ conn.settleMs)
    (hop : op ∈ operations table conn) : conn.admitMs ≤ op.nowMs ∧ op.nowMs ≤ conn.settleMs := by
  simp only [operations] at hop
  split at hop
  · exact absurd hop (List.not_mem_nil)
  · rcases List.mem_cons.mp hop with rfl | hop
    · exact ⟨Nat.le_refl _, hphase⟩
    · split at hop
      · exact absurd hop (List.not_mem_nil)
      · rcases List.mem_cons.mp hop with rfl | hop
        · exact ⟨hphase, Nat.le_refl _⟩
        · split at hop
          · obtain rfl := List.mem_singleton.mp hop
            exact ⟨hphase, Nat.le_refl _⟩
          · exact absurd hop (List.not_mem_nil)

theorem operations_sorted (hphase : conn.admitMs ≤ conn.settleMs) :
    (operations table conn).Pairwise fun op op' => op.nowMs ≤ op'.nowMs := by
  simp only [operations]
  split
  · exact List.Pairwise.nil
  · split
    · exact List.pairwise_singleton _ _
    · split
      · simp [AdmissionOp.nowMs, hphase]
      · simp [AdmissionOp.nowMs, hphase]

/-- Only an admitted connection touches its account, when it is settled. -/
theorem operations_touch {op : AdmissionOp} (hop : op ∈ operations (tableOf done) conn)
    (htouch : op.touches = true) :
    Served done conn = true ∧ op.key = conn.key ∧ op.nowMs = conn.settleMs := by
  simp only [operations] at hop
  split at hop
  · exact absurd hop (List.not_mem_nil)
  · rcases List.mem_cons.mp hop with rfl | hop
    · simp [AdmissionOp.touches] at htouch
    · split at hop
      · exact absurd hop (List.not_mem_nil)
      · rename_i settled hsettled
        have hserved : Served done conn = true := by simp [Served, hsettled]
        rcases List.mem_cons.mp hop with rfl | hop
        · exact ⟨hserved, rfl, rfl⟩
        · split at hop
          · obtain rfl := List.mem_singleton.mp hop
            exact ⟨hserved, rfl, rfl⟩
          · exact absurd hop (List.not_mem_nil)

/-- A hold the loop asks for ends within the longest hold. -/
theorem operations_hold {key : ServiceIpcThrottleKey} {untilMs nowMs : Nat}
    (hbound : conn.settleMs + SERVICE_IPC_IDLE_EXPIRY_MS < 2 ^ 63)
    (hop : AdmissionOp.hold key untilMs nowMs ∈ operations (tableOf done) conn) :
    untilMs ≤ nowMs + GC_DAEMON_PEER_STALL_HOLD_MAX_MS := by
  simp only [operations] at hop
  split at hop
  · exact absurd hop (List.not_mem_nil)
  · rcases List.mem_cons.mp hop with h | hop
    · exact absurd h (by simp)
    · split at hop
      · exact absurd hop (List.not_mem_nil)
      · rename_i settled hsettled
        have hserved : Served done conn = true := by simp [Served, hsettled]
        rw [settle_of_served hserved] at hsettled
        obtain rfl := Option.some.inj hsettled
        rcases List.mem_cons.mp hop with h | hop
        · exact absurd h (by simp)
        · split at hop
          · obtain ⟨rfl, rfl, rfl⟩ := AdmissionOp.hold.inj (List.mem_singleton.mp hop)
            have hle : (gcDaemonExchangeSettle conn.outcome conn.readMs conn.writeMs).holdMs ≤
              GC_DAEMON_PEER_STALL_HOLD_MAX_MS := holdMs_le _
            have hwindow := stallHold_lt_expiry
            rw [addTicks_eq (by omega)]
            omega
          · exact absurd hop (List.not_mem_nil)

/-! ## The history of a run is orderly -/

theorem Clocked.admit_le_settle (h : Clocked conns) (hmem : conn ∈ conns) :
    conn.admitMs ≤ conn.settleMs := by
  obtain ⟨h1, h2, h3⟩ := h.phases conn hmem
  omega

theorem historyFrom_sorted (hphase : ∀ conn ∈ conns, conn.admitMs ≤ conn.settleMs)
    (horder : conns.Pairwise fun conn conn' => conn.settleMs ≤ conn'.admitMs) :
    (historyFrom done conns).Pairwise fun op op' => op.nowMs ≤ op'.nowMs := by
  induction conns generalizing done with
  | nil => exact List.Pairwise.nil
  | cons c conns ih =>
    obtain ⟨hnext, horder⟩ := List.pairwise_cons.mp horder
    rw [List.forall_mem_cons] at hphase
    rw [historyFrom, List.pairwise_append]
    refine ⟨operations_sorted hphase.1, ih hphase.2 horder, ?_⟩
    intro op hop op' hop'
    obtain ⟨before, conn, after, rfl, hin⟩ := mem_historyFrom.mp hop'
    have hmem : conn ∈ before ++ conn :: after := by simp
    have h1 := (operations_times hphase.1 hop).2
    have h2 := (operations_times (hphase.2 conn hmem) hin).1
    exact h1.trans ((hnext conn hmem).trans h2)

/-- **The loop's history is orderly** as long as no idle window settles more accounts
than the table has slots. -/
theorem history_orderly (hclock : Clocked conns)
    (haccounts : ∀ t, (settledAccounts conns t).card ≤ SERVICE_IPC_TABLE_SLOTS) :
    Orderly (historyFrom [] conns) where
  monotone := historyFrom_sorted (fun _ hmem => hclock.admit_le_settle hmem) hclock.order
  bounded op hop := by
    obtain ⟨before, conn, after, rfl, hin⟩ := mem_historyFrom.mp hop
    have hmem : conn ∈ before ++ conn :: after := by simp
    have h1 := (operations_times (hclock.admit_le_settle hmem) hin).2
    have h2 := hclock.bounded conn hmem
    omega
  holds key untilMs nowMs hop := by
    obtain ⟨before, conn, after, rfl, hin⟩ := mem_historyFrom.mp hop
    have h := operations_hold (hclock.bounded conn (by simp)) hin
    exact h.trans (Nat.add_le_add_left (by decide) _)
  active t := by
    refine (Finset.card_le_card ?_).trans (haccounts t)
    intro key hkey
    obtain ⟨op, hop, htouch, rfl, hlo, hhi⟩ := mem_activeIdentities.mp hkey
    obtain ⟨before, conn, after, heq, hop⟩ := mem_historyFrom.mp hop
    obtain ⟨hserved, hk, hat⟩ := operations_touch hop htouch
    rw [List.nil_append] at hserved
    rw [settledAccounts, List.mem_toFinset, List.mem_map]
    refine ⟨conn, List.mem_filter.mpr ⟨?_, ?_⟩, hk.symm⟩
    · exact mem_servedFrom.mpr ⟨before, after, heq, hserved⟩
    · simp only [Bool.and_eq_true, decide_eq_true_eq]
      omega

/-! ## Stalls are rationed -/

/-- The admitted stalls of one account. -/
def stallsOf (conns : List DaemonConnection) (key : ServiceIpcThrottleKey) :
    List DaemonConnection :=
  (served conns).filter fun conn => decide (conn.key = key) && conn.stalls

/-- **A stall is repaid before the account is served again.** -/
theorem served_after_stall {before mid after : List DaemonConnection} {conn' : DaemonConnection}
    (hclock : Clocked (before ++ conn :: mid ++ conn' :: after))
    (haccounts : ∀ t, (settledAccounts (before ++ conn :: mid ++ conn' :: after) t).card ≤
      SERVICE_IPC_TABLE_SLOTS)
    (hserved : Served before conn = true) (hstall : conn.stalls = true)
    (hserved' : Served (before ++ conn :: mid) conn' = true) (hkey : conn'.key = conn.key) :
    conn.settleMs + GC_DAEMON_PEER_STALL_HOLD_FACTOR * conn.stallMs ≤ conn'.admitMs := by
  have horderly := history_orderly hclock haccounts
  obtain ⟨hphase1, hphase2, hphase3⟩ := hclock.phases conn (by simp)
  have hbound := hclock.bounded conn (by simp)
  have htransport : conn.transportMs < 2 ^ 63 := by
    simp only [DaemonConnection.transportMs]
    omega
  have hhold := settle_holdMs htransport hstall
  have hpos : 0 < conn.stallMs := by
    simp only [DaemonConnection.stalls, decide_eq_true_eq,
      GC_DAEMON_PEER_STALL_HOLD_MIN_MS] at hstall
    simp only [DaemonConnection.stallMs, GC_DAEMON_PEER_STALL_MAX_MS,
      GC_DAEMON_PEER_STALL_BUDGET_MS]
    omega
  have hle : GC_DAEMON_PEER_STALL_HOLD_FACTOR * conn.stallMs ≤
      GC_DAEMON_PEER_STALL_HOLD_MAX_MS := Nat.mul_le_mul_left _ (Nat.min_le_left _ _)
  have hrepay : 0 < GC_DAEMON_PEER_STALL_HOLD_FACTOR * conn.stallMs :=
    Nat.mul_pos (by decide) hpos
  have hwindow := stallHold_lt_expiry
  obtain ⟨hvalid, _⟩ := served_iff.mp hserved
  obtain ⟨hvalid', hadmit'⟩ := served_iff.mp hserved'
  have hsettled := settle_of_served hserved
  have hfirst : operations (tableOf before) conn =
      [.decide conn.key .normal conn.admitMs,
        .charge conn.key .normal (gcDaemonExchangeSettle conn.outcome conn.readMs
          conn.writeMs).costTokens conn.settleMs] ++
      [.hold conn.key (conn.settleMs + GC_DAEMON_PEER_STALL_HOLD_FACTOR * conn.stallMs)
        conn.settleMs] := by
    rw [← hhold, ← addTicks_eq (by omega)]
    simp only [operations, hvalid, hsettled, hhold]
    rw [if_neg (by simp), if_pos (by omega)]
    rfl
  obtain ⟨others, hothers⟩ : ∃ others, operations (tableOf (before ++ conn :: mid)) conn' =
      .decide conn'.key .normal conn'.admitMs :: others := by
    simp only [operations, hvalid', Bool.not_true, Bool.false_eq_true, if_false]
    exact ⟨_, rfl⟩
  by_contra hearly
  have hsplit : historyFrom [] (before ++ conn :: mid ++ conn' :: after) =
      (historyFrom [] before ++ [.decide conn.key .normal conn.admitMs,
        .charge conn.key .normal (gcDaemonExchangeSettle conn.outcome conn.readMs
          conn.writeMs).costTokens conn.settleMs]) ++
      .hold conn.key (conn.settleMs + GC_DAEMON_PEER_STALL_HOLD_FACTOR * conn.stallMs)
        conn.settleMs :: historyFrom (before ++ [conn]) mid ++
      .decide conn.key .normal conn'.admitMs ::
        (others ++ historyFrom (before ++ conn :: mid ++ [conn']) after) := by
    simp only [historyFrom_append, historyFrom, List.nil_append, hfirst, hothers, hkey,
      List.append_assoc, List.cons_append]
  have hrefused := (table_refines_ledger {} _ horderly).honoured _ _ _ _ _ _ _ _ hsplit hvalid
    (by decide) (by omega) (by omega)
  have hhistory : historyFrom [] (before ++ conn :: mid) =
      (historyFrom [] before ++ [.decide conn.key .normal conn.admitMs,
        .charge conn.key .normal (gcDaemonExchangeSettle conn.outcome conn.readMs
          conn.writeMs).costTokens conn.settleMs]) ++
      .hold conn.key (conn.settleMs + GC_DAEMON_PEER_STALL_HOLD_FACTOR * conn.stallMs)
        conn.settleMs :: historyFrom (before ++ [conn]) mid := by
    simp only [historyFrom_append, historyFrom, List.nil_append, hfirst, List.append_assoc,
      List.cons_append]
  rw [← hhistory, tableAfter_history, ← hkey, hadmit'] at hrefused
  exact absurd hrefused (by decide)

/-- What holds of any two admitted connections of a run, the earlier one first, holds
along the list of them. -/
theorem servedFrom_pairwise {R : DaemonConnection → DaemonConnection → Prop}
    (h : ∀ before conn mid conn' after, conns = before ++ conn :: mid ++ conn' :: after →
      Served (done ++ before) conn = true → Served (done ++ before ++ conn :: mid) conn' = true →
      R conn conn') : (servedFrom done conns).Pairwise R := by
  induction conns generalizing done with
  | nil => exact List.Pairwise.nil
  | cons c conns ih =>
    have hrest : (servedFrom (done ++ [c]) conns).Pairwise R := by
      refine ih ?_
      intro before conn mid conn' after heq hs hs'
      exact h (c :: before) conn mid conn' after (by simp [heq]) (by simpa using hs)
        (by simpa using hs')
    rw [servedFrom]
    split
    · rename_i hc
      refine List.pairwise_cons.mpr ⟨?_, hrest⟩
      intro conn' hconn'
      obtain ⟨mid, after, heq, hs'⟩ := mem_servedFrom.mp hconn'
      exact h [] c mid conn' after (by simp [heq]) (by simpa using hc) (by simpa using hs')
    · exact hrest

theorem mem_stallsOf {key : ServiceIpcThrottleKey} (h : conn ∈ stallsOf conns key) :
    conn ∈ conns ∧ conn.key = key ∧ conn.stalls = true := by
  obtain ⟨hmem, hstall⟩ := List.mem_filter.mp h
  obtain ⟨before, after, rfl, _⟩ := mem_servedFrom.mp hmem
  simp only [Bool.and_eq_true, decide_eq_true_eq] at hstall
  exact ⟨by simp, hstall⟩

/-- The two phases of an exchange lie one after the other between its admission and
its settlement. -/
theorem transportWithin_le (hclock : Clocked conns) (hmem : conn ∈ conns) (u v : Nat) :
    conn.transportWithin u v ≤ conn.transportMs ∧
      conn.transportWithin u v ≤ overlap u v conn.admitMs conn.settleMs := by
  obtain ⟨h1, h2, h3⟩ := hclock.phases conn hmem
  simp only [DaemonConnection.transportWithin, DaemonConnection.transportMs, overlap]
  omega

/-- **The stalls of one account are rationed**: inside any window they make the loop
wait for at most one part in `1 + GC_DAEMON_PEER_STALL_HOLD_FACTOR` of it, and one
maximal stall. -/
theorem stalls_rationed (conns : List DaemonConnection) (hclock : Clocked conns)
    (haccounts : ∀ t, (settledAccounts conns t).card ≤ SERVICE_IPC_TABLE_SLOTS)
    (key : ServiceIpcThrottleKey) (u v : Nat) :
    (1 + GC_DAEMON_PEER_STALL_HOLD_FACTOR) *
        ((stallsOf conns key).map fun conn => conn.stallWithin u v).sum ≤
      (v - u) + (1 + GC_DAEMON_PEER_STALL_HOLD_FACTOR) * GC_DAEMON_PEER_STALL_MAX_MS := by
  refine RationedTime.total_within_le DaemonConnection.admitMs DaemonConnection.settleMs
    DaemonConnection.stallMs ?_ ?_ ?_ ?_
  · refine List.pairwise_filter.mpr (servedFrom_pairwise ?_)
    rintro before conn mid conn' after rfl hs hs' hstall hstall'
    simp only [Bool.and_eq_true, decide_eq_true_eq] at hstall hstall'
    exact served_after_stall hclock haccounts hs hstall.2 hs' (hstall'.1.trans hstall.1.symm)
  · intro conn hconn
    have := (transportWithin_le hclock (mem_stallsOf hconn).1 u v).1
    simp only [DaemonConnection.stallWithin, DaemonConnection.stallMs]
    omega
  · intro conn _
    exact Nat.min_le_left _ _
  · intro conn hconn
    exact (Nat.min_le_right _ _).trans (transportWithin_le hclock (mem_stallsOf hconn).1 u v).2

theorem settledAccounts_card_le (conns : List DaemonConnection) (t : Nat) :
    (settledAccounts conns t).card ≤ (conns.map DaemonConnection.key).toFinset.card := by
  refine Finset.card_le_card fun key hkey => ?_
  rw [settledAccounts, List.mem_toFinset, List.mem_map] at hkey
  obtain ⟨conn, hmem, rfl⟩ := hkey
  obtain ⟨before, after, rfl, _⟩ := mem_servedFrom.mp (List.mem_filter.mp hmem).1
  simp

/-- One account stalls to both deadlines, another is served in the meantime, and the
first stalls again when its hold has ended. -/
def stallRun : List DaemonConnection :=
  [{ key := uidKey 0, admitMs := 0, readStartMs := 0, readMs := 2000, outcome := .completed
     writeStartMs := 2000, writeMs := 2000, settleMs := 4000 },
    { key := uidKey 1, admitMs := 4000, readStartMs := 4000, readMs := 1, outcome := .completed
      writeStartMs := 4001, writeMs := 1, settleMs := 4002 },
    { key := uidKey 0, admitMs := 12000, readStartMs := 12000, readMs := 2000
      outcome := .readFailed, writeStartMs := 14000, writeMs := 0, settleMs := 14000 }]

theorem stallRun_rationed :
    (1 + GC_DAEMON_PEER_STALL_HOLD_FACTOR) *
        ((stallsOf stallRun (uidKey 0)).map fun conn => conn.stallWithin 0 14000).sum ≤
      (14000 - 0) + (1 + GC_DAEMON_PEER_STALL_HOLD_FACTOR) * GC_DAEMON_PEER_STALL_MAX_MS :=
  stalls_rationed stallRun ⟨by decide, by decide, by decide⟩
    (fun t => (settledAccounts_card_le stallRun t).trans (by decide)) (uidKey 0) 0 14000

end History

end GreenCurve
