import GreenCurve.AdmissionEviction

/-! # What stall rationing leaves out

The rationing bound counts stalls, each up to the two phases' budgets, of accounts
the table can remember.  None of the three provisos can be dropped: exchanges just
below `GC_DAEMON_PEER_STALL_HOLD_MIN_MS` earn no hold at all, an exchange beyond its
budgets is repaid only up to them, and a table that sees more accounts in turn than
it has slots forgets the held one first. -/

namespace GreenCurve

open DaemonServe

/-- The admitted exchanges of one account. -/
def exchangesOf (conns : List DaemonConnection) (key : ServiceIpcThrottleKey) :
    List DaemonConnection :=
  (served conns).filter fun conn => decide (conn.key = key)

/-- Whatever its exchanges are, one account makes the loop wait for at most one part
in `1 + GC_DAEMON_PEER_STALL_HOLD_FACTOR` of any window, and one maximal exchange
with its hold. -/
def TransportRationed (conns : List DaemonConnection) : Prop :=
  ∀ key u v, (1 + GC_DAEMON_PEER_STALL_HOLD_FACTOR) *
      ((exchangesOf conns key).map fun conn => conn.transportWithin u v).sum ≤
    (v - u) + (1 + GC_DAEMON_PEER_STALL_HOLD_FACTOR) *
      (GC_DAEMON_PEER_STALL_MAX_MS + GC_DAEMON_PEER_STALL_HOLD_MAX_MS)

section Ledger
variable {done conns : List DaemonConnection} {conn : DaemonConnection}

/-- As long as the table remembers every account, a connection is admitted exactly
when its account in the ledger says so. -/
theorem served_iff_ledger (hclock : Clocked (done ++ [conn]))
    (haccounts : ∀ t, (settledAccounts (done ++ [conn]) t).card ≤ SERVICE_IPC_TABLE_SLOTS)
    (hkey : conn.key.valid = true) :
    Served done conn = true ↔
      (ledgerAfter (historyFrom [] done) conn.key).decide .normal conn.admitMs = .admitted := by
  have horderly := history_orderly hclock haccounts
  obtain ⟨others, hothers⟩ : ∃ others, operations (tableOf done) conn =
      .decide conn.key .normal conn.admitMs :: others := by
    simp only [operations, hkey, Bool.not_true, Bool.false_eq_true, if_false]
    exact ⟨_, rfl⟩
  have hsplit : historyFrom [] (done ++ [conn]) =
      historyFrom [] done ++ [.decide conn.key .normal conn.admitMs] ++ others := by
    simp [historyFrom_append, historyFrom, hothers]
  rw [hsplit] at horderly
  rw [served_iff, ← tableAfter_history, decide_after horderly.left hkey (by decide)]
  exact and_iff_right hkey

end Ledger

/-! ## Prompt exchanges -/

/-- An exchange one millisecond short of a stall. -/
def promptConnection (n : Nat) : DaemonConnection where
  key := uidKey 0
  admitMs := 99 * n
  readStartMs := 99 * n
  readMs := 99
  outcome := .completed
  writeStartMs := 99 * (n + 1)
  writeMs := 0
  settleMs := 99 * (n + 1)

/-- One account, one such exchange after the other. -/
def promptRun (n : Nat) : List DaemonConnection := (List.range n).map promptConnection

theorem promptRun_succ (n : Nat) : promptRun (n + 1) = promptRun n ++ [promptConnection n] := by
  simp [promptRun, List.range_succ]

theorem promptRun_clocked {n : Nat} (hn : n ≤ 1000) : Clocked (promptRun n) where
  phases conn hconn := by
    obtain ⟨i, _, rfl⟩ := List.mem_map.mp hconn
    simp [promptConnection, DaemonConnection.writtenMs]
    omega
  order := by
    refine List.pairwise_map.mpr (List.pairwise_lt_range.imp ?_)
    intro i j hij
    simp only [promptConnection]
    omega
  bounded conn hconn := by
    obtain ⟨i, hi, rfl⟩ := List.mem_map.mp hconn
    have := List.mem_range.mp hi
    simp only [promptConnection, SERVICE_IPC_IDLE_EXPIRY_MS]
    omega

theorem promptRun_accounts (n t : Nat) :
    (settledAccounts (promptRun n) t).card ≤ SERVICE_IPC_TABLE_SLOTS := by
  refine (settledAccounts_card_le _ _).trans ?_
  have hone : ((promptRun n).map DaemonConnection.key).toFinset ⊆ {uidKey 0} := by
    intro key hkey
    rw [List.mem_toFinset, promptRun, List.map_map, List.mem_map] at hkey
    obtain ⟨i, _, rfl⟩ := hkey
    exact Finset.mem_singleton_self _
  exact (Finset.card_le_card hone).trans (by decide)

/-- The account after `n` prompt exchanges: each regains more than it pays. -/
def promptAccount (n : Nat) : Account :=
  { Account.fresh with normal := if n = 0 then ⟨80000, 0⟩ else ⟨79000, 99 * n⟩ }

theorem levelOf_normal (b : TokenBucket) (t : Nat) :
    levelOf .normal b t = min 80000 (b.tokens + 20 * (t - b.anchor)) := rfl

theorem promptAccount_level {n t : Nat} (ht : 99 * (n + 1) ≤ t) :
    levelOf .normal ((promptAccount n).bucket .normal) t = 80000 := by
  simp only [promptAccount, Account.bucket, levelOf_normal, reduceCtorEq, if_false]
  split <;> simp only <;> omega

theorem promptAccount_decide (n : Nat) :
    (promptAccount n).decide .normal (99 * n) = .admitted := by
  have hlevel : 1000 ≤ levelOf .normal ((promptAccount n).bucket .normal) (99 * n) := by
    simp only [promptAccount, Account.bucket, levelOf_normal, reduceCtorEq, if_false]
    split <;> simp only <;> omega
  have hhold : ¬ 99 * n < (promptAccount n).holdEnd := Nat.not_lt_zero _
  rw [Account.decide, if_neg hhold, if_pos hlevel]

theorem promptAccount_charge (n : Nat) :
    (promptAccount n).charge .normal 1000 (99 * (n + 1)) = promptAccount (n + 1) := by
  have hlevel := promptAccount_level (Nat.le_refl (99 * (n + 1)))
  rw [levelOf] at hlevel
  rw [Account.charge, TokenBucket.refillTo, hlevel]
  simp [TokenBucket.spend, Account.setBucket, promptAccount]

theorem promptConnection_key (n : Nat) : (promptConnection n).key = uidKey 0 := rfl

/-- A prompt exchange is admitted as soon as its account is in order. -/
theorem prompt_served {n : Nat} (hn : n < 1000)
    (h : ledgerAfter (historyFrom [] (promptRun n)) (uidKey 0) = promptAccount n) :
    Served (promptRun n) (promptConnection n) = true := by
  refine (served_iff_ledger ?_ ?_ (by rw [promptConnection_key]; decide)).mpr ?_
  · rw [← promptRun_succ]
    exact promptRun_clocked hn
  · intro t
    rw [← promptRun_succ]
    exact promptRun_accounts _ _
  · rw [promptConnection_key, h]
    exact promptAccount_decide n

/-- The account after `n` prompt exchanges is in order. -/
theorem prompt_ledger {n : Nat} (hn : n ≤ 1000) :
    ledgerAfter (historyFrom [] (promptRun n)) (uidKey 0) = promptAccount n := by
  induction n with
  | zero => rfl
  | succ n ih =>
    have hledger := ih (by omega)
    have hsettled := settle_of_served (prompt_served hn hledger)
    have hops : operations (tableOf (promptRun n)) (promptConnection n) =
        [.decide (uidKey 0) .normal (99 * n),
          .charge (uidKey 0) .normal SERVICE_IPC_COST_SUCCESS (99 * (n + 1))] := by
      simp only [operations, hsettled]
      rfl
    rw [promptRun_succ, historyFrom_append, historyFrom, historyFrom, List.append_nil,
      List.nil_append, hops]
    unfold ledgerAfter at hledger ⊢
    rw [EventMachine.run_append]
    generalize admissionLedger.run admissionLedger.initial (historyFrom [] (promptRun n)) = ledger
      at hledger ⊢
    simp only [EventMachine.run, List.foldl_cons, List.foldl_nil, admissionLedger]
    rw [if_pos (by rfl), Function.update_self, hledger]
    exact promptAccount_charge n

/-- **Prompt exchanges are never refused.** -/
theorem promptRun_served {n : Nat} (hn : n ≤ 1000) : served (promptRun n) = promptRun n := by
  refine served_eq_self ?_
  intro before conn after heq
  have hlen : before.length < n := by
    have := congrArg List.length heq
    simp only [promptRun, List.length_map, List.length_range, List.length_append,
      List.length_cons] at this
    omega
  have hbefore : before = promptRun before.length := by
    have := congrArg (List.take before.length) heq
    rw [List.take_left, promptRun, ← List.map_take, List.take_range, Nat.min_eq_left hlen.le] at this
    exact this.symm
  have hconn : conn = promptConnection before.length := by
    have := congrArg (fun l => l[before.length]?) heq
    simp only [promptRun, List.getElem?_map, List.getElem?_range hlen, Option.map_some,
      List.getElem?_append_right (Nat.le_refl _), Nat.sub_self, List.getElem?_cons_zero,
      Option.some.injEq] at this
    exact this.symm
  have hserved : Served (promptRun before.length) (promptConnection before.length) = true :=
    prompt_served (by omega) (prompt_ledger (by omega))
  rwa [← hbefore, ← hconn] at hserved

/-- Two hundred prompt exchanges take all of twenty seconds. -/
theorem promptRun_not_rationed : ¬ TransportRationed (promptRun 200) := by
  intro h
  have hbound := h (uidKey 0) 0 19800
  rw [exchangesOf, promptRun_served (by decide)] at hbound
  exact absurd hbound (by decide +kernel)

/-- An exchange that overruns its budgets tenfold is held for two budgets only. -/
def overlongRun : List DaemonConnection :=
  [{ key := uidKey 0
     admitMs := 0
     readStartMs := 0
     readMs := 20000
     outcome := .completed
     writeStartMs := 20000
     writeMs := 20000
     settleMs := 40000 }]

theorem overlongRun_not_rationed : ¬ TransportRationed overlongRun := by
  intro h
  have hserved : served overlongRun = overlongRun := by decide
  have hbound := h (uidKey 0) 0 40000
  rw [exchangesOf, hserved] at hbound
  exact absurd hbound (by decide)

/-! ## More accounts than slots -/

/-- The account of the user id `1000 + n`. -/
def accountKey (n : Nat) : ServiceIpcThrottleKey :=
  .fill 0 0 [117, 105, 100, 58, 49, .ofNat (48 + n / 100 % 10), .ofNat (48 + n / 10 % 10),
    .ofNat (48 + n % 10)]

/-- The account number a key was formed from. -/
def accountNumber (key : ServiceIpcThrottleKey) : Nat :=
  match key.sid with
  | [_, _, _, _, _, a, b, c] => (a.toNat - 48) * 100 + (b.toNat - 48) * 10 + (c.toNat - 48)
  | _ => 0

theorem accountNumber_accountKey : ∀ n < 129, accountNumber (accountKey n) = n := by decide

theorem accountKey_valid : ∀ n < 129, (accountKey n).valid = true := by decide

/-- Rounds of 129 accounts: the first one stalls both phases to their deadlines, the
other 128 take a millisecond each. -/
def turnConnection (n : Nat) : DaemonConnection :=
  let base := n / 129 * 4128
  if n % 129 = 0 then
    { key := accountKey 0
      admitMs := base
      readStartMs := base
      readMs := 2000
      outcome := .completed
      writeStartMs := base + 2000
      writeMs := 2000
      settleMs := base + 4000 }
  else
    { key := accountKey (n % 129)
      admitMs := base + 4000 + (n % 129 - 1)
      readStartMs := base + 4000 + (n % 129 - 1)
      readMs := 1
      outcome := .completed
      writeStartMs := base + 4000 + n % 129
      writeMs := 0
      settleMs := base + 4000 + n % 129 }

theorem turnConnection_key (n : Nat) : (turnConnection n).key = accountKey (n % 129) := by
  unfold turnConnection
  by_cases h : n % 129 = 0 <;> simp [h]

theorem turnConnection_settleMs (n : Nat) :
    (turnConnection n).settleMs = n / 129 * 4128 + 4000 + n % 129 := by
  unfold turnConnection
  by_cases h : n % 129 = 0 <;> simp [h]

/-- `rounds` rounds of them. -/
def turnRun (rounds : Nat) : List DaemonConnection :=
  (List.range (129 * rounds)).map turnConnection

/-- Two connections of the run are `turnConnection i` and `turnConnection j`, as far
apart as the list between them is long. -/
theorem turnRun_split {rounds : Nat} {before mid after : List DaemonConnection}
    {conn conn' : DaemonConnection}
    (h : turnRun rounds = before ++ conn :: mid ++ conn' :: after) :
    ∃ i, i + mid.length + 1 < 129 * rounds ∧ conn = turnConnection i ∧
      conn' = turnConnection (i + mid.length + 1) := by
  have hlen := congrArg List.length h
  simp only [turnRun, List.length_map, List.length_range, List.length_append,
    List.length_cons] at hlen
  have hget : ∀ k (hk : k < 129 * rounds),
      (before ++ conn :: mid ++ conn' :: after)[k]? = some (turnConnection k) := by
    intro k hk
    rw [← h, turnRun, List.getElem?_map, List.getElem?_range hk, Option.map_some]
  refine ⟨before.length, by omega, ?_, ?_⟩
  · have := hget before.length (by omega)
    simpa using this
  · have := hget (before.length + mid.length + 1) (by omega)
    rw [List.getElem?_append_right (by simp; omega)] at this
    have hzero : before.length + mid.length + 1 - (before ++ conn :: mid).length = 0 := by
      simp only [List.length_append, List.length_cons]
      omega
    rw [hzero, List.getElem?_cons_zero, Option.some.injEq] at this
    exact this

theorem turnRun_takesTurns {rounds : Nat} (hrounds : rounds ≤ 1000) :
    TakesTurns (turnRun rounds) where
  valid conn hconn := by
    obtain ⟨n, _, rfl⟩ := List.mem_map.mp hconn
    rw [turnConnection_key]
    exact accountKey_valid _ (Nat.mod_lt _ (by decide))
  bounded conn hconn := by
    obtain ⟨n, hn, rfl⟩ := List.mem_map.mp hconn
    have := List.mem_range.mp hn
    rw [turnConnection_settleMs]
    simp only [SERVICE_IPC_IDLE_EXPIRY_MS]
    omega
  order before conn mid conn' after h := by
    obtain ⟨i, _, rfl, rfl⟩ := turnRun_split h
    rw [turnConnection_settleMs, turnConnection_settleMs]
    omega
  close before conn mid conn' after h hshort := by
    obtain ⟨i, _, rfl, rfl⟩ := turnRun_split h
    simp only [SERVICE_IPC_TABLE_SLOTS] at hshort
    rw [turnConnection_settleMs, turnConnection_settleMs, turnConnection_key, turnConnection_key]
    refine ⟨?_, by simp only [SERVICE_IPC_IDLE_EXPIRY_MS]; omega⟩
    intro heq
    have hnum := congrArg accountNumber heq
    rw [accountNumber_accountKey _ (Nat.mod_lt _ (by decide)),
      accountNumber_accountKey _ (Nat.mod_lt _ (by decide))] at hnum
    omega

theorem turnRun_clocked : Clocked (turnRun 5) where
  phases conn hconn := by
    obtain ⟨n, _, rfl⟩ := List.mem_map.mp hconn
    unfold turnConnection DaemonConnection.writtenMs
    by_cases h : n % 129 = 0
    · simp [h]
    · simp [h]
      omega
  order := by
    refine List.pairwise_map.mpr (List.pairwise_lt_range.imp ?_)
    intro i j hij
    rw [turnConnection_settleMs]
    unfold turnConnection
    by_cases h : j % 129 = 0
    · simp only [h, if_true]
      omega
    · simp only [h, if_false]
      omega
  bounded conn hconn := (turnRun_takesTurns (by decide)).bounded conn hconn

/-- The stalling account is forgotten before its hold ends, round after round. -/
theorem turnRun_not_rationed : ¬ TransportRationed (turnRun 5) := by
  intro h
  have hbound := h (accountKey 0) 0 20640
  rw [exchangesOf, turns_served (turnRun_takesTurns (by decide))] at hbound
  exact absurd hbound (by decide +kernel)

theorem overlongRun_clocked : Clocked overlongRun :=
  ⟨by decide, by decide, by decide⟩

/-- **The unrestricted bound fails** on three runs a clock allows: exchanges just below
the hold threshold, an exchange beyond its budgets, and stalls of full length by one
of more accounts than the table has slots. -/
theorem transport_not_rationed :
    (Clocked (promptRun 200) ∧ ¬ TransportRationed (promptRun 200)) ∧
      (Clocked overlongRun ∧ ¬ TransportRationed overlongRun) ∧
      Clocked (turnRun 5) ∧ ¬ TransportRationed (turnRun 5) :=
  ⟨⟨promptRun_clocked (by decide), promptRun_not_rationed⟩,
    ⟨overlongRun_clocked, overlongRun_not_rationed⟩, turnRun_clocked, turnRun_not_rationed⟩

end GreenCurve
